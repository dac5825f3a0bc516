import FormReply.Sandbox

/-!
# Assemblers

A filter becomes instructions in three steps, each of which can fail: the machine must be known, the
rules must make sense, and there must be a program for them.  What takes these steps is not part of
this library; `Assembler` says what it is asked for.

* `Filter.assemble`: the instructions of a filter, or the step that failed;
* `Assembler.counting`: an assembler whose instructions are only counted.
-/

namespace FormReply.Sandbox

/-- What becomes of a call. -/
inductive Verdict where
  | allow
  | kill
  | log
deriving DecidableEq, Repr

/-- What becomes of a call that is denied. -/
def Denial.verdict : Denial → Verdict
  | .kill => .kill
  | .log => .log

/-- What turns rules for system calls into instructions. -/
structure Assembler where
  /-- The machines that there are instructions for. -/
  Machine : Type
  /-- Rules that make sense. -/
  Rules : Type
  Instruction : Type
  /-- Why a step failed. -/
  Cause : Type
  /-- The machine of a name. -/
  machine : String → Except Cause Machine
  /-- The rules by which some calls have the first verdict, and all others the second one. -/
  rules : Machine → List Nat → Verdict → Verdict → Except Cause Rules
  /-- The instructions that follow the rules. -/
  program : Rules → Except Cause (List Instruction)

/-- The step that failed, and why it did. -/
inductive AssemblyFault (Cause : Type) where
  /-- The machine is not known. -/
  | machine (cause : Cause)
  /-- The rules make no sense. -/
  | rules (cause : Cause)
  /-- There is no program for the rules. -/
  | program (cause : Cause)
deriving DecidableEq, Repr

/-- The wording of the step that failed. -/
def AssemblyFault.message {Cause : Type} : AssemblyFault Cause → String
  | .machine _ => "Unsupported CPU ARCH"
  | .rules _ => "Create seccomp filter"
  | .program _ => "Seccomp to BPF"

/-- The instructions of a filter on a machine, by its name. -/
def Filter.assemble (a : Assembler) (machine : String) (f : Filter) :
    Except (AssemblyFault a.Cause) (List a.Instruction) := do
  let machine ← (a.machine machine).mapError .machine
  let rules ← (a.rules machine f.calls .allow f.denial.verdict).mapError .rules
  (a.program rules).mapError .program

/-- The machine that filters are made for. -/
def machineName : String := "x86_64"

/-- The length that a program stays below. -/
def programBound : Nat := 4096

/-- An assembler for one machine whose instructions are only counted. -/
def Assembler.counting : Assembler where
  Machine := Unit
  Rules := List Nat
  Instruction := Unit
  Cause := Unit
  machine name := if name = machineName then .ok () else .error ()
  rules _ calls verdict others := if verdict = others then .error () else .ok calls
  program calls :=
    let length := instructionsPerCall * calls.length + instructionsBesides
    if length < programBound then .ok (List.replicate length ()) else .error ()

end FormReply.Sandbox

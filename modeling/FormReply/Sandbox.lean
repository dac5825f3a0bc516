/-!
# Sandboxes

A sandbox allows a few system calls that every program needs, and groups of further ones.  A filter
is made for the allowed calls, which are kept in ascending order and each once.

* `allowed`: the numbers of the allowed calls;
* `Filter.length`: the number of instructions of a filter.
-/

namespace FormReply.Sandbox

/-- Groups of system calls. -/
inductive Group where
  | mmap
  | read
  | write
  /-- Waiting for other threads. -/
  | futex
  | signalMask
  | signalReturn
deriving DecidableEq, Repr

/-- What becomes of a program that makes another call. -/
inductive Denial where
  | kill
  | log
deriving DecidableEq, Repr

/-- The numbers of the calls that every program needs: memory, closing files, ending, identities,
random bytes, scheduling and the stack of signals. -/
def base : List Nat := [12, 3, 60, 231, 39, 318, 186, 28, 204, 131]

/-- The numbers of the calls of a group. -/
def Group.calls : Group → List Nat
  | .mmap => [9, 25, 11, 10]
  | .read => [0, 19]
  | .write => [1, 20]
  | .futex => [202, 274, 273]
  | .signalMask => [14]
  | .signalReturn => [15]

/-- Puts a number into a list in ascending order, unless it is there. -/
def insertCall (n : Nat) : List Nat → List Nat
  | [] => [n]
  | m :: rest =>
    if n < m then n :: m :: rest
    else if n = m then m :: rest
    else m :: insertCall n rest

/-- Allows calls, besides those that are allowed already. -/
def allow (calls new : List Nat) : List Nat := new.foldl (fun calls n => insertCall n calls) calls

/-- The numbers of all allowed calls, in ascending order and each once. -/
def allowed (groups : List Group) : List Nat :=
  groups.foldl (fun calls g => allow calls g.calls) (allow [] base)

/-- A filter for system calls. -/
structure Filter where
  /-- The numbers of the allowed calls. -/
  calls : List Nat
  /-- What becomes of other calls. -/
  denial : Denial
deriving DecidableEq, Repr

/-- The instructions that test for one call. -/
def instructionsPerCall : Nat := 5

/-- The instructions that a filter has besides its tests: three check the machine, one loads the
number of the call, and one denies it. -/
def instructionsBesides : Nat := 5

/-- The filter for groups. -/
def compile (groups : List Group) (denial : Denial) : Filter := ⟨allowed groups, denial⟩

/-- The number of instructions of a filter. -/
def Filter.length (f : Filter) : Nat := instructionsPerCall * f.calls.length + instructionsBesides

/-- A filter has no instruction. -/
def Filter.isEmpty (f : Filter) : Bool := f.length == 0

/-- The groups that the program allows itself. -/
def programGroups : List Group := [.mmap, .read, .write, .futex, .signalMask, .signalReturn]

end FormReply.Sandbox

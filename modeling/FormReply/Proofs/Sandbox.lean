import FormReply.Proofs.Outcomes
import FormReply.Sandbox.Assembler
import Mathlib.Algebra.BigOperators.Group.Finset.Basic
import Mathlib.Algebra.Order.BigOperators.Group.Finset
import Mathlib.Data.List.Sort

/-!
# Filters depend on sets of groups

Allowed calls are in ascending order and each there once, so they are told by which numbers are
among them.  No number belongs to two groups, or to a group and to the calls that are always
allowed.  So a group adds all its calls, and it adds them once.

* `mem_allowed`, `pairwise_allowed`: which calls are allowed, and that they are in ascending order;
* `allowed_congr`: they depend on the set of groups;
* `length_allowed`: how many there are;
* `Assembler.Serves`, `assemble_compile`: filters are assembled;
* `length_of_groups`: **the length of a filter** is told by the set of groups.
-/

namespace FormReply.Sandbox

/-! ### Ascending lists -/

theorem mem_insertCall {m n : Nat} {calls : List Nat} :
    m ∈ insertCall n calls ↔ m = n ∨ m ∈ calls := by
  induction calls with
  | nil => simp [insertCall]
  | cons k rest ih =>
    unfold insertCall
    split
    · rw [List.mem_cons]
    · split
      · next h => rw [h, List.mem_cons, ← or_assoc, or_self]
      · rw [List.mem_cons, ih, List.mem_cons]
        exact or_left_comm

theorem pairwise_insertCall (n : Nat) {calls : List Nat} (h : calls.Pairwise (· < ·)) :
    (insertCall n calls).Pairwise (· < ·) := by
  induction calls with
  | nil => exact List.pairwise_singleton _ n
  | cons k rest ih =>
    obtain ⟨hk, hrest⟩ := List.pairwise_cons.1 h
    unfold insertCall
    split
    · next hlt =>
      refine List.pairwise_cons.2 ⟨fun m hm => ?_, h⟩
      rcases List.mem_cons.1 hm with rfl | hm
      · exact hlt
      · exact Nat.lt_trans hlt (hk m hm)
    · split
      · exact h
      · refine List.pairwise_cons.2 ⟨fun m hm => ?_, ih hrest⟩
        rcases mem_insertCall.1 hm with rfl | hm
        · omega
        · exact hk m hm

theorem mem_allow {m : Nat} {calls new : List Nat} : m ∈ allow calls new ↔ m ∈ calls ∨ m ∈ new := by
  induction new generalizing calls with
  | nil => simp [allow]
  | cons n new ih =>
    have hstep : allow calls (n :: new) = allow (insertCall n calls) new := rfl
    rw [hstep, ih, mem_insertCall, List.mem_cons, or_comm (a := m = n), or_assoc]

theorem pairwise_allow {calls : List Nat} (h : calls.Pairwise (· < ·)) (new : List Nat) :
    (allow calls new).Pairwise (· < ·) := by
  induction new generalizing calls with
  | nil => exact h
  | cons n new ih => exact ih (pairwise_insertCall n h)

/-! ### Allowed calls -/

/-- What groups allow, besides the calls that are allowed already. -/
theorem mem_foldl_allow {m : Nat} {groups : List Group} {calls : List Nat} :
    m ∈ groups.foldl (fun calls g => allow calls g.calls) calls ↔
      m ∈ calls ∨ ∃ g ∈ groups, m ∈ g.calls := by
  induction groups generalizing calls with
  | nil => simp
  | cons g groups ih =>
    rw [List.foldl_cons, ih, mem_allow, List.exists_mem_cons_iff, or_assoc]

/-- **Which calls are allowed.** -/
theorem mem_allowed {m : Nat} {groups : List Group} :
    m ∈ allowed groups ↔ m ∈ base ∨ ∃ g ∈ groups, m ∈ g.calls := by
  rw [allowed, mem_foldl_allow, mem_allow]
  simp

theorem pairwise_foldl_allow {groups : List Group} {calls : List Nat}
    (h : calls.Pairwise (· < ·)) :
    (groups.foldl (fun calls g => allow calls g.calls) calls).Pairwise (· < ·) := by
  induction groups generalizing calls with
  | nil => exact h
  | cons g groups ih => exact ih (pairwise_allow h g.calls)

/-- Allowed calls are in ascending order. -/
theorem pairwise_allowed (groups : List Group) : (allowed groups).Pairwise (· < ·) :=
  pairwise_foldl_allow (pairwise_allow List.Pairwise.nil base)

theorem nodup_allowed (groups : List Group) : (allowed groups).Nodup :=
  (pairwise_allowed groups).imp Nat.ne_of_lt

/-- **Allowed calls depend on the set of groups.** -/
theorem allowed_congr {groups groups' : List Group} (h : ∀ g, g ∈ groups ↔ g ∈ groups') :
    allowed groups = allowed groups' := by
  refine (pairwise_allowed groups).eq_of_mem_iff (pairwise_allowed groups') fun m => ?_
  rw [mem_allowed, mem_allowed]
  simp only [h]

/-! ### Numbers of calls -/

theorem nodup_base : base.Nodup := by decide

theorem nodup_calls (g : Group) : g.calls.Nodup := by
  cases g <;> decide

/-- A group has calls of its own. -/
theorem calls_ne_nil (g : Group) : g.calls ≠ [] := by
  cases g <;> decide

/-- No call of a group is always allowed. -/
theorem not_mem_calls_of_mem_base (g : Group) : ∀ n ∈ base, n ∉ g.calls := by
  cases g <;> decide

/-- No call belongs to two groups. -/
theorem not_mem_calls_of_ne {g g' : Group} (h : g ≠ g') : ∀ n ∈ g.calls, n ∉ g'.calls := by
  revert h
  cases g <;> cases g' <;> decide

/-- **The number of allowed calls**: no call is counted twice. -/
theorem length_allowed (groups : List Group) :
    (allowed groups).length = 10 + ∑ g ∈ groups.toFinset, g.calls.length := by
  have hset : (allowed groups).toFinset =
      base.toFinset ∪ groups.toFinset.biUnion fun g => g.calls.toFinset := by
    ext m
    simp [mem_allowed]
  have hbase : Disjoint base.toFinset (groups.toFinset.biUnion fun g => g.calls.toFinset) := by
    rw [Finset.disjoint_biUnion_right]
    intro g _
    rw [List.disjoint_toFinset_iff_disjoint]
    exact fun n hn hg => not_mem_calls_of_mem_base g n hn hg
  have hgroups : (groups.toFinset : Set Group).PairwiseDisjoint fun g => g.calls.toFinset := by
    intro g _ g' _ hne
    rw [Function.onFun, List.disjoint_toFinset_iff_disjoint]
    exact fun n hn hg => not_mem_calls_of_ne hne n hn hg
  calc (allowed groups).length
    _ = (allowed groups).toFinset.card := (List.toFinset_card_of_nodup (nodup_allowed groups)).symm
    _ = base.toFinset.card + ∑ g ∈ groups.toFinset, g.calls.toFinset.card := by
      rw [hset, Finset.card_union_of_disjoint hbase, Finset.card_biUnion hgroups]
    _ = 10 + ∑ g ∈ groups.toFinset, g.calls.length := by
      rw [List.toFinset_card_of_nodup nodup_base]
      simp only [List.toFinset_card_of_nodup (nodup_calls _)]
      rfl

/-- A group that is not there yet makes more calls allowed. -/
theorem length_allowed_concat {groups : List Group} {g : Group} (h : g ∉ groups) :
    (allowed (groups ++ [g])).length = (allowed groups).length + g.calls.length := by
  have hset : (groups ++ [g]).toFinset = insert g groups.toFinset := by
    ext x
    simp
  rw [length_allowed, length_allowed, hset, Finset.sum_insert (mt List.mem_toFinset.1 h)]
  omega

/-- No sandbox allows more calls than that of the program. -/
theorem length_allowed_le (groups : List Group) : (allowed groups).length ≤ 23 := by
  have hall : groups.toFinset ⊆ programGroups.toFinset := by
    intro g _
    cases g <;> decide
  have hsum : ∑ g ∈ programGroups.toFinset, g.calls.length = 13 := by decide
  have hle := Finset.sum_le_sum_of_subset (f := fun g : Group => g.calls.length) hall
  rw [length_allowed]
  omega

theorem allowed_ne_nil (groups : List Group) : allowed groups ≠ [] := by
  refine List.ne_nil_of_length_pos ?_
  rw [length_allowed]
  omega

theorem length_compile (groups : List Group) (denial : Denial) :
    (compile groups denial).length = 5 * (allowed groups).length + 5 := rfl

/-! ### Assembly -/

/-- What is relied on in an assembler, on a machine.  It knows the machine, it takes rules that tell
two kinds of calls apart, and a program for one or more calls has five instructions for each of them
and five besides, as long as it stays below 4096 instructions. -/
structure Assembler.Serves (a : Assembler) (machine : String) : Prop where
  knows : ∃ m, a.machine machine = .ok m
  accepts : ∀ m calls verdict others, a.machine machine = .ok m → verdict ≠ others →
    ∃ rules, a.rules m calls verdict others = .ok rules
  assembles : ∀ m calls verdict others rules, a.machine machine = .ok m →
    a.rules m calls verdict others = .ok rules → calls ≠ [] → calls.Nodup →
    5 * calls.length + 5 < 4096 →
    ∃ program, a.program rules = .ok program ∧ program.length = 5 * calls.length + 5

theorem serves_counting : Assembler.counting.Serves machineName where
  knows := ⟨(), rfl⟩
  accepts _ calls _ _ _ h := ⟨calls, if_neg h⟩
  assembles _ calls verdict others rules _ hrules _ _ hlength := by
    have hcalls : calls = rules := by
      simp only [Assembler.counting] at hrules
      split at hrules
      · exact nomatch hrules
      · exact Except.ok.inj hrules
    subst hcalls
    exact ⟨List.replicate (5 * calls.length + 5) (), if_pos hlength, List.length_replicate⟩

section
variable {a : Assembler} {machine : String}

theorem assemble_of_ok {f : Filter} {m : a.Machine} {rules : a.Rules} {program : List a.Instruction}
    (hm : a.machine machine = .ok m) (hr : a.rules m f.calls .allow f.denial.verdict = .ok rules)
    (hp : a.program rules = .ok program) : f.assemble a machine = .ok program := by
  have hm' : (a.machine machine).mapError AssemblyFault.machine = .ok m := by rw [hm]; rfl
  have hr' : (a.rules m f.calls .allow f.denial.verdict).mapError AssemblyFault.rules =
      .ok rules := by
    rw [hr]; rfl
  have hp' : (a.program rules).mapError AssemblyFault.program = .ok program := by rw [hp]; rfl
  exact bind_eq_ok_iff.2 ⟨m, hm', bind_eq_ok_iff.2 ⟨rules, hr', hp'⟩⟩

/-- Denied calls are not allowed. -/
theorem verdict_ne_allow (d : Denial) : Verdict.allow ≠ d.verdict := by
  cases d <;> decide

/-- **The filter for groups is assembled**, and has as many instructions as its length says. -/
theorem exists_assemble_compile (h : a.Serves machine) (groups : List Group) (denial : Denial) :
    ∃ program, (compile groups denial).assemble a machine = .ok program ∧
      program.length = (compile groups denial).length := by
  obtain ⟨m, hm⟩ := h.knows
  obtain ⟨rules, hr⟩ :=
    h.accepts m (allowed groups) .allow denial.verdict hm (verdict_ne_allow denial)
  have hbound := length_allowed_le groups
  obtain ⟨program, hp, hlength⟩ := h.assembles m (allowed groups) .allow denial.verdict rules hm hr
    (allowed_ne_nil groups) (nodup_allowed groups) (by omega)
  exact ⟨program, assemble_of_ok hm hr hp, hlength⟩

/-- **The filter for groups is told by the set of them.**  It is assembled, and has five
instructions for each of the ten calls that are always allowed and for each call of a group, the
group being counted once, and five besides: no call is counted twice, since the groups have no calls
in common with each other and with the ten.  So the order of the groups and their repetitions do not
matter, the length does not depend on what becomes of denied calls, and a further group makes the
filter longer. -/
theorem length_of_groups (h : a.Serves machine) :
    (∀ groups denial,
      (∃ program, (compile groups denial).assemble a machine = .ok program ∧
        program.length = (compile groups denial).length) ∧
      (compile groups denial).length =
        5 * (10 + ∑ g ∈ groups.toFinset, g.calls.length) + 5) ∧
      ((∀ g : Group, ∀ n ∈ base, n ∉ g.calls) ∧
        ∀ g g' : Group, g ≠ g' → ∀ n ∈ g.calls, n ∉ g'.calls) ∧
      (∀ groups groups', (∀ g, g ∈ groups ↔ g ∈ groups') →
        ∀ denial, compile groups denial = compile groups' denial) ∧
      (∀ groups denial denial', (compile groups denial).length = (compile groups denial').length) ∧
      ∀ groups g, g ∉ groups → ∀ denial,
        (compile groups denial).length < (compile (groups ++ [g]) denial).length := by
  refine ⟨fun groups denial => ⟨exists_assemble_compile h groups denial, ?_⟩,
    ⟨not_mem_calls_of_mem_base, fun g g' hne => not_mem_calls_of_ne hne⟩, ?_, fun _ _ _ => rfl, ?_⟩
  · rw [length_compile, length_allowed]
  · intro groups groups' hset denial
    rw [compile, compile, allowed_congr hset]
  · intro groups g hg denial
    have hpos := List.length_pos_of_ne_nil (calls_ne_nil g)
    rw [length_compile, length_compile, length_allowed_concat hg]
    omega

end

/-- Reading and writing, one of them allowed twice, and then waiting for threads besides. -/
theorem length_of_groups_of_repeated_group :
    Assembler.counting.Serves machineName ∧
      (∃ program, (compile [.read, .write, .read] .log).assemble .counting machineName =
        .ok program ∧ program.length = (compile [.read, .write, .read] .log).length) ∧
      (compile [.read, .write, .read] .log).length =
        5 * (10 + ∑ g ∈ [Group.read, .write, .read].toFinset, g.calls.length) + 5 ∧
      (∀ g, g ∈ [Group.read, .write, .read] ↔ g ∈ [Group.write, .read]) ∧
      compile [.read, .write, .read] .log = compile [.write, .read] .log ∧
      Group.futex ∉ [Group.read, .write, .read] ∧
      (compile [.read, .write, .read] .log).length <
        (compile [.read, .write, .read, .futex] .log).length := by
  have hserves := serves_counting
  have hset : ∀ g, g ∈ [Group.read, .write, .read] ↔ g ∈ [Group.write, .read] := by
    intro g
    cases g <;> decide
  have hnew : Group.futex ∉ [Group.read, .write, .read] := by decide
  obtain ⟨hlength, -, hcongr, -, hlonger⟩ := length_of_groups hserves
  obtain ⟨hprogram, hformula⟩ := hlength [.read, .write, .read] .log
  exact ⟨hserves, hprogram, hformula, hset, hcongr _ _ hset .log, hnew, hlonger _ _ hnew .log⟩

/-- The filter of the program itself. -/
example : (compile programGroups .kill).length = 120 := by decide

end FormReply.Sandbox

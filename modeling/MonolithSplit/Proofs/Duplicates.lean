import Mathlib
import MonolithSplit.Proofs.Reconcile

/-!
# Duplicated names are the names held twice

The names a recommendation repeats are found in one pass that remembers the names seen and emits
a name each time it is met again, so a name held three times is emitted twice. Sorted and each
kept once, the emitted names are exactly the names the list holds at least twice, compared as
exact texts (`mem_duplicatedNames`), in strictly increasing order (`duplicatedNames_sorted`). A
list of them is then fixed by its members alone, so it does not depend on the order of the
names (`duplicatedNames_perm`).

Reconciliation reads its duplicated names only through membership (`reconcileStep_congr`): it
walks with the duplicated names of the whole recommendation, and those depend only on the
multiset of names, not on how the names are split among services
(`duplicated_names_held_twice`).
-/

namespace MonolithSplit.Proposal

open MonolithSplit.Model

/-! ## Removing repeats -/

theorem eraseDups_sublist (names : List String) : names.eraseDups.Sublist names := by
  match names with
  | [] => simp
  | n :: names =>
      rw [List.eraseDups_cons]
      exact ((eraseDups_sublist _).trans List.filter_sublist).cons_cons n
termination_by names.length
decreasing_by exact Nat.lt_succ_of_le (List.length_filter_le _ _)

theorem eraseDups_nodup (names : List String) : names.eraseDups.Nodup := by
  match names with
  | [] => simp
  | n :: names =>
      rw [List.eraseDups_cons, List.nodup_cons, List.mem_eraseDups]
      -- the rest was filtered of `n` before its repeats were removed
      exact ⟨by simp, eraseDups_nodup _⟩
termination_by names.length
decreasing_by exact Nat.lt_succ_of_le (List.length_filter_le _ _)

/-! ## The duplicated names of a list -/

/-- A name is duplicated exactly when the list holds it at least twice. -/
theorem mem_duplicatedNames (names : List String) (n : String) :
    n ∈ duplicatedNames names ↔ 2 ≤ names.count n := by
  rw [duplicatedNames, List.mem_eraseDups, List.mem_mergeSort, mem_repeatedNames]

example : duplicatedNames ["x", "y", "y", "z", "x", "X"] = ["x", "y"] := by
  cbv

/-- The duplicated names come in strictly increasing order, each once. -/
theorem duplicatedNames_sorted (names : List String) :
    (duplicatedNames names).Pairwise (· < ·) := by
  have hsorted := @List.pairwise_mergeSort _ (fun a b : String => decide (a ≤ b))
    (fun a b c hab hbc => by simpa using le_trans (of_decide_eq_true hab) (of_decide_eq_true hbc))
    (fun a b => by simpa using le_total a b) (repeatedNames names)
  -- removing repeats keeps the order and leaves distinct names
  have hle := hsorted.sublist (eraseDups_sublist _)
  refine (hle.and (eraseDups_nodup _)).imp ?_
  rintro a b ⟨hab, hne⟩
  exact lt_of_le_of_ne (of_decide_eq_true hab) hne

/-- The duplicated names do not depend on the order of the names. -/
theorem duplicatedNames_perm {names names' : List String} (h : names.Perm names') :
    duplicatedNames names = duplicatedNames names' := by
  have hnodup : ∀ l : List String, (duplicatedNames l).Nodup :=
    fun l => (duplicatedNames_sorted l).imp ne_of_lt
  apply List.Perm.eq_of_pairwise (fun a b _ _ hab hba => absurd hba (lt_asymm hab))
    (duplicatedNames_sorted names) (duplicatedNames_sorted names')
  rw [List.perm_ext_iff_of_nodup (hnodup names) (hnodup names')]
  intro n
  rw [mem_duplicatedNames, mem_duplicatedNames, h.count_eq]

/-! ## Reconciliation reads the duplicated names as a set -/

section Congr

variable {dup dup' : List String} (s : Snapshot)

theorem assignStep_congr (h : ∀ n, n ∈ dup ↔ n ∈ dup') : assignStep dup s = assignStep dup' s := by
  funext acc n
  simp only [assignStep, List.contains_iff_mem, h]

theorem reconcileStep_congr (h : ∀ n, n ∈ dup ↔ n ∈ dup') :
    reconcileStep dup s = reconcileStep dup' s := by
  unfold reconcileStep assignService
  rw [assignStep_congr s h]

end Congr

/-- The duplicated names of a list are the names it holds at least twice, in strictly
increasing order, so they do not depend on the order of the list. Reconciling a recommendation
walks its services with the duplicated names of any recommendation holding the same names,
however they are split among services. -/
theorem duplicated_names_held_twice :
    (∀ (names : List String) (n : String), n ∈ duplicatedNames names ↔ 2 ≤ names.count n) ∧
      (∀ names : List String, (duplicatedNames names).Pairwise (· < ·)) ∧
      (∀ names names' : List String, names.Perm names' →
        duplicatedNames names = duplicatedNames names') ∧
      ∀ (o o' : Recommendation) (s : Snapshot),
        (o.services.flatMap ServiceDraft.dataModels).Perm
            (o'.services.flatMap ServiceDraft.dataModels) →
          reconcile o s = ⟨((largestFirst o.services).foldl
            (reconcileStep (duplicatedNames (o'.services.flatMap ServiceDraft.dataModels)) s)
            ([], [])).2⟩ := by
  refine ⟨mem_duplicatedNames, duplicatedNames_sorted, fun _ _ => duplicatedNames_perm, ?_⟩
  intro o o' s hperm
  -- the walk's repeated names and the duplicated names have the same members
  have hsame : ∀ n, n ∈ repeatedNames (o.services.flatMap ServiceDraft.dataModels) ↔
      n ∈ duplicatedNames (o'.services.flatMap ServiceDraft.dataModels) := by
    intro n
    rw [mem_repeatedNames, ← duplicatedNames_perm hperm, mem_duplicatedNames]
  rw [reconcile, reconcileStep_congr s hsame]

end MonolithSplit.Proposal

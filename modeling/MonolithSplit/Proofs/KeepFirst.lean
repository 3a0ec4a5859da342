import Mathlib.Data.List.Sort
import MonolithSplit.Proofs.Allotment

/-!
# Reconciliation is the keep-first walk

The plainest way to reconcile a recommendation with a snapshot is a walk that remembers the names
it has kept (`Recommendation.keepFirst`): stably sort the services by the number of names they
list, the largest first; keep a name when an entity has it and it was not kept before, with the
id of the last entity of that name; and drop the services left with nothing.

`reconcile` does not remember kept names. It claims names instead, from a list computed before
the walk: only names that occur more than once in the whole recommendation are ever claimed, and
such a name is claimed at its first visit even when no entity has it. The main statement,
`reconcile_eq_keepFirst`, is that the two walks give the same proposal on every recommendation
and every snapshot: neither the list of duplicated names nor the claiming of unknown ones shows
in any output.

The argument runs against the allotment of `Proofs.Allotment`, the walk with no snapshot. One
invariant, `KeepInv`, relates its claimed names to the kept names of the keep-first walk: for a
name of an entity that is about to be visited, being claimed and having been kept are the same,
since a name visited twice is duplicated. The services are visited in the same order because
the merge sort of `largestFirst` and the insertion sort of `Recommendation.bySize` are both
stable sorts by size, and a stable sort is determined by its input (`eq_of_pairwise_of_filter_eq`).
-/

namespace MonolithSplit.Proposal

open MonolithSplit.Model

/-! ## The keep-first walk -/

/-- The last entity of the snapshot named `name`, if any. -/
def lastEntityNamed (s : Snapshot) (name : String) : Option LiveEntity :=
  (s.entities.filter (·.name == name)).getLast?

/-- One name of the keep-first walk, beside the names kept so far: kept when an entity has it and
it was not kept before, with the id of the last entity of that name. -/
def keepName (s : Snapshot) (acc : List String × List Assignment) (name : String) :
    List String × List Assignment :=
  match lastEntityNamed s name with
  | some e => if name ∈ acc.1 then acc else (name :: acc.1, acc.2 ++ [⟨name, e.id⟩])
  | none => acc

/-- One service of the keep-first walk: the service with the names it keeps. -/
def keepService (s : Snapshot) (acc : List String × List Service) (d : ServiceDraft) :
    List String × List Service :=
  let r := d.dataModels.foldl (keepName s) (acc.1, [])
  (r.1, acc.2 ++ [⟨d.name, d.functionality, r.2⟩])

/-- The size of a proposed service: the number of names it lists, unknown and repeated ones
included. -/
def ServiceDraft.size (d : ServiceDraft) : Nat := d.dataModels.length

/-- A proposed service lists at least as many names as another. -/
def ServiceDraft.ListsAtLeast (a b : ServiceDraft) : Prop := b.size ≤ a.size

instance : DecidableRel ServiceDraft.ListsAtLeast :=
  fun a b => inferInstanceAs (Decidable (b.size ≤ a.size))

instance : Std.Total ServiceDraft.ListsAtLeast :=
  ⟨fun a b => Nat.le_total b.size a.size⟩

instance : IsTrans ServiceDraft ServiceDraft.ListsAtLeast :=
  ⟨fun _ _ _ hab hbc => Nat.le_trans hbc hab⟩

/-- The services sorted by insertion, the largest first; a service goes before the first one it
lists at least as many names as, so services of one size keep their order. -/
def Recommendation.bySize (o : Recommendation) : List ServiceDraft :=
  o.services.insertionSort ServiceDraft.ListsAtLeast

/-- The keep-first reconciliation of a recommendation with a snapshot. -/
def Recommendation.keepFirst (o : Recommendation) (s : Snapshot) : Decomposition :=
  ⟨(o.bySize.foldl (keepService s) ([], [])).2.filter fun v => !v.dataModels.isEmpty⟩

/-! ## One stable sort

A stable sort keeps the elements of each key in their order, and a list sorted by key that does
so is determined by its input. Both sorts meet this through their stability lemmas. -/

section StableSort

variable {α : Type} (key : α → Nat)

/-- Two lists sorted by a key, largest first, that hold the same elements of each key in the same
order are equal. -/
theorem eq_of_pairwise_of_filter_eq :
    ∀ {A B : List α}, A.Pairwise (fun a b => key b ≤ key a) →
      B.Pairwise (fun a b => key b ≤ key a) →
      (∀ k, A.filter (key · = k) = B.filter (key · = k)) → A = B
  | [], [], _, _, _ => rfl
  | [], b :: _, _, _, h => by simpa using (h (key b)).symm
  | a :: _, [], _, _, h => by simpa using h (key a)
  | a :: A, b :: B, hA, hB, h => by
      -- each head is an element of the other list, so the two heads have one key
      have hmem : ∀ {x y : α} {X Y : List α},
          (∀ k, (x :: X).filter (key · = k) = (y :: Y).filter (key · = k)) →
            x ∈ y :: Y := by
        intro x y X Y hxy
        have hx : x ∈ (x :: X).filter (key · = key x) := by simp
        rw [hxy] at hx
        exact List.mem_of_mem_filter hx
      have hab : key a ≤ key b := by
        rcases List.mem_cons.mp (hmem h) with rfl | ha
        · exact le_rfl
        · exact List.rel_of_pairwise_cons hB ha
      have hba : key b ≤ key a := by
        rcases List.mem_cons.mp (hmem fun k => (h k).symm) with rfl | hb
        · exact le_rfl
        · exact List.rel_of_pairwise_cons hA hb
      have hkey : key b = key a := Nat.le_antisymm hba hab
      have hhead := h (key a)
      simp only [List.filter_cons, decide_true, hkey, if_true, List.cons.injEq] at hhead
      obtain ⟨rfl, -⟩ := hhead
      -- the tails hold the same elements of each key: a key other than the heads' is unchanged
      have htail : ∀ k, A.filter (key · = k) = B.filter (key · = k) := by
        intro k
        have hk := h k
        by_cases hka : key a = k
        · simpa [List.filter_cons, hka] using hk
        · simpa [List.filter_cons, hka] using hk
      rw [eq_of_pairwise_of_filter_eq hA.of_cons hB.of_cons htail]

/-- A permutation of a list that keeps the list's elements of key `k` in their order, as a
sublist, holds them in that order. -/
theorem filter_eq_of_perm_of_sublist {l L : List α} (k : Nat) (hperm : L.Perm l)
    (hsub : (l.filter (key · = k)).Sublist L) : L.filter (key · = k) = l.filter (key · = k) := by
  have hle : (l.filter (key · = k)).Sublist (L.filter (key · = k)) := by
    simpa using hsub.filter (key · = k)
  exact (hle.eq_of_length (hperm.filter _).length_eq.symm).symm

theorem pairwise_filter_key (l : List α) (k : Nat) :
    (l.filter (key · = k)).Pairwise (fun a b => key b ≤ key a) := by
  refine List.pairwise_of_forall_mem_list fun a ha b hb => ?_
  simp only [List.mem_filter, decide_eq_true_eq] at ha hb
  omega

end StableSort

theorem filter_largestFirst (ds : List ServiceDraft) (k : Nat) :
    (largestFirst ds).filter (·.size = k) = ds.filter (·.size = k) := by
  refine filter_eq_of_perm_of_sublist ServiceDraft.size k (largestFirst_perm ds) ?_
  refine List.sublist_mergeSort (fun a b c hab hbc => ?_) (fun a b => ?_) ?_ List.filter_sublist
  · simp only [decide_eq_true_eq] at hab hbc ⊢
    omega
  · simp only [Bool.or_eq_true, decide_eq_true_eq]
    omega
  · exact (pairwise_filter_key ServiceDraft.size ds k).imp fun h => by
      simpa [ServiceDraft.size] using h

theorem filter_bySize (o : Recommendation) (k : Nat) :
    o.bySize.filter (·.size = k) = o.services.filter (·.size = k) := by
  have hpair : (o.services.filter (·.size = k)).Pairwise ServiceDraft.ListsAtLeast :=
    pairwise_filter_key ServiceDraft.size o.services k
  exact filter_eq_of_perm_of_sublist ServiceDraft.size k (List.perm_insertionSort _ _)
    (List.sublist_insertionSort hpair List.filter_sublist)

/-- The walk of `reconcile` visits the services in the keep-first walk's order. -/
theorem largestFirst_eq_bySize (o : Recommendation) : largestFirst o.services = o.bySize := by
  refine eq_of_pairwise_of_filter_eq ServiceDraft.size ?_ ?_ fun k => ?_
  · refine (List.pairwise_mergeSort (fun a b c hab hbc => ?_) (fun a b => ?_) o.services).imp
      fun h => by simpa [ServiceDraft.size] using h
    · simp only [decide_eq_true_eq] at hab hbc ⊢
      omega
    · simp only [Bool.or_eq_true, decide_eq_true_eq]
      omega
  · exact List.pairwise_insertionSort ServiceDraft.ListsAtLeast o.services
  · rw [filter_largestFirst, filter_bySize]

/-! ## The keep-first walk against the allotment -/

theorem entityIdByName_eq_lastEntityNamed (s : Snapshot) (name : String) :
    entityIdByName s name = (lastEntityNamed s name).map LiveEntity.id := by
  simp [entityIdByName, lastEntityNamed]

@[simp] theorem claimStep_fst_mem {dup : List String} {acc : List String × List String}
    {n m : String} : m ∈ (claimStep dup acc n).1 ↔ m ∈ acc.1 ∨ m = n ∧ n ∈ dup := by
  by_cases hn : n ∈ dup <;> by_cases hm : m = n <;> simp [claimStep, hn, hm]

/-- The keep-first walk remembers a name when an entity has it. -/
theorem keepName_fst_mem {s : Snapshot} {acc : List String × List Assignment} {n m : String} :
    m ∈ (keepName s acc n).1 ↔ m ∈ acc.1 ∨ m = n ∧ n ∈ s.entityNames := by
  cases he : lastEntityNamed s n with
  | none =>
      have hn : n ∉ s.entityNames := by
        simp [mem_entityNames_iff, entityIdByName_eq_lastEntityNamed, he]
      simp [keepName, he, hn]
  | some e =>
      have hn : n ∈ s.entityNames := by
        simp [mem_entityNames_iff, entityIdByName_eq_lastEntityNamed, he]
      by_cases hk : n ∈ acc.1
      · by_cases hm : m = n
        · subst hm
          simp [keepName, he, hk]
        · simp [keepName, he, hk, hm]
      · simp [keepName, he, hk, hn, or_comm]

/-- What the two walks share after visiting the names `visited`: the allotment has claimed the
visited duplicated names, and the keep-first walk has kept the visited names of entities. -/
structure KeepInv (dup : List String) (s : Snapshot) (visited claimed kept : List String) :
    Prop where
  claimed_iff : ∀ n, n ∈ claimed ↔ n ∈ visited ∧ n ∈ dup
  kept_iff : ∀ n, n ∈ kept ↔ n ∈ visited ∧ n ∈ s.entityNames

section Walks

variable {dup : List String} {s : Snapshot}

theorem KeepInv.nil : KeepInv dup s [] [] [] :=
  ⟨by simp, by simp⟩

/-- Of a name not yet visited, being claimed and being kept are both false; of one visited
before, which is duplicated, they are both true when an entity has it. -/
theorem KeepInv.claimed_iff_kept {visited claimed kept : List String} {n : String}
    (h : KeepInv dup s visited claimed kept) (hdup : n ∈ visited → n ∈ dup)
    (hn : n ∈ s.entityNames) : n ∈ claimed ↔ n ∈ kept := by
  rw [h.claimed_iff, h.kept_iff]
  exact ⟨fun hc => ⟨hc.1, hn⟩, fun hk => ⟨hk.1, hdup hk.1⟩⟩

/-- One name visited by both walks: the keep-first walk keeps, of the names the allotment gives
the service, those of entities. -/
theorem KeepInv.visit {visited kept : List String} {acc : List String × List String} {n : String}
    (h : KeepInv dup s visited acc.1 kept) (hdup : n ∈ visited → n ∈ dup) :
    (keepName s (kept, placeNames s acc.2) n).2 = placeNames s (claimStep dup acc n).2 ∧
      KeepInv dup s (visited ++ [n]) (claimStep dup acc n).1
        (keepName s (kept, placeNames s acc.2) n).1 := by
  have hclaimed : ∀ m, m ∈ (claimStep dup acc n).1 ↔ m ∈ visited ++ [n] ∧ m ∈ dup := by
    intro m
    by_cases hm : m = n
    · subst hm
      simp [h.claimed_iff]
    · simp [h.claimed_iff, hm]
  have hkept : ∀ m, m ∈ (keepName s (kept, placeNames s acc.2) n).1 ↔
      m ∈ visited ++ [n] ∧ m ∈ s.entityNames := by
    intro m
    rw [keepName_fst_mem, h.kept_iff]
    by_cases hm : m = n
    · subst hm
      simp
    · simp [hm]
  refine ⟨?_, hclaimed, hkept⟩
  cases he : lastEntityNamed s n with
  | none =>
      -- no entity has the name: neither walk places it
      have hid : entityIdByName s n = none := by simp [entityIdByName_eq_lastEntityNamed, he]
      by_cases hc : n ∈ acc.1 <;> simp [keepName, claimStep, he, hc, placeNames, hid]
  | some e =>
      have hid : entityIdByName s n = some e.id := by simp [entityIdByName_eq_lastEntityNamed, he]
      have hiff := h.claimed_iff_kept hdup (by simp [mem_entityNames_iff, hid])
      by_cases hk : n ∈ kept
      · simp [keepName, claimStep, he, hk, hiff.mpr hk]
      · -- a name of an entity met for the first time: both walks take it
        have hc : n ∉ acc.1 := fun hc => hk (hiff.mp hc)
        simp [keepName, claimStep, he, hk, hc, placeNames, hid]

/-- The names of one service visited by both walks. -/
theorem KeepInv.visitAll (names : List String) {visited kept : List String}
    {acc : List String × List String} (h : KeepInv dup s visited acc.1 kept)
    (hdup : ∀ m, 2 ≤ (visited ++ names).count m → m ∈ dup) :
    (names.foldl (keepName s) (kept, placeNames s acc.2)).2 =
        placeNames s (names.foldl (claimStep dup) acc).2 ∧
      KeepInv dup s (visited ++ names) (names.foldl (claimStep dup) acc).1
        (names.foldl (keepName s) (kept, placeNames s acc.2)).1 := by
  induction names generalizing visited kept acc with
  | nil => simpa using h
  | cons n names ih =>
      -- a name visited before is met here a second time
      have hn : n ∈ visited → n ∈ dup := by
        intro hv
        apply hdup n
        have : 0 < visited.count n := List.count_pos_iff.mpr hv
        simp only [List.count_append, List.count_cons_self]
        omega
      obtain ⟨hplaced, hinv⟩ := h.visit hn
      have hstep : keepName s (kept, placeNames s acc.2) n =
          ((keepName s (kept, placeNames s acc.2) n).1, placeNames s (claimStep dup acc n).2) :=
        Prod.ext rfl hplaced
      rw [List.foldl_cons, List.foldl_cons, hstep, List.append_cons]
      exact ih hinv (by simpa using hdup)

/-- The services visited by both walks: the keep-first walk holds each allotted service placed
against the snapshot, empty ones included. -/
theorem KeepInv.visitServices (ds : List ServiceDraft) {visited kept claimed : List String}
    {plan : List (ServiceDraft × List String)} (h : KeepInv dup s visited claimed kept)
    (hdup : ∀ m, 2 ≤ (visited ++ ds.flatMap ServiceDraft.dataModels).count m → m ∈ dup) :
    (ds.foldl (keepService s) (kept, plan.map (placeService s))).2 =
      (ds.foldl (allotStep dup) (claimed, plan)).2.map (placeService s) := by
  induction ds generalizing visited kept claimed plan with
  | nil => rfl
  | cons d ds ih =>
      have hstart : KeepInv dup s visited (claimed, ([] : List String)).1 kept := h
      obtain ⟨hplaced, hinv⟩ := hstart.visitAll d.dataModels fun m hm => hdup m (by
          simp only [List.flatMap_cons, ← List.append_assoc, List.count_append] at hm ⊢
          omega)
      have hstep : keepService s (kept, plan.map (placeService s)) d =
          ((d.dataModels.foldl (keepName s) (kept, [])).1,
            (plan ++ [(d, (d.dataModels.foldl (claimStep dup) (claimed, [])).2)]).map
              (placeService s)) := by
        simp only [keepService, List.map_append, List.map_cons, List.map_nil, placeService]
        rw [← hplaced]
        rfl
      rw [List.foldl_cons, List.foldl_cons, hstep]
      exact ih hinv (by simpa [List.flatMap_cons, List.append_assoc] using hdup)

end Walks

/-! ## The two walks agree -/

/-- Reconciling a recommendation with a snapshot gives the proposal of the keep-first walk: the
services stably sorted by the number of names they list, the largest first; a name kept when an
entity has it and no earlier visit kept it, with the id of the last entity of that name; and the
services left with nothing dropped. -/
theorem reconcile_eq_keepFirst (o : Recommendation) (s : Snapshot) :
    reconcile o s = o.keepFirst s := by
  let dup := repeatedNames (o.services.flatMap ServiceDraft.dataModels)
  -- the walk visits every proposed name, so a name it visits twice is duplicated
  have hwalk : (o.bySize.foldl (keepService s) ([], ([] : List (ServiceDraft × List String)).map
        (placeService s))).2 = (o.bySize.foldl (allotStep dup) ([], [])).2.map (placeService s) :=
    KeepInv.nil.visitServices o.bySize (mem_repeatedNames_of_perm (List.perm_insertionSort _ _))
  rw [reconcile_eq_realize, Recommendation.keepFirst, Recommendation.allotment,
    largestFirst_eq_bySize]
  rw [List.map_nil] at hwalk
  rw [hwalk]
  rfl

-- Size counts every listed name: `Noisy` lists two unknown names and is walked first, so it keeps
-- the shared `y`.
example : (Recommendation.keepFirst ⟨[⟨"Clean", "", ["x", "y"]⟩, ⟨"Noisy", "", ["a", "b", "y"]⟩]⟩
    ⟨"r", "R", none, [⟨"ix", "x", "x", []⟩, ⟨"iy", "y", "y", []⟩]⟩) =
      ⟨[⟨"Noisy", "", [⟨"y", "iy"⟩]⟩, ⟨"Clean", "", [⟨"x", "ix"⟩]⟩]⟩ := by
  decide +kernel

end MonolithSplit.Proposal

import Mathlib.Data.List.Perm.Subperm
import MonolithSplit.Proposal.Reconcile

/-!
# Reconciliation keeps every known entity exactly once

The walk of `reconcile` threads a list of *claimed* names through the services, largest first.
Only duplicated names are ever claimed, and a name unknown to the snapshot is claimed all the
same. Whatever the arrangement of repeats, unknown names and equal service sizes, the walk keeps
each name of an entity exactly once, at its first visit (`reconcile_keeps_known_entities_once`).

The argument is one invariant, `WalkInv`: after visiting a list of names, the claimed names are
the visited duplicated ones, and the kept names are the visited names of entities, each once.
Of the duplicated names it needs only that every name visited twice is among them.

Statement vocabulary: `Snapshot.LastNamed` (the id of the last entity of a name),
`Decomposition.names` (the data models of a proposal, flattened) and `Service.DrawnFrom` (a kept
service and the proposed service it comes from).
-/

namespace MonolithSplit.Model

/-- The last entity of the snapshot named `name` has id `id`. -/
def Snapshot.LastNamed (s : Snapshot) (name id : String) : Prop :=
  ∃ before e after, s.entities = before ++ e :: after ∧ e.name = name ∧ e.id = id ∧
    ∀ e' ∈ after, e'.name ≠ name

end MonolithSplit.Model

namespace MonolithSplit.Proposal

open MonolithSplit.Model

/-- The names of a service's data models. -/
def Service.names (v : Service) : List String :=
  v.dataModels.map Assignment.name

/-- The names of a proposal's data models, service after service. -/
def Decomposition.names (p : Decomposition) : List String :=
  p.services.flatMap Service.names

/-- A kept service carries the name and functionality of the proposed service it comes from,
and data models drawn in order from that service's names. -/
def Service.DrawnFrom (v : Service) (d : ServiceDraft) : Prop :=
  v.name = d.name ∧ v.functionality = d.functionality ∧ v.names.Sublist d.dataModels

/-! ## The steps of the walk -/

section Steps

variable {dup : List String} {s : Snapshot}

theorem assignStep_fst (acc : List String × List Assignment) (n : String) :
    (assignStep dup s acc n).1 = if n ∈ dup then n :: acc.1 else acc.1 := by
  unfold assignStep
  by_cases hd : n ∈ dup <;> cases entityIdByName s n <;> simp [hd] <;> split <;> rfl

theorem assignStep_snd_of_none {acc : List String × List Assignment} {n : String}
    (h : entityIdByName s n = none) : (assignStep dup s acc n).2 = acc.2 := by
  simp [assignStep, h]

theorem assignStep_snd_of_claimed {acc : List String × List Assignment} {n : String}
    (h : n ∈ acc.1) : (assignStep dup s acc n).2 = acc.2 := by
  unfold assignStep
  cases entityIdByName s n <;> simp [h]

theorem assignStep_snd_of_some {acc : List String × List Assignment} {n id : String}
    (h : entityIdByName s n = some id) (hc : n ∉ acc.1) :
    (assignStep dup s acc n).2 = acc.2 ++ [⟨n, id⟩] := by
  simp [assignStep, h, hc]

/-- One name adds nothing to a service, or adds itself with the id of its entity. -/
theorem assignStep_snd_cases (acc : List String × List Assignment) (n : String) :
    (assignStep dup s acc n).2 = acc.2 ∨
      ∃ id, entityIdByName s n = some id ∧ (assignStep dup s acc n).2 = acc.2 ++ [⟨n, id⟩] := by
  cases hent : entityIdByName s n with
  | none => exact .inl (assignStep_snd_of_none hent)
  | some id =>
      by_cases hc : n ∈ acc.1
      · exact .inl (assignStep_snd_of_claimed hc)
      · exact .inr ⟨id, rfl, assignStep_snd_of_some hent hc⟩

theorem assignService_fst (claimed : List String) (d : ServiceDraft) :
    (assignService dup s claimed d).1 = (d.dataModels.foldl (assignStep dup s) (claimed, [])).1 :=
  rfl

theorem assignService_snd (claimed : List String) (d : ServiceDraft) :
    (assignService dup s claimed d).2 =
      ⟨d.name, d.functionality, (d.dataModels.foldl (assignStep dup s) (claimed, [])).2⟩ :=
  rfl

theorem reconcileStep_fst (acc : List String × List Service) (d : ServiceDraft) :
    (reconcileStep dup s acc d).1 = (assignService dup s acc.1 d).1 := by
  rcases h : assignService dup s acc.1 d with ⟨c, v⟩
  simp only [reconcileStep, h]
  split <;> rfl

/-- A service left with no data model is dropped; any other is appended. -/
theorem reconcileStep_snd (acc : List String × List Service) (d : ServiceDraft) :
    (reconcileStep dup s acc d).2 =
      if (assignService dup s acc.1 d).2.dataModels = [] then acc.2
      else acc.2 ++ [(assignService dup s acc.1 d).2] := by
  rcases h : assignService dup s acc.1 d with ⟨c, v⟩
  simp only [reconcileStep, h, List.isEmpty_iff]
  split <;> rfl

end Steps

theorem largestFirst_perm (ds : List ServiceDraft) : (largestFirst ds).Perm ds :=
  List.mergeSort_perm _ _

/-! ## Repeated names -/

theorem mem_foldl_repeatStep (names seen rep : List String) (n : String) :
    n ∈ (names.foldl repeatStep (seen, rep)).2 ↔
      n ∈ rep ∨ 2 ≤ names.count n ∨ (n ∈ seen ∧ n ∈ names) := by
  induction names generalizing seen rep with
  | nil => simp
  | cons a names ih =>
      by_cases ha : a ∈ seen
      · simp only [List.foldl_cons, repeatStep, List.contains_iff_mem, ha, if_true, ih]
        by_cases hn : n = a
        · subst hn
          simp [ha]
        · simp [hn, Ne.symm hn]
      · simp only [List.foldl_cons, repeatStep, List.contains_iff_mem, ha, if_false, ih]
        by_cases hn : n = a
        · subst hn
          -- a first visit is repeated later exactly when the rest holds it once more
          have hpos : n ∈ names ↔ 1 ≤ names.count n := List.count_pos_iff.symm
          have hcount : 2 ≤ names.count n ∨ 1 ≤ names.count n ↔ 2 ≤ names.count n + 1 := by
            omega
          simp only [List.mem_cons, true_or, and_true, List.count_cons_self, ha, or_false,
            hpos, true_and, hcount]
        · simp [hn, Ne.symm hn]

/-- A name is repeated exactly when it occurs at least twice. -/
theorem mem_repeatedNames (names : List String) (n : String) :
    n ∈ repeatedNames names ↔ 2 ≤ names.count n := by
  have h := mem_foldl_repeatStep names [] [] n
  simp only [List.not_mem_nil, false_or, false_and, or_false] at h
  exact h

/-! ## The entity a name stands for -/

/-- A name's id is the id of the last entity of that name. -/
theorem entityIdByName_eq_some_iff {s : Snapshot} {name id : String} :
    entityIdByName s name = some id ↔ s.LastNamed name id := by
  unfold entityIdByName Snapshot.LastNamed
  simp only [Option.map_eq_some_iff, Snapshot.find?_reverse_eq_some_iff, beq_iff_eq,
    beq_eq_false_iff_ne]
  constructor
  · rintro ⟨e, ⟨before, after, hents, rfl, hafter⟩, rfl⟩
    exact ⟨before, e, after, hents, rfl, rfl, hafter⟩
  · rintro ⟨before, e, after, hents, rfl, rfl, hafter⟩
    exact ⟨e, ⟨before, after, hents, rfl, hafter⟩, rfl⟩

/-- A name stands for an entity exactly when some entity has it. -/
theorem entityIdByName_isSome_iff {s : Snapshot} {name : String} :
    (entityIdByName s name).isSome ↔ ∃ e ∈ s.entities, e.name = name := by
  simp [entityIdByName, List.find?_isSome]

/-! ## The walk invariant -/

/-- What the walk has established after visiting the names `visited`: the claimed names are the
visited duplicated ones, and the kept names are the visited names of entities, each once. -/
structure WalkInv (dup : List String) (s : Snapshot) (visited claimed kept : List String) :
    Prop where
  claimed_iff : ∀ n, n ∈ claimed ↔ n ∈ visited ∧ n ∈ dup
  kept_nodup : kept.Nodup
  kept_iff : ∀ n, n ∈ kept ↔ n ∈ visited ∧ (entityIdByName s n).isSome

section Walk

variable {dup : List String} {s : Snapshot}

/-- Visiting one name keeps the invariant, provided the name is duplicated if it was visited
before. `kept` holds what earlier services kept. -/
theorem WalkInv.visit {visited kept : List String} {acc : List String × List Assignment}
    {n : String} (h : WalkInv dup s visited acc.1 (kept ++ acc.2.map Assignment.name))
    (hdup : n ∈ visited → n ∈ dup) :
    WalkInv dup s (visited ++ [n]) (assignStep dup s acc n).1
      (kept ++ (assignStep dup s acc n).2.map Assignment.name) := by
  have hclaimed : ∀ m, m ∈ (assignStep dup s acc n).1 ↔ m ∈ visited ++ [n] ∧ m ∈ dup := by
    intro m
    rw [assignStep_fst]
    by_cases hn : n ∈ dup
    · by_cases hm : m = n
      · subst hm
        simp [hn]
      · simp [hn, hm, h.claimed_iff]
    · by_cases hm : m = n
      · subst hm
        simp [hn, h.claimed_iff]
      · simp [hn, hm, h.claimed_iff]
  cases hid : entityIdByName s n with
  | none =>
      rw [assignStep_snd_of_none hid]
      refine ⟨hclaimed, h.kept_nodup, fun m => ?_⟩
      by_cases hm : m = n
      · subst hm
        simp [h.kept_iff, hid]
      · simp [h.kept_iff, hm]
  | some id =>
      by_cases hc : n ∈ acc.1
      · rw [assignStep_snd_of_claimed hc]
        have hvis : n ∈ visited := ((h.claimed_iff n).mp hc).1
        refine ⟨hclaimed, h.kept_nodup, fun m => ?_⟩
        by_cases hm : m = n
        · subst hm
          simp [h.kept_iff, hid, hvis]
        · simp [h.kept_iff, hm]
      · rw [assignStep_snd_of_some hid hc]
        -- a name visited before is duplicated, hence claimed: this one is new
        have hfresh : n ∉ kept ++ acc.2.map Assignment.name := by
          intro hk
          have hvis := ((h.kept_iff n).mp hk).1
          exact hc ((h.claimed_iff n).mpr ⟨hvis, hdup hvis⟩)
        have hlist : kept ++ (acc.2 ++ [Assignment.mk n id]).map Assignment.name =
            (kept ++ acc.2.map Assignment.name) ++ [n] := by
          simp
        rw [hlist]
        refine ⟨hclaimed, ?_, fun m => ?_⟩
        · refine List.nodup_append.mpr ⟨h.kept_nodup, by simp, ?_⟩
          rintro a ha b hb rfl
          exact hfresh (List.mem_singleton.mp hb ▸ ha)
        · by_cases hm : m = n
          · subst hm
            simp [hid]
          · rw [List.mem_append, h.kept_iff]
            simp [hm]

/-- The walk over one service's names. -/
theorem WalkInv.visitAll (names : List String) {visited kept : List String}
    {acc : List String × List Assignment}
    (h : WalkInv dup s visited acc.1 (kept ++ acc.2.map Assignment.name))
    (hdup : ∀ m, 2 ≤ (visited ++ names).count m → m ∈ dup) :
    WalkInv dup s (visited ++ names) (names.foldl (assignStep dup s) acc).1
      (kept ++ (names.foldl (assignStep dup s) acc).2.map Assignment.name) := by
  induction names generalizing visited acc with
  | nil => simpa using h
  | cons n names ih =>
      -- a name visited before is met here a second time
      have hn : n ∈ visited → n ∈ dup := by
        intro hv
        apply hdup n
        have : 0 < visited.count n := List.count_pos_iff.mpr hv
        simp only [List.count_append, List.count_cons_self]
        omega
      rw [List.foldl_cons, List.append_cons]
      exact ih (h.visit hn) (by simpa using hdup)

/-- The walk over one service: a service dropped for being empty took no name. -/
theorem WalkInv.service {visited : List String} {acc : List String × List Service}
    {d : ServiceDraft} (h : WalkInv dup s visited acc.1 (acc.2.flatMap Service.names))
    (hdup : ∀ m, 2 ≤ (visited ++ d.dataModels).count m → m ∈ dup) :
    WalkInv dup s (visited ++ d.dataModels) (reconcileStep dup s acc d).1
      ((reconcileStep dup s acc d).2.flatMap Service.names) := by
  have hstart : WalkInv dup s visited (acc.1, ([] : List Assignment)).1
      (acc.2.flatMap Service.names ++ ([] : List Assignment).map Assignment.name) := by
    simpa using h
  have hinner := hstart.visitAll d.dataModels hdup
  rw [reconcileStep_fst, reconcileStep_snd, assignService_fst]
  split
  · rename_i hempty
    have hnil : (d.dataModels.foldl (assignStep dup s) (acc.1, [])).2 = [] := hempty
    simpa [hnil] using hinner
  · simpa [assignService_snd, Service.names] using hinner

/-- The walk over services in order. -/
theorem WalkInv.services (ds : List ServiceDraft) {visited : List String}
    {acc : List String × List Service}
    (h : WalkInv dup s visited acc.1 (acc.2.flatMap Service.names))
    (hdup : ∀ m, 2 ≤ (visited ++ ds.flatMap ServiceDraft.dataModels).count m → m ∈ dup) :
    WalkInv dup s (visited ++ ds.flatMap ServiceDraft.dataModels)
      (ds.foldl (reconcileStep dup s) acc).1
      ((ds.foldl (reconcileStep dup s) acc).2.flatMap Service.names) := by
  induction ds generalizing visited acc with
  | nil => simpa using h
  | cons d ds ih =>
      have hstep := h.service (d := d) (fun m hm => hdup m (by
        simp only [List.flatMap_cons, ← List.append_assoc, List.count_append] at hm ⊢
        omega))
      rw [List.foldl_cons, List.flatMap_cons, ← List.append_assoc]
      exact ih hstep (by simpa using hdup)

/-! ## The services a walk keeps -/

/-- A service's data models are drawn in order from its names, each with its entity's id. -/
theorem foldl_assignStep_snd (names : List String) (acc : List String × List Assignment) :
    ∃ added, (names.foldl (assignStep dup s) acc).2 = acc.2 ++ added ∧
      (added.map Assignment.name).Sublist names ∧
      ∀ a ∈ added, entityIdByName s a.name = some a.originalEntityId := by
  induction names generalizing acc with
  | nil => exact ⟨[], by simp, by simp, by simp⟩
  | cons n names ih =>
      obtain ⟨added, hadd, hsub, hid⟩ := ih (assignStep dup s acc n)
      rw [List.foldl_cons, hadd]
      rcases assignStep_snd_cases acc n with hstep | ⟨id, hent, hstep⟩
      · exact ⟨added, by rw [hstep], hsub.cons n, hid⟩
      · refine ⟨⟨n, id⟩ :: added, by simp [hstep], by simpa using hsub.cons_cons n, ?_⟩
        intro a ha
        rcases List.mem_cons.mp ha with rfl | ha
        · exact hent
        · exact hid a ha

theorem assignService_drawnFrom (claimed : List String) (d : ServiceDraft) :
    (assignService dup s claimed d).2.DrawnFrom d ∧
      ∀ a ∈ (assignService dup s claimed d).2.dataModels,
        entityIdByName s a.name = some a.originalEntityId := by
  obtain ⟨added, hadd, hsub, hid⟩ := @foldl_assignStep_snd dup s d.dataModels (claimed, [])
  rw [assignService_snd]
  simp only [List.nil_append] at hadd
  exact ⟨⟨rfl, rfl, by simpa [Service.names, hadd] using hsub⟩, by simpa [hadd] using hid⟩

/-- The services a walk keeps are drawn from services it visited, in their order; none is
empty, and every data model carries its entity's id. -/
theorem foldl_reconcileStep_snd (ds : List ServiceDraft) (acc : List String × List Service) :
    ∃ added picked, (ds.foldl (reconcileStep dup s) acc).2 = acc.2 ++ added ∧
      picked.Sublist ds ∧ List.Forall₂ Service.DrawnFrom added picked ∧
      ∀ v ∈ added, v.dataModels ≠ [] ∧
        ∀ a ∈ v.dataModels, entityIdByName s a.name = some a.originalEntityId := by
  induction ds generalizing acc with
  | nil => exact ⟨[], [], by simp, List.Sublist.slnil, .nil, by simp⟩
  | cons d ds ih =>
      obtain ⟨added, picked, hadd, hsub, hdrawn, hkept⟩ := ih (reconcileStep dup s acc d)
      obtain ⟨hfrom, hid⟩ := @assignService_drawnFrom dup s acc.1 d
      rw [List.foldl_cons, hadd, reconcileStep_snd]
      split
      · exact ⟨added, picked, rfl, hsub.cons d, hdrawn, hkept⟩
      · rename_i hne
        refine ⟨(assignService dup s acc.1 d).2 :: added, d :: picked, by simp, hsub.cons_cons d,
          .cons hfrom hdrawn, ?_⟩
        intro v hv
        rcases List.mem_cons.mp hv with rfl | hv
        · exact ⟨hne, hid⟩
        · exact hkept v hv

end Walk

/-! ## The walk of a reconciliation -/

/-- Walking the services in any order, starting having visited nothing, a name met twice is
a duplicated name of the recommendation. -/
theorem mem_repeatedNames_of_perm {o : Recommendation} {ds : List ServiceDraft}
    (hds : ds.Perm o.services) (m : String)
    (hm : 2 ≤ ([] ++ ds.flatMap ServiceDraft.dataModels).count m) :
    m ∈ repeatedNames (o.services.flatMap ServiceDraft.dataModels) := by
  have hperm := hds.flatMap_right ServiceDraft.dataModels
  exact (mem_repeatedNames _ m).mpr (by simpa [hperm.count_eq] using hm)

/-- The whole walk of a reconciliation, over every proposed name with the largest service first,
claims the duplicated names it visits and keeps each visited name of an entity once. -/
theorem reconcile_walkInv (o : Recommendation) (s : Snapshot) :
    let dup := repeatedNames (o.services.flatMap ServiceDraft.dataModels)
    WalkInv dup s ((largestFirst o.services).flatMap ServiceDraft.dataModels)
      ((largestFirst o.services).foldl (reconcileStep dup s) ([], [])).1 (reconcile o s).names := by
  intro dup
  have hinit : WalkInv dup s [] (([], []) : List String × List Service).1
      ((([], []) : List String × List Service).2.flatMap Service.names) :=
    ⟨by simp, by simp, by simp⟩
  have hwalk := hinit.services (largestFirst o.services)
    (mem_repeatedNames_of_perm (largestFirst_perm o.services))
  rw [List.nil_append] at hwalk
  exact hwalk

/-! ## What a proposal holds -/

/-- Reconciling gives a proposal in which every data model names an entity and carries the id of
the last entity of that name, no name occurs twice, every proposed name of an entity occurs,
no service is empty, and every service comes from its own proposed service, with the data
models in that service's order. -/
theorem reconcile_keeps_known_entities_once (o : Recommendation) (s : Snapshot) :
    (∀ v ∈ (reconcile o s).services, ∀ a ∈ v.dataModels,
        s.LastNamed a.name a.originalEntityId) ∧
      (reconcile o s).names.Nodup ∧
      (∀ d ∈ o.services, ∀ n ∈ d.dataModels, (∃ e ∈ s.entities, e.name = n) →
        n ∈ (reconcile o s).names) ∧
      (∀ v ∈ (reconcile o s).services, v.dataModels ≠ []) ∧
      ∃ picked, picked.Subperm o.services ∧
        List.Forall₂ Service.DrawnFrom (reconcile o s).services picked := by
  let dup := repeatedNames (o.services.flatMap ServiceDraft.dataModels)
  -- the walk visits every proposed name, the largest service first
  have hperm : ((largestFirst o.services).flatMap ServiceDraft.dataModels).Perm
      (o.services.flatMap ServiceDraft.dataModels) :=
    (largestFirst_perm o.services).flatMap_right _
  have hwalk := reconcile_walkInv o s
  obtain ⟨added, picked, hres, hsub, hdrawn, hkept⟩ :=
    @foldl_reconcileStep_snd dup s (largestFirst o.services) ([], [])
  have hservices : (reconcile o s).services = added := by
    unfold reconcile
    simpa using hres
  refine ⟨?_, ?_, ?_, ?_, ?_⟩
  · intro v hv a ha
    rw [hservices] at hv
    exact entityIdByName_eq_some_iff.mp ((hkept v hv).2 a ha)
  · exact hwalk.kept_nodup
  · intro d hd n hn hent
    rw [hwalk.kept_iff, hperm.mem_iff]
    exact ⟨List.mem_flatMap.mpr ⟨d, hd, hn⟩, entityIdByName_isSome_iff.mpr hent⟩
  · intro v hv
    rw [hservices] at hv
    exact (hkept v hv).1
  · exact ⟨picked, hsub.subperm.trans (largestFirst_perm o.services).subperm,
      hservices ▸ hdrawn⟩

end MonolithSplit.Proposal

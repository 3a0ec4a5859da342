import MonolithSplit.Proofs.Allotment

/-!
# Reconciling a proposal a second time

A proposal read back as a recommendation (`Decomposition.toRecommendation`: each service with the
names of its data models) and reconciled again against the same snapshot comes back whole: every
service with the same data models and ids, only in another order
(`reconcile_again_only_reorders`). The order can change because the first reconciliation sorts
services by the number of names they propose, which may shrink: the second one sorts them by the
number of data models they kept.

The argument needs all of what a reconciliation guarantees, gathered as `Decomposition.Settled`: no
name occurs twice, every data model carries the id of its entity, and no service is empty. A
settled proposal has no duplicated name, so the second walk claims nothing, keeps every name it
meets and drops no service (`reconcile_toRecommendation_of_settled`).
-/

namespace MonolithSplit.Proposal

open MonolithSplit.Model

/-- A kept service read back as a proposed one: its name, its functionality and the names of its
data models. -/
def Service.toDraft (v : Service) : ServiceDraft :=
  ⟨v.name, v.functionality, v.names⟩

/-- A proposal read back as a recommendation. -/
def Decomposition.toRecommendation (p : Decomposition) : Recommendation :=
  ⟨p.services.map Service.toDraft⟩

/-- A proposal as a reconciliation with snapshot `s` leaves it: no name occurs twice, every data
model carries the id of the last entity of its name, and no service is empty. -/
structure Decomposition.Settled (s : Snapshot) (p : Decomposition) : Prop where
  names_nodup : p.names.Nodup
  ids : ∀ v ∈ p.services, ∀ a ∈ v.dataModels,
    entityIdByName s a.name = some a.originalEntityId
  nonempty : ∀ v ∈ p.services, v.dataModels ≠ []

/-! ## A reconciliation is settled -/

theorem mem_placeNames {s : Snapshot} {names : List String} {a : Assignment} :
    a ∈ placeNames s names ↔
      a.name ∈ names ∧ entityIdByName s a.name = some a.originalEntityId := by
  obtain ⟨n, id⟩ := a
  simp only [placeNames, List.mem_filterMap, Option.map_eq_some_iff, Assignment.mk.injEq]
  constructor
  · rintro ⟨m, hm, id', hid, rfl, rfl⟩
    exact ⟨hm, hid⟩
  · rintro ⟨hn, hid⟩
    exact ⟨n, hn, id, hid, rfl, rfl⟩

theorem mem_realize {s : Snapshot} {plan : List (ServiceDraft × List String)} {v : Service} :
    v ∈ realize s plan ↔ (∃ e ∈ plan, placeService s e = v) ∧ v.dataModels ≠ [] := by
  simp [realize, List.mem_filter, List.mem_map]

theorem reconcile_names_nodup (o : Recommendation) (s : Snapshot) :
    (reconcile o s).names.Nodup :=
  (reconcile_walkInv o s).kept_nodup

/-- Reconciling always gives a settled proposal. -/
theorem reconcile_settled (o : Recommendation) (s : Snapshot) : (reconcile o s).Settled s := by
  refine ⟨reconcile_names_nodup o s, fun v hv a ha => ?_, fun v hv => ?_⟩
  · rw [reconcile_services_eq_realize, mem_realize] at hv
    obtain ⟨⟨e, -, rfl⟩, -⟩ := hv
    exact (mem_placeNames.mp ha).2
  · rw [reconcile_services_eq_realize, mem_realize] at hv
    exact hv.2

/-! ## The second walk keeps everything -/

theorem foldl_claimStep_nil (names allotted : List String) :
    names.foldl (claimStep []) ([], allotted) = ([], allotted ++ names) := by
  induction names generalizing allotted with
  | nil => simp
  | cons n names ih =>
      rw [List.foldl_cons]
      simpa [claimStep] using ih (allotted ++ [n])

theorem foldl_allotStep_nil (ds : List ServiceDraft) (plan : List (ServiceDraft × List String)) :
    ds.foldl (allotStep []) ([], plan) = ([], plan ++ ds.map fun d => (d, d.dataModels)) := by
  induction ds generalizing plan with
  | nil => simp
  | cons d ds ih =>
      rw [List.foldl_cons]
      simpa [allotStep, foldl_claimStep_nil] using ih (plan ++ [(d, d.dataModels)])

theorem repeatedNames_eq_nil_of_nodup {names : List String} (h : names.Nodup) :
    repeatedNames names = [] := by
  refine List.eq_nil_iff_forall_not_mem.mpr fun n hn => ?_
  have := List.nodup_iff_count.mp h n
  rw [mem_repeatedNames] at hn
  omega

/-- A recommendation that names nothing twice is allotted whole: each service gets all its names. -/
theorem allotment_of_nodup {o : Recommendation}
    (h : (o.services.flatMap ServiceDraft.dataModels).Nodup) :
    o.allotment = (largestFirst o.services).map fun d => (d, d.dataModels) := by
  simp only [Recommendation.allotment, repeatedNames_eq_nil_of_nodup h, foldl_allotStep_nil,
    List.nil_append]

/-- Placing the names of a service whose ids are its entities' gives the service back. -/
theorem placeService_toDraft {s : Snapshot} {v : Service}
    (h : ∀ a ∈ v.dataModels, entityIdByName s a.name = some a.originalEntityId) :
    placeService s (v.toDraft, v.names) = v := by
  obtain ⟨name, functionality, models⟩ := v
  simp only [placeService, Service.toDraft, Service.names, Service.mk.injEq, true_and]
  induction models with
  | nil => rfl
  | cons a models ih =>
      have ha := h a (by simp)
      simp only [List.map_cons, placeNames, List.filterMap_cons, ha, Option.map_some] at ih ⊢
      rw [ih fun b hb => h b (by simp [hb])]

theorem largestFirst_toRecommendation (p : Decomposition) :
    largestFirst p.toRecommendation.services =
      (p.services.mergeSort fun a b => decide (b.dataModels.length ≤ a.dataModels.length)).map
        Service.toDraft := by
  rw [List.map_mergeSort]
  · rfl
  · intro a _ b _
    simp [Service.toDraft, Service.names]

/-- Reconciling a settled proposal again gives it back, its services sorted by the number of their
data models, the largest first. -/
theorem reconcile_toRecommendation_of_settled {s : Snapshot} {p : Decomposition} (h : p.Settled s) :
    reconcile p.toRecommendation s = ⟨p.services.mergeSort
      fun a b => decide (b.dataModels.length ≤ a.dataModels.length)⟩ := by
  have hnodup : (p.toRecommendation.services.flatMap ServiceDraft.dataModels).Nodup := by
    simpa [Decomposition.toRecommendation, Service.toDraft, Decomposition.names, List.flatMap_map]
      using h.names_nodup
  rw [reconcile_eq_realize, allotment_of_nodup hnodup, largestFirst_toRecommendation]
  simp only [realize, List.map_map, Decomposition.mk.injEq]
  -- every service is placed back as it was, and none is empty
  have hback : ∀ v ∈ p.services.mergeSort
      (fun a b => decide (b.dataModels.length ≤ a.dataModels.length)),
      placeService s (v.toDraft, v.toDraft.dataModels) = v := fun v hv =>
    placeService_toDraft (h.ids v (List.mem_mergeSort.mp hv))
  rw [List.map_congr_left fun v hv => by exact hback v hv, List.map_id']
  refine List.filter_eq_self.mpr fun v hv => ?_
  simpa using h.nonempty v (List.mem_mergeSort.mp hv)

/-- Reading a reconciliation back as a recommendation and reconciling it again with the same
snapshot gives the same services, with the same data models and ids, sorted by the number of data
models they hold, the largest first and ties in their order: no service is dropped, and only the
order of the services can change. -/
theorem reconcile_again_only_reorders (o : Recommendation) (s : Snapshot) :
    reconcile (reconcile o s).toRecommendation s =
        ⟨(reconcile o s).services.mergeSort
          fun a b => decide (b.dataModels.length ≤ a.dataModels.length)⟩ ∧
      (reconcile (reconcile o s).toRecommendation s).services.Perm (reconcile o s).services := by
  have hagain := reconcile_toRecommendation_of_settled (reconcile_settled o s)
  exact ⟨hagain, hagain ▸ List.mergeSort_perm _ _⟩

end MonolithSplit.Proposal

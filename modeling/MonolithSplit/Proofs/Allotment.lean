import MonolithSplit.Proofs.Reconcile

/-!
# What the snapshot decides in a reconciliation

The walk of `reconcile` claims names without looking at the snapshot: the order of the services,
the duplicated names and the names already claimed all come from the recommendation alone. The
snapshot decides only whether a name the walk reaches names an entity, and which id it takes.
So a reconciliation is one *allotment*, computed with no snapshot, cut down to the snapshot at
hand (`reconcile_services_eq_realize`): each proposed service beside the names it claims first,
of which the snapshot keeps those naming an entity, with the entity's id.

Against two snapshots, the data models of names known to both come from the same proposed
services in the same order, and a snapshot that only lost names gives the earlier proposal less
the names it lost, each remaining data model taking its id from the later snapshot
(`reconcile_allotment_ignores_snapshot`). That id can change: a name whose last entity was
deleted takes the id of the entity of that name now last (`reconcile_id_moves_on_deletion`).

Statement vocabulary: `Recommendation.assigned` (the services of a reconciliation, each beside
the proposed service it comes from), `Recommendation.placements` (its data models as pairs of
proposed service and name) and `Decomposition.restrictTo` (a proposal cut down to a snapshot).
-/

namespace MonolithSplit.Model

/-- The names of a snapshot's entities. -/
def Snapshot.entityNames (s : Snapshot) : List String :=
  s.entities.map LiveEntity.name

end MonolithSplit.Model

namespace MonolithSplit.Proposal

open MonolithSplit.Model

/-! ## The allotment -/

/-- One name of a service, walked with no snapshot: claimed when duplicated, and allotted to the
service unless it was claimed before. -/
def claimStep (dup : List String) (acc : List String × List String) (name : String) :
    List String × List String :=
  (if name ∈ dup then name :: acc.1 else acc.1, if name ∈ acc.1 then acc.2 else acc.2 ++ [name])

/-- One proposed service, walked with no snapshot: the service beside the names allotted to it. -/
def allotStep (dup : List String) (acc : List String × List (ServiceDraft × List String))
    (d : ServiceDraft) : List String × List (ServiceDraft × List String) :=
  let r := d.dataModels.foldl (claimStep dup) (acc.1, [])
  (r.1, acc.2 ++ [(d, r.2)])

/-- The allotment of a recommendation: its services largest first, each beside the names it
claims first. -/
def Recommendation.allotment (o : Recommendation) : List (ServiceDraft × List String) :=
  let dup := repeatedNames (o.services.flatMap ServiceDraft.dataModels)
  ((largestFirst o.services).foldl (allotStep dup) ([], [])).2

/-- The data models a snapshot makes of allotted names: those naming an entity, with its id. -/
def placeNames (s : Snapshot) (names : List String) : List Assignment :=
  names.filterMap fun n => (entityIdByName s n).map (Assignment.mk n)

/-- An allotted service against a snapshot. -/
def placeService (s : Snapshot) (e : ServiceDraft × List String) : Service :=
  ⟨e.1.name, e.1.functionality, placeNames s e.2⟩

/-- The services an allotment gives against a snapshot, those left empty dropped. -/
def realize (s : Snapshot) (plan : List (ServiceDraft × List String)) : List Service :=
  (plan.map (placeService s)).filter fun v => !v.dataModels.isEmpty

/-- The services a recommendation gives against a snapshot, each beside the proposed service it
is drawn from. -/
def Recommendation.assigned (o : Recommendation) (s : Snapshot) :
    List (ServiceDraft × Service) :=
  (o.allotment.map fun e => (e.1, placeService s e)).filter fun p => !p.2.dataModels.isEmpty

/-- The data models of a reconciliation as pairs of the proposed service each comes from and its
name, in order. -/
def Recommendation.placements (o : Recommendation) (s : Snapshot) :
    List (ServiceDraft × String) :=
  (o.assigned s).flatMap fun p => p.2.names.map (p.1, ·)

/-- A proposal cut down to a snapshot: a data model stays when its name is an entity's, and
takes that entity's id; services left empty are dropped. -/
def Decomposition.restrictTo (p : Decomposition) (s : Snapshot) : Decomposition :=
  ⟨(p.services.map fun v => { v with dataModels := placeNames s v.names }).filter
    fun v => !v.dataModels.isEmpty⟩

/-! ## The walk is the allotment cut down to the snapshot -/

section Simulation

variable {dup : List String} {s : Snapshot}

@[simp] theorem placeNames_nil : placeNames s [] = [] := rfl

@[simp] theorem placeNames_append (xs ys : List String) :
    placeNames s (xs ++ ys) = placeNames s xs ++ placeNames s ys :=
  List.filterMap_append

/-- One name walked against a snapshot keeps, of what the walk with no snapshot allots, the
names of entities. -/
theorem assignStep_placeNames (claimed allotted : List String) (n : String) :
    assignStep dup s (claimed, placeNames s allotted) n =
      ((claimStep dup (claimed, allotted) n).1,
        placeNames s (claimStep dup (claimed, allotted) n).2) := by
  by_cases hc : n ∈ claimed <;> cases hid : entityIdByName s n <;>
    simp [assignStep, claimStep, placeNames, hid, hc]

theorem foldl_assignStep_placeNames (names claimed : List String) :
    names.foldl (assignStep dup s) (claimed, []) =
      ((names.foldl (claimStep dup) (claimed, [])).1,
        placeNames s (names.foldl (claimStep dup) (claimed, [])).2) :=
  @List.foldl_hom _ _ _ (fun acc => (acc.1, placeNames s acc.2)) (claimStep dup)
    (assignStep dup s) names (claimed, []) fun acc n => assignStep_placeNames acc.1 acc.2 n

/-- One service walked against a snapshot appends its allotted service, unless that is empty. -/
theorem reconcileStep_realize (claimed : List String) (plan : List (ServiceDraft × List String))
    (d : ServiceDraft) :
    reconcileStep dup s (claimed, realize s plan) d =
      ((allotStep dup (claimed, plan) d).1, realize s (allotStep dup (claimed, plan) d).2) := by
  have hfold := @foldl_assignStep_placeNames dup s d.dataModels claimed
  refine Prod.ext ?_ ?_
  · rw [reconcileStep_fst, assignService_fst, hfold]
    rfl
  · rw [reconcileStep_snd, assignService_snd, hfold]
    simp only [allotStep, realize, List.map_append, List.filter_append, List.map_cons,
      List.map_nil, placeService]
    split <;> simp_all

theorem foldl_reconcileStep_realize (ds : List ServiceDraft) :
    ds.foldl (reconcileStep dup s) ([], []) =
      ((ds.foldl (allotStep dup) ([], [])).1, realize s (ds.foldl (allotStep dup) ([], [])).2) :=
  @List.foldl_hom _ _ _ (fun acc => (acc.1, realize s acc.2)) (allotStep dup)
    (reconcileStep dup s) ds ([], []) fun acc d => reconcileStep_realize acc.1 acc.2 d

end Simulation

/-- A reconciliation is the recommendation's allotment cut down to the snapshot. -/
theorem reconcile_services_eq_realize (o : Recommendation) (s : Snapshot) :
    (reconcile o s).services = realize s o.allotment := by
  simp only [reconcile, Recommendation.allotment]
  rw [foldl_reconcileStep_realize]

theorem reconcile_eq_realize (o : Recommendation) (s : Snapshot) :
    reconcile o s = ⟨realize s o.allotment⟩ := by
  rw [← reconcile_services_eq_realize]

/-- The services of a reconciliation are those the recommendation is assigned, in order. -/
theorem reconcile_services_eq_assigned (o : Recommendation) (s : Snapshot) :
    (reconcile o s).services = (o.assigned s).map Prod.snd := by
  rw [reconcile_services_eq_realize]
  simp [Recommendation.assigned, realize, List.filter_map, Function.comp_def]

/-! ## Where each name is placed -/

/-- Allotted names are drawn in order from the names the service proposes. -/
theorem foldl_claimStep_snd (names claimed : List String) :
    ∀ {dup : List String}, (names.foldl (claimStep dup) (claimed, [])).2.Sublist names := by
  suffices h : ∀ (dup allotted : List String),
      ∃ added, (names.foldl (claimStep dup) (claimed, allotted)).2 = allotted ++ added ∧
        added.Sublist names by
    intro dup
    obtain ⟨added, hadd, hsub⟩ := h dup []
    simpa [hadd] using hsub
  induction names generalizing claimed with
  | nil => exact fun _ allotted => ⟨[], by simp, .slnil⟩
  | cons n names ih =>
      intro dup allotted
      obtain ⟨added, hadd, hsub⟩ := ih (claimStep dup (claimed, allotted) n).1 dup
        (claimStep dup (claimed, allotted) n).2
      rw [List.foldl_cons, hadd]
      by_cases hc : n ∈ claimed
      · exact ⟨added, by simp [claimStep, hc], hsub.cons n⟩
      · exact ⟨n :: added, by simp [claimStep, hc], hsub.cons_cons n⟩

/-- Every entry of an allotment is a proposed service beside some of its names, in order. -/
theorem allotment_sublist (o : Recommendation) : ∀ e ∈ o.allotment, e.2.Sublist e.1.dataModels := by
  suffices h : ∀ (ds : List ServiceDraft) (acc : List String × List (ServiceDraft × List String)),
      (∀ e ∈ acc.2, e.2.Sublist e.1.dataModels) →
        ∀ e ∈ (ds.foldl (allotStep (repeatedNames (o.services.flatMap ServiceDraft.dataModels)))
          acc).2, e.2.Sublist e.1.dataModels from
    h _ ([], []) (by simp)
  intro ds
  induction ds with
  | nil => exact fun _ hacc => hacc
  | cons d ds ih =>
      intro acc hacc
      refine ih _ fun e he => ?_
      simp only [allotStep, List.mem_append, List.mem_singleton] at he
      rcases he with he | rfl
      · exact hacc e he
      · exact foldl_claimStep_snd _ _

theorem mem_entityNames_iff {s : Snapshot} {n : String} :
    n ∈ s.entityNames ↔ (entityIdByName s n).isSome := by
  simp [Snapshot.entityNames, entityIdByName_isSome_iff]

/-- Of the names allotted to a service, a snapshot keeps those of its entities. -/
theorem names_placeService (s : Snapshot) (e : ServiceDraft × List String) :
    (placeService s e).names = e.2.filter fun n => n ∈ s.entityNames := by
  obtain ⟨d, names⟩ := e
  simp only [placeService, Service.names, placeNames]
  induction names with
  | nil => rfl
  | cons n names ih =>
      cases hid : entityIdByName s n with
      | none =>
          have hn : n ∉ s.entityNames := by simp [mem_entityNames_iff, hid]
          simp [hid, hn, ih]
      | some id =>
          have hn : n ∈ s.entityNames := by simp [mem_entityNames_iff, hid]
          simp [hid, hn, ih]

theorem placeService_drawnFrom (s : Snapshot) {e : ServiceDraft × List String}
    (he : e.2.Sublist e.1.dataModels) : (placeService s e).DrawnFrom e.1 :=
  ⟨rfl, rfl, names_placeService s e ▸ (List.filter_sublist).trans he⟩

theorem assigned_drawnFrom {o : Recommendation} {s : Snapshot} {p : ServiceDraft × Service}
    (hp : p ∈ o.assigned s) : p.2.DrawnFrom p.1 := by
  simp only [Recommendation.assigned, List.mem_filter, List.mem_map] at hp
  obtain ⟨⟨e, he, rfl⟩, -⟩ := hp
  exact placeService_drawnFrom s (allotment_sublist o e he)

/-- The placements of a reconciliation are the allotment's names of the snapshot's entities,
each beside its proposed service: a service left empty places nothing. -/
theorem placements_eq (o : Recommendation) (s : Snapshot) :
    o.placements s =
      o.allotment.flatMap fun e => (e.2.filter fun n => n ∈ s.entityNames).map (e.1, ·) := by
  simp only [Recommendation.placements, Recommendation.assigned]
  induction o.allotment with
  | nil => rfl
  | cons e plan ih =>
      by_cases hempty : (placeService s e).dataModels = []
      · have hnames : (e.2.filter fun n => n ∈ s.entityNames) = [] := by
          rw [← names_placeService, Service.names, hempty, List.map_nil]
        simp [hempty, hnames, ih]
      · simp [hempty, ih, names_placeService]

/-- Filtering the placements by names of the snapshot's entities filters the allotment. -/
theorem placements_filter (o : Recommendation) (s : Snapshot) {p : String → Bool}
    (hp : ∀ n, p n = true → n ∈ s.entityNames) :
    (o.placements s).filter (fun q => p q.2) = o.allotment.flatMap fun e => (e.2.filter p).map (e.1, ·) := by
  rw [placements_eq, List.filter_flatMap]
  congr 1
  funext e
  rw [List.filter_map, List.filter_filter]
  congr 2
  funext n
  cases h : p n
  · simp [h]
  · simp [h, hp n h]

/-! ## A snapshot that only lost names -/

/-- Placing names against a snapshot whose names all belong to another: filtering the names by
the other snapshot first changes nothing. -/
theorem placeNames_filter_of_subset {s₁ s₂ : Snapshot}
    (hsub : ∀ n ∈ s₂.entityNames, n ∈ s₁.entityNames) (names : List String) :
    placeNames s₂ (names.filter fun n => n ∈ s₁.entityNames) = placeNames s₂ names := by
  induction names with
  | nil => rfl
  | cons n names ih =>
      by_cases h₁ : n ∈ s₁.entityNames
      · rw [List.filter_cons_of_pos (by simpa using h₁)]
        simp only [placeNames, List.filterMap_cons] at ih ⊢
        rw [ih]
      · -- a name the first snapshot lacks, the second lacks too
        have hid : entityIdByName s₂ n = none := by
          rw [← Option.not_isSome_iff_eq_none, ← mem_entityNames_iff]
          exact fun h₂ => h₁ (hsub n h₂)
        rw [List.filter_cons_of_neg (by simpa using h₁)]
        simpa [placeNames, hid] using ih

theorem restrictTo_realize {s₁ s₂ : Snapshot} (hsub : ∀ n ∈ s₂.entityNames, n ∈ s₁.entityNames)
    (plan : List (ServiceDraft × List String)) :
    (⟨realize s₁ plan⟩ : Decomposition).restrictTo s₂ = ⟨realize s₂ plan⟩ := by
  -- each allotted service, placed against the first snapshot and again against the second, is
  -- the service placed against the second
  have hplace : ∀ e : ServiceDraft × List String,
      { placeService s₁ e with dataModels := placeNames s₂ (placeService s₁ e).names } =
        placeService s₂ e := by
    intro e
    rw [names_placeService, placeNames_filter_of_subset hsub]
    rfl
  simp only [Decomposition.restrictTo, Decomposition.mk.injEq, realize]
  induction plan with
  | nil => rfl
  | cons e plan ih =>
      by_cases hempty : (placeService s₁ e).dataModels = []
      · have hnames : (placeService s₁ e).names = [] := by simp [Service.names, hempty]
        have hempty₂ : (placeService s₂ e).dataModels = [] := by
          rw [← hplace e, hnames]
          rfl
        simp [hempty, hempty₂, ih]
      · simp [List.filter_cons, hempty, ih, hplace e]

/-! ## Two snapshots -/

/-- Against any two snapshots, the reconciliations of one recommendation are drawn, service by
service, from one allotment. Each service comes from its proposed service; the pairs of
proposed service and name, for the names of entities of both snapshots, are the same in the
same order; and when every entity name of the second snapshot is one of the first, the second
reconciliation is the first cut down to the second snapshot: the names it lost removed, the
services left empty dropped, and each data model carrying the id of its entity in the second
snapshot. -/
theorem reconcile_allotment_ignores_snapshot (o : Recommendation) (s₁ s₂ : Snapshot) :
    (reconcile o s₁).services = (o.assigned s₁).map Prod.snd ∧
      (reconcile o s₂).services = (o.assigned s₂).map Prod.snd ∧
      (∀ p ∈ o.assigned s₁ ++ o.assigned s₂, p.2.DrawnFrom p.1) ∧
      (o.placements s₁).filter (fun p => p.2 ∈ s₁.entityNames ∧ p.2 ∈ s₂.entityNames) =
        (o.placements s₂).filter (fun p => p.2 ∈ s₁.entityNames ∧ p.2 ∈ s₂.entityNames) ∧
      ((∀ n ∈ s₂.entityNames, n ∈ s₁.entityNames) →
        reconcile o s₂ = (reconcile o s₁).restrictTo s₂) := by
  refine ⟨reconcile_services_eq_assigned o s₁, reconcile_services_eq_assigned o s₂,
    fun p hp => ?_, ?_, fun hsub => ?_⟩
  · rcases List.mem_append.mp hp with hp | hp <;> exact assigned_drawnFrom hp
  · -- both sides filter the one allotment by the names of both snapshots
    let common : String → Bool := fun n => decide (n ∈ s₁.entityNames ∧ n ∈ s₂.entityNames)
    have hcommon : ∀ n, common n = true → n ∈ s₁.entityNames ∧ n ∈ s₂.entityNames :=
      fun n h => of_decide_eq_true h
    exact (@placements_filter o s₁ common fun n h => (hcommon n h).1).trans
      (@placements_filter o s₂ common fun n h => (hcommon n h).2).symm
  · rw [reconcile_eq_realize o s₁, reconcile_eq_realize o s₂, restrictTo_realize hsub]

/-- Deleting the last of two entities named `Order` keeps `Order` in its service, under the id of
the entity left: no name is lost, and still the later reconciliation is not the earlier one. -/
theorem reconcile_id_moves_on_deletion :
    let o : Recommendation := ⟨[⟨"Sales", "", ["Order"]⟩]⟩
    let s₁ : Snapshot :=
      ⟨"shop", "Shop", none, [⟨"o1", "Order", "Order", []⟩, ⟨"o2", "Order", "Order", []⟩]⟩
    let s₂ : Snapshot := ⟨"shop", "Shop", none, [⟨"o1", "Order", "Order", []⟩]⟩
    (∀ n ∈ s₂.entityNames, n ∈ s₁.entityNames) ∧
      (∀ n ∈ (reconcile o s₁).names, n ∈ s₂.entityNames) ∧ reconcile o s₂ ≠ reconcile o s₁ := by
  decide +kernel

end MonolithSplit.Proposal

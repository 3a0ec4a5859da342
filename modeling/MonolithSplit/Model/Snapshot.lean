import MonolithSplit.Model.Resource

/-!
# Snapshots of a resource

A snapshot is what the redesign works on: the resource's id, name and project, and its live
entities in their order, each with the fields of its baseline version (none when it has no
version `0`). A snapshot is taken afresh each time it is needed.
-/

namespace MonolithSplit.Model

open MonolithSplit.Json

/-- A live entity as a snapshot holds it: its baseline fields only. -/
structure LiveEntity where
  id : String
  name : String
  displayName : String
  fields : List Field
  deriving Repr

/-- A resource as the redesign sees it. -/
structure Snapshot where
  id : String
  name : String
  project : Option Project
  entities : List LiveEntity
  deriving Repr

/-- An entity with its baseline fields. -/
def Entity.live (e : Entity) : LiveEntity :=
  ⟨e.id, e.name, e.displayName, (e.baseline.map Version.fields).getD []⟩

/-- The snapshot of a resource: live entities only, baseline fields only. -/
def Resource.snapshot (r : Resource) : Snapshot :=
  ⟨r.id, r.name, r.project, r.liveEntities.map Entity.live⟩

namespace LiveEntity

/-- The JSON form of a snapshot entity. -/
def toJson (e : LiveEntity) : Value :=
  .object [("id", .string e.id), ("name", .string e.name),
    ("displayName", .string e.displayName), ("fields", .array (e.fields.map Field.toJson))]

end LiveEntity

namespace Snapshot

/-- The JSON form of a snapshot; an absent project is left out. -/
def toJson (s : Snapshot) : Value :=
  .object (Value.presentMembers
    [("id", some (.string s.id)), ("name", some (.string s.name)),
      ("project", s.project.map Project.toJson),
      ("entities", some (.array (s.entities.map LiveEntity.toJson)))])

/-- The id of the snapshot's project, if it has one. -/
def projectId (s : Snapshot) : Option String :=
  s.project.map Project.id

/-- Searching the entities from the end finds the last entity with a property. -/
theorem find?_reverse_eq_some_iff (s : Snapshot) (p : LiveEntity → Bool) (e : LiveEntity) :
    s.entities.reverse.find? p = some e ↔
      ∃ before after, s.entities = before ++ e :: after ∧ p e ∧ ∀ e' ∈ after, p e' = false := by
  rw [List.find?_eq_some_iff_append]
  constructor
  · rintro ⟨he, after, before, hrev, hafter⟩
    refine ⟨before.reverse, after.reverse, ?_, he, fun e' he' => ?_⟩
    · rw [← List.reverse_reverse s.entities, hrev]
      simp
    · simpa using hafter e' (List.mem_reverse.mp he')
  · rintro ⟨before, after, hents, he, hafter⟩
    refine ⟨he, after.reverse, before.reverse, by simp [hents], fun e' he' => ?_⟩
    simpa using hafter e' (List.mem_reverse.mp he')

end Snapshot

end MonolithSplit.Model

import Mathlib.Data.List.Forall2
import MonolithSplit.Prompt.Payload

/-!
# How a proposal request types the fields of a snapshot

A request about a snapshot describes each entity, in order, by its name and its fields, in order,
by name and type. The type rule is `TypedAs`, stated without the index the request is built with:
a field that is not a lookup is typed by its primitive type; a lookup whose `relatedEntityId`
property is a string naming the id of an entity is typed by the name of the last entity with that
id; any other lookup (no such property, a property that is not a string, or no entity with that
id) is an `enum`.

The main statement, `payload_field_types`, says that the request follows this rule, that the rule
gives each field exactly one type, that every type sent is a primitive type or the name of an
entity of the snapshot, and that a lookup of an entity that is soft-deleted in the resource is
sent as an `enum`, since a snapshot holds live entities only.
-/

namespace MonolithSplit.Model

/-- The last entity of the snapshot with id `id` is named `name`. -/
def Snapshot.LastWithId (s : Snapshot) (id name : String) : Prop :=
  ∃ before e after, s.entities = before ++ e :: after ∧ e.id = id ∧ e.name = name ∧
    ∀ e' ∈ after, e'.id ≠ id

end MonolithSplit.Model

namespace MonolithSplit.Prompt

open MonolithSplit.Json MonolithSplit.Model

/-- The type a request gives a field of an entity of snapshot `s`. -/
inductive TypedAs (s : Snapshot) (f : Field) : String → Prop
  /-- A field that is not a lookup has its primitive type. -/
  | primitive : f.dataType ≠ .lookup → TypedAs s f f.dataType.primitive.name
  /-- A lookup of an entity's id has the name of the last entity with that id. -/
  | related {id name : String} : f.dataType = .lookup →
      Value.lookup relatedEntityKey f.properties = some (.string id) → s.LastWithId id name →
      TypedAs s f name
  /-- A lookup that names no entity's id by a string is an enum. -/
  | dangling : f.dataType = .lookup →
      (∀ id, Value.lookup relatedEntityKey f.properties = some (.string id) →
        ∀ e ∈ s.entities, e.id ≠ id) →
      TypedAs s f "enum"

/-! ## The index of names by id -/

section Index

variable {s : Snapshot} {id name : String}

/-- The index names an id by the last entity with that id. -/
theorem entityNameById_eq_some_iff :
    entityNameById s id = some name ↔ s.LastWithId id name := by
  unfold entityNameById Snapshot.LastWithId
  simp only [Option.map_eq_some_iff, Snapshot.find?_reverse_eq_some_iff, beq_iff_eq,
    beq_eq_false_iff_ne]
  constructor
  · rintro ⟨e, ⟨before, after, hents, rfl, hafter⟩, rfl⟩
    exact ⟨before, e, after, hents, rfl, rfl, hafter⟩
  · rintro ⟨before, e, after, hents, rfl, rfl, hafter⟩
    exact ⟨e, ⟨before, after, hents, rfl, hafter⟩, rfl⟩

theorem entityNameById_eq_none_iff :
    entityNameById s id = none ↔ ∀ e ∈ s.entities, e.id ≠ id := by
  simp [entityNameById, List.find?_eq_none]

/-- The last entity with an id is named one way. -/
theorem Snapshot.LastWithId.unique {name' : String} (h : s.LastWithId id name)
    (h' : s.LastWithId id name') : name = name' := by
  rw [← entityNameById_eq_some_iff] at h h'
  exact Option.some.inj (h.symm.trans h')

theorem Snapshot.LastWithId.mem (h : s.LastWithId id name) :
    ∃ e ∈ s.entities, e.id = id ∧ e.name = name := by
  obtain ⟨before, e, after, hents, hid, hname, -⟩ := h
  exact ⟨e, by simp [hents], hid, hname⟩

end Index

/-! ## The type rule -/

section Rule

variable {s : Snapshot} {f : Field}

theorem relatedEntityId_eq_some_iff {id : String} :
    f.relatedEntityId = some id ↔
      Value.lookup relatedEntityKey f.properties = some (.string id) := by
  unfold Field.relatedEntityId
  cases Value.lookup relatedEntityKey f.properties with
  | none => simp
  | some v => cases v <;> simp [Value.string?]

/-- A request types every field by the rule. -/
theorem typedAs_fieldType (s : Snapshot) (f : Field) : TypedAs s f (fieldType s f) := by
  unfold fieldType
  by_cases hlookup : f.dataType = .lookup
  · rw [if_pos hlookup]
    cases htarget : f.relatedEntityId.bind (entityNameById s) with
    | some name =>
        obtain ⟨id, hid, hname⟩ := Option.bind_eq_some_iff.mp htarget
        exact .related hlookup (relatedEntityId_eq_some_iff.mp hid)
          (entityNameById_eq_some_iff.mp hname)
    | none =>
        -- the lookup names no entity: it falls back to the lookup's primitive type, an enum
        have henum : f.dataType.primitive.name = "enum" := by rw [hlookup]; rfl
        rw [henum]
        refine .dangling hlookup fun id hid => ?_
        have hrel := relatedEntityId_eq_some_iff.mpr hid
        rw [hrel, Option.bind_some] at htarget
        exact entityNameById_eq_none_iff.mp htarget
  · rw [if_neg hlookup]
    exact .primitive hlookup

/-- The rule gives a field one type. -/
theorem TypedAs.unique {t t' : String} (h : TypedAs s f t) (h' : TypedAs s f t') : t = t' := by
  cases h with
  | primitive hne =>
      cases h' with
      | primitive => rfl
      | related hl => exact absurd hl hne
      | dangling hl => exact absurd hl hne
  | related hl hid hlast =>
      cases h' with
      | primitive hne => exact absurd hl hne
      | related _ hid' hlast' =>
          rw [hid'] at hid
          cases hid
          exact Snapshot.LastWithId.unique hlast hlast'
      | dangling _ hnone =>
          obtain ⟨e, he, heid, -⟩ := Snapshot.LastWithId.mem hlast
          exact absurd heid (hnone _ hid e he)
  | dangling hl hnone =>
      cases h' with
      | primitive hne => exact absurd hl hne
      | related _ hid hlast =>
          obtain ⟨e, he, heid, -⟩ := Snapshot.LastWithId.mem hlast
          exact absurd heid (hnone _ hid e he)
      | dangling => rfl

theorem fieldType_eq_iff {t : String} : fieldType s f = t ↔ TypedAs s f t :=
  ⟨fun h => h ▸ typedAs_fieldType s f, (typedAs_fieldType s f).unique⟩

/-- Every type a request sends is a primitive type or the name of an entity of the snapshot. -/
theorem fieldType_vocabulary (s : Snapshot) (f : Field) :
    (∃ p : Primitive, fieldType s f = p.name) ∨ ∃ e ∈ s.entities, fieldType s f = e.name := by
  have htyped := typedAs_fieldType s f
  generalize fieldType s f = t at htyped ⊢
  cases htyped with
  | primitive => exact .inl ⟨_, rfl⟩
  | related _ _ hlast =>
      obtain ⟨e, he, -, hname⟩ := Snapshot.LastWithId.mem hlast
      exact .inr ⟨e, he, hname.symm⟩
  | dangling => exact .inl ⟨.enum, rfl⟩

end Rule

/-- An id that only entities soft-deleted in a resource have is the id of no entity of its
snapshot. -/
theorem Resource.snapshot_id_ne_of_deleted {r : Resource} {id : String}
    (hdel : ∀ e ∈ r.entities, e.id = id → e.isDeleted = true) :
    ∀ e ∈ r.snapshot.entities, e.id ≠ id := by
  intro e he hid
  simp only [Resource.snapshot, Resource.liveEntities, List.mem_map, List.mem_filter,
    Bool.not_eq_true'] at he
  obtain ⟨e₀, ⟨he₀, hlive⟩, rfl⟩ := he
  have := hdel e₀ he₀ hid
  simp_all

/-! ## The request -/

/-- A request about a snapshot describes each entity in order by its name, and each of its fields
in order by its name and the type the rule gives it: its primitive type, the name of the last
entity with the id a lookup names, or an enum for any other lookup. The rule gives each field one
type, every type sent is a primitive type or an entity's name, and a lookup whose id is only that
of entities soft-deleted in the resource is sent as an enum. -/
theorem payload_field_types (s : Snapshot) :
    List.Forall₂ (fun m e => m.name = e.name ∧
        List.Forall₂ (fun pf f => pf.name = f.name ∧ pf.dataType = fieldType s f) m.fields
          e.fields)
      (payload s) s.entities ∧
      (∀ f t, fieldType s f = t ↔ TypedAs s f t) ∧
      (∀ m ∈ payload s, ∀ pf ∈ m.fields,
        (∃ p : Primitive, pf.dataType = p.name) ∨ ∃ e ∈ s.entities, pf.dataType = e.name) ∧
      ∀ (r : Resource) (f : Field) (id : String), f.dataType = .lookup →
        Value.lookup relatedEntityKey f.properties = some (.string id) →
        (∀ e ∈ r.entities, e.id = id → e.isDeleted = true) → fieldType r.snapshot f = "enum" := by
  refine ⟨?_, fun f t => fieldType_eq_iff, ?_, ?_⟩
  · simp [payload, List.forall₂_map_left_iff, List.forall₂_same]
  · intro m hm pf hpf
    simp only [payload, List.mem_map] at hm
    obtain ⟨e, -, rfl⟩ := hm
    simp only [List.mem_map] at hpf
    obtain ⟨f, -, rfl⟩ := hpf
    exact fieldType_vocabulary s f
  · intro r f id hlookup hid hdel
    refine fieldType_eq_iff.mpr (.dangling hlookup fun id' hid' => ?_)
    -- the property names one id, and no live entity has it
    rw [hid] at hid'
    cases hid'
    exact Resource.snapshot_id_ne_of_deleted hdel

end MonolithSplit.Prompt

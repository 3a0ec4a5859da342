import MonolithSplit.Model.DataType
import MonolithSplit.Schema.FromText
import MonolithSplit.Schema.FromValue

/-!
# Resources and their data models

A resource is a service with a data model: entities, each with numbered versions of its field
list. An entity whose deletion time is set, to any text, is soft-deleted; version `0` is the
baseline. Each type has its shape (how it is read from JSON, with defaults for the fields that
may be left out) and its JSON form (fields in declaration order, absent options left out).

The caller of a redesign is a user: an id and, optionally, the workspace it works in.
-/

namespace MonolithSplit.Model

open MonolithSplit.Json MonolithSplit.Schema

/-- The project a resource belongs to. -/
structure Project where
  id : String
  name : String
  deriving Repr

/-- One field of an entity. `properties` holds free-form settings, sorted by key. -/
structure Field where
  name : String
  displayName : String
  dataType : DataType
  properties : List (String × Value)
  deriving Repr

/-- A numbered version of an entity's field list. -/
structure Version where
  number : Nat
  fields : List Field
  deriving Repr

/-- An entity of a data model. -/
structure Entity where
  id : String
  name : String
  displayName : String
  deletedAt : Option String
  versions : List Version
  deriving Repr

/-- A resource: a service and its data model. -/
structure Resource where
  id : String
  name : String
  project : Option Project
  entities : List Entity
  deriving Repr

/-- The key of a lookup field's property naming the entity it refers to. -/
def relatedEntityKey : String := "relatedEntityId"

namespace Project

/-- How a project is read. -/
def shape : Shape :=
  .record "Project" [required "id" .text, defaulted "name" .text (.string "")]

/-- A project from its normalised value. -/
def ofDecoded (j : Value) : Project :=
  ⟨(j.slot 0).asText, (j.slot 1).asText⟩

/-- The JSON form of a project. -/
def toJson (p : Project) : Value :=
  .object [("id", .string p.id), ("name", .string p.name)]

end Project

namespace Field

/-- How a field is read. -/
def shape : Shape :=
  .record "EntityField"
    [required "name" .text, defaulted "displayName" .text (.string ""),
      required "dataType" DataType.shape, defaulted "properties" (.dictionary .any) (.object [])]

/-- A field from its normalised value. -/
def ofDecoded (j : Value) : Field :=
  ⟨(j.slot 0).asText, (j.slot 1).asText, DataType.ofDecoded (j.slot 2), (j.slot 3).asEntries⟩

/-- The JSON form of a field. -/
def toJson (f : Field) : Value :=
  .object [("name", .string f.name), ("displayName", .string f.displayName),
    ("dataType", f.dataType.toJson), ("properties", .object f.properties)]

/-- The id of the entity a lookup field refers to, when its property holds a string. -/
def relatedEntityId (f : Field) : Option String :=
  (Value.lookup relatedEntityKey f.properties).bind Value.string?

end Field

namespace Version

/-- How a version is read. -/
def shape : Shape :=
  .record "EntityVersion"
    [required "versionNumber" .count32, defaulted "fields" (.list Field.shape) (.array [])]

/-- A version from its normalised value. -/
def ofDecoded (j : Value) : Version :=
  ⟨(j.slot 0).asCount, (j.slot 1).asItems.map Field.ofDecoded⟩

/-- The JSON form of a version. -/
def toJson (v : Version) : Value :=
  .object [("versionNumber", .ofNat v.number), ("fields", .array (v.fields.map Field.toJson))]

end Version

namespace Entity

/-- How an entity is read. -/
def shape : Shape :=
  .record "Entity"
    [required "id" .text, required "name" .text, defaulted "displayName" .text (.string ""),
      defaulted "deletedAt" (.optional .text) .null,
      defaulted "versions" (.list Version.shape) (.array [])]

/-- An entity from its normalised value. -/
def ofDecoded (j : Value) : Entity :=
  ⟨(j.slot 0).asText, (j.slot 1).asText, (j.slot 2).asText,
    (j.slot 3).asOption.map Value.asText, (j.slot 4).asItems.map Version.ofDecoded⟩

/-- The JSON form of an entity; a live entity has no deletion time written. -/
def toJson (e : Entity) : Value :=
  .object (Value.presentMembers
    [("id", some (.string e.id)), ("name", some (.string e.name)),
      ("displayName", some (.string e.displayName)), ("deletedAt", e.deletedAt.map .string),
      ("versions", some (.array (e.versions.map Version.toJson)))])

/-- Whether the entity is soft-deleted. -/
def isDeleted (e : Entity) : Bool := e.deletedAt.isSome

/-- The baseline version: the first one numbered `0`. -/
def baseline (e : Entity) : Option Version :=
  e.versions.find? (·.number == 0)

end Entity

namespace Resource

/-- How a resource is read. -/
def shape : Shape :=
  .record "Resource"
    [required "id" .text, required "name" .text,
      defaulted "project" (.optional Project.shape) .null,
      defaulted "entities" (.list Entity.shape) (.array [])]

/-- A resource from its normalised value. -/
def ofDecoded (j : Value) : Resource :=
  ⟨(j.slot 0).asText, (j.slot 1).asText, (j.slot 2).asOption.map Project.ofDecoded,
    (j.slot 3).asItems.map Entity.ofDecoded⟩

/-- The JSON form of a resource; an absent project is left out. -/
def toJson (r : Resource) : Value :=
  .object (Value.presentMembers
    [("id", some (.string r.id)), ("name", some (.string r.name)),
      ("project", r.project.map Project.toJson),
      ("entities", some (.array (r.entities.map Entity.toJson)))])

/-- Reads a resource from JSON text. -/
def readText (text : String) : Except DecodeError Resource :=
  (shape.readText text).map ofDecoded

/-- Reads a resource from a parsed value. -/
def decode (j : Value) : Except DecodeError Resource :=
  (shape.decode j).map ofDecoded

/-- The entities that are not soft-deleted. -/
def liveEntities (r : Resource) : List Entity :=
  r.entities.filter fun e => !e.isDeleted

end Resource

/-! ## Users -/

/-- A caller, with the id of its workspace if it has one. -/
structure User where
  id : String
  workspace : Option String
  deriving Repr, DecidableEq

namespace User

/-- How a workspace is read. -/
def workspaceShape : Shape :=
  .record "Workspace" [required "id" .text]

/-- How a user is read. -/
def shape : Shape :=
  .record "User" [required "id" .text, defaulted "workspace" (.optional workspaceShape) .null]

/-- A user from its normalised value. -/
def ofDecoded (j : Value) : User :=
  ⟨(j.slot 0).asText, (j.slot 1).asOption.map fun w => (w.slot 0).asText⟩

/-- Reads a user from a parsed value. -/
def decode (j : Value) : Except DecodeError User :=
  (shape.decode j).map ofDecoded

/-- The JSON form of a user; no workspace is left out. -/
def toJson (u : User) : Value :=
  .object (Value.presentMembers
    [("id", some (.string u.id)),
      ("workspace", u.workspace.map fun w => .object [("id", .string w)])])

end User

end MonolithSplit.Model

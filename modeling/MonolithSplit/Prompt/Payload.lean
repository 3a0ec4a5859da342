import MonolithSplit.Model.Snapshot
import MonolithSplit.Json.Write

/-!
# The proposal request

What a generator is asked with: one data model per live entity, in order, each listing its
baseline fields with a type. A field's type is its primitive type, except for a lookup: a
lookup whose related entity id is a string naming an entity of the snapshot is typed by that
entity's name (the last entity with that id), and any other lookup is an `enum`. The user
message is the compact JSON text of this payload, keys in the order `dataModels`, `name`,
`fields`, `name`, `dataType`.
-/

namespace MonolithSplit.Prompt

open MonolithSplit.Json MonolithSplit.Model

/-- A field as the request describes it. -/
structure PromptField where
  name : String
  dataType : String
  deriving Repr, DecidableEq

/-- A data model as the request describes it. -/
structure PromptModel where
  name : String
  fields : List PromptField
  deriving Repr, DecidableEq

/-- The name of the last entity of the snapshot with the given id. -/
def entityNameById (s : Snapshot) (id : String) : Option String :=
  (s.entities.reverse.find? (·.id == id)).map LiveEntity.name

/-- The type a field is described by in a request about snapshot `s`. -/
def fieldType (s : Snapshot) (f : Field) : String :=
  if f.dataType = .lookup then
    match f.relatedEntityId.bind (entityNameById s) with
    | some target => target
    | none => f.dataType.primitive.name
  else f.dataType.primitive.name

/-- The data models of a request about snapshot `s`. -/
def payload (s : Snapshot) : List PromptModel :=
  s.entities.map fun e => ⟨e.name, e.fields.map fun f => ⟨f.name, fieldType s f⟩⟩

/-- The JSON form of a described field. -/
def PromptField.toJson (f : PromptField) : Value :=
  .object [("name", .string f.name), ("dataType", .string f.dataType)]

/-- The JSON form of a described data model. -/
def PromptModel.toJson (m : PromptModel) : Value :=
  .object [("name", .string m.name), ("fields", .array (m.fields.map PromptField.toJson))]

/-- The JSON form of a request payload. -/
def payloadJson (models : List PromptModel) : Value :=
  .object [("dataModels", .array (models.map PromptModel.toJson))]

/-- The user message of a request about snapshot `s`. -/
def userMessage (s : Snapshot) : String :=
  (payloadJson (payload s)).compact

end MonolithSplit.Prompt

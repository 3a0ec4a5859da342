import MonolithSplit.Server.Catalogue
import MonolithSplit.Redesign
import MonolithSplit.Json.Write

/-!
# Calling the server's tools

Each tool decodes its arguments, runs one step of the redesign flow and answers with text:
pretty JSON (keys in the order of the value's fields) on success, or a message marked as an
error. Arguments that cannot be decoded, and a tool that does not exist, are errors of the
protocol instead.

Collecting a completed job also reports the completion, with the number of microservices;
that report never fails the call.
-/

namespace MonolithSplit.Server

open MonolithSplit.Json MonolithSplit.Schema MonolithSplit.Model MonolithSplit.Store
open MonolithSplit.Jobs MonolithSplit.Analytics

/-- A tool's answer: one text, and whether it reports an error. -/
structure ToolText where
  text : String
  isError : Bool
  deriving Repr

/-- The JSON form of a tool's answer. -/
def ToolText.toJson (t : ToolText) : Value :=
  .object [("content", .array [.object [("type", .string "text"), ("text", .string t.text)]]),
    ("isError", .bool t.isError)]

/-- An error of the protocol: a code and a message. -/
structure RpcError where
  code : Int
  message : String
  deriving Repr, DecidableEq

/-- The JSON form of a protocol error. -/
def RpcError.toJson (e : RpcError) : Value :=
  .object [("code", .number (.signed e.code)), ("message", .string e.message)]

/-- Arguments that do not fit the tool. -/
def invalidParams (message : String) : RpcError := ⟨-32602, message⟩

/-- A method the server does not have; the message is the method's name. -/
def methodNotFound (method : String) : RpcError := ⟨-32601, method⟩

/-- A successful answer: the value as pretty JSON. -/
def jsonText (j : Value) : ToolText := ⟨j.prettyText, false⟩

/-- A failed step: what was being done, why it failed, and for a generated text that could not
be read, the text itself. -/
def failureText (doing : String) (e : RedesignError) : ToolText :=
  let raw := match e with
    | .badFormat raw _ => "\n\nRaw output:\n" ++ raw
    | _ => ""
  ⟨doing ++ ": " ++ e.message ++ raw, true⟩

/-- Decodes a tool's arguments. -/
def decodeArguments (shape : Shape) (arguments : Value) : Except RpcError Value :=
  (shape.decode arguments).mapError fun e =>
    invalidParams ("failed to deserialize parameters: " ++ e.message)

/-- The arguments naming a resource. -/
def resourceRequest : Shape := .record "ResourceRequest" [required "resource_id" .text]

/-- The arguments carrying a resource to import. -/
def importRequest : Shape := .record "ImportResourceRequest" [required "resource" Resource.shape]

/-- The arguments naming a job. -/
def finalizeRequest : Shape := .record "FinalizeRequest" [required "job_id" .text]

/-- What a tool call gives: the answer or a protocol error, the state after it, and the
events the sink recorded. -/
structure Called where
  reply : Except RpcError ToolText
  state : Redesign
  recorded : List TrackEvent

/-- Lists the stored resources. -/
def listResources (r : Redesign) : ToolText :=
  match r.store.list with
  | .ok [] => ⟨"No resources found. Use import_resource to add one.", false⟩
  | .ok summaries => jsonText (.array (summaries.map Summary.toJson))
  | .error e => ⟨e.message, true⟩

/-- Stores a resource; the count names every entity, deleted ones included. -/
def importResource (r : Redesign) (res : Resource) : ToolText × Redesign :=
  match r.store.write res with
  | (store, none) =>
    (⟨"Imported resource '" ++ res.id ++ "' with " ++ toString res.entities.length ++
      " entities.", false⟩, { r with store })
  | (store, some e) =>
    (⟨"Failed to import resource '" ++ res.id ++ "': " ++ e.message, true⟩, { r with store })

/-- Reports a completed decomposition of a resource, when the resource can still be read. -/
def reportCompletion (r : Redesign) (user : User) (resourceId : String) (services : Nat) :
    List TrackEvent :=
  match r.snapshot resourceId with
  | .ok s => (r.report user s .completed [("microservicesCount", .ofNat services)]).recorded
  | .error _ => []

/-- Calls a tool by name with its arguments. -/
def callTool (r : Redesign) (user : User) (generator : Generator) (hold : Bool) (name : String)
    (arguments : Value) : Called :=
  match Tool.ofName? name with
  | none => ⟨.error (invalidParams "tool not found"), r, []⟩
  | some .listResources => ⟨.ok (listResources r), r, []⟩
  | some .importResource =>
    match decodeArguments importRequest arguments with
    | .error e => ⟨.error e, r, []⟩
    | .ok j =>
      let (text, r) := importResource r (Resource.ofDecoded (j.slot 0))
      ⟨.ok text, r, []⟩
  | some .startRedesign =>
    match decodeArguments resourceRequest arguments with
    | .error e => ⟨.error e, r, []⟩
    | .ok j =>
      let id := (j.slot 0).asText
      let step := r.start user id
      match step.result with
      | .ok s => ⟨.ok (jsonText s.toJson), step.state, step.recorded⟩
      | .error e =>
        ⟨.ok (failureText ("Failed to start redesign of '" ++ id ++ "'") e), step.state,
          step.recorded⟩
  | some .triggerBreakTheMonolith =>
    match decodeArguments resourceRequest arguments with
    | .error e => ⟨.error e, r, []⟩
    | .ok j =>
      let id := (j.slot 0).asText
      let step := r.trigger generator user id hold
      match step.result with
      | .ok (handle, _) => ⟨.ok (jsonText handle.toJson), step.state, step.recorded⟩
      | .error e =>
        ⟨.ok (failureText ("Failed to trigger break-the-monolith for '" ++ id ++ "'") e),
          step.state, step.recorded⟩
  | some .finalizeBreakTheMonolith =>
    match decodeArguments finalizeRequest arguments with
    | .error e => ⟨.error e, r, []⟩
    | .ok j =>
      let id := (j.slot 0).asText
      match r.finalize id with
      | .error e => ⟨.ok (failureText ("Failed to finalize job '" ++ id ++ "'") e), r, []⟩
      | .ok c =>
        let recorded := match c.status, c.data with
          | .completed, some p => reportCompletion r user c.originalResourceId p.services.length
          | _, _ => []
        ⟨.ok (jsonText c.toJson), r, recorded⟩

end MonolithSplit.Server

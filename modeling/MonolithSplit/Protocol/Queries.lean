import MonolithSplit.Protocol.Answer
import MonolithSplit.Proposal.Reconcile
import MonolithSplit.Prompt.Payload
import MonolithSplit.Prompt.Guidelines
import MonolithSplit.Analytics.Emitter

/-!
# Requests that need no state

Each request here is answered from its own members alone: reading a recommendation, taking a
snapshot, building a proposal request, the data type vocabulary, the system prompt, finding
duplicated names, reconciling, checking AI settings, reading a settings file and looking up a
plan.
-/

namespace MonolithSplit.Protocol

open MonolithSplit.Json MonolithSplit.Model MonolithSplit.Proposal MonolithSplit.Prompt
open MonolithSplit.Analytics

/-- The message of a recommendation that cannot be read. -/
def badFormatMessage (e : DecodeError) : String :=
  "generated recommendation has a bad format: " ++ e.message

/-- The answer to a recommendation that cannot be read: the message and the raw text. -/
def badFormatAnswer (raw : String) (e : DecodeError) : Answer :=
  .error "BadFormat" (badFormatMessage e) [("raw", .string raw)]

/-- Reads a generator's text. -/
def answerParse (req : Value) : Answering Value := do
  let raw ← textMember req "raw"
  match Recommendation.read raw with
  | .ok r => .ok r.toJson
  | .error e => .error (badFormatAnswer raw e)

/-- The resource member of a request. -/
def resourceMember (req : Value) : Answering Resource := do
  decodeAs "InvalidResource" Resource.decode (← member req "resource")

/-- Takes the snapshot of a resource. -/
def answerProject (req : Value) : Answering Value := do
  let r ← resourceMember req
  .ok r.snapshot.toJson

/-- Builds the proposal request for a resource. -/
def answerPrompt (req : Value) : Answering Value := do
  let s := (← resourceMember req).snapshot
  .ok (.object [("payload", payloadJson (payload s)), ("userMessage", .string (userMessage s))])

/-- The primitive type of a data type. -/
def answerPrimitive (req : Value) : Answering Value := do
  let t ← decodeAs "InvalidDataType" (fun j => (DataType.shape.decode j).map DataType.ofDecoded)
    (← member req "dataType")
  .ok (.string t.primitive.name)

/-- Every data type name, in order. -/
def answerDataTypes : Value :=
  .array (DataType.all.map DataType.toJson)

/-- The conversation key of a break-the-monolith request. -/
def conversationKey : String := "BreakTheMonolith"

/-- The system prompt and the guidelines. -/
def answerSystemPrompt : Value :=
  .object [("systemPrompt", .string systemPrompt), ("conversationSystemPrompt", .string systemPrompt),
    ("conversationKey", .string conversationKey), ("guidelines", .string guidelines)]

/-- The list-of-strings member of a request. -/
def textsMember (req : Value) (key : String) : Answering (List String) := do
  let v ← member req key
  match Schema.Shape.decode (.list .text) v with
  | .ok j => .ok (j.asItems.map Value.asText)
  | .error e => .error (InputError.answer ⟨e.message⟩)

/-- The names occurring more than once. -/
def answerDuplicates (req : Value) : Answering Value := do
  let names ← textsMember req "names"
  .ok (.array ((duplicatedNames names).map .string))

/-- Reconciles a recommendation with a resource's snapshot. -/
def answerReconcile (req : Value) : Answering Value := do
  let r ← decodeAs "InvalidOutput" Recommendation.decode (← member req "output")
  let res ← resourceMember req
  .ok (reconcile r res.snapshot).toJson

/-- Whether AI settings allow generation. -/
def answerAiConfigured (req : Value) : Answering Value := do
  let ai ← decodeAs "InvalidAiSettings" AiSettings.decode (← member req "ai")
  .ok (.bool ai.configured)

/-- The answer to a settings error. -/
def settingsErrorAnswer : SettingsError → Answer
  | .io reason => .failure "Settings.Io" (SettingsError.io reason).message
  | .serialization e => .failure "Settings.Serialization" (SettingsError.serialization e).message

/-- Reads a settings file: the settings, whether AI is configured, and the user. The file's
text is a string, or `null` or absent when there is no file. -/
def answerReadSettings (req : Value) : Answering Value := do
  let text ← match optionalMember req "text" with
    | none => pure none
    | some (.string t) => pure (some t)
    | some _ => throw (InputError.answer ⟨"text must be a string or null"⟩)
  let file : SettingsFile :=
    if flagMember req "asDirectory" then .directory
    else match text with
      | some t => .text t
      | none => .absent
  match file.read with
  | .ok s =>
    .ok (.object [("settings", s.toJson), ("aiConfigured", .bool s.ai.configured),
      ("user", s.user.toUser.toJson), ("workspaceId", Value.ofOption s.user.workspaceId)])
  | .error e => .error (settingsErrorAnswer e)

/-- The billing a request describes: failing when it says billing is down, else the
configured plans. A `null` billing member is decoded, and refused. -/
def billingMember (req : Value) : Answering Billing := do
  match optionalMember req "billingDown" with
  | some (.string reason) => .ok (.unavailable reason)
  | _ =>
    match req.field? "billing" with
    | none => .ok (.configured BillingSettings.default)
    | some v => (decodeAs "InvalidBilling" BillingSettings.decode v).map .configured

/-- The plan of a workspace. -/
def answerSubscription (req : Value) : Answering Value := do
  let billing ← billingMember req
  let workspace ← optionalText req "workspaceId"
  match billing.plan workspace with
  | .ok plan => .ok (.string plan)
  | .error message => .error (.failure "Billing" message)

end MonolithSplit.Protocol

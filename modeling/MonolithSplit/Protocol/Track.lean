import MonolithSplit.Protocol.Setup

/-!
# Reporting one event

A `track` request reports one event about a resource it describes, with the emitter it sets
up, and answers the events the recording sink kept. A failure the strict policy passes on is
an `Analytics` error that still lists the kept events. When the loopback server was used, the
answer lists the requests it received, and it receives none.
-/

namespace MonolithSplit.Protocol

open MonolithSplit.Json MonolithSplit.Analytics

/-- The resource a `track` request reports about. A context that is not an object is read as
an empty one. -/
def subjectMember (req : Value) : Answering Subject := do
  let context ← member req "context"
  let projectId ← optionalText context "projectId"
  let resourceId ← textMember context "resourceId"
  let resourceName ← textMember context "resourceName"
  return ⟨projectId, resourceId, resourceName⟩

/-- The kind of event a `track` request reports. -/
def eventMember (req : Value) : Answering EventKind := do
  let name ← textMember req "event"
  match EventKind.ofName? name with
  | some kind => return kind
  | none => throw (InputError.answer ⟨"unknown event type '" ++ name ++ "'"⟩)

/-- The extra properties of a `track` request. -/
def extraMember (req : Value) : Answering (List (String × Value)) :=
  match optionalMember req "extra" with
  | none => .ok []
  | some (.object ms) => .ok ms
  | some _ => .error (InputError.answer ⟨"extra must be an object"⟩)

/-- Reports one event; `fresh` holds the loopback server's port. -/
def answerTrack (req : Value) (fresh : Fresh) : Answering Value := do
  let (user, emitter, loopback) ← emitterMembers req (loopbackEndpoint fresh.port)
  let subject ← subjectMember req
  let kind ← eventMember req
  let extra ← extraMember req
  let report := emitter.track user subject kind extra
  let events : Value := .array (report.recorded.map TrackEvent.toJson)
  let requests : List (String × Value) := if loopback then [("requests", .array [])] else []
  match report.failure with
  | none => return .object ([("events", events)] ++ requests)
  | some reason =>
    throw (.error "Analytics" (RedesignError.analytics reason).message
      ([("events", events)] ++ requests))

end MonolithSplit.Protocol

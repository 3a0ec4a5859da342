import MonolithSplit.Settings
import MonolithSplit.Analytics.Event
import MonolithSplit.Network.Http

/-!
# Reporting events

An emitter looks up the caller's plan, builds the event and hands it to a sink. The plan comes
from the plans configured in the settings, or from a billing service that is unavailable and
says why. A sink records
events, writes them to the log, or posts them to an HTTP endpoint. When reporting fails, the
strict policy makes the failure the caller's, and the best-effort policy drops it.
-/

namespace MonolithSplit.Analytics

open MonolithSplit.Json MonolithSplit.Model MonolithSplit.Network

/-! ## Billing -/

/-- A source of subscription plans. -/
inductive Billing where
  /-- The plans configured in the settings. -/
  | configured (settings : BillingSettings)
  /-- A billing service that cannot be reached. -/
  | unavailable (reason : String)

/-- The wording of a billing failure. -/
def billingFailure (reason : String) : String :=
  "billing unavailable: " ++ reason

/-- The plan of a workspace, or the billing failure. -/
def Billing.plan (b : Billing) (workspace : Option String) : Except String String :=
  match b with
  | .configured s => .ok (s.planFor workspace)
  | .unavailable reason => .error (billingFailure reason)

/-! ## Sinks -/

/-- Where events go. -/
inductive Sink where
  /-- Keeps every event it is given. -/
  | recording
  /-- Writes events to the log, which nobody reads back. -/
  | log
  /-- Posts events to an endpoint, authorised by a write key. -/
  | http (endpoint : String) (writeKey : String)
  deriving Repr, DecidableEq

/-- The sink analytics settings describe: their endpoint, or the log when there is none. -/
def Sink.ofSettings (a : AnalyticsSettings) : Sink :=
  match a.endpoint with
  | some endpoint => .http endpoint a.writeKey
  | none => .log

/-- The wording of a failed post. -/
def postFailure (e : HttpError) : String :=
  "analytics request failed: " ++ e.message

/-- Hands an event to a sink: the events it keeps, or why it could not take the event. -/
def Sink.deliver : Sink → TrackEvent → Except String (List TrackEvent)
  | .recording, e => .ok [e]
  | .log, _ => .ok []
  | .http endpoint _, _ =>
    match send endpoint with
    | .ok () => .ok []
    | .error e => .error (postFailure e)

/-! ## Emitting -/

/-- What reports events: a source of plans, a sink and a policy for failures. -/
structure Emitter where
  billing : Billing
  sink : Sink
  policy : Policy

/-- The outcome of reporting one event: the events the sink kept, and the failure the caller
must see (only under the strict policy). -/
structure Report where
  recorded : List TrackEvent
  failure : Option String
  deriving Repr

/-- Looks up the plan, then delivers the event. -/
def Emitter.attempt (em : Emitter) (user : User) (subject : Subject) (kind : EventKind)
    (extra : List (String × Value)) : Except String (List TrackEvent) := do
  let plan ← em.billing.plan user.workspace
  em.sink.deliver (TrackEvent.build user subject kind plan extra)

/-- Reports an event; a failure reaches the caller only under the strict policy. -/
def Emitter.track (em : Emitter) (user : User) (subject : Subject) (kind : EventKind)
    (extra : List (String × Value)) : Report :=
  match em.attempt user subject kind extra with
  | .ok recorded => ⟨recorded, none⟩
  | .error reason =>
    match em.policy with
    | .strict => ⟨[], some reason⟩
    | .bestEffort => ⟨[], none⟩

end MonolithSplit.Analytics

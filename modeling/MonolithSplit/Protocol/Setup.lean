import MonolithSplit.Protocol.Queries
import MonolithSplit.Redesign

/-!
# Setting up the redesign flow from a request

The members a request uses to set up event reporting (the caller, the billing, the policy and
the sink), the scripted behaviour of the generator, and how errors of the flow are answered.

Events may go to a loopback server standing in for an analytics endpoint. Its port is not
part of any answer: wherever its address appears, the port is written `PORT`. The port and the
first group of job ids are made up for each request, never equal to text the request holds.
-/

namespace MonolithSplit.Protocol

open MonolithSplit.Json MonolithSplit.Model MonolithSplit.Store MonolithSplit.Jobs
open MonolithSplit.Analytics MonolithSplit.Generation

/-- The kind under which a store error is answered. -/
def storeErrorKind : StoreError → String
  | .io _ => "Store.Io"
  | .serialization _ => "Store.Serialization"
  | .invalidId _ => "Store.InvalidId"

/-- The answer to a failed step of the redesign flow. -/
def errorAnswer (e : RedesignError) : Answer :=
  match e with
  | .notFound id => .error "NotFound" e.message [("resourceId", .string id)]
  | .badFormat raw _ => .error "BadFormat" e.message [("raw", .string raw)]
  | .analytics _ => .failure "Analytics" e.message
  | .store s => .failure (storeErrorKind s) e.message
  | .job _ => .failure "Job.NotFound" e.message

/-- The answer to a failed generation. -/
def generationAnswer (e : GenerationError) (extra : List (String × Value)) : Answer :=
  let kind := match e with
    | .unknownProvider _ => "UnknownProvider"
    | .build _ => "Build"
    | .chat _ => "Chat"
    | .emptyResponse _ => "EmptyResponse"
  .error kind e.message extra

/-- What the answer to a request makes up: the port of the loopback analytics server and the
first group of the job ids. Both are drawn at random where the program runs, so a request
never holds them; here each is the first candidate whose text the request line does not hold. -/
structure Fresh where
  port : Nat
  jobGroup : String

/-- Whether `part` occurs in a text. -/
def occursIn (part : List Char) : List Char → Bool
  | [] => part.isEmpty
  | c :: rest => part.isPrefixOf (c :: rest) || occursIn part rest

/-- The first number from `n` on, trying at most `fuel` more, whose text does not occur in
`line`; the last one tried when all of them do. -/
def firstAbsent (line : List Char) (text : Nat → String) : Nat → Nat → Nat
  | 0, n => n
  | fuel + 1, n => if occursIn (text n).toList line then firstAbsent line text fuel (n + 1) else n

/-- The fresh values for a request line: a port from 41873 on (below 61874, so it is a port),
and a first group of job ids from `00000000` on. A line of `n` characters holds at most `n`
groups, so one of the first `n + 1` is free. -/
def Fresh.avoiding (line : String) : Fresh :=
  let cs := line.toList
  ⟨firstAbsent cs toString (min (cs.length + 1) 20000) 41873,
    Jobs.lowerHex 8 (firstAbsent cs (Jobs.lowerHex 8) (cs.length + 1) 0)⟩

/-- The address of the loopback analytics server on a port. -/
def loopbackAuthority (port : Nat) : String := "127.0.0.1:" ++ toString port

/-- The endpoint of the loopback analytics server on a port. -/
def loopbackEndpoint (port : Nat) : String := "http://" ++ loopbackAuthority port ++ "/v1/track"

/-- A text with the loopback server's port written `PORT`. -/
def maskPort (port : Nat) (s : String) : String :=
  s.replace (loopbackAuthority port) "127.0.0.1:PORT"

mutual
/-- A value with the loopback server's port written `PORT` in every string. -/
def Value.maskPorts (port : Nat) : Value → Value
  | .string s => .string (maskPort port s)
  | .array xs => .array (Value.maskPortsItems port xs)
  | .object ms => .object (Value.maskPortsMembers port ms)
  | j => j

/-- Masks the items of an array. -/
def Value.maskPortsItems (port : Nat) : List Value → List Value
  | [] => []
  | x :: xs => Value.maskPorts port x :: Value.maskPortsItems port xs

/-- Masks the values of members. -/
def Value.maskPortsMembers (port : Nat) : List (String × Value) → List (String × Value)
  | [] => []
  | (k, v) :: ms => (k, Value.maskPorts port v) :: Value.maskPortsMembers port ms
end

/-- The caller named by a request, or the fallback when there is no `user` member. A `null`
member is decoded, and refused. -/
def userMember (req : Value) (fallback : User) : Answering User :=
  match req.field? "user" with
  | none => .ok fallback
  | some v => decodeAs "InvalidUser" User.decode v

/-- The policy named by a request; strict when there is no `policy` member. -/
def policyMember (req : Value) : Answering Policy :=
  match req.field? "policy" with
  | none => .ok .strict
  | some v => decodeAs "InvalidPolicy" Policy.decode v

/-- Where the placeholder for the loopback endpoint is written. -/
def loopbackPlaceholder : String := "\x7bLOOPBACK\x7d"

/-- Refuses an endpoint that names a host: only the loopback server is ever sent requests, so
an endpoint given as text may only be one that cannot be sent to. -/
def refuseHost (endpoint : String) : Answering Unit :=
  if Network.namesHost endpoint then
    .error (.failure "DriverRefused" "endpoint would reach the network")
  else .ok ()

/-- The sink a request names, and whether it uses the loopback server. The recording sink is
the default, also when the sink's `kind` is missing or not a string. An endpoint given as text
that names a host is refused. `loopback` is the loopback server's endpoint. -/
def sinkMember (req : Value) (loopback : String) : Answering (Sink × Bool) := do
  match optionalMember req "sink" with
  | none => return (.recording, false)
  | some spec =>
    match spec.field? "kind" with
    | some (.string "record") => return (.recording, false)
    | some (.string "log") => return (.log, false)
    | some (.string "http") =>
      let endpoint ← textMember spec "endpoint"
      refuseHost endpoint
      return (.http endpoint (textMemberOr spec "writeKey" ""), false)
    | some (.string "loopback") =>
      return (.http loopback (textMemberOr spec "writeKey" ""), true)
    | some (.string "settings") =>
      let a ← decodeAs "InvalidAnalyticsSettings" AnalyticsSettings.decode (← member spec "analytics")
      let toLoopback := a.endpoint == some loopbackPlaceholder
      let endpoint := if toLoopback then some loopback else a.endpoint
      if !toLoopback then if let some e := endpoint then refuseHost e
      return (Sink.ofSettings { a with endpoint }, toLoopback)
    | some (.string other) => throw (InputError.answer ⟨"unknown sink kind '" ++ other ++ "'"⟩)
    | _ => return (.recording, false)

/-- The emitter a request sets up, and whether it uses the loopback server. The members are
read in the order billing, sink, policy, caller. `loopback` is the loopback server's endpoint. -/
def emitterMembers (req : Value) (loopback : String) : Answering (User × Emitter × Bool) := do
  let billing ← billingMember req
  let (sink, toLoopback) ← sinkMember req loopback
  let policy ← policyMember req
  let user ← userMember req ⟨"u1", none⟩
  return (user, ⟨billing, sink, policy⟩, toLoopback)

/-- The refusal of a scripted reply that says nothing usable. -/
def replyRefusal : Answer :=
  InputError.answer ⟨"reply must have text, error or panic"⟩

/-- What the generator does, as a step scripts it (by default, answer the empty text). A reply
with a `text` member answers it, and the text must be a string; otherwise a string `panic`
crashes the generator; otherwise a string `error` names the failure, with its `message` when
that is a string. Any other reply is refused. -/
def attemptMember (step : Value) : Answering Attempt :=
  match step.field? "reply" with
  | none => .ok (.answers "")
  | some reply =>
    match reply.field? "text" with
    | some (.string t) => .ok (.answers t)
    | some _ => .error (InputError.answer ⟨"reply.text must be a string"⟩)
    | none =>
      match reply.field? "panic" with
      | some (.string m) => .ok (.crashes m)
      | _ =>
        match reply.field? "error" with
        | some (.string kind) =>
          let message := textMemberOr reply "message" ""
          match kind with
          | "Chat" => .ok (.fails (.chat message))
          | "Build" => .ok (.fails (.build message))
          | "UnknownProvider" => .ok (.fails (.unknownProvider message))
          | "EmptyText" => .ok (.fails (.emptyResponse "empty text"))
          | "NoText" => .ok (.fails (.emptyResponse "no text"))
          | other => .error (InputError.answer ⟨"unknown generation error '" ++ other ++ "'"⟩)
        | _ => .error replyRefusal

end MonolithSplit.Protocol

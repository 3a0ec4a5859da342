import MonolithSplit.Protocol.Setup
import MonolithSplit.Protocol.Aliases
import MonolithSplit.Server.Rpc

/-!
# Sessions

A session runs steps, in order, against one redesign flow: an empty resource store, an empty
job store driven by a scripted generator, and the emitter the request sets up. Each step is
answered on its own, with the events the recording sink kept during it.

Jobs are named by aliases. A job not held has finished by the next step; a held job stays
running until a `release` step lets it finish.

Each step that can start a job tells the scripted generator how the job's attempt goes. A
request the server never answers, because its connection closed, leaves its script waiting:
the next job takes the first waiting script instead of its own step's, and every step that can
start a job clears what waits once it is answered.
-/

namespace MonolithSplit.Protocol

open MonolithSplit.Json MonolithSplit.Model MonolithSplit.Store MonolithSplit.Jobs
open MonolithSplit.Analytics MonolithSplit.Generation MonolithSplit.Proposal
open MonolithSplit.Prompt MonolithSplit.Server

/-- What the scripted generator is told for a job: how its attempt goes, and whether it waits
for a release. -/
structure Script where
  attempt : Attempt
  hold : Bool

/-- A session: the flow's state, the caller, the aliases given to jobs, whether the server has
closed its connection, and the scripts that wait for the next job, first to be taken first. -/
structure Session where
  redesign : Redesign
  user : User
  aliases : Aliases
  serverClosed : Bool
  waiting : List Script

/-- A step's answer, the session after it, and the events the sink recorded. -/
structure StepOutcome where
  answer : Answer
  session : Session
  recorded : List TrackEvent

/-- The JSON form of a step's answer, with the recorded events when there are some. -/
def StepOutcome.toJson (o : StepOutcome) : Value :=
  let base := o.answer.toJson
  match o.recorded, base with
  | [], _ => base
  | events, .object ms => .object (ms ++ [("events", .array (events.map TrackEvent.toJson))])
  | _, other => other

/-- A step that only reads: its answer, the session unchanged. -/
def Session.reply (s : Session) (a : Answering Value) : StepOutcome :=
  match a with
  | .ok v => ⟨.ok v, s, []⟩
  | .error e => ⟨e, s, []⟩

/-- The answer to a result of the flow. -/
def flowAnswer {α : Type} (toJson : α → Value) : Except RedesignError α → Answering Value
  | .ok a => .ok (toJson a)
  | .error e => .error (errorAnswer e)

/-- The answer to a store result. -/
def storeAnswer {α : Type} (toJson : α → Value) : Except StoreError α → Answering Value
  | .ok a => .ok (toJson a)
  | .error e => .error (errorAnswer (.store e))

/-- Whether a name may be given to a planted file: not `.` or `..`, and no slash. -/
def isPlainFileName (name : String) : Bool :=
  name != "." && name != ".." && !name.any (· == '/')

/-- The job a step names, through its alias. -/
def Session.jobMember (s : Session) (step : Value) : Answering String :=
  (textMember step "job").map s.aliases.resolve

/-- The answer to a submitted job: its handle under its alias, and the input it was given. -/
def Session.handed (s : Session) (handle : Handle) (input : Option String) : Session × Value :=
  let (aliases, label) := s.aliases.name handle.id
  ({ s with aliases }, .object [("handle", { handle with id := label }.toJson),
    ("userInput", Value.ofOption input)])

/-- Imports a resource. -/
def Session.importStep (s : Session) (step : Value) : Answering StepOutcome := do
  let res ← resourceMember step
  let (store, failure) := s.redesign.store.write res
  let s := { s with redesign := { s.redesign with store } }
  match failure with
  | none =>
    return ⟨.ok (.object [("imported", .string res.id), ("entities", .ofNat res.entities.length)]),
      s, []⟩
  | some e => return s.reply (.error (errorAnswer (.store e)))

/-- Plants a file or a directory in the store; a name the file system refuses, a file where a
directory stands, or a directory where a file stands, is refused with the system's wording,
with the store's directory made all the same. -/
def Session.plantStep (s : Session) (step : Value) : Answering StepOutcome := do
  let name ← textMember step "file"
  if !isPlainFileName name then throw (InputError.answer ⟨"bad file name"⟩)
  let store := s.redesign.store
  let (store, failure) ← if flagMember step "directory" then pure (store.plantDirectory name)
    else (textMember step "content").map (store.plantFile name)
  let s := { s with redesign := { s.redesign with store } }
  match failure with
  | none => return ⟨.ok .null, s, []⟩
  | some reason => return s.reply (.error (InputError.answer ⟨reason⟩))

/-- The script a step gives: its reply, and whether it holds its job. -/
def scriptMember (step : Value) : Answering Script := do
  let attempt ← attemptMember step
  return ⟨attempt, flagMember step "hold"⟩

/-- The script the next job runs by: the first waiting one, or else the step's own. -/
def Session.scriptFor (s : Session) (own : Script) : Script :=
  s.waiting.head?.getD own

/-- Triggers a decomposition. -/
def Session.triggerStep (s : Session) (step : Value) : Answering StepOutcome := do
  let id ← textMember step "resourceId"
  let script := s.scriptFor (← scriptMember step)
  let stepped := s.redesign.trigger (fun _ _ => script.attempt) s.user id script.hold
  let s := { s with redesign := stepped.state, waiting := [] }
  match stepped.result with
  | .ok (handle, input) =>
    let (s, v) := s.handed handle (some input)
    return ⟨.ok v, s, stepped.recorded⟩
  | .error e => return ⟨errorAnswer e, s, stepped.recorded⟩

/-- The parameters a step submits; none when the member is absent. A `null` member is decoded,
and refused. -/
def paramsMember (step : Value) : Answering (List Param) :=
  match step.field? "params" with
  | none => .ok []
  | some v =>
    decodeAs "InvalidParams"
      (fun j => (Schema.Shape.decode (.list Param.shape) j).map fun d => d.asItems.map Param.ofDecoded) v

/-- Submits a job directly to the job store. -/
def Session.submitStep (s : Session) (step : Value) : Answering StepOutcome := do
  let params ← paramsMember step
  let userId := textMemberOr step "userId" "u1"
  let resourceId := textMemberOr step "resourceId" ""
  let script := s.scriptFor (← scriptMember step)
  let (jobs, handle, input) := s.redesign.jobs.submit (fun _ _ => script.attempt) systemPrompt
    params userId resourceId script.hold
  let s := { s with redesign := { s.redesign with jobs }, waiting := [] }
  let (s, v) := s.handed handle input
  return ⟨.ok v, s, []⟩

/-- Lets a held job finish. -/
def Session.releaseStep (s : Session) (step : Value) : Answering StepOutcome := do
  let label ← textMember step "job"
  let id := s.aliases.resolve label
  if s.redesign.jobs.isHeld id then
    return ⟨.ok .null, { s with redesign := { s.redesign with jobs := s.redesign.jobs.release id } }, []⟩
  else throw (InputError.answer ⟨"job '" ++ label ++ "' is not held"⟩)

/-- Whether the characters from here on start with `task ` and a digit: the place where a task
number is written. -/
def startsTaskNumber : List Char → Bool
  | 't' :: 'a' :: 's' :: 'k' :: ' ' :: d :: _ => d.isDigit
  | _ => false

/-- Writes every task number of a text as `N`: `task 42` becomes `task N`, wherever it stands.
Task numbers depend on how jobs were scheduled, so they are not part of an answer. `done`
holds what is already written, last character first. -/
def maskTaskNumbers : List Char → List Char → List Char
  | [], done => done.reverse
  | c :: rest, done =>
    if startsTaskNumber (c :: rest) then
      maskTaskNumbers ((rest.drop 4).dropWhile Char.isDigit) ('N' :: ' ' :: 'k' :: 's' :: 'a' :: 't' :: done)
    else maskTaskNumbers rest (c :: done)
termination_by cs => cs.length
decreasing_by
  all_goals simp_wf
  · have := (List.dropWhile_sublist (l := rest.drop 4) Char.isDigit).length_le
    simp only [List.length_drop] at this
    omega

/-- The status of a job, with its lifecycle state and metadata; task numbers in its error are
written `N`. -/
def Session.statusStep (s : Session) (step : Value) : Answering Value := do
  let id ← s.jobMember step
  match s.redesign.jobs.record id with
  | .ok r =>
    return .object [("status", .string r.handle.lifecycle.status.name),
      ("lifecycle", .string r.handle.lifecycle.name),
      ("originalResourceId", .string r.handle.resourceId),
      ("rawMetadata", Value.ofOption r.rawMetadata),
      ("error", Value.ofOption (r.error.map fun e => String.ofList (maskTaskNumbers e.toList [])))]
  | .error e => throw (errorAnswer (.job e))

/-- The answer to the request that makes the server close its connection. -/
def closedServerAnswer : Answer :=
  InputError.answer ⟨"server closed"⟩

/-- The refusal of a request sent after the server closed its connection. -/
def brokenPipeAnswer : Answer :=
  InputError.answer ⟨"broken pipe"⟩

/-- Sends one request to the server, with aliases resolved in its parameters and given to the
ids of jobs in its response; other UUIDs are kept. `initialize` is answered with the
introduction the server gave when the connection was set up, whatever happened since. A
request whose parameters the server cannot read closes its connection, and every later request
finds it closed; a request that goes unanswered so leaves its step's script waiting, when the
step gives a reply or holds. -/
def Session.serverStep (s : Session) (step : Value) : Answering StepOutcome := do
  let method ← textMember step "method"
  let own ← scriptMember step
  if method == "initialize" then return ⟨.ok (.object [("result", serverIntroduction)]), s, []⟩
  let unanswered :=
    if (step.field? "reply").isSome || own.hold then { s with waiting := s.waiting ++ [own] } else s
  if s.serverClosed then return ⟨brokenPipeAnswer, unanswered, []⟩
  if !readableParams method (step.field? "params") then
    return ⟨closedServerAnswer, { unanswered with serverClosed := true }, []⟩
  let script := s.scriptFor own
  let params := s.aliases.resolveJson ((optionalMember step "params").getD (.object []))
  let served := serve s.redesign s.user (fun _ _ => script.attempt) script.hold method params
  let isJob := fun id => (served.state.jobs.find? id).isSome
  let (aliases, response) := s.aliases.maskJson isJob served.response.toJson
  return ⟨.ok response, { s with redesign := served.state, aliases, waiting := [] },
    served.recorded⟩

/-- Runs one step. -/
def Session.step (s : Session) (step : Value) : StepOutcome :=
  let result : Answering StepOutcome := do
    match ← textMember step "op" with
    | "import" => s.importStep step
    | "put_raw" => s.plantStep step
    | "get" =>
      let id ← textMember step "resourceId"
      return s.reply (storeAnswer (fun r => match r with
        | some res => res.toJson
        | none => .null) (s.redesign.store.get id))
    | "list" =>
      return s.reply (storeAnswer (fun ss => .array (ss.map Summary.toJson)) s.redesign.store.list)
    | "snapshot" =>
      let id ← textMember step "resourceId"
      return s.reply (flowAnswer Snapshot.toJson (s.redesign.snapshot id))
    | "start" =>
      let id ← textMember step "resourceId"
      let stepped := s.redesign.start s.user id
      let s := { s with redesign := stepped.state }
      return match flowAnswer Snapshot.toJson stepped.result with
        | .ok v => ⟨.ok v, s, stepped.recorded⟩
        | .error a => ⟨a, s, stepped.recorded⟩
    | "trigger" => s.triggerStep step
    | "submit" => s.submitStep step
    | "release" => s.releaseStep step
    | "status" => return s.reply (s.statusStep step)
    | "finalize" =>
      let id ← s.jobMember step
      return s.reply (flowAnswer Collected.toJson (s.redesign.finalize id))
    | "prepare" =>
      let raw ← textMember step "raw"
      let id ← textMember step "resourceId"
      return s.reply (flowAnswer Decomposition.toJson (s.redesign.prepare raw id))
    | "mcp" => s.serverStep step
    | other => throw (InputError.answer ⟨"unknown session op '" ++ other ++ "'"⟩)
  match result with
  | .ok outcome => outcome
  | .error a => ⟨a, s, []⟩

/-- Runs steps in order, answering each. -/
def Session.run (s : Session) : List Value → List Value
  | [] => []
  | step :: rest =>
    let outcome := s.step step
    outcome.toJson :: outcome.session.run rest

/-- Runs a session; `fresh` holds the loopback server's port and the first group of job ids. -/
def answerSession (req : Value) (fresh : Fresh) : Answering Value := do
  let (user, emitter, _) ← emitterMembers req (loopbackEndpoint fresh.port)
  let steps ← arrayMember req "steps"
  let session : Session :=
    ⟨⟨ResourceStore.empty, JobStore.empty fresh.jobGroup, emitter⟩, user, Aliases.empty, false, []⟩
  return .object [("steps", .array (session.run steps))]

end MonolithSplit.Protocol

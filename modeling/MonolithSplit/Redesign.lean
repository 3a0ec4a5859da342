import MonolithSplit.Store
import MonolithSplit.Jobs.Store
import MonolithSplit.Analytics.Emitter
import MonolithSplit.Proposal.Reconcile
import MonolithSplit.Prompt.Payload
import MonolithSplit.Prompt.Guidelines

/-!
# The redesign flow

Breaking a monolith into microservices: confirm a resource's data model (`start`), submit it
for decomposition (`trigger`), and collect the reconciled proposal once the job is done
(`finalize`). Each step reads the resource afresh from the store, so a proposal names only the
entities live when it is collected.

Starting and triggering report an event. Under the strict policy a failed report fails the
step, after a trigger has already submitted its job, which then runs unseen.
-/

namespace MonolithSplit

open MonolithSplit.Json MonolithSplit.Model MonolithSplit.Store MonolithSplit.Jobs
open MonolithSplit.Analytics MonolithSplit.Proposal MonolithSplit.Prompt

/-- Why a step of the redesign failed. -/
inductive RedesignError where
  | notFound (resourceId : String)
  /-- The generated text is not a recommendation; `raw` is the text as generated. -/
  | badFormat (raw : String) (e : DecodeError)
  | analytics (reason : String)
  | store (e : StoreError)
  | job (e : JobError)
  deriving Repr

/-- The wording of a redesign error. -/
def RedesignError.message : RedesignError → String
  | .notFound id => "resource '" ++ id ++ "' not found"
  | .badFormat _ e => "generated recommendation has a bad format: " ++ e.message
  | .analytics reason => "analytics error: " ++ reason
  | .store e => e.message
  | .job e => e.message

/-- What collecting a job gives: its status, its resource and, once completed, the proposal. -/
structure Collected where
  status : Status
  originalResourceId : String
  data : Option Decomposition
  deriving Repr

/-- The JSON form of a collected job; no proposal is `null`. -/
def Collected.toJson (c : Collected) : Value :=
  .object [("status", .string c.status.name), ("originalResourceId", .string c.originalResourceId),
    ("data", match c.data with | some p => p.toJson | none => .null)]

/-- The state of the redesign flow: stored resources, jobs, and how events are reported. -/
structure Redesign where
  store : ResourceStore
  jobs : JobStore
  emitter : Emitter

/-- A step's result, the state after it, and the events the sink recorded. -/
structure Stepped (α : Type) where
  result : Except RedesignError α
  state : Redesign
  recorded : List TrackEvent

namespace Redesign

/-- The snapshot of a stored resource. -/
def snapshot (r : Redesign) (id : String) : Except RedesignError Snapshot :=
  match r.store.get id with
  | .ok (some res) => .ok res.snapshot
  | .ok none => .error (.notFound id)
  | .error e => .error (.store e)

/-- Reports an event about a snapshot's resource; the failure the strict policy passes on. -/
def report (r : Redesign) (user : User) (s : Snapshot) (kind : EventKind)
    (extra : List (String × Value)) : Report :=
  r.emitter.track user (Subject.ofSnapshot s) kind extra

/-- The error of a report that failed, if it did. -/
def reportResult (rep : Report) : Except RedesignError Unit :=
  match rep.failure with
  | some reason => .error (.analytics reason)
  | none => .ok ()

/-- Shows a resource's data model for confirmation, and reports it. -/
def start (r : Redesign) (user : User) (id : String) : Stepped Snapshot :=
  match r.snapshot id with
  | .error e => ⟨.error e, r, []⟩
  | .ok s =>
    let rep := r.report user s .startRedesign []
    ⟨(reportResult rep).map fun () => s, r, rep.recorded⟩

/-- Submits a resource for decomposition, then reports it. Gives the handle and the user input
the generator was called with. -/
def trigger (r : Redesign) (generator : Generator) (user : User) (id : String) (hold : Bool) :
    Stepped (Handle × String) :=
  match r.snapshot id with
  | .error e => ⟨.error e, r, []⟩
  | .ok s =>
    let input := userMessage s
    let (jobs, handle, _) :=
      r.jobs.submit generator systemPrompt [⟨userInputParam, input⟩] user.id id hold
    let r := { r with jobs }
    let rep := r.report user s .startBreakTheMonolith []
    ⟨(reportResult rep).map fun () => (handle, input), r, rep.recorded⟩

/-- Reads a generated text and reconciles it with the resource as it is now. -/
def prepare (r : Redesign) (raw id : String) : Except RedesignError Decomposition := do
  let recommendation ← (Recommendation.read raw).mapError (.badFormat raw)
  let s ← r.snapshot id
  return reconcile recommendation s

/-- Collects a job from a report on it: its status, and the proposal once it has completed. -/
def collect (r : Redesign) (report : Except JobError StatusReport) :
    Except RedesignError Collected := do
  let status ← report.mapError .job
  if status.status = .completed then
    let proposal ← r.prepare (status.rawMetadata.getD "") status.originalResourceId
    return ⟨.completed, status.originalResourceId, some proposal⟩
  else
    return ⟨status.status, status.originalResourceId, none⟩

/-- Collects a job: its status, and the proposal once it has completed. Never changes the job. -/
def finalize (r : Redesign) (jobId : String) : Except RedesignError Collected :=
  r.collect (r.jobs.checkStatus jobId)

end Redesign

end MonolithSplit

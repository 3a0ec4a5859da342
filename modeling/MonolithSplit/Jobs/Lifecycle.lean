import MonolithSplit.Schema.Shape

/-!
# Jobs and their lifecycle

A job asks for one generation. It is queued when submitted, running once the generator has been
called, and then completed (with the generated text) or failed (with an error). A job submitted
without its user input is invalid from the start and never runs. Callers see three statuses:
queued and running jobs are running, and invalid jobs have failed.
-/

namespace MonolithSplit.Jobs

open MonolithSplit.Json MonolithSplit.Schema

/-- Where a job is in its life. -/
inductive Lifecycle where
  | queued
  | running
  | completed
  | failed
  | invalid
  deriving DecidableEq, Repr

/-- The status callers see. -/
inductive Status where
  | running
  | completed
  | failed
  deriving DecidableEq, Repr

/-- The name of a lifecycle state. -/
def Lifecycle.name : Lifecycle → String
  | .queued => "Queued"
  | .running => "Running"
  | .completed => "Completed"
  | .failed => "Failed"
  | .invalid => "Invalid"

/-- The status of a lifecycle state: unfinished jobs are running, invalid ones failed. -/
def Lifecycle.status : Lifecycle → Status
  | .queued | .running => .running
  | .completed => .completed
  | .failed | .invalid => .failed

/-- Whether the job has finished, one way or the other. -/
def Lifecycle.isSettled (l : Lifecycle) : Bool :=
  l != .queued && l != .running

/-- A job is reported running exactly while it is unfinished. -/
theorem Lifecycle.status_eq_running_iff (l : Lifecycle) :
    l.status = .running ↔ l.isSettled = false := by
  cases l <;> decide

/-- The name of a status. -/
def Status.name : Status → String
  | .running => "Running"
  | .completed => "Completed"
  | .failed => "Failed"

/-- The kind of conversation every job here belongs to. -/
def conversationType : String := "BreakTheMonolith"

/-- What a submitter is told about a job: its id, owner, resource and state at that moment. -/
structure Handle where
  id : String
  userId : String
  resourceId : String
  lifecycle : Lifecycle
  deriving DecidableEq, Repr

/-- The JSON form of a handle. -/
def Handle.toJson (h : Handle) : Value :=
  .object [("id", .string h.id), ("conversationType", .string conversationType),
    ("userId", .string h.userId), ("resourceId", .string h.resourceId),
    ("lifecycle", .string h.lifecycle.name)]

/-- A named parameter of a conversation. -/
structure Param where
  name : String
  value : String
  deriving DecidableEq, Repr

/-- The parameter that carries the user's input. -/
def userInputParam : String := "userInput"

/-- How a parameter is read. -/
def Param.shape : Shape :=
  .record "ConversationParam" [required "name" .text, required "value" .text]

/-- A parameter from its normalised value. -/
def Param.ofDecoded (j : Value) : Param :=
  ⟨(j.slot 0).asText, (j.slot 1).asText⟩

/-- The user input among parameters: the value of the first one named for it. -/
def userInput (params : List Param) : Option String :=
  (params.find? (·.name = userInputParam)).map Param.value

/-- Why a job could not be looked up. -/
inductive JobError where
  | notFound (id : String)
  deriving DecidableEq, Repr

/-- The wording of a job error. -/
def JobError.message : JobError → String
  | .notFound id => "job '" ++ id ++ "' not found"

end MonolithSplit.Jobs

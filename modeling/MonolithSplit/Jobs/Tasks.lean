import MonolithSplit.Jobs.Store

/-!
# Jobs and their tasks, one write at a time

A job submitted with user input gets a task of its own. The task marks the job running and
calls the generator, and later finishes the job with the generator's outcome: two writes, each
made under the store's lock, between which anything else may happen. Submissions, the writes of
every task, and reads of a job's metadata and lifecycle interleave in any order.

A runtime is the store with the tasks that have not finished. Each action happens only when it
can: a submission takes an id no job has (ids are random and taken to be distinct), a task
marks its job running once, and finishes it after that. Reads change nothing.
-/

namespace MonolithSplit.Jobs

open MonolithSplit.Generation

/-- A task that has not finished its job: the job, what the generator does for it, and whether
it has marked the job running. -/
structure Task where
  id : String
  attempt : Attempt
  started : Bool
  deriving Repr, DecidableEq

/-- The store and the tasks that have not finished. -/
structure Runtime where
  store : JobStore
  tasks : List Task
  deriving Repr

/-- One thing that happens to the store. -/
inductive Action where
  /-- A job is submitted under a new id. -/
  | submit (id : String) (params : List Param) (userId resourceId : String)
  /-- The job's task marks it running and calls the generator. -/
  | start (id : String)
  /-- The job's task finishes it with the generator's outcome. -/
  | finish (id : String)
  | readMetadata (id : String)
  | readLifecycle (id : String)
  deriving Repr, DecidableEq

namespace Runtime

/-- An empty store with no task. -/
def init (idGroup : String) : Runtime := ⟨JobStore.empty idGroup, []⟩

/-- The task of a job, if it has one that has (or has not) started. -/
def task? (rt : Runtime) (id : String) (started : Bool) : Option Task :=
  rt.tasks.find? fun t => t.id = id && t.started == started

/-- Submits a job under `id`, when no job has it. Without user input the job is invalid; with
it the job is queued, and a task is spawned to run the generator on the system prompt and the
input. -/
def submit (rt : Runtime) (generator : Generator) (system id : String) (params : List Param)
    (userId resourceId : String) : Option Runtime :=
  if (rt.store.find? id).isSome then none
  else
    let handle : Handle := ⟨id, userId, resourceId, .queued⟩
    match userInput params with
    | none => some ⟨rt.store.add (Record.invalid handle), rt.tasks⟩
    | some input =>
      some ⟨rt.store.add (Record.queued handle), rt.tasks ++ [⟨id, generator system input, false⟩]⟩

/-- A task that has not started marks its job running. -/
def start (rt : Runtime) (id : String) : Option Runtime :=
  match rt.task? id false with
  | some _ =>
    some ⟨rt.store.update id Record.start,
      rt.tasks.map fun t => if t.id = id then { t with started := true } else t⟩
  | none => none

/-- A started task finishes its job with its attempt's outcome, and ends. -/
def finish (rt : Runtime) (id : String) : Option Runtime :=
  match rt.task? id true with
  | some t => some ⟨rt.store.update id (·.finish t.attempt), rt.tasks.filter (·.id ≠ id)⟩
  | none => none

/-- The runtime after an action, if the action can happen. -/
def step (rt : Runtime) (generator : Generator) (system : String) : Action → Option Runtime
  | .submit id params userId resourceId => rt.submit generator system id params userId resourceId
  | .start id => rt.start id
  | .finish id => rt.finish id
  | .readMetadata _ => some rt
  | .readLifecycle _ => some rt

/-- The runtime after actions in order, if each can happen. -/
def run (rt : Runtime) (generator : Generator) (system : String) : List Action → Option Runtime
  | [] => some rt
  | a :: as => (rt.step generator system a).bind fun rt' => rt'.run generator system as

end Runtime

end MonolithSplit.Jobs

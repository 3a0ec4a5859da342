import MonolithSplit.Jobs.Lifecycle
import MonolithSplit.Generation

/-!
# The job store

Jobs kept in memory, in submission order, each under an id shaped like a random UUID: a first
group fixed for the store, and a counter. Records are never removed.

A job's record is written three times, each write on its own: when it is submitted (queued, or
invalid without user input), when its task marks it running and calls the generator, and when
the task finishes it with the generator's outcome. Here a submission with user input makes the
first two writes at once, and the third too unless the job is held, in which case it is made
when the job is released. A status check reads the metadata and then the lifecycle, as two
reads.
-/

namespace MonolithSplit.Jobs

open MonolithSplit.Generation

/-- A generator as the store calls it: from a system prompt and a user message to what it
does. -/
abbrev Generator := String → String → Attempt

/-- A job as the store keeps it. `pending` is the attempt a held job finishes with. -/
structure Record where
  handle : Handle
  rawMetadata : Option String
  error : Option String
  pending : Option Attempt
  deriving Repr

/-- The jobs, oldest first, how many ids have been issued, and the first group of every id the
store issues. -/
structure JobStore where
  records : List Record
  issued : Nat
  idGroup : String
  deriving Repr

/-- The empty store, issuing ids that start with `idGroup`. -/
def JobStore.empty (idGroup : String) : JobStore := ⟨[], 0, idGroup⟩

/-- The last `width` lowercase hexadecimal digits of a number. -/
def lowerHex (width n : Nat) : String :=
  let digits := (List.range width).reverse.map fun i =>
    let d := n / Nat.pow 16 i % 16
    if d < 10 then Char.ofNat (48 + d) else Char.ofNat (87 + d)
  String.ofList digits

/-- The id of the `n`-th job, in the layout of a version 4 UUID whose first group is `group`. -/
def jobId (group : String) (n : Nat) : String :=
  group ++ "-0000-4000-8000-" ++ lowerHex 12 n

/-- A record with its lifecycle set. -/
def Record.withLifecycle (r : Record) (l : Lifecycle) : Record :=
  { r with handle := { r.handle with lifecycle := l } }

/-- The record of a job submitted with user input: queued, with nothing generated yet. -/
def Record.queued (h : Handle) : Record :=
  ⟨{ h with lifecycle := .queued }, none, none, none⟩

/-- The record of a job submitted without user input: invalid, with the reason. -/
def Record.invalid (h : Handle) : Record :=
  ⟨{ h with lifecycle := .invalid }, none, some ("missing '" ++ userInputParam ++ "' parameter"),
    none⟩

/-- The write a job's task makes before it calls the generator: the job is running. -/
def Record.start (r : Record) : Record :=
  r.withLifecycle .running

/-- A record finished with an attempt's outcome. -/
def Record.finish (r : Record) (a : Attempt) : Record :=
  match a.outcome with
  | .ok text => { r.withLifecycle .completed with rawMetadata := some text, pending := none }
  | .error e => { r.withLifecycle .failed with error := some e, pending := none }

namespace JobStore

/-- The record of a job. -/
def find? (s : JobStore) (id : String) : Option Record :=
  s.records.find? (·.handle.id = id)

/-- The record of a job, or why there is none. -/
def record (s : JobStore) (id : String) : Except JobError Record :=
  match s.find? id with
  | some r => .ok r
  | none => .error (.notFound id)

/-- Replaces the record of a job. -/
def update (s : JobStore) (id : String) (f : Record → Record) : JobStore :=
  { s with records := s.records.map fun r => if r.handle.id = id then f r else r }

/-- Adds the record of a newly submitted job, taking its id. -/
def add (s : JobStore) (r : Record) : JobStore :=
  { s with records := s.records ++ [r], issued := s.issued + 1 }

/-- Submits a job for `resourceId` on behalf of `userId`. Without user input the job is invalid;
with it the job is queued and its task marks it running and calls the generator with the system
prompt and the input, and the job runs, held or to its end. Gives the store, the handle as
submitted, and the input the generator got. -/
def submit (s : JobStore) (generator : Generator) (system : String) (params : List Param)
    (userId resourceId : String) (hold : Bool) : JobStore × Handle × Option String :=
  let handle : Handle := ⟨jobId s.idGroup (s.issued + 1), userId, resourceId, .queued⟩
  match userInput params with
  | none =>
    let r := Record.invalid handle
    (s.add r, r.handle, none)
  | some input =>
    let attempt := generator system input
    let running := (Record.queued handle).start
    let r := if hold then { running with pending := some attempt } else running.finish attempt
    (s.add r, handle, some input)

/-- Lets a held job finish with its attempt; other jobs are left as they are. -/
def release (s : JobStore) (id : String) : JobStore :=
  s.update id fun r =>
    match r.pending with
    | some a => if r.handle.lifecycle = .running then r.finish a else r
    | none => r

/-- Whether a job is held: running, with its attempt still to come. -/
def isHeld (s : JobStore) (id : String) : Bool :=
  match s.find? id with
  | some r => r.handle.lifecycle == .running && r.pending.isSome
  | none => false

/-- The lifecycle state of a job. -/
def lifecycle (s : JobStore) (id : String) : Except JobError Lifecycle :=
  (s.record id).map (·.handle.lifecycle)

end JobStore

/-- What a metadata read gives: the job's resource, its generated text and its error. -/
structure Metadata where
  resourceId : String
  rawMetadata : Option String
  error : Option String
  deriving Repr

/-- The metadata of a job. -/
def JobStore.metadata (s : JobStore) (id : String) : Except JobError Metadata :=
  (s.record id).map fun r => ⟨r.handle.resourceId, r.rawMetadata, r.error⟩

/-- What a status check reports: the status, the job's resource and, once completed, the
generated text. -/
structure StatusReport where
  status : Status
  originalResourceId : String
  rawMetadata : Option String
  deriving Repr

/-- A status report from a metadata read and a lifecycle read made after it; the first read to
fail gives the error. -/
def StatusReport.ofReads (m : Except JobError Metadata) (l : Except JobError Lifecycle) :
    Except JobError StatusReport := do
  let m ← m
  let l ← l
  return ⟨l.status, m.resourceId, m.rawMetadata⟩

/-- Checks a job's status without waiting for it: its metadata, then its lifecycle. -/
def JobStore.checkStatus (s : JobStore) (id : String) : Except JobError StatusReport :=
  StatusReport.ofReads (s.metadata id) (s.lifecycle id)

end MonolithSplit.Jobs

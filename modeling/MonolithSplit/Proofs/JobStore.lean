import MonolithSplit.Jobs.Store

/-!
# The job store, one operation at a time

What each operation of the job store does on its own: the handle each write leaves, where a job
is found after a job is added or a record rewritten, what each read gives, and what a submission
with user input adds and how a held job settles when released. Runs of the store, status checks
across two reads and the redesign flow are all built from these.
-/

namespace MonolithSplit.Jobs

open MonolithSplit.Generation

@[simp] theorem userInput_single (x : String) : userInput [⟨userInputParam, x⟩] = some x := by
  simp [userInput]

/-! ## Records under one write -/

@[simp] theorem Record.queued_handle (h : Handle) :
    (Record.queued h).handle = { h with lifecycle := .queued } := rfl

@[simp] theorem Record.invalid_handle (h : Handle) :
    (Record.invalid h).handle = { h with lifecycle := .invalid } := rfl

@[simp] theorem Record.start_handle (r : Record) :
    r.start.handle = { r.handle with lifecycle := .running } := rfl

/-- Finishing a job sets its lifecycle by the outcome and leaves the rest of its handle. -/
theorem Record.finish_handle (r : Record) (a : Attempt) :
    (r.finish a).handle = { r.handle with lifecycle :=
      match a.outcome with | .ok _ => .completed | .error _ => .failed } := by
  unfold Record.finish
  split <;> simp_all [Record.withLifecycle]

theorem Record.finish_handle_id (r : Record) (a : Attempt) : (r.finish a).handle.id = r.handle.id := by
  simp [Record.finish_handle]

/-- Finishing a job drops whatever attempt it had pending. -/
theorem Record.finish_pending (r : Record) (p : Option Attempt) (a : Attempt) :
    ({ r with pending := p }).finish a = r.finish a := by
  cases h : a.outcome <;> simp [Record.finish, Record.withLifecycle, h]

/-! ## Status reports -/

/-- A report comes from two reads that both found the job: the status from the lifecycle read,
the resource and the text from the metadata read. -/
theorem StatusReport.ofReads_eq_ok_iff {m : Except JobError Metadata}
    {l : Except JobError Lifecycle} {rep : StatusReport} :
    StatusReport.ofReads m l = .ok rep ↔
      ∃ md lc, m = .ok md ∧ l = .ok lc ∧ rep = ⟨lc.status, md.resourceId, md.rawMetadata⟩ := by
  cases m <;> cases l <;>
    simp [StatusReport.ofReads, bind, Except.bind, pure, Except.pure, eq_comm]

theorem Lifecycle.status_eq_completed_iff (l : Lifecycle) : l.status = .completed ↔ l = .completed := by
  cases l <;> decide

namespace JobStore

/-! ## Finding a job -/

theorem find?_add (s : JobStore) (r : Record) (id : String) :
    (s.add r).find? id = (s.find? id).or (if r.handle.id = id then some r else none) := by
  simp [add, find?, List.find?_append, List.find?_singleton]

theorem find?_add_of_some {s : JobStore} {id : String} {r : Record} (x : Record)
    (h : s.find? id = some r) : (s.add x).find? id = some r := by
  simp [find?_add, h]

theorem find?_add_of_none {s : JobStore} {id : String} (x : Record) (h : s.find? id = none) :
    (s.add x).find? id = if x.handle.id = id then some x else none := by
  simp [find?_add, h]

theorem mem_add {s : JobStore} {r x : Record} : r ∈ (s.add x).records ↔ r ∈ s.records ∨ r = x := by
  simp [add]

/-- A write that keeps the id of the record it rewrites changes that record only. -/
theorem find?_update {s : JobStore} {f : Record → Record} (hf : ∀ r, (f r).handle.id = r.handle.id)
    (id other : String) :
    (s.update id f).find? other = (s.find? other).map fun r => if other = id then f r else r := by
  unfold update find?
  rw [List.find?_map]
  have hp : ((fun r : Record => decide (r.handle.id = other)) ∘
      fun r => if r.handle.id = id then f r else r) = fun r => decide (r.handle.id = other) := by
    funext r
    by_cases hr : r.handle.id = id <;> simp [hr, hf]
  rw [hp]
  cases hfind : s.records.find? (fun r => decide (r.handle.id = other)) with
  | none => rfl
  | some r =>
      have hid : r.handle.id = other := by simpa using List.find?_some hfind
      by_cases ho : other = id <;> simp [hid, ho]

theorem mem_update {s : JobStore} {f : Record → Record} {id : String} {r : Record}
    (h : r ∈ (s.update id f).records) : ∃ r₀ ∈ s.records, r = if r₀.handle.id = id then f r₀ else r₀ := by
  simpa [update, eq_comm] using h

/-! ## Reads -/

theorem metadata_eq_notFound_iff (s : JobStore) (id : String) :
    s.metadata id = .error (.notFound id) ↔ s.find? id = none := by
  cases h : s.find? id <;> simp [metadata, record, h, Except.map]

theorem lifecycle_eq_notFound_iff (s : JobStore) (id : String) :
    s.lifecycle id = .error (.notFound id) ↔ s.find? id = none := by
  cases h : s.find? id <;> simp [lifecycle, record, h, Except.map]

theorem metadata_eq_ok_iff {s : JobStore} {id : String} {m : Metadata} :
    s.metadata id = .ok m ↔
      ∃ rec, s.find? id = some rec ∧ m = ⟨rec.handle.resourceId, rec.rawMetadata, rec.error⟩ := by
  cases h : s.find? id <;> simp [metadata, record, h, Except.map, eq_comm]

theorem lifecycle_eq_ok_iff {s : JobStore} {id : String} {l : Lifecycle} :
    s.lifecycle id = .ok l ↔ ∃ rec, s.find? id = some rec ∧ rec.handle.lifecycle = l := by
  cases h : s.find? id <;> simp [lifecycle, record, h, Except.map]

/-- A status check of a job found in the store reports its record, both reads finding it. -/
theorem checkStatus_of_find? {s : JobStore} {id : String} {r : Record} (hf : s.find? id = some r) :
    s.checkStatus id = .ok ⟨r.handle.lifecycle.status, r.handle.resourceId, r.rawMetadata⟩ :=
  StatusReport.ofReads_eq_ok_iff.mpr
    ⟨_, _, metadata_eq_ok_iff.mpr ⟨r, hf, rfl⟩, lifecycle_eq_ok_iff.mpr ⟨r, hf, rfl⟩, rfl⟩

/-! ## Submitting and releasing -/

/-- A submission with user input adds one record under the next id: settled by the generator's
attempt on the input, or running with that attempt pending when held. -/
theorem submit_of_userInput (s : JobStore) (g : Generator) (sys : String) {ps : List Param}
    (u rid : String) (hold : Bool) {input : String} (hin : userInput ps = some input) :
    s.submit g sys ps u rid hold =
      (s.add (if hold then
          { (Record.queued ⟨jobId s.idGroup (s.issued + 1), u, rid, .queued⟩).start with
            pending := some (g sys input) }
        else (Record.queued ⟨jobId s.idGroup (s.issued + 1), u, rid, .queued⟩).start.finish
          (g sys input)),
        ⟨jobId s.idGroup (s.issued + 1), u, rid, .queued⟩, some input) := by
  simp [submit, hin]

/-- Releasing a held job finishes it with its pending attempt. -/
theorem find?_release_held {s : JobStore} {id : String} {r : Record} {a : Attempt}
    (hf : s.find? id = some { r with pending := some a })
    (hrun : r.handle.lifecycle = .running) :
    (s.release id).find? id = some (r.finish a) := by
  unfold release
  rw [find?_update, hf]
  · simp [hrun, Record.finish_pending]
  · -- releasing keeps the id of every record
    intro r'
    split
    · split
      · exact Record.finish_handle_id r' _
      · rfl
    · rfl

/-- A submission with user input under an id the store has not issued adds one record under
that id, which settles (at once, or on release when held) into the generator's attempt on the
input, finished. -/
theorem submit_settles (s : JobStore) (g : Generator) (sys : String) {ps : List Param}
    (u rid : String) (hold : Bool) {input : String} (hin : userInput ps = some input)
    (hfresh : s.find? (jobId s.idGroup (s.issued + 1)) = none) :
    ∃ r, s.submit g sys ps u rid hold =
        (s.add r, ⟨jobId s.idGroup (s.issued + 1), u, rid, .queued⟩, some input) ∧
      r.handle.id = jobId s.idGroup (s.issued + 1) ∧
      (if hold then (s.add r).release (jobId s.idGroup (s.issued + 1)) else s.add r).find?
          (jobId s.idGroup (s.issued + 1)) =
        some ((Record.queued ⟨jobId s.idGroup (s.issued + 1), u, rid, .queued⟩).start.finish
          (g sys input)) := by
  refine ⟨_, submit_of_userInput s g sys u rid hold hin, ?_, ?_⟩
  · cases hold with
    | false => exact Record.finish_handle_id _ _
    | true => rfl
  · cases hold with
    | false =>
        simp only [Bool.false_eq_true, ↓reduceIte]
        rw [find?_add_of_none _ hfresh]
        exact if_pos (Record.finish_handle_id _ _)
    | true =>
        exact find?_release_held (by simp [find?_add_of_none _ hfresh])
          (by simp [Record.start, Record.queued, Record.withLifecycle])

end JobStore

end MonolithSplit.Jobs

import Mathlib
import MonolithSplit.Proofs.JobStore
import MonolithSplit.Redesign

/-!
# From trigger to finalize

A trigger for a stored resource submits one job, whose generator is called with the system
prompt and the user message of the resource's snapshot. Once the job has settled (at once, or
on release when held), finalizing it gives the generator's outcome: failed when the generator
failed, the generated text when it does not read as a recommendation, and otherwise the
recommendation reconciled with the resource as stored when finalizing, or the resource's
absence. The text is read before the resource, so a text that does not read is reported even
when the resource is gone.

Each hand-off has its own lemma. The job store's side (the record a submission adds, the
release of a held job, the status check of a settled job) is with the job store's lemmas; the
service's side (the snapshot of a stored resource, the reading of a text, the collection of a
report) is here.
-/

namespace MonolithSplit

open MonolithSplit.Jobs MonolithSplit.Generation MonolithSplit.Proposal MonolithSplit.Prompt
open MonolithSplit.Model MonolithSplit.Store

/-! ## The service's side -/

namespace Redesign

theorem snapshot_of_get {R : Redesign} {id : String} {res : Resource}
    (hget : R.store.get id = .ok (some res)) : R.snapshot id = .ok res.snapshot := by
  simp [snapshot, hget]

theorem snapshot_of_get_none {R : Redesign} {id : String} (hget : R.store.get id = .ok none) :
    R.snapshot id = .error (.notFound id) := by
  simp [snapshot, hget]

/-- A text that does not read fails before the resource is looked at. -/
theorem prepare_of_read_error {R : Redesign} {raw id : String} {e : Json.DecodeError}
    (hr : Recommendation.read raw = .error e) : R.prepare raw id = .error (.badFormat raw e) := by
  simp [prepare, hr, Except.mapError, bind, Except.bind]

theorem prepare_of_read_ok {R : Redesign} {raw id : String} {rec : Recommendation}
    (hr : Recommendation.read raw = .ok rec) :
    R.prepare raw id = (R.snapshot id).map (reconcile rec) := by
  cases hs : R.snapshot id <;>
    simp [prepare, hr, hs, Except.mapError, bind, Except.bind, pure, Except.pure, Except.map]

theorem collect_completed (R : Redesign) (rid : String) (raw : Option String) :
    R.collect (.ok ⟨.completed, rid, raw⟩) =
      (R.prepare (raw.getD "") rid).map fun p => ⟨.completed, rid, some p⟩ := by
  cases h : R.prepare (raw.getD "") rid <;>
    simp [collect, h, Except.mapError, bind, Except.bind, pure, Except.pure, Except.map]

theorem collect_unfinished (R : Redesign) {st : Status} (hst : st ≠ .completed) (rid : String)
    (raw : Option String) : R.collect (.ok ⟨st, rid, raw⟩) = .ok ⟨st, rid, none⟩ := by
  simp [collect, hst, Except.mapError, bind, Except.bind, pure, Except.pure]

/-- A trigger for a stored resource submits the user message of its snapshot, and returns the
handle as submitted unless the report of it fails. -/
theorem trigger_of_get {R : Redesign} {g : Generator} {user : User} {id : String} {hold : Bool}
    {res : Resource} (hget : R.store.get id = .ok (some res)) :
    R.trigger g user id hold =
      let sub := R.jobs.submit g systemPrompt [⟨userInputParam, userMessage res.snapshot⟩]
        user.id id hold
      let rep := { R with jobs := sub.1 }.report user res.snapshot .startBreakTheMonolith []
      ⟨(reportResult rep).map fun () => (sub.2.1, userMessage res.snapshot),
        { R with jobs := sub.1 }, rep.recorded⟩ := by
  simp [trigger, snapshot_of_get hget]

/-- Finalizing a job settled by an attempt that failed reports it failed, with no proposal. -/
theorem finalize_of_failed {R : Redesign} {h : Handle} {a : Attempt} {e : String}
    (hf : R.jobs.find? h.id = some ((Record.queued h).start.finish a))
    (hout : a.outcome = .error e) : R.finalize h.id = .ok ⟨.failed, h.resourceId, none⟩ := by
  have hrec : (Record.queued h).start.finish a =
      ⟨{ h with lifecycle := .failed }, none, some e, none⟩ := by
    simp [Record.finish, Record.start, Record.queued, Record.withLifecycle, hout]
  rw [finalize, JobStore.checkStatus_of_find? hf, hrec]
  exact collect_unfinished R (by simp [Lifecycle.status]) _ _

/-- Finalizing a job settled by an attempt that returned a text prepares that text. -/
theorem finalize_of_answered {R : Redesign} {h : Handle} {a : Attempt} {t : String}
    (hf : R.jobs.find? h.id = some ((Record.queued h).start.finish a))
    (hout : a.outcome = .ok t) :
    R.finalize h.id = (R.prepare t h.resourceId).map fun p => ⟨.completed, h.resourceId, some p⟩ := by
  have hrec : (Record.queued h).start.finish a =
      ⟨{ h with lifecycle := .completed }, some t, none, none⟩ := by
    simp [Record.finish, Record.start, Record.queued, Record.withLifecycle, hout]
  rw [finalize, JobStore.checkStatus_of_find? hf, hrec]
  exact collect_completed R _ _

end Redesign

/-! ## The whole flow -/

/-- What a trigger for resource `id` that returned handle `h` and user input `input` did, and what
finalizing the job gives once it has settled. -/
structure Triggered (R : Redesign) (g : Generator) (user : User) (id : String) (res : Resource)
    (hold : Bool) (h : Handle) (input : String) : Prop where
  /-- The generator got the user message of the resource's snapshot. -/
  input_eq : input = userMessage res.snapshot
  /-- The handle is the job as submitted: under the store's next id, for the user and the
  resource, queued. -/
  handle_eq : h = ⟨jobId R.jobs.idGroup (R.jobs.issued + 1), user.id, id, .queued⟩
  /-- The trigger added one job, under the handle's id, and changed nothing else. -/
  one_job : ∃ r, (R.trigger g user id hold).state = { R with jobs := R.jobs.add r } ∧
    r.handle.id = h.id
  /-- Once settled (on release when held), the job is the generator's attempt on the system
  prompt and the user message, finished. -/
  settles : (if hold then (R.trigger g user id hold).state.jobs.release h.id
      else (R.trigger g user id hold).state.jobs).find? h.id =
    some ((Record.queued h).start.finish (g systemPrompt input))
  /-- Finalizing the settled job, against the resources stored at that time. -/
  finalize : ∀ R₂ : Redesign,
    R₂.jobs.find? h.id = some ((Record.queued h).start.finish (g systemPrompt input)) →
      (∀ e, (g systemPrompt input).outcome = .error e →
        R₂.finalize h.id = .ok ⟨.failed, id, none⟩) ∧
      (∀ t e, (g systemPrompt input).outcome = .ok t → Recommendation.read t = .error e →
        R₂.finalize h.id = .error (.badFormat t e)) ∧
      (∀ t rec, (g systemPrompt input).outcome = .ok t → Recommendation.read t = .ok rec →
        R₂.store.get id = .ok none → R₂.finalize h.id = .error (.notFound id)) ∧
      (∀ t rec res', (g systemPrompt input).outcome = .ok t → Recommendation.read t = .ok rec →
        R₂.store.get id = .ok (some res') →
        R₂.finalize h.id = .ok ⟨.completed, id, some (reconcile rec res'.snapshot)⟩)

/-- A trigger for a stored resource that returns a handle submits exactly one job, for the user
and the resource, whose generator is called with the system prompt and the user message of the
resource's snapshot; once the job has settled, finalizing it gives failed for a generator that
failed or crashed, the bad text for one whose text does not read (whatever is stored by then),
the resource's absence when it is gone, and otherwise the recommendation reconciled with the
resource as stored when finalizing. The store must not have issued its next id already. -/
theorem trigger_then_finalize (R : Redesign) (g : Generator) (user : User) (id : String)
    (res : Resource) (hold : Bool) (hget : R.store.get id = .ok (some res))
    (hfresh : R.jobs.find? (jobId R.jobs.idGroup (R.jobs.issued + 1)) = none) {h : Handle}
    {input : String} (htrig : (R.trigger g user id hold).result = .ok (h, input)) :
    Triggered R g user id res hold h input := by
  -- the submission, with the generator's attempt on the snapshot's user message
  have htr := @Redesign.trigger_of_get R g user id hold res hget
  obtain ⟨r₀, hsub, hid, hsettle⟩ := JobStore.submit_settles R.jobs g systemPrompt user.id id hold
    (userInput_single (userMessage res.snapshot)) hfresh
  rw [htr, hsub] at htrig
  -- the handle and input come from the submission whatever the report
  obtain ⟨rfl, rfl⟩ : h = ⟨jobId R.jobs.idGroup (R.jobs.issued + 1), user.id, id, .queued⟩ ∧
      input = userMessage res.snapshot := by
    simp only [Except.map] at htrig
    split at htrig
    · cases htrig
    · cases htrig
      exact ⟨rfl, rfl⟩
  refine ⟨rfl, rfl, ⟨r₀, by rw [htr, hsub], hid⟩, by rw [htr, hsub]; exact hsettle, ?_⟩
  · intro R₂ hf
    refine ⟨fun e hout => Redesign.finalize_of_failed hf hout, fun t e hout hr => ?_,
      fun t rec hout hr hnone => ?_, fun t rec res' hout hr hsome => ?_⟩
    · rw [Redesign.finalize_of_answered hf hout, Redesign.prepare_of_read_error hr]
      rfl
    · rw [Redesign.finalize_of_answered hf hout, Redesign.prepare_of_read_ok hr,
        Redesign.snapshot_of_get_none hnone]
      rfl
    · rw [Redesign.finalize_of_answered hf hout, Redesign.prepare_of_read_ok hr,
        Redesign.snapshot_of_get hsome]
      rfl

/-- A stored resource read from its file, a report that fails and is dropped under the
best-effort policy, and a generator that proposes no service. -/
theorem trigger_then_finalize_sample :
    let R : Redesign := ⟨⟨[("p.json", .file "\x7b\"id\":\"p\",\"name\":\"P\"\x7d")], true⟩,
      JobStore.empty "g", ⟨.unavailable "down", .log, .bestEffort⟩⟩
    let g : Generator := fun _ _ => .answers "\x7b\"microservices\":[]\x7d"
    let res : Resource := ⟨"p", "P", none, []⟩
    let h : Handle := ⟨jobId "g" 1, "u", "p", .queued⟩
    R.store.get "p" = .ok (some res) ∧
      R.jobs.find? (jobId R.jobs.idGroup (R.jobs.issued + 1)) = none ∧
      (R.trigger g ⟨"u", none⟩ "p" false).result = .ok (h, userMessage res.snapshot) ∧
      Triggered R g ⟨"u", none⟩ "p" res false h (userMessage res.snapshot) := by
  intro R g res h
  have hget : R.store.get "p" = .ok (some res) := by cbv
  have htrig : (R.trigger g ⟨"u", none⟩ "p" false).result = .ok (h, userMessage res.snapshot) := by
    rw [Redesign.trigger_of_get hget,
      JobStore.submit_of_userInput _ g systemPrompt "u" "p" false (userInput_single _)]
    rfl
  exact ⟨hget, rfl, htrig, trigger_then_finalize R g ⟨"u", none⟩ "p" res false hget rfl htrig⟩

end MonolithSplit

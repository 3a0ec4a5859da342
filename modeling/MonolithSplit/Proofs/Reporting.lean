import MonolithSplit.Proofs.Flow
import MonolithSplit.Server.Tools

/-!
# Reporting never decides a step's result but under the strict policy

Starting and triggering a redesign report an event, and so does collecting a completed job:
the emitter asks billing for the caller's plan, then hands the event to its sink. What that report can do to the step is fixed by the
order of the step's parts (`reporting_keeps_result`):

* a resource that is missing fails the step before anything is reported or submitted;
* under the best-effort policy the step ends as if billing and sink had both succeeded;
* under the strict policy the step fails with the analytics failure exactly when billing or the
  sink fails, and the sink is not reached when billing fails; a trigger has by then submitted
  its job, which stays in the store with no handle returned;
* the event carries the project (or `null`), the resource, its name and the plan, each replaced
  by the extra property of the same key;
* collecting a job through the finalize tool reports a completed decomposition with the number
  of its microservices, and that report never decides the call: whatever the emitter, the tool
  answers alike and leaves the service as it was.

Statement vocabulary: `Emitter.Succeeds` (billing and sink that never fail) and
`ReportingKeepsResult`, the conclusion as named fields.
-/

namespace MonolithSplit

open MonolithSplit.Json MonolithSplit.Model MonolithSplit.Jobs MonolithSplit.Analytics
open MonolithSplit.Prompt

/-! ## The properties of an event -/

namespace Json.Value

theorem lookup_cons (key k : String) (v : Value) (ms : List (String × Value)) :
    Value.lookup key ((k, v) :: ms) = if k = key then some v else Value.lookup key ms := rfl

theorem lookup_append_singleton (key : String) (ms : List (String × Value)) (m : String × Value) :
    Value.lookup key (ms ++ [m]) = (Value.lookup key ms).or (if m.1 = key then some m.2 else none) := by
  induction ms with
  | nil => rfl
  | cons p ms ih =>
      obtain ⟨k, v⟩ := p
      by_cases h : k = key
      · simp [lookup_cons, h]
      · simp [lookup_cons, h, ih]

theorem lookup_eq_none {key : String} {ms : List (String × Value)}
    (h : key ∉ ms.map Prod.fst) : Value.lookup key ms = none := by
  induction ms with
  | nil => rfl
  | cons p ms ih =>
      obtain ⟨k, v⟩ := p
      simp only [List.map_cons, List.mem_cons, not_or] at h
      rw [lookup_cons, if_neg (Ne.symm h.1), ih h.2]

/-- With each key once, the order of the members does not matter to a lookup. -/
theorem lookup_reverse (key : String) {ms : List (String × Value)} (h : (ms.map Prod.fst).Nodup) :
    Value.lookup key ms.reverse = Value.lookup key ms := by
  induction ms with
  | nil => rfl
  | cons p ms ih =>
      obtain ⟨k, v⟩ := p
      simp only [List.map_cons, List.nodup_cons] at h
      rw [List.reverse_cons, lookup_append_singleton, ih h.2, lookup_cons]
      by_cases hk : k = key
      · subst hk
        rw [lookup_eq_none h.1]
        simp
      · simp [hk]

/-- Inserting a member replaces the value of its key and leaves every other key's. -/
theorem lookup_insertMember (key k : String) (v : Value) (ms : List (String × Value)) :
    Value.lookup key (Value.insertMember k v ms) = if k = key then some v else Value.lookup key ms := by
  induction ms with
  | nil => rfl
  | cons m ms ih =>
      obtain ⟨k', v'⟩ := m
      rw [Value.insertMember]
      by_cases hk : k = k'
      · subst hk
        rw [if_pos rfl, lookup_cons, lookup_cons]
        by_cases hkey : k = key <;> simp [hkey]
      · rw [if_neg hk]
        split
        · rw [lookup_cons, lookup_cons]
        · rw [lookup_cons, lookup_cons, ih]
          by_cases hkey : k' = key
          · subst hkey
            simp [hk]
          · simp [hkey]

theorem mem_keys_insertMember (b k : String) (v : Value) (ms : List (String × Value)) :
    b ∈ (Value.insertMember k v ms).map Prod.fst ↔ b = k ∨ b ∈ ms.map Prod.fst := by
  induction ms with
  | nil => simp [Value.insertMember]
  | cons m ms ih =>
      obtain ⟨k', v'⟩ := m
      rw [Value.insertMember]
      by_cases hk : k = k'
      · subst hk
        simp
      · rw [if_neg hk]
        split
        · simp
        · simp only [List.map_cons, List.mem_cons, ih]
          tauto

/-- Inserting a member into members sorted by key keeps them sorted, each key once. -/
theorem insertMember_sorted (k : String) (v : Value) {ms : List (String × Value)}
    (h : (ms.map Prod.fst).Pairwise (· < ·)) :
    ((Value.insertMember k v ms).map Prod.fst).Pairwise (· < ·) := by
  induction ms with
  | nil => simp [Value.insertMember]
  | cons m ms ih =>
      obtain ⟨k', v'⟩ := m
      simp only [List.map_cons, List.pairwise_cons] at h
      rw [Value.insertMember]
      by_cases hk : k = k'
      · subst hk
        simpa using h
      · rw [if_neg hk]
        split
        · rename_i hlt
          simp only [List.map_cons, List.pairwise_cons, List.mem_cons]
          refine ⟨fun b hb => ?_, h.1, h.2⟩
          rcases hb with rfl | hb
          · exact hlt
          · exact lt_trans hlt (h.1 b hb)
        · rename_i hlt
          have hgt : k' < k := lt_of_le_of_ne (not_lt.mp hlt) (Ne.symm hk)
          simp only [List.map_cons, List.pairwise_cons]
          refine ⟨fun b hb => ?_, ih h.2⟩
          rcases (mem_keys_insertMember b k v ms).mp hb with rfl | hb
          · exact hgt
          · exact h.1 b hb

/-- Members inserted one by one, each replacing the value of its key: the last member of a key
wins, and the keys end sorted, each once. -/
theorem foldl_insertMember (ms acc : List (String × Value)) (hacc : (acc.map Prod.fst).Pairwise (· < ·)) :
    let folded := ms.foldl (fun acc kv => Value.insertMember kv.1 kv.2 acc) acc
    (folded.map Prod.fst).Pairwise (· < ·) ∧
      ∀ key, Value.lookup key folded = (Value.lookup key ms.reverse).or (Value.lookup key acc) := by
  induction ms generalizing acc with
  | nil => exact ⟨hacc, fun key => by simp [Value.lookup]⟩
  | cons m ms ih =>
      obtain ⟨hsorted, hlookup⟩ := ih _ (insertMember_sorted m.1 m.2 hacc)
      refine ⟨hsorted, fun key => ?_⟩
      rw [List.foldl_cons, hlookup, lookup_insertMember, List.reverse_cons,
        lookup_append_singleton]
      cases Value.lookup key ms.reverse <;> split_ifs <;> simp

end Json.Value

/-- The properties of an event: the standard ones, each replaced by the extra property of the same
key (the last one, if several), sorted by key, each once. -/
theorem eventProperties_spec (subject : Subject) (plan : String) (extra : List (String × Value)) :
    ((eventProperties subject plan extra).map Prod.fst).Pairwise (· < ·) ∧
      ∀ key, Value.lookup key (eventProperties subject plan extra) =
        (Value.lookup key extra.reverse).or (Value.lookup key
          [("projectId", Value.ofOption subject.projectId), ("resourceId", .string subject.resourceId),
            ("serviceName", .string subject.resourceName), ("plan", .string plan)]) := by
  let standard : List (String × Value) :=
    [("projectId", Value.ofOption subject.projectId), ("resourceId", .string subject.resourceId),
      ("serviceName", .string subject.resourceName), ("plan", .string plan)]
  obtain ⟨hsorted, hlookup⟩ := Value.foldl_insertMember (standard ++ extra) [] List.Pairwise.nil
  refine ⟨hsorted, fun key => ?_⟩
  have hnodup : (standard.map Prod.fst).Nodup := by
    show (["projectId", "resourceId", "serviceName", "plan"] : List String).Nodup
    decide
  rw [eventProperties, hlookup, List.reverse_append]
  -- a lookup in the reversed members: the extra ones first, then the standard ones
  have hsplit : ∀ l : List (String × Value),
      Value.lookup key (l ++ standard.reverse) = (Value.lookup key l).or (Value.lookup key standard) := by
    intro l
    induction l with
    | nil =>
        rw [List.nil_append, Value.lookup_reverse key hnodup]
        rfl
    | cons p l ih =>
        obtain ⟨k, v⟩ := p
        by_cases h : k = key <;> simp [Value.lookup_cons, h, ih]
  rw [hsplit]
  exact Option.or_none

/-! ## What a report can fail with -/

namespace Analytics

/-- Billing that gives every workspace a plan, and a sink that takes every event. -/
def Emitter.Succeeds (em : Emitter) : Prop :=
  (∀ w, ∃ plan, em.billing.plan w = .ok plan) ∧ ∀ e, ∃ kept, em.sink.deliver e = .ok kept

section

variable {em : Emitter} {u : User} {subject : Subject} {kind : EventKind}
  {extra : List (String × Value)}

theorem Emitter.attempt_of_plan {plan : String} (h : em.billing.plan u.workspace = .ok plan) :
    em.attempt u subject kind extra =
      em.sink.deliver (TrackEvent.build u subject kind plan extra) := by
  simp [Emitter.attempt, h, bind, Except.bind]

/-- Billing is asked first: when it fails, the sink is not reached. -/
theorem Emitter.attempt_of_plan_error {msg : String}
    (h : em.billing.plan u.workspace = .error msg) :
    em.attempt u subject kind extra = .error msg := by
  simp [Emitter.attempt, h, bind, Except.bind]

theorem Emitter.attempt_eq_error_iff {msg : String} :
    em.attempt u subject kind extra = .error msg ↔
      em.billing.plan u.workspace = .error msg ∨ ∃ plan, em.billing.plan u.workspace = .ok plan ∧
        em.sink.deliver (TrackEvent.build u subject kind plan extra) = .error msg := by
  cases h : em.billing.plan u.workspace with
  | error e => simp [attempt_of_plan_error h]
  | ok plan => simp [attempt_of_plan h]

/-- A report carries a failure only under the strict policy, and then the attempt's. -/
theorem Emitter.track_failure_eq_some_iff {msg : String} :
    (em.track u subject kind extra).failure = some msg ↔
      em.policy = .strict ∧ em.attempt u subject kind extra = .error msg := by
  unfold Emitter.track
  cases em.attempt u subject kind extra <;> cases em.policy <;> simp

theorem Emitter.track_failure_of_bestEffort (hp : em.policy = .bestEffort) :
    (em.track u subject kind extra).failure = none := by
  cases h : (em.track u subject kind extra).failure with
  | none => rfl
  | some msg =>
      have hstrict := (track_failure_eq_some_iff.mp h).1
      rw [hp] at hstrict
      cases hstrict

theorem Emitter.Succeeds.track_failure (hs : em.Succeeds) :
    (em.track u subject kind extra).failure = none := by
  obtain ⟨plan, hplan⟩ := hs.1 u.workspace
  obtain ⟨kept, hkept⟩ := hs.2 (TrackEvent.build u subject kind plan extra)
  simp [Emitter.track, attempt_of_plan hplan, hkept]

/-- With billing down the report keeps no event, and fails exactly under the strict policy. -/
theorem Emitter.track_of_plan_error {msg : String}
    (h : em.billing.plan u.workspace = .error msg) :
    em.track u subject kind extra = ⟨[], if em.policy = .strict then some msg else none⟩ := by
  unfold Emitter.track
  rw [attempt_of_plan_error h]
  cases em.policy <;> rfl

end

end Analytics

/-! ## Starting and triggering -/

namespace Redesign

variable {R : Redesign} {g : Generator} {u : User} {id : String} {hold : Bool}

theorem reportResult_of_failure_none {rep : Report} (h : rep.failure = none) :
    reportResult rep = .ok () := by
  simp [reportResult, h]

theorem map_reportResult_eq_analytics_iff {α : Type} {f : Unit → α} {rep : Report} {msg : String} :
    (reportResult rep).map f = .error (.analytics msg) ↔ rep.failure = some msg := by
  unfold reportResult
  cases rep.failure <;> simp [Except.map]

/-- Under the strict policy a report fails exactly when billing fails, or billing gives a plan
and the sink refuses the event. -/
theorem report_failure_of_strict (hp : R.emitter.policy = .strict) {s : Snapshot}
    {kind : EventKind} {msg : String} :
    (R.report u s kind []).failure = some msg ↔
      R.emitter.billing.plan u.workspace = .error msg ∨
        ∃ plan, R.emitter.billing.plan u.workspace = .ok plan ∧ R.emitter.sink.deliver
          (TrackEvent.build u (Subject.ofSnapshot s) kind plan []) = .error msg := by
  rw [report, Emitter.track_failure_eq_some_iff, Emitter.attempt_eq_error_iff]
  simp [hp]

/-- Looking a resource up fails with its absence or the store's error, never with analytics. -/
theorem snapshot_ne_analytics (msg : String) : R.snapshot id ≠ .error (.analytics msg) := by
  unfold snapshot
  split <;> simp

theorem start_of_snapshot {s : Snapshot} (hs : R.snapshot id = .ok s) :
    R.start u id = ⟨(reportResult (R.report u s .startRedesign [])).map fun () => s, R,
      (R.report u s .startRedesign []).recorded⟩ := by
  simp [start, hs]

theorem start_of_snapshot_error {e : RedesignError} (hs : R.snapshot id = .error e) :
    R.start u id = ⟨.error e, R, []⟩ := by
  simp [start, hs]

/-- A start whose report does not fail gives the snapshot. -/
theorem start_result_of_report {s : Snapshot} (hs : R.snapshot id = .ok s)
    (hrep : (R.report u s .startRedesign []).failure = none) : (R.start u id).result = .ok s := by
  rw [start_of_snapshot hs, reportResult_of_failure_none hrep]
  rfl

theorem trigger_of_snapshot {s : Snapshot} (hs : R.snapshot id = .ok s) :
    R.trigger g u id hold =
      let sub := R.jobs.submit g systemPrompt [⟨userInputParam, userMessage s⟩] u.id id hold
      ⟨(reportResult (R.report u s .startBreakTheMonolith [])).map fun () => (sub.2.1, userMessage s),
        { R with jobs := sub.1 }, (R.report u s .startBreakTheMonolith []).recorded⟩ := by
  simp [trigger, hs, report]

theorem trigger_of_snapshot_error {e : RedesignError} (hs : R.snapshot id = .error e) :
    R.trigger g u id hold = ⟨.error e, R, []⟩ := by
  simp [trigger, hs]

/-- A trigger whose report does not fail gives the handle as submitted and the user message. -/
theorem trigger_result_of_report {s : Snapshot} (hs : R.snapshot id = .ok s)
    (hrep : (R.report u s .startBreakTheMonolith []).failure = none) :
    (R.trigger g u id hold).result = .ok ((R.jobs.submit g systemPrompt
      [⟨userInputParam, userMessage s⟩] u.id id hold).2.1, userMessage s) := by
  rw [trigger_of_snapshot hs, reportResult_of_failure_none hrep]
  rfl

/-- The jobs a trigger leaves do not depend on how it reports. -/
theorem trigger_jobs_of_emitter (em : Emitter) :
    ({ R with emitter := em }.trigger g u id hold).state.jobs = (R.trigger g u id hold).state.jobs := by
  -- both steps look the resource up in the same store
  have hsame : ({ R with emitter := em }).snapshot id = R.snapshot id := rfl
  cases hs : R.snapshot id with
  | error e => rw [trigger_of_snapshot_error hs, trigger_of_snapshot_error (hsame.trans hs)]
  | ok s => rw [trigger_of_snapshot hs, trigger_of_snapshot (hsame.trans hs)]

/-- A trigger that looked the resource up has submitted one job, for the user and the resource,
whatever its report. -/
theorem trigger_jobs_of_snapshot {s : Snapshot} (hs : R.snapshot id = .ok s) :
    ∃ rec, (R.trigger g u id hold).state.jobs = R.jobs.add rec ∧
      rec.handle.userId = u.id ∧ rec.handle.resourceId = id := by
  rw [trigger_of_snapshot hs]
  simp only [JobStore.submit_of_userInput R.jobs g systemPrompt u.id id hold
    (userInput_single (userMessage s))]
  refine ⟨_, rfl, ?_⟩
  cases hold <;> simp [Record.finish_handle]

end Redesign

/-! ## Collecting a job through the finalize tool -/

namespace Server

variable {R : Redesign} {u : User} {g : Generator} {hold : Bool} {arguments : Value}

theorem Tool.ofName?_name (t : Tool) : Tool.ofName? t.name = some t := by
  cases t <;> rfl

/-- The finalize tool leaves the service as it was. -/
theorem callTool_finalize_state :
    (callTool R u g hold Tool.finalizeBreakTheMonolith.name arguments).state = R := by
  simp only [callTool, Tool.ofName?_name]
  split
  · rfl
  · split <;> rfl

/-- The finalize tool answers alike whatever the emitter: the job is collected from the jobs and
the store, and the completion report's failure is dropped. -/
theorem callTool_finalize_reply_of_emitter (em : Emitter) :
    (callTool { R with emitter := em } u g hold Tool.finalizeBreakTheMonolith.name arguments).reply =
      (callTool R u g hold Tool.finalizeBreakTheMonolith.name arguments).reply := by
  -- collecting reads the jobs and the store only
  have hsame : ∀ job, ({ R with emitter := em } : Redesign).finalize job = R.finalize job :=
    fun _ => rfl
  simp only [callTool, Tool.ofName?_name, hsame]
  split
  · rfl
  · split <;> rfl

/-- The finalize tool records events only for a completed job with its decomposition: those of
the completion report of its resource, with the number of microservices. -/
theorem callTool_finalize_recorded :
    (callTool R u g hold Tool.finalizeBreakTheMonolith.name arguments).recorded = [] ∨
      ∃ (c : Collected) (p : Proposal.Decomposition),
        (callTool R u g hold Tool.finalizeBreakTheMonolith.name arguments).reply =
          .ok (jsonText c.toJson) ∧ c.status = .completed ∧ c.data = some p ∧
        (callTool R u g hold Tool.finalizeBreakTheMonolith.name arguments).recorded =
          reportCompletion R u c.originalResourceId p.services.length := by
  simp only [callTool, Tool.ofName?_name]
  split
  · exact .inl rfl
  · split
    · exact .inl rfl
    · rename_i c _
      -- only a completed collection with a decomposition is reported
      cases hdata : c.data with
      | none => exact .inl (by cases c.status <;> rfl)
      | some p =>
          cases hstatus : c.status with
          | completed => exact .inr ⟨c, p, rfl, hstatus, hdata, rfl⟩
          | _ => exact .inl rfl

end Server

/-- What reporting can do to starting and triggering a redesign of resource `id` for user `u`,
whatever the emitter's billing, sink and policy. -/
structure ReportingKeepsResult (R : Redesign) (g : Generator) (u : User) (id : String)
    (hold : Bool) : Prop where
  /-- A missing resource fails both steps before anything is reported or submitted. -/
  missing : R.store.get id = .ok none →
    R.start u id = ⟨.error (.notFound id), R, []⟩ ∧
      R.trigger g u id hold = ⟨.error (.notFound id), R, []⟩
  /-- Under the best-effort policy both steps end as with billing and a sink that never fail:
  the same results, and the same jobs after a trigger. -/
  best_effort : R.emitter.policy = .bestEffort → ∀ em : Emitter, em.Succeeds →
    (R.start u id).result = ({ R with emitter := em }.start u id).result ∧
      (R.trigger g u id hold).result = ({ R with emitter := em }.trigger g u id hold).result ∧
      (R.trigger g u id hold).state.jobs = ({ R with emitter := em }.trigger g u id hold).state.jobs
  /-- Under the strict policy a start fails with analytics exactly when billing fails, or billing
  gives a plan and the sink refuses the event. -/
  strict_start : R.emitter.policy = .strict → ∀ s msg, R.snapshot id = .ok s →
    ((R.start u id).result = .error (.analytics msg) ↔
      R.emitter.billing.plan u.workspace = .error msg ∨
        ∃ plan, R.emitter.billing.plan u.workspace = .ok plan ∧ R.emitter.sink.deliver
          (TrackEvent.build u (Subject.ofSnapshot s) .startRedesign plan []) = .error msg)
  /-- Likewise for a trigger. -/
  strict_trigger : R.emitter.policy = .strict → ∀ s msg, R.snapshot id = .ok s →
    ((R.trigger g u id hold).result = .error (.analytics msg) ↔
      R.emitter.billing.plan u.workspace = .error msg ∨
        ∃ plan, R.emitter.billing.plan u.workspace = .ok plan ∧ R.emitter.sink.deliver
          (TrackEvent.build u (Subject.ofSnapshot s) .startBreakTheMonolith plan []) = .error msg)
  /-- A trigger failing with analytics has submitted its job all the same: the store holds one
  more job, for the user and the resource, whose handle the caller never sees. -/
  orphan_job : ∀ msg, (R.trigger g u id hold).result = .error (.analytics msg) →
    ∃ rec, (R.trigger g u id hold).state.jobs = R.jobs.add rec ∧
      rec.handle.userId = u.id ∧ rec.handle.resourceId = id
  /-- With billing down the sink is not reached: no event is kept, and the report fails exactly
  under the strict policy. -/
  billing_first : ∀ msg subject kind extra, R.emitter.billing.plan u.workspace = .error msg →
    R.emitter.track u subject kind extra =
      ⟨[], if R.emitter.policy = .strict then some msg else none⟩
  /-- Collecting a job through the finalize tool reports its completion, and that report never
  decides the call: with any emitter the call answers alike, and it leaves the service as it
  was. Events are recorded only for a completed job with its decomposition, and they are those
  of the completion report of its resource with the number of microservices. -/
  finalize : ∀ (em : Emitter) (arguments : Value),
    (Server.callTool { R with emitter := em } u g hold Server.Tool.finalizeBreakTheMonolith.name
        arguments).reply =
      (Server.callTool R u g hold Server.Tool.finalizeBreakTheMonolith.name arguments).reply ∧
    (Server.callTool R u g hold Server.Tool.finalizeBreakTheMonolith.name arguments).state = R ∧
    ((Server.callTool R u g hold Server.Tool.finalizeBreakTheMonolith.name arguments).recorded = [] ∨
      ∃ (c : Collected) (p : Proposal.Decomposition),
        (Server.callTool R u g hold Server.Tool.finalizeBreakTheMonolith.name arguments).reply =
          .ok (Server.jsonText c.toJson) ∧ c.status = .completed ∧ c.data = some p ∧
        (Server.callTool R u g hold Server.Tool.finalizeBreakTheMonolith.name arguments).recorded =
          Server.reportCompletion R u c.originalResourceId p.services.length)
  /-- With a plan, the sink gets the event of the user and the kind, whose properties are the
  standard ones, each replaced by the extra property of its key. -/
  event : ∀ plan subject kind extra, R.emitter.billing.plan u.workspace = .ok plan →
    ∃ props, R.emitter.attempt u subject kind extra = R.emitter.sink.deliver ⟨u.id, kind.name, props⟩ ∧
      (props.map Prod.fst).Pairwise (· < ·) ∧
      ∀ key, Value.lookup key props = (Value.lookup key extra.reverse).or (Value.lookup key
        [("projectId", Value.ofOption subject.projectId), ("resourceId", .string subject.resourceId),
          ("serviceName", .string subject.resourceName), ("plan", .string plan)])

theorem reporting_keeps_result (R : Redesign) (g : Generator) (u : User) (id : String)
    (hold : Bool) : ReportingKeepsResult R g u id hold where
  missing hnone := by
    have hs := Redesign.snapshot_of_get_none hnone
    exact ⟨Redesign.start_of_snapshot_error hs, Redesign.trigger_of_snapshot_error hs⟩
  best_effort hp em hem := by
    -- both steps look the resource up in the same store, and neither report fails
    have hsame : ({ R with emitter := em }).snapshot id = R.snapshot id := rfl
    refine ⟨?_, ?_, (Redesign.trigger_jobs_of_emitter em).symm⟩
    · cases hs : R.snapshot id with
      | error e =>
          rw [Redesign.start_of_snapshot_error hs, Redesign.start_of_snapshot_error (hsame.trans hs)]
      | ok s =>
          rw [Redesign.start_result_of_report hs (Emitter.track_failure_of_bestEffort hp),
            Redesign.start_result_of_report (hsame.trans hs) hem.track_failure]
    · cases hs : R.snapshot id with
      | error e =>
          rw [Redesign.trigger_of_snapshot_error hs,
            Redesign.trigger_of_snapshot_error (hsame.trans hs)]
      | ok s =>
          rw [Redesign.trigger_result_of_report hs (Emitter.track_failure_of_bestEffort hp),
            Redesign.trigger_result_of_report (hsame.trans hs) hem.track_failure]
  strict_start hp s msg hs := by
    rw [Redesign.start_of_snapshot hs, Redesign.map_reportResult_eq_analytics_iff]
    exact Redesign.report_failure_of_strict hp
  strict_trigger hp s msg hs := by
    rw [Redesign.trigger_of_snapshot hs, Redesign.map_reportResult_eq_analytics_iff]
    exact Redesign.report_failure_of_strict hp
  orphan_job msg h := by
    -- an analytics failure comes from the report, so the resource was found
    cases hs : R.snapshot id with
    | error e =>
        rw [Redesign.trigger_of_snapshot_error hs] at h
        cases h
        exact absurd hs (Redesign.snapshot_ne_analytics msg)
    | ok s => exact Redesign.trigger_jobs_of_snapshot hs
  finalize em _ := ⟨Server.callTool_finalize_reply_of_emitter em, Server.callTool_finalize_state,
    Server.callTool_finalize_recorded⟩
  billing_first _ _ _ _ h := Emitter.track_of_plan_error h
  event plan subject _ extra h :=
    ⟨_, Emitter.attempt_of_plan h, eventProperties_spec subject plan extra⟩

end MonolithSplit

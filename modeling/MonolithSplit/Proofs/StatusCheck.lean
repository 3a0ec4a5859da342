import Mathlib
import MonolithSplit.Proofs.JobRuns
import MonolithSplit.Redesign

/-!
# A status check across two reads

A status check reads a job's metadata and then its lifecycle, each read under the store's lock
on its own, so the job's task may write between them. The report takes its status from the
second read and its generated text from the first.

`completed_report_text` says exactly what a report that says completed carries: the generator's
text when the job had completed by the metadata read, and no text when it had not, that is, when
the task's finish write landed between the two reads. Collecting such a report reads the empty
text, which is no recommendation, whatever the generator returned
(`collect_reads_empty_text_between_reads`).
-/

namespace MonolithSplit.Jobs

open MonolithSplit.Generation MonolithSplit.Proposal

/-! ## What a completed report carries -/

/-- A status check whose metadata read sees a runtime reached by `acts`, and whose lifecycle read
sees a runtime reached from it by any further actions `mid` (the job's own task writes among
them), reports the job completed only for a job submitted with user input whose generator
returned a text. The report names the job's resource, and it carries that text exactly when the
job had completed by the metadata read: when the finish write lands between the two reads, the
report says completed and carries no text. -/
theorem completed_report_text (g : Generator) (sp idGroup : String) {acts mid : List Action}
    {rt₁ rt₂ : Runtime} (h₁ : (Runtime.init idGroup).run g sp acts = some rt₁)
    (h₂ : rt₁.run g sp mid = some rt₂) {id : String} {rep : StatusReport}
    (hrep : StatusReport.ofReads (rt₁.store.metadata id) (rt₂.store.lifecycle id) = .ok rep)
    (hc : rep.status = .completed) :
    ∃ ps u r input text, Action.submit id ps u r ∈ acts ∧ userInput ps = some input ∧
      (g sp input).outcome = .ok text ∧ rep.originalResourceId = r ∧
      ((rep.rawMetadata = some text ∧ rt₁.store.lifecycle id = .ok .completed) ∨
        (rep.rawMetadata = none ∧ rt₁.store.lifecycle id ≠ .ok .completed)) := by
  obtain ⟨md, lc, hm, hl, rfl⟩ := StatusReport.ofReads_eq_ok_iff.mp hrep
  obtain ⟨rec₁, hf₁, rfl⟩ := JobStore.metadata_eq_ok_iff.mp hm
  obtain ⟨rec₂, hf₂, rfl⟩ := JobStore.lifecycle_eq_ok_iff.mp hl
  have hinv₁ : RunInv g sp acts rt₁ := RunInv.of_init_run h₁
  have hinv₂ : RunInv g sp (acts ++ mid) rt₂ := hinv₁.run h₂
  obtain ⟨ps, u, r, hsub⟩ := hinv₁.submitted_of_find? hf₁
  -- by the lifecycle read the job has completed, with the generator's text
  obtain ⟨rec₂', hf₂', -, -, -, -, hraw₂, htext₂, -, -⟩ :=
    (hinv₂.holds id ps u r (List.mem_append_left _ hsub)).shows
  obtain rfl : rec₂' = rec₂ := Option.some.inj (hf₂'.symm.trans hf₂)
  have hdone : rec₂'.handle.lifecycle = .completed := (Lifecycle.status_eq_completed_iff _).mp hc
  obtain ⟨text, htext⟩ := Option.isSome_iff_exists.mp (hraw₂.mpr hdone)
  obtain ⟨input, hin, hout⟩ := htext₂ text htext
  -- what the metadata read saw of the same job
  obtain ⟨rec₁', hf₁', -, -, hres, -, hraw₁, htext₁, -, -⟩ := (hinv₁.holds id ps u r hsub).shows
  obtain rfl : rec₁' = rec₁ := Option.some.inj (hf₁'.symm.trans hf₁)
  have hlc : rt₁.store.lifecycle id = .ok rec₁'.handle.lifecycle :=
    JobStore.lifecycle_eq_ok_iff.mpr ⟨rec₁', hf₁, rfl⟩
  refine ⟨ps, u, r, input, text, hsub, hin, hout, hres, ?_⟩
  rw [hlc]
  by_cases hc₁ : rec₁'.handle.lifecycle = .completed
  · -- completed by the metadata read: the text there is the same generator's
    left
    obtain ⟨text₁, ht₁⟩ := Option.isSome_iff_exists.mp (hraw₁.mpr hc₁)
    obtain ⟨input₁, hin₁, hout₁⟩ := htext₁ text₁ ht₁
    obtain rfl : input₁ = input := Option.some.inj (hin₁.symm.trans hin)
    obtain rfl : text = text₁ := by simpa [hout] using hout₁
    exact ⟨ht₁, by rw [hc₁]⟩
  · right
    refine ⟨Option.not_isSome_iff_eq_none.mp fun h => hc₁ (hraw₁.mp h), ?_⟩
    simpa using hc₁

/-- The finish write landing between the two reads, for a job whose generator returns a
recommendation. -/
theorem completed_report_text_between_reads :
    ∃ rt₁ rt₂ rep,
      (Runtime.init "g").run (fun _ _ => .answers "\x7b\"microservices\":[]\x7d") "sp"
          [.submit "j" [⟨userInputParam, "x"⟩] "u" "r", .start "j"] = some rt₁ ∧
        rt₁.run (fun _ _ => .answers "\x7b\"microservices\":[]\x7d") "sp" [.finish "j"] = some rt₂ ∧
        StatusReport.ofReads (rt₁.store.metadata "j") (rt₂.store.lifecycle "j") = .ok rep ∧
        rep.status = .completed ∧
        ∃ ps u r input text,
          Action.submit "j" ps u r ∈
            [.submit "j" [⟨userInputParam, "x"⟩] "u" "r", .start "j"] ∧
          userInput ps = some input ∧
          ((fun _ _ => .answers "\x7b\"microservices\":[]\x7d" : Generator) "sp" input).outcome =
            .ok text ∧
          rep.originalResourceId = r ∧
          ((rep.rawMetadata = some text ∧ rt₁.store.lifecycle "j" = .ok .completed) ∨
            (rep.rawMetadata = none ∧ rt₁.store.lifecycle "j" ≠ .ok .completed)) := by
  refine ⟨_, _, ⟨.completed, "r", none⟩, rfl, rfl, rfl, rfl, ?_⟩
  exact @completed_report_text (fun _ _ => .answers "\x7b\"microservices\":[]\x7d") "sp" "g"
    _ [.finish "j"] _ _ rfl rfl "j" _ rfl rfl

/-- The finish write landing between the two reads of a status check: the job's generator
returns a text that reads as a recommendation, the report says completed with no text, and
collecting it fails on the empty text, whatever the redesign's state. -/
theorem collect_reads_empty_text_between_reads :
    ∃ rt₁ rt₂ rec,
      (Runtime.init "g").run (fun _ _ => .answers "\x7b\"microservices\":[]\x7d") "sp"
          [.submit "j" [⟨userInputParam, "x"⟩] "u" "r", .start "j"] = some rt₁ ∧
        rt₁.run (fun _ _ => .answers "\x7b\"microservices\":[]\x7d") "sp" [.finish "j"] = some rt₂ ∧
        Recommendation.read "\x7b\"microservices\":[]\x7d" = .ok rec ∧
        StatusReport.ofReads (rt₁.store.metadata "j") (rt₂.store.lifecycle "j") =
          .ok ⟨.completed, "r", none⟩ ∧
        ∀ R : Redesign, ∃ e,
          R.collect (StatusReport.ofReads (rt₁.store.metadata "j") (rt₂.store.lifecycle "j")) =
            .error (.badFormat "" e) :=
  ⟨_, _, _, rfl, rfl, by cbv, rfl, fun _ => ⟨_, rfl⟩⟩

end MonolithSplit.Jobs

import Mathlib.Data.List.Nodup
import ShelterLine.Proofs.Document
import ShelterLine.Proofs.Shown
import ShelterLine.Proofs.Told

/-!
# What a model says is bounded and labelled

A model may answer anything at any time, or nothing. What comes of its answers is cut to size
before anybody sees or hears it, and a script says whether a model wrote it. The label is
kept with the script: an attempt that names the model has a script that the model was asked
for in this attempt's name and with this job's context, and any other script is the one that
needs no model, word for word.

A reply in a conversation is tested before it is spoken, and loses the characters that have a
meaning in markup only after that. So it can be a reply of the model, and nothing be heard of it.
-/

namespace ShelterLine

/-! ## Scripts and replies -/

/-- What is spoken of a reply. -/
def SpokenReply.heard (r : SpokenReply) : List Char := Markup.strip r.text.toList

/-- The reply is of a bounded length and was not blank when it was tested. Nothing is heard of it if
it has only characters with a meaning in markup beside blanks, and then alone. -/
structure SpokenReply.IsFit (r : SpokenReply) : Prop where
  notBlank : Text.isBlankText r.text.toList = false
  length : r.text.length ≤ 500
  heardLength : r.heard.length ≤ 500
  heardBlank : Text.isBlankText r.heard = true ↔
    ∀ c ∈ r.text.toList, Text.isBlank c = false → Markup.isSpecial c = true

theorem SpokenReply.isFit_of_text {r : SpokenReply}
    (hblank : Text.isBlankText r.text.toList = false) (hlength : r.text.length ≤ 500) :
    r.IsFit where
  notBlank := hblank
  length := hlength
  heardLength := (List.length_filter_le ..).trans hlength
  heardBlank := by
    unfold heard Markup.strip Text.isBlankText
    rw [List.all_filter, List.all_eq_true]
    refine forall₂_congr fun c _ => ?_
    cases Text.isBlank c <;> cases Markup.isSpecial c <;> decide

namespace Markup

/-- The document of a turn in which this is heard. -/
def turn (heardText : List Char) (gatherUrl : Option String) (endCall : Bool) : Markup :=
  match gatherUrl, endCall with
  | some url, false => element "Response" []
    [listening url [heard heardText], heard "We did not catch that. Goodbye.".toList]
  | _, _ => element "Response" [] [heard heardText, element "Hangup" [] []]

theorem followUp_readsAs (reply : String) (url : Option String) (endCall : Bool) :
    (followUp reply url endCall).ReadsAs (turn (strip reply.toList) url endCall) := by
  cases url with
  | none => exact (followUp_parsesAs_hangup reply (Or.inl rfl)).toReadsAs
  | some url =>
    cases endCall with
    | true => exact (followUp_parsesAs_hangup reply (Or.inr rfl)).toReadsAs
    | false => exact (followUp_parsesAs_gather reply url).toReadsAs

end Markup

namespace Script

theorem length_sanitize_le (raw : String) : (sanitize raw).length ≤ 1400 := by
  unfold sanitize sanitizeChars
  rw [String.length_ofList, List.length_take]
  exact Nat.min_le_left ..

/-- A script is what is left of the model's answer, if anything is, or it needs no model. -/
theorem scriptFrom_cases (i : Input) (answer : Option String) :
    scriptFrom i answer = ⟨fallback i, .fallback⟩ ∨
    ∃ text, answer = some text ∧ sanitize text ≠ "" ∧
      scriptFrom i answer = ⟨sanitize text, .ai⟩ := by
  unfold scriptFrom
  cases answer with
  | none => exact Or.inl rfl
  | some text =>
    dsimp only [Option.map_some]
    by_cases hempty : sanitize text = ""
    · rw [if_pos hempty]
      exact Or.inl rfl
    · rw [if_neg hempty]
      exact Or.inr ⟨text, rfl, hempty, rfl⟩

/-- Of a text that begins with no blank the beginning is not blank. -/
theorem isBlankText_take {cs : List Char} (hne : cs ≠ []) (hstart : Text.StartsPlain cs) {n : Nat}
    (hn : 0 < n) : Text.isBlankText (cs.take n) = false := by
  obtain ⟨c, cs, rfl⟩ := List.exists_cons_of_ne_nil hne
  obtain ⟨n, rfl⟩ := Nat.exists_eq_succ_of_ne_zero (Nat.ne_of_gt hn)
  refine List.all_eq_false.2 ⟨c, List.mem_cons_self, ?_⟩
  rw [hstart c rfl]
  exact Bool.false_ne_true

theorem replyFrom_isFit {c : Conversation} {answer : Option String}
    (h : (replyFrom c answer).source = .ai) : SpokenReply.IsFit (replyFrom c answer).value := by
  unfold replyFrom at h ⊢
  dsimp only at h ⊢
  split
  · rename_i r hr
    rw [hr] at h
    dsimp only at h
    split
    · rename_i hblank
      rw [if_pos hblank] at h
      cases h
    · rename_i hne
      refine SpokenReply.isFit_of_text ?_ ?_
      · rw [String.toList_ofList]
        exact isBlankText_take hne (Text.startsPlain_trim _) (by decide)
      · rw [String.length_ofList, List.length_take]
        exact Nat.min_le_left ..
  · rename_i hother
    split at h
    · rename_i r hr
      exact absurd hr (hother r)
    · cases h

end Script

/-! ## Attempts -/

/-- What an attempt says of its script is true, and what it keeps of a transcript is
of a bounded size. -/
structure Attempt.Honest (answers : ChatRequest → String → Prop) (i : Script.Input) (a : Attempt) :
    Prop where
  ai : a.scriptSource = some .ai → ∃ text, answers (Script.scriptRequest i) text ∧
    a.script = some (Script.sanitize text) ∧ 1 ≤ (Script.sanitize text).length ∧
      (Script.sanitize text).length ≤ 1400
  fallback : a.scriptSource = some .fallback → a.script = some (Script.fallback i)
  unlabelled : a.scriptSource = none → a.script = none
  report : ∀ r, a.report = some r → r.IsBounded
  excerpt : ∀ text, a.excerpt = some text → text.length ≤ 500

/-- All attempts of a job are honest. -/
def Job.Honest (answers : ChatRequest → String → Prop) (j : Job) : Prop :=
  ∀ a ∈ j.attempts, a.Honest answers (j.scriptInput a)

variable {answers answers' : ChatRequest → String → Prop} {i : Script.Input} {a : Attempt}
  {p : Attempt.Patch} {j job : Job}

theorem Job.Honest.mono (h : j.Honest answers) (hsub : ∀ r text, answers r text → answers' r text) :
    j.Honest answers' := by
  intro a ha
  obtain ⟨hai, hfallback, hunlabelled, hreport, hexcerpt⟩ := h a ha
  refine ⟨fun hsource => ?_, hfallback, hunlabelled, hreport, hexcerpt⟩
  obtain ⟨text, hanswer, hscript⟩ := hai hsource
  exact ⟨text, hsub _ text hanswer, hscript⟩

theorem Attempt.Honest.of_report (h : a.Honest answers i) (hp : p.IsReport) (now : Instant) :
    (a.apply now p).Honest answers i := by
  have hscript : (a.apply now p).script = a.script := by
    rw [Attempt.apply_script, hp.script, Option.none_or]
  have hsource : (a.apply now p).scriptSource = a.scriptSource := by
    rw [Attempt.apply_scriptSource, hp.scriptSource, Option.none_or]
  refine ⟨?_, ?_, ?_, fun r hr => ?_, fun text htext => ?_⟩
  · rw [hscript, hsource]
    exact h.ai
  · rw [hscript, hsource]
    exact h.fallback
  · rw [hscript, hsource]
    exact h.unlabelled
  · exact (Option.or_eq_some_iff.1 hr).elim (hp.report r) fun hr => h.report r hr.2
  · exact (Option.or_eq_some_iff.1 htext).elim (hp.excerpt text) fun htext => h.excerpt text htext.2

/-- An attempt is honest once its script is noted with where it came from. -/
theorem Attempt.Honest.of_script (h : a.Honest answers i) {answer : Option String}
    (hanswer : ∀ text, answer = some text → answers (Script.scriptRequest i) text)
    (hscript : p.script = some (Script.scriptFrom i answer).value)
    (hsource : p.scriptSource = some (Script.scriptFrom i answer).source)
    (hexcerpt : p.excerpt = none) (hreport : p.report = none) (now : Instant) :
    (a.apply now p).Honest answers i := by
  have hnewScript : (a.apply now p).script = some (Script.scriptFrom i answer).value := by
    rw [Attempt.apply_script, hscript, Option.some_or]
  have hnewSource : (a.apply now p).scriptSource = some (Script.scriptFrom i answer).source := by
    rw [Attempt.apply_scriptSource, hsource, Option.some_or]
  have hsameReport : (a.apply now p).report = a.report := by
    change p.report.or a.report = a.report
    rw [hreport, Option.none_or]
  have hsameExcerpt : (a.apply now p).excerpt = a.excerpt := by
    change p.excerpt.or a.excerpt = a.excerpt
    rw [hexcerpt, Option.none_or]
  refine ⟨fun hai => ?_, fun hfallback => ?_, fun hnone => ?_, hsameReport ▸ h.report,
    hsameExcerpt ▸ h.excerpt⟩
  · rw [hnewSource, Option.some_inj] at hai
    rw [hnewScript]
    rcases Script.scriptFrom_cases i answer with hfrom | ⟨text, htext, hne, hfrom⟩
    · rw [hfrom] at hai
      cases hai
    · rw [hfrom]
      exact ⟨text, hanswer text htext, rfl, Script.one_le_length hne,
        Script.length_sanitize_le text⟩
  · rw [hnewSource, Option.some_inj] at hfallback
    rw [hnewScript]
    rcases Script.scriptFrom_cases i answer with hfrom | ⟨text, -, -, hfrom⟩
    · rw [hfrom]
    · rw [hfrom] at hfallback
      cases hfallback
  · rw [hnewSource] at hnone
    cases hnone

/-- Reports and the loss of a SID leave a job honest. -/
theorem Job.honest_lasts : Job.Lasts (Job.Honest answers) where
  patch now id p j hp h := by
    intro a ha
    rcases mem_modifyAttempt ha with ha | ⟨b, hb, -, rfl⟩
    · exact h a ha
    · exact (h b hb).of_report hp now.attempt
  clearSid id j h := by
    intro a ha
    rcases mem_modifyAttempt ha with ha | ⟨b, hb, -, rfl⟩
    · exact h a ha
    · exact ⟨(h b hb).ai, (h b hb).fallback, (h b hb).unlabelled, (h b hb).report, (h b hb).excerpt⟩

/-- Nothing is said of an attempt that has not been dialed. -/
theorem Job.honest_create (now : Instant) (id : Uuid) (attemptId : Nat → Uuid) (mode : Mode)
    (input : NewJob) (targets : List Target) :
    (create now id attemptId mode input targets).Honest answers := by
  intro a ha
  obtain ⟨n, hn, rfl⟩ := List.mem_mapIdx.1 ha
  refine ⟨fun h => ?_, fun h => ?_, fun _ => rfl, fun r h => ?_, fun text h => ?_⟩ <;> cases h

/-! ## The job that is being dialed -/

/-- If `j` has the identifier of the job, it is for the same request and the same shelters. -/
def Job.IsFor (job j : Job) : Prop :=
  j.id = job.id → j.request = job.request ∧
    j.attempts.map (fun a => (a.id, a.shelterName)) =
      job.attempts.map fun a => (a.id, a.shelterName)

theorem Job.IsFor.patch (h : job.IsFor j) (now : Moment) (id : Uuid) (p : Attempt.Patch) :
    job.IsFor (j.patch now id p) := by
  intro hid
  obtain ⟨hrequest, htargets⟩ := h hid
  refine ⟨hrequest, Eq.trans ?_ htargets⟩
  exact map_key_modifyAttempt (f := Attempt.apply now.attempt p) (fun _ => rfl) id j.attempts

theorem Job.isFor_lasts (job : Job) : Job.Lasts job.IsFor where
  patch now id p j _ h := h.patch now id p
  clearSid id j h := by
    intro hid
    obtain ⟨hrequest, htargets⟩ := h hid
    refine ⟨hrequest, Eq.trans ?_ htargets⟩
    exact map_key_modifyAttempt (f := fun a => { a with sid := none }) (fun _ => rfl) id j.attempts

/-- An attempt of such a job calls the shelter of the attempt that has its identifier in the job. -/
theorem Job.IsFor.shelterName (h : job.IsFor j) (hid : j.id = job.id)
    (hn : (job.attempts.map (·.id)).Nodup) (ha : a ∈ job.attempts) {b : Attempt}
    (hb : b ∈ j.attempts) (hab : b.id = a.id) : b.shelterName = a.shelterName := by
  have hmem : (b.id, b.shelterName) ∈ job.attempts.map fun a => (a.id, a.shelterName) := by
    rw [← (h hid).2]
    exact List.mem_map_of_mem hb
  obtain ⟨c, hc, heq⟩ := List.mem_map.1 hmem
  obtain ⟨hcid, hname⟩ := Prod.mk.inj heq
  rw [← hname, List.inj_on_of_nodup_map hn hc ha (hcid.trans hab)]

namespace Desk

variable {s : Surroundings} {d : Desk} {since : List Effect}

/-- The script that an attempt is dialed with can be noted in it. -/
theorem admits_script (hn : (job.attempts.map (·.id)).Nodup) (ha : a ∈ job.attempts)
    {answer : Option String}
    (hanswer : ∀ text, answer = some text →
      answers (Script.scriptRequest (job.scriptInput a)) text) :
    Admits (fun j => j.Honest answers ∧ job.IsFor j) ⟨job.id, a.id⟩
      (Script.scriptFrom (job.scriptInput a) answer) := by
  rintro now p j hscript hsource hexcerpt hreport hid ⟨hhonest, hfor⟩
  refine ⟨fun b hb => ?_, hfor.patch now a.id p⟩
  rcases Job.mem_modifyAttempt hb with hb | ⟨b, hold, hba, rfl⟩
  · exact hhonest b hb
  · -- the attempt that is patched has the shelter and the context that the script was written for
    have hinput : j.scriptInput b = job.scriptInput a := by
      unfold Job.scriptInput spokenContext
      rw [(hfor hid).1, hfor.shelterName hid hn ha hold hba]
    have hthere := hhonest b hold
    rw [hinput] at hthere
    have hnoted := hthere.of_script hanswer hscript hsource hexcerpt hreport now.attempt
    rw [← hinput] at hnoted
    exact hnoted

/-- What is shown since a time, and before it, is all that is shown. -/
theorem Shows.and_before {P Q : Job → Prop} {d d' : Desk} (h : d'.Shows Q d.trace)
    (hbefore : d.Shows P since) (hQP : ∀ j, Q j → P j) : d'.Shows P since := by
  obtain ⟨own, htrace, hown⟩ := h.told
  obtain ⟨earlier, hearlier, htold⟩ := hbefore.told
  refine ⟨fun j hj => hQP j (h.registered j hj),
    ⟨own ++ earlier, ?_, fun e he j hj => ?_⟩, h.counted⟩
  · rw [htrace, hearlier, List.append_assoc]
  · rcases List.mem_append.1 he with he | he
    · exact hQP j (hown e he j hj)
    · exact htold e he j hj

/-- Dialing attempts of the job leaves everything honest, if what the model answers
meanwhile is allowed for. -/
theorem dialAll_honest (hn : (job.attempts.map (·.id)).Nodup) : ∀ (as : List Attempt) (d : Desk),
    as ⊆ job.attempts → d.Shows (fun j => j.Honest answers ∧ job.IsFor j) since →
    (∀ r text, Answered s d.trace (as.foldl (dial s job) d).trace r text → answers r text) →
      (as.foldl (dial s job) d).Shows (fun j => j.Honest answers ∧ job.IsFor j) since := by
  have hlasts : Job.Lasts fun j => j.Honest answers ∧ job.IsFor j :=
    ⟨fun now id p j hp hj => ⟨Job.honest_lasts.patch now id p j hp hj.1, hj.2.patch now id p⟩,
      fun id j hj => ⟨Job.honest_lasts.clearSid id j hj.1, job.isFor_lasts.clearSid id j hj.2⟩⟩
  intro as
  induction as with
  | nil => exact fun d _ h _ => h
  | cons a as ih =>
    intro d hsub h hanswers
    have hlater : (d.dial s job a).trace <:+ ((a :: as).foldl (dial s job) d).trace :=
      (dialAll_calls s job as (d.dial s job a)).toGrows.suffix
    have hbefore := (dial_calls s job d a).toGrows.suffix
    have hdialed : (d.dial s job a).Shows (fun j => j.Honest answers ∧ job.IsFor j) since := by
      refine dial_shows hlasts h fun script order d₁ hprepare => ?_
      have hprepared := prepare_suffix_dial s job a d
      rw [hprepare] at hprepared
      obtain ⟨answer, rfl, hanswer⟩ := prepare_script h.counted hprepare
      refine admits_script hn (hsub List.mem_cons_self) fun text htext => ?_
      exact hanswers _ _ ((hanswer text htext).mono List.suffix_rfl (hprepared.trans hlater))
    refine ih _ (fun b hb => hsub (List.mem_cons_of_mem a hb)) hdialed fun r text hanswered => ?_
    exact hanswers r text (hanswered.mono hbefore List.suffix_rfl)

/-- Dialing a job that was registered leaves everything honest. -/
theorem dialJob_honest (h : d.Shows (Job.Honest answers) since)
    (hfor : ∀ j ∈ d.jobs.jobs, job.IsFor j) (hn : (job.attempts.map (·.id)).Nodup)
    (hanswers : ∀ r text, Answered s d.trace (job.attempts.foldl (dial s job) d).trace r text →
      answers r text) : (job.attempts.foldl (dial s job) d).Shows (Job.Honest answers) since := by
  have hstart : d.Shows (fun j => j.Honest answers ∧ job.IsFor j) d.trace :=
    ⟨fun j hj => ⟨h.registered j hj, hfor j hj⟩, ⟨[], rfl, List.forall_mem_nil _⟩, h.counted⟩
  have hend := dialAll_honest hn job.attempts d (List.Subset.refl _) hstart hanswers
  exact hend.and_before h fun _ hj => hj.1

theorem startJob_honest (h : d.Shows (Job.Honest answers) since) {r : StartJob}
    (hn : ((List.range r.targets.length).map (s.newAttempt d.made.jobs)).Nodup)
    (hanswers : ∀ q text, Answered s d.trace (d.startJob s r).2.trace q text → answers q text) :
    (d.startJob s r).2.Shows (Job.Honest answers) since := by
  rcases startJob_course s r d with
    ⟨refusal, hcourse, -⟩ | ⟨job, d₁, verdict, d₂, -, -, hmake, hask, hcourse⟩
  · rw [hcourse]
    exact h
  · have hconsult := consult_silent s (Risk.assess r.survivorContext) r.approved
      r.mode.isLive .callJob job.id.toString d₁
    rw [hask] at hconsult
    obtain ⟨hjob, rfl⟩ := Prod.mk.inj hmake
    have hcounted : Silent d d.counted := .change rfl
    have hsilent := hcounted.trans hconsult
    have hasked := hsilent.shows h
    rcases hcourse with ⟨denial, -, hcourse⟩ | ⟨-, d₃, rfl, hcourse⟩
    · rw [hcourse]
      exact hasked
    · have hnew : job.Honest answers := by
        rw [← hjob]
        exact Job.honest_create _ _ _ _ _ _
      have hids : (job.attempts.map (·.id)).Nodup := by
        rw [← hjob]
        exact (Job.create_ids ..).symm ▸ hn
      obtain ⟨own, htrace, -⟩ := hsilent.trace
      have hbefore : d.trace <:+ ({ d₂ with jobs := d₂.jobs.insert job }.jobChanged job).trace :=
        (List.suffix_append own d.trace).trans (htrace ▸ List.suffix_append [_, _] d₂.trace)
      rw [hcourse] at hanswers ⊢
      refine dialJob_honest ?_ (fun j hj => ?_) hids fun q text hanswered =>
        hanswers q text (hanswered.mono hbefore List.suffix_rfl)
      · exact hasked.jobChanged ⟨hnew, JobRegister.forall_insert hasked.registered hnew⟩
      · rcases List.mem_cons.1 hj with rfl | hj
        · exact fun _ => ⟨rfl, rfl⟩
        · -- a job that was there before has another identifier
          intro hid
          exact absurd hid (by simpa using (List.mem_filter.1 hj).2)

/-! ## Runs -/

/-- The attempts of one job get different identifiers: what `FreshIds` says of attempts. -/
def DistinctAttempts (ops : List (Surroundings × Operation)) : Prop :=
  ∀ p ∈ ops, ∀ r, p.2 = .startJob r → ∀ n < ops.length,
    ((List.range r.targets.length).map (p.1.newAttempt n)).Nodup

/-- In an operation of the run the model is asked this, and gives this text for an answer. -/
def Answers (c : SafetyConfig) (ops : List (Surroundings × Operation)) (r : ChatRequest)
    (text : String) : Prop :=
  ∃ before s op after, ops = before ++ (s, op) :: after ∧
    Answered s ((ofConfig c).run before).trace ((ofConfig c).run (before ++ [(s, op)])).trace r text

variable {c : SafetyConfig} {ops : List (Surroundings × Operation)}

/-- Whatever the model answers, everything that is shown in a run is honest. -/
theorem run_honest (hdistinct : DistinctAttempts ops) (hmemory : Unrestored ops) :
    ((ofConfig c).run ops).Shows (Job.Honest (Answers c ops)) [] := by
  induction ops using List.reverseRecOn with
  | nil => exact ⟨fun j hj => absurd hj List.not_mem_nil, ⟨[], rfl, List.forall_mem_nil _⟩, rfl⟩
  | append_singleton ops last ih =>
    obtain ⟨s, op⟩ := last
    have hmem : (s, op) ∈ ops ++ [(s, op)] := List.mem_append_right _ (List.mem_singleton_self _)
    have hlength : (ops ++ [(s, op)]).length = ops.length + 1 := List.length_append
    have hbefore : ((ofConfig c).run ops).Shows (Job.Honest (Answers c (ops ++ [(s, op)]))) [] := by
      have hshows := ih
        (fun p hp r hr n hn => hdistinct p (List.mem_append_left _ hp) r hr n (by omega))
        hmemory.left
      refine hshows.mono fun j hj => hj.mono fun r text => ?_
      rintro ⟨before, s', op', after, rfl, hanswered⟩
      exact ⟨before, s', op', after ++ [(s, op)], by simp, hanswered⟩
    by_cases hjob : ∃ r, op = .startJob r
    · obtain ⟨r, rfl⟩ := hjob
      -- a run makes no more jobs than it has operations
      have hmade := run_jobsMade (ofConfig c) ops
      have hzero : (ofConfig c).made.jobs = 0 := rfl
      have hids := hdistinct _ hmem r rfl ((ofConfig c).run ops).made.jobs (by omega)
      have hstarted := startJob_honest hbefore hids fun q text hanswered =>
        (⟨ops, s, .startJob r, [], rfl, by rw [run_concat]; exact hanswered⟩ :
          Answers c (ops ++ [(s, .startJob r)]) q text)
      rw [run_concat]
      exact hstarted
    · rw [run_concat]
      exact perform_shows Job.honest_lasts hbefore (fun r hr => hjob ⟨r, hr⟩) (hmemory _ hmem)

/-! ## Turns -/

/-- The reply of a turn, if the attempt is there. -/
def replyIn (s : Surroundings) (ref : AttemptRef) (speech : Option String) (d : Desk) :
    Option (Script.Sourced SpokenReply) :=
  (d.jobs.attempt? ref).map fun (j, a) =>
    let conversation : Script.Conversation :=
      { input := j.scriptInput a, history := history a speech }
    Script.replyFrom conversation (d.ask s (Script.replyRequest conversation)).1

/-- What is said in a turn with this reply. -/
def spoken (s : Surroundings) (ref : AttemptRef) : Option (Script.Sourced SpokenReply) → Markup
  | some reply => .followUp reply.value.text (gatherUrl s ref) reply.value.endCall
  | none => farewell

theorem gather_eq_spoken (s : Surroundings) (ref : AttemptRef) (speech : Option String) (d : Desk) :
    (d.gather s ref speech).1 = spoken s ref (d.replyIn s ref speech) := by
  unfold gather replyIn
  cases d.jobs.attempt? ref <;> rfl

theorem isFit_of_replyIn {ref : AttemptRef} {speech : Option String}
    {reply : Script.Sourced SpokenReply} (h : d.replyIn s ref speech = some reply)
    (hai : reply.source = .ai) : reply.value.IsFit := by
  obtain ⟨found, -, rfl⟩ := Option.map_eq_some_iff.1 h
  exact Script.replyFrom_isFit hai

/-- What is heard of the reply is heard in the document that answers the turn. -/
theorem gather_readsAs {ref : AttemptRef} {speech : Option String}
    {reply : Script.Sourced SpokenReply} (h : d.replyIn s ref speech = some reply) :
    (d.gather s ref speech).1.ReadsAs
      (Markup.turn reply.value.heard (gatherUrl s ref) reply.value.endCall) := by
  rw [gather_eq_spoken, h]
  exact Markup.followUp_readsAs ..

/-- **What a model says is bounded, and labelled as it should be**, whatever it answers and
whenever: every attempt that is registered, and every attempt that was ever kept or published, is
honest about its script and has a transcript of a bounded size. A turn says what is left of its
reply, and a reply of the model is not blank and not too long. Nothing is left of it exactly if it
has nothing but blanks and characters with a meaning in markup. -/
theorem model_output_honest (c : SafetyConfig) {ops : List (Surroundings × Operation)}
    (hdistinct : DistinctAttempts ops) (hmemory : Unrestored ops) :
    (∀ j ∈ ((ofConfig c).run ops).jobs.jobs, j.Honest (Answers c ops)) ∧
    (∀ e ∈ ((ofConfig c).run ops).trace, ∀ j ∈ e.jobs, j.Honest (Answers c ops)) ∧
    ∀ s ref speech,
      (((ofConfig c).run ops).gather s ref speech).1 =
        spoken s ref (((ofConfig c).run ops).replyIn s ref speech) ∧
      ∀ reply, ((ofConfig c).run ops).replyIn s ref speech = some reply →
        (((ofConfig c).run ops).gather s ref speech).1.ReadsAs
          (Markup.turn reply.value.heard (gatherUrl s ref) reply.value.endCall) ∧
        (reply.source = .ai → reply.value.IsFit) := by
  have hrun := run_honest (c := c) hdistinct hmemory
  obtain ⟨own, htrace, hown⟩ := hrun.told
  rw [List.append_nil] at htrace
  refine ⟨hrun.registered, fun e he => hown e (htrace ▸ he), fun s ref speech => ?_⟩
  exact ⟨gather_eq_spoken s ref speech _, fun reply hreply =>
    ⟨gather_readsAs hreply, isFit_of_replyIn hreply⟩⟩

/-- Surroundings with a model that answers the first question with a script, and the
next not at all. -/
def fickle : Surroundings :=
  { Surroundings.calm with
    answer := some fun n r =>
      if r.jsonMode then some "\x7b\"reply\": \" Thank you. \", \"shouldEndCall\": true\x7d"
      else if n = 0 then some "**Hello!**  Is this intake?" else none }

/-- Calls to two shelters, and what was said at the first of them. -/
def fickleRun : List (Surroundings × Operation) :=
  [(fickle, .startJob bothShelters), (fickle, .transcript "CA0" "We have a bed.")]

/-- The first attempt has the script of the model and a report, and the second has the
other script. -/
theorem model_output_honest_fickle : DistinctAttempts fickleRun ∧ Unrestored fickleRun ∧
    (∃ j ∈ ((ofConfig {}).run fickleRun).jobs.jobs, j.Honest (Answers {} fickleRun) ∧
      j.attempts.map (·.scriptSource) = [some .ai, some .fallback] ∧
      j.attempts.map (fun a => a.report.isSome) = [true, false]) ∧
    ∃ reply, ((ofConfig {}).run fickleRun).replyIn fickle ⟨.ofNat 0, .ofNat 0⟩
      (some "Hello?") = some reply ∧ reply.source = .ai ∧ reply.value.IsFit := by
  have hdistinct : DistinctAttempts fickleRun := by
    intro p hp r hr n hn
    rcases List.mem_cons.1 hp with rfl | hp
    · obtain rfl := Operation.startJob.inj hr
      change ((List.range 2).map Uuid.ofNat).Nodup
      decide
    · rw [List.mem_singleton.1 hp] at hr
      cases hr
  have hmemory : Unrestored fickleRun := by
    intro p hp stored
    rcases List.mem_cons.1 hp with rfl | hp
    · simp
    · simp [List.mem_singleton.1 hp]
  have hsources : ∀ j ∈ ((ofConfig {}).run fickleRun).jobs.jobs,
      j.attempts.map (·.scriptSource) = [some .ai, some .fallback] ∧
      j.attempts.map (fun a => a.report.isSome) = [true, false] := by decide +kernel
  have hone : ((ofConfig {}).run fickleRun).jobs.jobs.length = 1 := by decide +kernel
  have hreply : (((ofConfig {}).run fickleRun).replyIn fickle ⟨.ofNat 0, .ofNat 0⟩
      (some "Hello?")).map (·.source) = some .ai := by decide +kernel
  obtain ⟨hjobs, -, hturns⟩ := model_output_honest {} hdistinct hmemory
  obtain ⟨j, hj⟩ := List.length_eq_one_iff.1 hone
  have hmem : j ∈ ((ofConfig {}).run fickleRun).jobs.jobs := hj ▸ List.mem_singleton_self j
  obtain ⟨reply, hreply, hsource⟩ := Option.map_eq_some_iff.1 hreply
  exact ⟨hdistinct, hmemory, ⟨j, hmem, hjobs j hmem, hsources j hmem⟩, reply, hreply, hsource,
    ((hturns _ _ _).2 reply hreply).2 hsource⟩

/-- Surroundings with a model whose replies are made of what cannot be spoken. -/
def garbled : Surroundings :=
  { Surroundings.calm with
    answer := some fun _ r => if r.jsonMode then some "\x7b\"reply\": \"<>\"\x7d" else none }

/-- **Nothing may be heard of a reply of the model.** The reply is not blank when it is tested, and
is named the model's; the document that answers the turn has an empty sentence. -/
theorem model_reply_unheard :
    ∃ reply, ((ofConfig {}).run [(garbled, .startJob bothShelters)]).replyIn garbled
        ⟨.ofNat 0, .ofNat 0⟩ (some "Hello?") = some reply ∧
      reply.source = .ai ∧ Text.isBlankText reply.value.heard = true ∧
      (((ofConfig {}).run [(garbled, .startJob bothShelters)]).gather garbled
        ⟨.ofNat 0, .ofNat 0⟩ (some "Hello?")).1.toString =
          "<Response><Say></Say><Hangup/></Response>" := by
  have hreply : (((ofConfig {}).run [(garbled, .startJob bothShelters)]).replyIn garbled
      ⟨.ofNat 0, .ofNat 0⟩ (some "Hello?")).map (fun reply =>
        (reply.source, Text.isBlankText reply.value.heard)) = some (.ai, true) := by decide +kernel
  obtain ⟨reply, hreply, hfound⟩ := Option.map_eq_some_iff.1 hreply
  obtain ⟨hsource, hblank⟩ := Prod.mk.inj hfound
  exact ⟨reply, hreply, hsource, hblank, by decide +kernel⟩

end Desk

end ShelterLine

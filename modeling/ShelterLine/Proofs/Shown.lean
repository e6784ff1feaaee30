import ShelterLine.Proofs.Aggregate
import ShelterLine.Proofs.Unanswered

/-!
# What holds of every job that is shown

A job is seen in the register, and in the records that are kept and the events that are published
whenever it changes. What the provider reports changes an attempt by patches of one kind: they leave
the script alone. So whatever such patches keep holds of every job that is ever seen, however the
calls go on, if it holds of new jobs and of those whose calls are settled.
-/

namespace ShelterLine

/-! ## Reports -/

/-- A report is of a bounded size. -/
structure IntakeReport.IsBounded (r : IntakeReport) : Prop where
  requirements : r.requirements.length ≤ 10
  summary : 1 ≤ r.summary.length ∧ r.summary.length ≤ 500

/-- The patch says nothing of a script, and what it says of a transcript is of a bounded size. -/
structure Attempt.Patch.IsReport (p : Attempt.Patch) : Prop where
  script : p.script = none
  scriptSource : p.scriptSource = none
  excerpt : ∀ text, p.excerpt = some text → text.length ≤ 500
  report : ∀ r, p.report = some r → r.IsBounded

/-- What reports and the loss of a SID keep. -/
structure Job.Lasts (P : Job → Prop) : Prop where
  patch : ∀ now id p j, p.IsReport → P j → P (j.patch now id p)
  clearSid : ∀ id j, P j → P (j.clearSid id)

/-- A patch without a script and a transcript is a report. -/
theorem Attempt.Patch.IsReport.of_none {p : Attempt.Patch} (hscript : p.script = none)
    (hsource : p.scriptSource = none) (hexcerpt : p.excerpt = none) (hreport : p.report = none) :
    p.IsReport := by
  refine ⟨hscript, hsource, fun text h => ?_, fun r h => ?_⟩
  · rw [hexcerpt] at h
    cases h
  · rw [hreport] at h
    cases h

/-- What the script of an attempt is written for: the shelter's name, the context of the job, which
is redacted if the job is anonymous, and the number to call back. -/
def Job.scriptInput (j : Job) (a : Attempt) : Script.Input :=
  ⟨a.shelterName, Desk.spokenContext j, j.request.callbackNumber⟩

namespace Script

open Json

theorem length_takeChars (n : Nat) (s : String) : (takeChars n s).length = min n s.length := by
  unfold takeChars
  rw [String.length_ofList, List.length_take, String.length_toList]

theorem one_le_length {s : String} (h : s ≠ "") : 1 ≤ s.length := by
  rw [Nat.one_le_iff_ne_zero]
  intro hzero
  exact h (String.length_eq_zero_iff.1 hzero)

/-- However a model answers, its report gets a summary and not too many requirements. -/
theorem normalizeReport_isBounded (v : Json) : (normalizeReport v).IsBounded := by
  constructor
  · unfold normalizeReport
    dsimp only
    split
    · rw [List.length_map, List.length_take]
      exact Nat.min_le_left ..
    · exact Nat.zero_le _
  · have hdefault : 1 ≤ normalizeReport.noSummary.length ∧
        normalizeReport.noSummary.length ≤ 500 := by
      decide
    unfold normalizeReport
    dsimp only
    split
    · rename_i text _
      split
      · exact hdefault
      · rename_i hne
        have hlength := one_le_length hne
        rw [length_takeChars]
        unfold maxSummary
        omega
    · exact hdefault

/-- There are four requirements and three summaries. -/
theorem phraseReport_isBounded (transcript : String) : (phraseReport transcript).IsBounded := by
  constructor
  · unfold phraseReport
    dsimp only
    rw [List.length_map]
    have hall := List.length_filter_le (fun r => r.1 (Text.lower transcript.toList))
      requirementRules
    have hrules : requirementRules.length = 4 := rfl
    omega
  · unfold phraseReport
    dsimp only
    generalize phraseAvailability _ = availability
    cases availability <;> decide

theorem reportFrom_isBounded (transcript : String) (answer : Option String) :
    (reportFrom transcript answer).value.IsBounded := by
  unfold reportFrom
  split
  · exact normalizeReport_isBounded _
  · exact phraseReport_isBounded transcript

end Script

namespace Desk

variable {P : Job → Prop} {since : List Effect} {s : Surroundings} {d d' d'' : Desk}

/-! ## What is shown of a desk -/

/-- As many questions are counted as stand in the trace. -/
def Counted (d : Desk) : Prop := d.made.questions = d.trace.countP (·.isQuestion)

theorem Counted.note (h : d.Counted) {e : Effect} (he : e.isQuestion = false) :
    (d.note e).Counted := by
  show d.made.questions = (e :: d.trace).countP (·.isQuestion)
  rw [List.countP_cons, he, h]
  rfl

/-- `P` holds of every job that is registered, and of every job that was kept or
published since then. -/
structure Shows (P : Job → Prop) (since : List Effect) (d : Desk) : Prop where
  registered : ∀ j ∈ d.jobs.jobs, P j
  told : ∃ own, d.trace = own ++ since ∧ ∀ e ∈ own, ∀ j ∈ e.jobs, P j
  counted : d.Counted

theorem Shows.mono {Q : Job → Prop} (h : d.Shows P since) (hPQ : ∀ j, P j → Q j) :
    d.Shows Q since := by
  obtain ⟨own, htrace, hown⟩ := h.told
  exact ⟨fun j hj => hPQ j (h.registered j hj),
    ⟨own, htrace, fun e he j hj => hPQ j (hown e he j hj)⟩, h.counted⟩

theorem Shows.note (h : d.Shows P since) {e : Effect} (he : ∀ j ∈ e.jobs, P j)
    (hquestion : e.isQuestion = false) : (d.note e).Shows P since := by
  obtain ⟨own, htrace, hown⟩ := h.told
  refine ⟨h.registered, ⟨e :: own, congrArg (e :: ·) htrace, fun e' he' => ?_⟩,
    h.counted.note hquestion⟩
  rcases List.mem_cons.1 he' with rfl | he'
  · exact he
  · exact hown e' he'

theorem Shows.jobChanged (h : d.Shows P since) {jobs : JobRegister} {readings : Nat} {job : Job}
    (hchanged : P job ∧ ∀ j ∈ jobs.jobs, P j) :
    ({ d with jobs, readings }.jobChanged job).Shows P since := by
  have hregistered : Shows P since { d with jobs, readings } := ⟨hchanged.2, h.told, h.counted⟩
  have hkept : (({ d with jobs, readings } : Desk).note (.keep (.job job))).Shows P since :=
    hregistered.note (List.forall_mem_singleton.2 hchanged.1) rfl
  exact hkept.note (List.forall_mem_singleton.2 hchanged.1) rfl

/-- The step changes no job and shows none, and it counts its questions. -/
structure Silent (d d' : Desk) : Prop where
  jobs : d'.jobs = d.jobs
  trace : ∃ own, d'.trace = own ++ d.trace ∧ ∀ e ∈ own, e.jobs = []
  counted : d.Counted → d'.Counted

/-- Changes of other parts of a desk do not matter here. -/
theorem Silent.change {gate : Gate} {transfers : TransferRegister} {made : Tally} {readings : Nat}
    (hquestions : made.questions = d.made.questions) :
    Silent d { d with gate, transfers, made, readings } :=
  ⟨rfl, ⟨[], rfl, List.forall_mem_nil _⟩, fun h => hquestions.trans h⟩

theorem Silent.trans (h : Silent d d') (h' : Silent d' d'') : Silent d d'' := by
  obtain ⟨own, htrace, hown⟩ := h.trace
  obtain ⟨own', htrace', hown'⟩ := h'.trace
  refine ⟨h'.jobs.trans h.jobs,
    ⟨own' ++ own, by rw [htrace', htrace, List.append_assoc], fun e he => ?_⟩,
    fun hd => h'.counted (h.counted hd)⟩
  exact (List.mem_append.1 he).elim (hown' e) (hown e)

theorem Silent.note {e : Effect} (he : e.jobs = []) (hquestion : e.isQuestion = false) :
    Silent d (d.note e) :=
  ⟨rfl, ⟨[e], rfl, List.forall_mem_singleton.2 he⟩, fun h => h.note hquestion⟩

theorem Silent.shows (h : Silent d d') (hd : d.Shows P since) : d'.Shows P since := by
  obtain ⟨own, htrace, hown⟩ := h.trace
  obtain ⟨before, hbefore, htold⟩ := hd.told
  refine ⟨h.jobs ▸ hd.registered,
    ⟨own ++ before, by rw [htrace, hbefore, List.append_assoc], fun e he => ?_⟩,
    h.counted hd.counted⟩
  rcases List.mem_append.1 he with he | he
  · rw [hown e he]
    exact List.forall_mem_nil _
  · exact htold e he

/-! ## What a model was asked -/

/-- Between two states of the trace the model is asked this, and gives this text for an answer. -/
def Answered (s : Surroundings) (since now : List Effect) (r : ChatRequest) (text : String) :
    Prop :=
  ∃ earlier reply, .question r :: earlier <:+ now ∧ since <:+ earlier ∧ s.answer = some reply ∧
    reply (earlier.countP (·.isQuestion)) r = some text

theorem Answered.mono {before now after : List Effect} {r : ChatRequest} {text : String}
    (h : Answered s since now r text) (hbefore : before <:+ since) (hafter : now <:+ after) :
    Answered s before after r text := by
  obtain ⟨earlier, reply, hasked, hsince, hreply, htext⟩ := h
  exact ⟨earlier, reply, hasked.trans hafter, hbefore.trans hsince, hreply, htext⟩

theorem answered_of_ask (hcounted : d.Counted) {r : ChatRequest} {text : String}
    (h : (d.ask s r).1 = some text) : Answered s d.trace (d.ask s r).2.trace r text := by
  obtain ⟨reply, hreply, htext⟩ := exists_of_ask h
  have hcount : d.made.questions = d.trace.countP (·.isQuestion) := hcounted
  rw [hcount] at htext
  refine ⟨d.trace, reply, ?_, List.suffix_rfl, hreply, htext⟩
  unfold ask
  rw [hreply]
  exact List.suffix_rfl

/-! ## What shows no job -/

theorem sessionChanged_silent {transfers : TransferRegister} {made : Tally} {readings : Nat}
    (hquestions : made.questions = d.made.questions) (t : Session) :
    Silent d ({ d with transfers, made, readings }.sessionChanged t) := by
  have hset : Silent d { d with transfers, made, readings } := .change hquestions
  exact hset.trans (Silent.trans (.note rfl rfl) (.note rfl rfl))

theorem escalated_silent (e : Escalation) : Silent d (d.escalated e) := by
  have hcounted : Silent d { d with made.escalations := d.made.escalations + 1 } := .change rfl
  exact hcounted.trans (Silent.trans (.note rfl rfl) (.note rfl rfl))

theorem record_silent (e : Escalation) :
    Silent d ({ d with gate := d.gate.record e }.escalated e) := by
  have hrecorded : Silent d { d with gate := d.gate.record e } := .change rfl
  exact hrecorded.trans (escalated_silent e)

theorem consult_silent (s : Surroundings) (risk : RiskAssessment) (approved live : Bool)
    (source : EscalationSource) (reference : String) (d : Desk) :
    Silent d (d.consult s risk approved live source reference).2 := by
  rcases consult_course s risk approved live source reference d with ⟨-, h⟩ | ⟨_, e, -, -, h⟩
  · rw [h]
    exact .change rfl
  · rw [h]
    exact record_silent e

theorem ask_silent (s : Surroundings) (r : ChatRequest) (d : Desk) : Silent d (d.ask s r).2 := by
  unfold ask
  split
  · exact .change rfl
  · rename_i answer _
    refine ⟨rfl, ⟨[.question r], rfl, List.forall_mem_singleton.2 rfl⟩, fun h => ?_⟩
    show d.made.questions + 1 = (.question r :: d.trace).countP (·.isQuestion)
    rw [List.countP_cons, h]
    rfl

theorem followUp_silent (s : Surroundings) (a : Attempt) (report : IntakeReport) (d : Desk) :
    Silent d (d.followUp s a report) := by
  unfold followUp
  split
  · exact record_silent _
  · exact .change rfl

theorem announce_silent (s : Surroundings) (job : Job) (a : Attempt) (text : String)
    (report : IntakeReport) (d : Desk) : Silent d (d.announce s job a text report) := by
  unfold announce
  split
  · rcases notifySurvivor_course s job a text report d with
      h | ⟨callback, verdict, d₁, -, -, -, hask, hcourse⟩
    · rw [h]
      exact .change rfl
    · have hasked := consult_silent s (Risk.assess text) job.request.approved true .transcript
        a.id.toString d
      rw [hask] at hasked
      rcases hcourse with h | ⟨-, body, h⟩
      · rw [h]
        exact hasked
      · rw [h]
        exact hasked.trans (.note rfl rfl)
  · exact .change rfl

theorem block_silent (raw : String) (d : Desk) : Silent d (d.block raw).2 := by
  unfold block
  dsimp only
  split
  · exact Silent.trans (.change rfl) (.note rfl rfl)
  · exact .change rfl

theorem unblock_silent (raw : String) (d : Desk) : Silent d (d.unblock raw).2 := by
  unfold unblock
  dsimp only
  split
  · exact Silent.trans (.change rfl) (.note rfl rfl)
  · exact .change rfl

theorem openSession_silent (s : Surroundings) (r : StartTransfer) (p : Parties) (d : Desk) :
    Silent d (d.openSession s r p).2 := by
  unfold openSession
  dsimp only
  split
  · exact Silent.trans (sessionChanged_silent (by rfl) _) (sessionChanged_silent (by rfl) _)
  · exact sessionChanged_silent (by rfl) _

theorem settleLeg_silent (s : Surroundings) (ref : LegRef) (placed : Except TelephonyError String)
    (d : Desk) : Silent d (d.settleLeg s ref placed) := by
  unfold settleLeg
  dsimp only
  split
  · exact sessionChanged_silent (by rfl) _
  · exact .change rfl

theorem prepare_silent (s : Surroundings) (job : Job) (a : Attempt) (d : Desk) :
    Silent d (d.prepare s job a).2 := by
  unfold prepare
  split
  · exact .change rfl
  · split
    · exact .change rfl
    · exact ask_silent ..

theorem gather_silent (s : Surroundings) (ref : AttemptRef) (speech : Option String) (d : Desk) :
    Silent d (d.gather s ref speech).2 := by
  unfold gather
  split
  · exact .change rfl
  · exact ask_silent ..

/-! ## What the provider reports -/

theorem patchAttempt_shows (h : d.Shows P since) {ref : AttemptRef} {p : Attempt.Patch}
    (hp : ∀ now j, j.id = ref.jobId → P j → P (j.patch now ref.attemptId p)) :
    (d.patchAttempt s ref p).2.Shows P since := by
  unfold patchAttempt
  cases hpatch : d.jobs.patch (s.now.moment d.readings) ref p with
  | none => exact h
  | some found => exact h.jobChanged (JobRegister.forall_patch h.registered (hp _) hpatch)

theorem report_shows (hP : Job.Lasts P) (h : d.Shows P since) (ref : AttemptRef) {p : Attempt.Patch}
    (hp : p.IsReport) : (d.patchAttempt s ref p).2.Shows P since :=
  patchAttempt_shows h fun now j _ => hP.patch now _ p j hp

theorem status_shows (hP : Job.Lasts P) (h : d.Shows P since) (r : StatusReport) :
    (d.status s r).2.Shows P since := by
  unfold status
  split
  · dsimp only
    split
    · exact h
    · exact report_shows hP h _ (.of_none rfl rfl rfl rfl)
  · split
    · exact h
    · split
      · exact h
      · split
        · exact (sessionChanged_silent (by rfl) _).shows h
        · exact h

theorem recording_shows (hP : Job.Lasts P) (h : d.Shows P since) (sid url : String) :
    (d.recording s sid url).2.Shows P since := by
  unfold recording
  split
  · exact h
  · split
    · exact h
    · exact report_shows hP h _ (.of_none rfl rfl rfl rfl)

/-- What is attached of a transcript is of a bounded size, whatever the model made of it. -/
theorem transcriptPatch_isReport (text : String) (answer : Option String) :
    (transcriptPatch text (Script.reportFrom text answer).value).IsReport := by
  refine ⟨rfl, rfl, fun excerpt h => ?_, fun r h => ?_⟩
  · obtain rfl := Option.some.inj h
    rw [String.length_ofList, List.length_take]
    exact Nat.min_le_left ..
  · obtain rfl := Option.some.inj h
    exact Script.reportFrom_isBounded text answer

theorem transcript_shows (hP : Job.Lasts P) (h : d.Shows P since) (sid text : String) :
    (d.transcript s sid text).2.Shows P since := by
  rcases transcript_course s sid text d with
    hcourse | ⟨job, attempt, answer, d₁, report, changed, d₂, -, hask, rfl, hpatch, hcourse⟩
  · rw [hcourse]
    exact h
  · have hasked := (ask_silent s (Script.reportRequest text) d).shows h
    rw [hask] at hasked
    have hpatched := report_shows (s := s) hP hasked ⟨job.id, attempt.id⟩
      (transcriptPatch_isReport text answer)
    rw [hpatch] at hpatched
    rcases hcourse with ⟨-, hcourse⟩ | ⟨job', -, hcourse⟩
    · rw [hcourse]
      exact hpatched
    · rw [hcourse]
      exact ((followUp_silent ..).trans (announce_silent ..)).shows hpatched

/-! ## Calls -/

theorem reset_shows (h : d.Shows P since) : d.reset.Shows P since :=
  ⟨fun _ hj => absurd hj List.not_mem_nil, h.told, h.counted⟩

theorem interrupt_shows (hP : Job.Lasts P) (h : d.Shows P since) (i : Interruption) :
    (interrupt s d i).Shows P since := by
  cases i with
  | reset => exact reset_shows h
  | block raw => exact (block_silent raw d).shows h
  | status r => exact status_shows hP h r

/-- Whatever happens while a call is placed, what is shown then is as it was. -/
theorem placeCall_shows (hP : Job.Lasts P) (h : d.Shows P since) (line : Mode)
    (purpose : CallPurpose) (order : CallOrder) :
    (d.placeCall s line purpose order).2.Shows P since := by
  have hcounted : Silent d { d with made.calls := d.made.calls + 1 } := .change rfl
  have hcalled : Silent d
      ({ d with made.calls := d.made.calls + 1 }.note (.call line purpose order)) :=
    hcounted.trans (.note rfl rfl)
  exact foldl_keeps (I := Shows P since) (fun _ i hd => interrupt_shows hP hd i) _ _
    (hcalled.shows h)

theorem startTransfer_shows (hP : Job.Lasts P) (h : d.Shows P since) (r : StartTransfer) :
    (d.startTransfer s r).2.Shows P since := by
  rcases startTransfer_course s r d with ⟨refusal, hcourse, -⟩ | ⟨p, verdict, d₁, -, hask, hcourse⟩
  · rw [hcourse]
    exact h
  · have hasked := (consult_silent s (Risk.assess (riskText p.job r.notes))
      (r.approved || p.job.request.approved)
      r.mode.isLive .warmTransfer r.attemptId.toString d).shows h
    rw [hask] at hasked
    rcases hcourse with ⟨denial, rfl, hcourse⟩ |
      ⟨rfl, t, d₂, survivor, d₃, shelter, d₄, d₅, hopen, hsurvivor, hshelter, rfl, hcourse⟩
    · rw [hcourse]
      exact hasked
    · have hopened := (openSession_silent s r p d₁).shows hasked
      rw [hopen] at hopened
      have hleg₁ : (d₂.dialLeg s t .survivor).2.Shows P since := placeCall_shows hP hopened _ _ _
      rw [hsurvivor] at hleg₁
      have hleg₂ : (d₃.dialLeg s t .shelter).2.Shows P since := placeCall_shows hP hleg₁ _ _ _
      rw [hshelter] at hleg₂
      rw [hcourse]
      exact ((settleLeg_silent ..).trans (settleLeg_silent ..)).shows hleg₂

/-- Setting the script of an attempt, and nothing of a transcript, keeps `P`. -/
def Admits (P : Job → Prop) (ref : AttemptRef) (script : Script.Sourced String) : Prop :=
  ∀ (now : Moment) (p : Attempt.Patch) (j : Job), p.script = some script.value →
    p.scriptSource = some script.source → p.excerpt = none → p.report = none → j.id = ref.jobId →
    P j → P (j.patch now ref.attemptId p)

theorem settle_shows (hP : Job.Lasts P) (h : d.Shows P since) {ref : AttemptRef}
    {script : Script.Sourced String} (hscript : Admits P ref script)
    (placed : Except TelephonyError String) : (d.settle s ref script placed).Shows P since := by
  unfold settle
  cases placed with
  | error e => exact patchAttempt_shows h fun now j => hscript now _ j rfl rfl rfl rfl
  | ok sid =>
    dsimp only
    cases hpatch : d.jobs.patch (s.now.moment d.readings) ref {
        status := some .initiated, script := some script.value,
        scriptSource := some script.source } with
    | none => exact h
    | some found =>
      have hmarked := (JobRegister.forall_patch h.registered
        (fun j => hscript _ _ j rfl rfl rfl rfl) hpatch).2
      dsimp only
      cases hbind : found.2.bindSid (s.now.moment (d.readings + 2)) ref sid with
      | none => exact ⟨hmarked, h.told, h.counted⟩
      | some bound =>
        exact h.jobChanged (JobRegister.forall_bindSid hmarked hP.clearSid
          (fun j _ => hP.patch _ _ _ j (.of_none rfl rfl rfl rfl)) hbind)

/-- The script of an attempt that is ready is what the model's answer gives, if it answers when it
is asked for this attempt. -/
theorem prepare_script (hcounted : d.Counted) {job : Job} {a : Attempt}
    {script : Script.Sourced String} {order : CallOrder}
    (h : d.prepare s job a = (.ready script order, d')) :
    ∃ answer, script = Script.scriptFrom (job.scriptInput a) answer ∧
      ∀ text, answer = some text →
        Answered s d.trace d'.trace (Script.scriptRequest (job.scriptInput a)) text := by
  unfold prepare at h
  split at h
  · simp at h
  · split at h
    · simp at h
    · simp only [Prod.mk.injEq, Preparation.ready.injEq] at h
      obtain ⟨⟨hscript, -⟩, rfl⟩ := h
      exact ⟨_, hscript.symm, fun text htext => answered_of_ask hcounted htext⟩

/-- What was done to prepare an attempt stays in the trace. -/
theorem prepare_suffix_dial (s : Surroundings) (job : Job) (a : Attempt) (d : Desk) :
    (d.prepare s job a).2.trace <:+ (d.dial s job a).trace := by
  unfold dial
  dsimp only
  split
  · rename_i reason d₁ h
    rw [h]
    exact (patchAttempt_notes ..).toGrows.suffix
  · rename_i script order d₁ h
    rw [h]
    exact (placeCall_calls ..).toGrows.suffix.trans (settle_notes ..).toGrows.suffix

theorem dial_shows (hP : Job.Lasts P) (h : d.Shows P since) {job : Job} {a : Attempt}
    (hadmits : ∀ script order d₁, d.prepare s job a = (.ready script order, d₁) →
      Admits P ⟨job.id, a.id⟩ script) : (d.dial s job a).Shows P since := by
  unfold dial
  dsimp only
  have hprep := (prepare_silent s job a d).shows h
  split
  · rename_i reason d₁ hprepare
    rw [hprepare] at hprep
    exact report_shows hP hprep _ (.of_none rfl rfl rfl rfl)
  · rename_i script order d₁ hprepare
    rw [hprepare] at hprep
    exact settle_shows hP (placeCall_shows hP hprep _ _ _) (hadmits script order d₁ hprepare) _

/-- **What reports keep holds of all that is shown after an operation**, unless jobs
come from elsewhere. -/
theorem perform_shows (hP : Job.Lasts P) (h : d.Shows P since) {op : Operation}
    (hjob : ∀ r, op ≠ .startJob r) (hmemory : ∀ stored, op ≠ .restore stored) :
    (d.perform s op).2.Shows P since := by
  cases op with
  | startJob r => exact absurd rfl (hjob r)
  | startTransfer r => exact startTransfer_shows hP h r
  | status r => exact status_shows hP h r
  | recording sid url => exact recording_shows hP h sid url
  | transcript sid text => exact transcript_shows hP h sid text
  | gather ref speech => exact (gather_silent s ref speech d).shows h
  | block raw => exact (block_silent raw d).shows h
  | unblock raw => exact (unblock_silent raw d).shows h
  | reset => exact reset_shows h
  | restore stored => exact absurd rfl (hmemory stored)

end Desk

end ShelterLine

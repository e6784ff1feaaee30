import ShelterLine.Proofs.Course
import ShelterLine.Proofs.Disguise
import ShelterLine.Proofs.Turn

/-!
# Desks that look alike

Two desks are compared in a guise: their jobs and sessions in disguise, and what they did after a
part of it has been taken away. What an operation reads shows in every guise, so most parts of an
operation do the same to two desks that look alike, and they look alike afterwards. The surroundings
of the two need not be the same either, as long as their calls go the same way. What is left to
whoever uses a guise is to ask the gate, to escalate and to send a message.
-/

namespace ShelterLine

/-- A way to look at desks: how jobs and sessions look, and what shows of an effect. -/
structure Guise where
  job : Job → Job
  session : Session → Session
  effect : Effect → Option Effect
  jobs : Job.Disguise job
  sessions : Session.Disguise session
  /-- Of what is told about a record no more shows than of the record. -/
  jobKept : ∀ {j j'}, job j = job j' → effect (.keep (.job j)) = effect (.keep (.job j'))
  jobPublished : ∀ {j j'}, job j = job j' → effect (.publish (.jobUpdated j)) =
    effect (.publish (.jobUpdated j'))
  sessionKept : ∀ {t t'}, session t = session t' → effect (.keep (.session t)) =
    effect (.keep (.session t'))
  sessionPublished : ∀ {t t'}, session t = session t' → effect (.publish (.transferUpdated t)) =
    effect (.publish (.transferUpdated t'))

/-- Surroundings that differ at most in the live line, in the stamps of escalations, and in
what becomes of calls. -/
structure Surroundings.Same (s s' : Surroundings) : Prop where
  baseUrl : s'.baseUrl = s.baseUrl
  now : s'.now = s.now
  newJob : s'.newJob = s.newJob
  newAttempt : s'.newAttempt = s.newAttempt
  newTransfer : s'.newTransfer = s.newTransfer
  answer : s'.answer = s.answer

namespace Surroundings.Same

variable {s s' : Surroundings}

theorem refl (s : Surroundings) : s.Same s := ⟨rfl, rfl, rfl, rfl, rfl, rfl⟩

theorem callbackUrl (h : s.Same s') (path : String) : s'.callbackUrl path = s.callbackUrl path := by
  unfold Surroundings.callbackUrl
  rw [h.baseUrl]

theorem gatherUrl (h : s.Same s') (ref : AttemptRef) :
    Desk.gatherUrl s' ref = Desk.gatherUrl s ref :=
  h.callbackUrl _

end Surroundings.Same

namespace Desk

variable {g : Guise} {s s' : Surroundings} {d d' d'' : Desk}

/-! ## What looks alike -/

/-- What shows of the effects, newest first. -/
def shown (g : Guise) (d : Desk) : List Effect := d.trace.filterMap g.effect

theorem shown_note (g : Guise) (d : Desk) (e : Effect) :
    (d.note e).shown g = (g.effect e).toList ++ d.shown g := by
  change (e :: d.trace).filterMap g.effect = _
  rw [List.filterMap_cons]
  cases g.effect e <;> rfl

/-- `d` and `d'` look the same in a guise. -/
structure Similar (g : Guise) (d d' : Desk) : Prop where
  jobs : d.jobs.disguise g.job = d'.jobs.disguise g.job
  transfers : d.transfers.disguise g.session = d'.transfers.disguise g.session
  blocked : d.gate.blocked = d'.gate.blocked
  policy : d.gate.requireEscalation = d'.gate.requireEscalation
  jobsMade : d.made.jobs = d'.made.jobs
  transfersMade : d.made.transfers = d'.made.transfers
  calls : d.made.calls = d'.made.calls
  questions : d.made.questions = d'.made.questions
  readings : d.readings = d'.readings
  shown : d.shown g = d'.shown g

theorem Similar.refl (g : Guise) (d : Desk) : Similar g d d :=
  ⟨rfl, rfl, rfl, rfl, rfl, rfl, rfl, rfl, rfl, rfl⟩

theorem Similar.symm (h : Similar g d d') : Similar g d' d :=
  ⟨h.jobs.symm, h.transfers.symm, h.blocked.symm, h.policy.symm, h.jobsMade.symm,
    h.transfersMade.symm, h.calls.symm, h.questions.symm, h.readings.symm, h.shown.symm⟩

theorem Similar.trans (h : Similar g d d') (h' : Similar g d' d'') : Similar g d d'' :=
  ⟨h.jobs.trans h'.jobs, h.transfers.trans h'.transfers, h.blocked.trans h'.blocked,
    h.policy.trans h'.policy, h.jobsMade.trans h'.jobsMade, h.transfersMade.trans h'.transfersMade,
    h.calls.trans h'.calls, h.questions.trans h'.questions, h.readings.trans h'.readings,
    h.shown.trans h'.shown⟩

theorem Similar.withJobs (h : Similar g d d') {jobs jobs' : JobRegister}
    (hjobs : jobs.disguise g.job = jobs'.disguise g.job) :
    Similar g { d with jobs } { d' with jobs := jobs' } := { h with jobs := hjobs }

theorem Similar.withTransfers (h : Similar g d d') {transfers transfers' : TransferRegister}
    (htransfers : transfers.disguise g.session = transfers'.disguise g.session) :
    Similar g { d with transfers } { d' with transfers := transfers' } :=
  { h with transfers := htransfers }

theorem Similar.read (h : Similar g d d') (readings : Nat) :
    Similar g { d with readings } { d' with readings } := { h with readings := rfl }

theorem Similar.counted (h : Similar g d d') : Similar g d.counted d'.counted :=
  { h with jobsMade := congrArg (· + 1) h.jobsMade, readings := congrArg (· + 1) h.readings }

theorem Similar.note (h : Similar g d d') {e e' : Effect} (he : g.effect e = g.effect e') :
    Similar g (d.note e) (d'.note e') :=
  { h with shown := by rw [shown_note, shown_note, he, h.shown] }

theorem Similar.jobChanged (h : Similar g d d') {j j' : Job} (hj : g.job j = g.job j') :
    Similar g (d.jobChanged j) (d'.jobChanged j') :=
  (h.note (g.jobKept hj)).note (g.jobPublished hj)

theorem Similar.sessionChanged (h : Similar g d d') {t t' : Session}
    (ht : g.session t = g.session t') :
    Similar g (d.sessionChanged t) (d'.sessionChanged t') :=
  (h.note (g.sessionKept ht)).note (g.sessionPublished ht)

/-- The escalation does not show if nothing of it does. -/
theorem similar_escalated (d : Desk) {e : Escalation}
    (hkept : g.effect (.keep (.escalation e)) = none)
    (hpublished : g.effect (.publish (.escalationRecorded e)) = none) :
    Similar g d ({ d with gate := d.gate.record e }.escalated e) := by
  refine { Similar.refl g d with shown := ?_ }
  unfold escalated
  rw [shown_note, shown_note, hkept, hpublished]
  rfl

/-- Both record the same escalation. -/
theorem Similar.escalated (h : Similar g d d') (e : Escalation) :
    Similar g ({ d with gate := d.gate.record e }.escalated e)
      ({ d' with gate := d'.gate.record e }.escalated e) :=
  { (h.note (e := .keep (.escalation e)) rfl).note
      (e := .publish (.escalationRecorded e)) rfl with }

/-- Asking the gate does not show if nothing of the escalation does that it may record. -/
theorem similar_consult (s : Surroundings) {risk : RiskAssessment} (approved live : Bool)
    {source : EscalationSource} {reference : String}
    (hhidden : ∀ stamp stopped, let e := Gate.escalation stamp risk stopped source reference
      g.effect (.keep (.escalation e)) = none ∧ g.effect (.publish (.escalationRecorded e)) = none)
    (d : Desk) : Similar g d (d.consult s risk approved live source reference).2 := by
  rcases consult_course s risk approved live source reference d with
    ⟨-, h⟩ | ⟨stopped, e, -, rfl, h⟩
  · rw [h]
    exact .refl g d
  · rw [h]
    exact similar_escalated d (hhidden _ stopped).1 (hhidden _ stopped).2

/-- Two steps give the same result, and leave desks that look alike. -/
def SameResult {α : Type} (g : Guise) (x x' : α × Desk) : Prop :=
  ∃ a d d', x = (a, d) ∧ x' = (a, d') ∧ Similar g d d'

/-! ## Reports -/

/-- A job that was patched in one was patched in the other. -/
theorem patchAttempt_similar (h : Similar g d d') (hs : s.Same s') (ref : AttemptRef)
    (p : Attempt.Patch) : ∃ changed d₁ changed' d₁', d.patchAttempt s ref p = (changed, d₁) ∧
      d'.patchAttempt s' ref p = (changed', d₁') ∧ Similar g d₁ d₁' ∧
      changed.map g.job = changed'.map g.job := by
  unfold patchAttempt
  rw [hs.now, h.readings]
  rcases JobRegister.patch_cases g.jobs h.jobs (s.now.moment d'.readings) ref p with
    ⟨hnone, hnone'⟩ | ⟨j, jobs, j', jobs', hj, hj', hjob, hjobs⟩
  · rw [hnone, hnone']
    exact ⟨none, d, none, d', rfl, rfl, h, rfl⟩
  · rw [hj, hj']
    exact ⟨some j, _, some j', _, rfl, rfl, ((h.withJobs hjobs).read _).jobChanged hjob,
      congrArg some hjob⟩

theorem patched_similar (h : Similar g d d') (hs : s.Same s') (ref : AttemptRef)
    (p : Attempt.Patch) : Similar g (d.patchAttempt s ref p).2 (d'.patchAttempt s' ref p).2 := by
  obtain ⟨_, _, _, _, hpatch, hpatch', hpatched, -⟩ := patchAttempt_similar h hs ref p
  rw [hpatch, hpatch']
  exact hpatched

/-- Whether a report was applied to an attempt shows. -/
theorem outcome_similar (h : Similar g d d') (hs : s.Same s') (ref : AttemptRef)
    (p : Attempt.Patch) :
    SameResult g (outcome (d.patchAttempt s ref p).1, (d.patchAttempt s ref p).2)
      (outcome (d'.patchAttempt s' ref p).1, (d'.patchAttempt s' ref p).2) := by
  obtain ⟨changed, d₁, changed', d₁', hpatch, hpatch', hpatched, hchanged⟩ :=
    patchAttempt_similar h hs ref p
  rw [hpatch, hpatch']
  rcases map_eq_map_cases hchanged with ⟨rfl, rfl⟩ | ⟨k, k', rfl, rfl, -⟩
  · exact ⟨_, d₁, d₁', rfl, rfl, hpatched⟩
  · exact ⟨_, d₁, d₁', rfl, rfl, hpatched⟩

theorem ask_similar (h : Similar g d d') (hs : s.Same s') (r : ChatRequest) :
    SameResult g (d.ask s r) (d'.ask s' r) := by
  unfold ask
  rw [hs.answer]
  cases s.answer with
  | none => exact ⟨none, d, d', rfl, rfl, h⟩
  | some answer =>
    have hasked : Similar g { d with made.questions := d.made.questions + 1 }
        { d' with made.questions := d'.made.questions + 1 } :=
      { h with questions := congrArg (· + 1) h.questions }
    exact ⟨answer d.made.questions r, _, _, rfl, by rw [h.questions], hasked.note rfl⟩

theorem status_similar (h : Similar g d d') (hs : s.Same s') (r : StatusReport) :
    SameResult g (d.status s r) (d'.status s' r) := by
  unfold status
  rw [hs.now, h.readings]
  rcases JobRegister.findSid?_cases g.jobs h.jobs r.sid with
    ⟨hnone, hnone'⟩ | ⟨j, j', a, hj, hj', hjob⟩
  · rw [hnone, hnone']
    dsimp only
    rcases TransferRegister.findSid?_cases g.sessions h.transfers r.sid with
      ⟨hnone, hnone'⟩ | ⟨t, t', leg, ht, ht', hsession⟩
    · rw [hnone, hnone']
      exact ⟨_, d, d', rfl, rfl, h⟩
    · rw [ht, ht']
      dsimp only
      rw [(g.sessions.similar hsession).id]
      cases TransferStatus.ofProvider? r.status with
      | none => exact ⟨_, d, d', rfl, rfl, h⟩
      | some status =>
        dsimp only
        rcases TransferRegister.setStatus_cases g.sessions h.transfers
            (s.now d'.readings) t'.id status with
          ⟨hnone, hnone'⟩ | ⟨u, transfers, u', transfers', hu, hu', hmoved, htransfers⟩
        · rw [hnone, hnone']
          exact ⟨_, d, d', rfl, rfl, h⟩
        · rw [hu, hu']
          exact ⟨_, _, _, rfl, rfl, ((h.withTransfers htransfers).read _).sessionChanged hmoved⟩
  · rw [hj, hj']
    dsimp only
    rw [(g.jobs.similar hjob).id]
    split
    · exact ⟨_, d, d', rfl, rfl, h⟩
    · exact outcome_similar h hs _ _

theorem recording_similar (h : Similar g d d') (hs : s.Same s') (sid url : String) :
    SameResult g (d.recording s sid url) (d'.recording s' sid url) := by
  unfold recording
  split
  · exact ⟨_, d, d', rfl, rfl, h⟩
  · rcases JobRegister.findSid?_cases g.jobs h.jobs sid with
      ⟨hnone, hnone'⟩ | ⟨j, j', a, hj, hj', hjob⟩
    · rw [hnone, hnone']
      exact ⟨_, d, d', rfl, rfl, h⟩
    · rw [hj, hj']
      dsimp only
      rw [(g.jobs.similar hjob).id]
      exact outcome_similar h hs _ _

theorem ask_escalations (s : Surroundings) (r : ChatRequest) (d : Desk) :
    (d.ask s r).2.made.escalations = d.made.escalations := by
  unfold ask
  split <;> rfl

/-- Attaching a transcript escalates nothing. -/
theorem attach_escalations {r : ChatRequest} {answer : Option String} {d₁ d₂ : Desk}
    {ref : AttemptRef} {p : Attempt.Patch} {changed : Option Job} (hask : d.ask s r = (answer, d₁))
    (hpatch : d₁.patchAttempt s ref p = (changed, d₂)) :
    d₂.made.escalations = d.made.escalations := by
  have hasked := ask_escalations s r d
  have hpatched := patchAttempt_made (s := s) ref p d₁
  rw [hask] at hasked
  rw [hpatch] at hpatched
  exact (congrArg (·.escalations) hpatched).trans hasked

/-- A transcript is attached in both or in neither. What else comes of it looks alike if whatever is
then asked for and announced does. -/
theorem transcript_similar (h : Similar g d d') (hs : s.Same s') (sid text : String)
    (htold : ∀ {d₁ d₁' j j'} a report, Similar g d₁ d₁' → d₁.made.escalations = d.made.escalations →
      d₁'.made.escalations = d'.made.escalations → g.job j = g.job j' →
      Similar g ((d₁.followUp s a report).announce s j a text report)
        ((d₁'.followUp s' a report).announce s' j' a text report)) :
    SameResult g (d.transcript s sid text) (d'.transcript s' sid text) := by
  unfold transcript
  rcases JobRegister.findSid?_cases g.jobs h.jobs sid with
    ⟨hnone, hnone'⟩ | ⟨j, j', a, hj, hj', hjob⟩
  · rw [hnone, hnone']
    exact ⟨_, d, d', rfl, rfl, h⟩
  · obtain ⟨answer, d₁, d₁', hask, hask', hasked⟩ := ask_similar h hs (Script.reportRequest text)
    obtain ⟨changed, d₂, changed', d₂', hpatch, hpatch', hpatched, hchanged⟩ :=
      patchAttempt_similar hasked hs ⟨j'.id, a.id⟩
        (transcriptPatch text (Script.reportFrom text answer).value)
    have hcount := attach_escalations hask hpatch
    have hcount' := attach_escalations hask' hpatch'
    unfold transcriptPatch at hpatch hpatch'
    rw [hj, hj']
    dsimp only
    rw [(g.jobs.similar hjob).id, hask, hask']
    dsimp only
    rw [hpatch, hpatch']
    rcases map_eq_map_cases hchanged with ⟨rfl, rfl⟩ | ⟨k, k', rfl, rfl, hk⟩
    · exact ⟨_, d₂, d₂', rfl, rfl, hpatched⟩
    · exact ⟨_, _, _, rfl, rfl, htold a _ hpatched hcount hcount' hk⟩

/-- Whoever is on the line hears the same. -/
theorem gather_similar (h : Similar g d d') (hs : s.Same s') (ref : AttemptRef)
    (speech : Option String) : SameResult g (d.gather s ref speech) (d'.gather s' ref speech) := by
  unfold gather
  rcases JobRegister.attempt?_cases g.jobs h.jobs ref with
    ⟨hnone, hnone'⟩ | ⟨j, j', a, hj, hj', hjob⟩
  · rw [hnone, hnone']
    exact ⟨farewell, d, d', rfl, rfl, h⟩
  · have hsimilar := g.jobs.similar hjob
    obtain ⟨answer, d₁, d₁', hask, hask', hasked⟩ := ask_similar h hs (Script.replyRequest
      ⟨⟨a.shelterName, spokenContext j', j'.request.callbackNumber⟩, history a speech⟩)
    rw [hj, hj']
    dsimp only
    rw [hsimilar.spoken, hsimilar.callback, hask, hask', hs.gatherUrl]
    exact ⟨_, d₁, d₁', rfl, rfl, hasked⟩

/-! ## Policy -/

theorem reset_similar (h : Similar g d d') : Similar g d.reset d'.reset :=
  { h with jobs := rfl, transfers := rfl, shown := h.shown }

theorem block_similar (h : Similar g d d') (raw : String) :
    SameResult g (d.block raw) (d'.block raw) := by
  unfold block
  rw [h.blocked]
  obtain ⟨change, blocked⟩ := d'.gate.blocked.add raw
  have hblocked : Similar g { d with gate.blocked := blocked }
      { d' with gate.blocked := blocked } :=
    { h with blocked := rfl, shown := h.shown }
  dsimp only
  split
  · exact ⟨_, _, _, rfl, rfl, hblocked.note rfl⟩
  · exact ⟨_, _, _, rfl, rfl, hblocked⟩

theorem unblock_similar (h : Similar g d d') (raw : String) :
    SameResult g (d.unblock raw) (d'.unblock raw) := by
  unfold unblock
  rw [h.blocked]
  obtain ⟨change, blocked⟩ := d'.gate.blocked.remove raw
  have hblocked : Similar g { d with gate.blocked := blocked }
      { d' with gate.blocked := blocked } :=
    { h with blocked := rfl, shown := h.shown }
  dsimp only
  split
  · exact ⟨_, _, _, rfl, rfl, hblocked.note rfl⟩
  · exact ⟨_, _, _, rfl, rfl, hblocked⟩

theorem restore_similar (h : Similar g d d') (stored : Stored) :
    SameResult g (d.restore stored) (d'.restore stored) := by
  have hjobs := JobRegister.takeIn_restore_disguise g.jobs d.jobs stored.jobs
  rw [h.jobs, JobRegister.takeIn_restore_disguise g.jobs] at hjobs
  obtain ⟨hjobCount, hjobs⟩ := Prod.mk.inj hjobs
  have htransfers := TransferRegister.takeIn_restore_disguise g.sessions d.transfers stored.sessions
  rw [h.transfers, TransferRegister.takeIn_restore_disguise g.sessions] at htransfers
  obtain ⟨htransferCount, htransfers⟩ := Prod.mk.inj htransfers
  unfold Desk.restore
  rw [h.blocked]
  dsimp only
  rw [hjobCount, htransferCount]
  exact ⟨_, _, _, rfl, rfl,
    { h with jobs := hjobs.symm, transfers := htransfers.symm, blocked := rfl, shown := h.shown }⟩

theorem SameResult.similar {α : Type} {x x' : α × Desk} (h : SameResult g x x') :
    Similar g x.2 x'.2 := by
  obtain ⟨a, d₁, d₁', rfl, rfl, halike⟩ := h
  exact halike

theorem interrupt_similar (h : Similar g d d') (hs : s.Same s') (i : Interruption) :
    Similar g (interrupt s d i) (interrupt s' d' i) := by
  cases i with
  | reset => exact reset_similar h
  | block raw => exact (block_similar h raw).similar
  | status r => exact (status_similar h hs r).similar

/-! ## Calls -/

theorem foldl_similar {α : Type} {step step' : Desk → α → Desk}
    (hstep : ∀ {d d'} a, Similar g d d' → Similar g (step d a) (step' d' a)) :
    ∀ (as : List α) {d d'}, Similar g d d' → Similar g (as.foldl step d) (as.foldl step' d')
  | [], _, _, h => h
  | a :: as, _, _, h => foldl_similar hstep as (hstep a h)

/-- Calls on one line of `s` go as they go on another line of `s'`, and look the same. -/
structure SameCalls (g : Guise) (s s' : Surroundings) (line line' : Mode) : Prop
    extends s.Same s' where
  place : ∀ n, s'.place n line' = s.place n line
  meanwhile : ∀ n, s'.meanwhile n line' = s.meanwhile n line
  shown : ∀ purpose order,
    g.effect (.call line purpose order) = g.effect (.call line' purpose order)

theorem SameCalls.refl (g : Guise) (s : Surroundings) (line : Mode) : SameCalls g s s line line :=
  ⟨.refl s, fun _ => rfl, fun _ => rfl, fun _ _ => rfl⟩

variable {line line' : Mode}

theorem placeCall_similar (h : Similar g d d') (hc : SameCalls g s s' line line')
    (purpose : CallPurpose) (order : CallOrder) :
    SameResult g (d.placeCall s line purpose order) (d'.placeCall s' line' purpose order) := by
  have hcounted : Similar g { d with made.calls := d.made.calls + 1 }
      { d' with made.calls := d'.made.calls + 1 } := { h with calls := congrArg (· + 1) h.calls }
  unfold placeCall
  dsimp only
  rw [← h.calls, hc.place, hc.meanwhile]
  rw [← h.calls] at hcounted
  exact ⟨_, _, _, rfl, rfl, foldl_similar (fun i hd => interrupt_similar hd hc.toSame i) _
    (hcounted.note (hc.shown purpose order))⟩

/-- An attempt is prepared with what may be spoken. -/
theorem prepare_similar (h : Similar g d d') {j j' : Job} (hj : j.Similar j') (hs : s.Same s')
    (a : Attempt) : SameResult g (d.prepare s j a) (d'.prepare s' j' a) := by
  unfold prepare
  cases a.toPhone with
  | none => exact ⟨.refused noNumber, d, d', rfl, rfl, h⟩
  | some raw =>
    dsimp only
    rw [h.blocked, hj.spoken, hj.callback, hj.id, hs.gatherUrl, hs.callbackUrl, hs.callbackUrl]
    split
    · exact ⟨.refused blockedNumber, d, d', rfl, rfl, h⟩
    · obtain ⟨answer, d₁, d₁', hask, hask', hasked⟩ := ask_similar h hs (Script.scriptRequest
        ⟨a.shelterName, spokenContext j', j'.request.callbackNumber⟩)
      rw [hask, hask']
      exact ⟨_, d₁, d₁', rfl, rfl, hasked⟩

theorem settle_similar (h : Similar g d d') (hs : s.Same s') (ref : AttemptRef)
    (script : Script.Sourced String) (placed : Except TelephonyError String) :
    Similar g (d.settle s ref script placed) (d'.settle s' ref script placed) := by
  unfold settle
  cases placed with
  | error e => exact patched_similar h hs ref _
  | ok sid =>
    dsimp only
    rw [hs.now, h.readings]
    rcases JobRegister.patch_cases g.jobs h.jobs (s.now.moment d'.readings) ref {
      status := some .initiated, script := some script.value,
      scriptSource := some script.source } with
        ⟨hnone, hnone'⟩ | ⟨j, jobs, j', jobs', hj, hj', -, hjobs⟩
    · rw [hnone, hnone']
      exact h
    · rw [hj, hj']
      dsimp only
      rcases JobRegister.bindSid_cases g.jobs hjobs (s.now.moment (d'.readings + 2)) ref sid with
        ⟨hnone, hnone'⟩ | ⟨k, bound, k', bound', hk, hk', hjob, hbound⟩
      · rw [hnone, hnone']
        exact (h.withJobs hjobs).read _
      · rw [hk, hk']
        exact ((h.withJobs hbound).read _).jobChanged hjob

theorem dial_similar (h : Similar g d d') {j j' : Job} (hj : j.Similar j')
    (hc : SameCalls g s s' j.mode j'.mode) (a : Attempt) :
    Similar g (d.dial s j a) (d'.dial s' j' a) := by
  unfold dial
  obtain ⟨preparation, d₁, d₁', hprep, hprep', hprepared⟩ := prepare_similar h hj hc.toSame a
  rw [hj.id, hprep, hprep']
  cases preparation with
  | refused reason => exact patched_similar hprepared hc.toSame _ _
  | ready script order =>
    obtain ⟨placed, d₂, d₂', hcall, hcall', hcalled⟩ :=
      placeCall_similar hprepared hc (.attempt ⟨j'.id, a.id⟩) order
    dsimp only
    rw [hcall, hcall']
    exact settle_similar hcalled hc.toSame _ script placed

/-- Jobs that look alike are registered and dialed alike. -/
theorem dialAll_similar (h : Similar g d d') {j j' : Job} (hj : g.job j = g.job j')
    (hc : SameCalls g s s' j.mode j'.mode) :
    Similar g (j.attempts.foldl (dial s j) (d.registerJob j))
      (j'.attempts.foldl (dial s' j') (d'.registerJob j')) := by
  have hsimilar := g.jobs.similar hj
  have hregistered : Similar g (d.registerJob j) (d'.registerJob j') := by
    have hinsert := JobRegister.insert_disguise g.jobs d.jobs j
    rw [h.jobs, hj, JobRegister.insert_disguise g.jobs] at hinsert
    exact (h.withJobs hinsert.symm).jobChanged hj
  rw [hsimilar.attempts]
  exact foldl_similar (fun a hd => dial_similar hd hsimilar hc a) _ hregistered

/-! ## Transfers -/

/-- Parties of a transfer that look alike. -/
structure Parties.Similar (p p' : Parties) : Prop where
  job : p.job.Similar p'.job
  attempt : p.attempt = p'.attempt
  shelterPhone : p.shelterPhone = p'.shelterPhone
  survivorPhone : p.survivorPhone = p'.survivorPhone

/-- Where the lines are both there, or neither, the same parties are found, or the same is
wrong with the request. -/
theorem findParties_similar (h : Similar g d d') {r : StartTransfer} {m : Mode}
    (hline : checkLine s' m = checkLine s r.mode) :
    (∃ refusal, d.findParties s r = .error refusal ∧
      d'.findParties s' { r with mode := m } = .error refusal) ∨
    ∃ p p', d.findParties s r = .ok p ∧ d'.findParties s' { r with mode := m } = .ok p' ∧
      p.Similar p' ∧ g.job p.job = g.job p'.job ∧ p.job.id = r.jobId := by
  unfold findParties
  rw [h.blocked, hline]
  rcases JobRegister.get?_cases g.jobs h.jobs r.jobId with ⟨hnone, hnone'⟩ | ⟨j, j', hj, hj', hjob⟩
  · rw [hnone, hnone']
    exact Or.inl ⟨_, rfl, rfl⟩
  · have hsimilar := g.jobs.similar hjob
    have hattempt : j.attempt? r.attemptId = j'.attempt? r.attemptId := by
      unfold Job.attempt?
      rw [hsimilar.attempts]
    rw [hj, hj']
    dsimp only
    rw [hattempt]
    -- from here on both are asked the same
    cases j'.attempt? r.attemptId with
    | none => exact Or.inl ⟨_, rfl, rfl⟩
    | some a =>
      dsimp only
      cases a.toPhone.bind Phone.canonical? with
      | none => exact Or.inl ⟨_, rfl, rfl⟩
      | some shelter =>
        dsimp only
        cases Phone.canonical? r.survivorPhone with
        | none => exact Or.inl ⟨_, rfl, rfl⟩
        | some survivor =>
          dsimp only
          cases checkLine s r.mode with
          | error refusal => exact Or.inl ⟨_, rfl, rfl⟩
          | ok u =>
            cases d'.gate.blocked.blocks survivor with
            | true => exact Or.inl ⟨_, rfl, rfl⟩
            | false =>
              cases d'.gate.blocked.blocks shelter with
              | true => exact Or.inl ⟨_, rfl, rfl⟩
              | false =>
                exact Or.inr ⟨⟨j, a, shelter, survivor⟩, ⟨j', a, shelter, survivor⟩, rfl, rfl,
                  ⟨hsimilar, rfl, rfl, rfl⟩, hjob, JobRegister.get?_id hj⟩

/-- Sessions that look alike are registered alike, and connect. -/
theorem openSession_similar (h : Similar g d d') {p p' : Parties} (hp : p.Similar p')
    (hs : s.Same s') {r : StartTransfer} {m : Mode} (hmode : ∀ now id input,
      g.session (.create now id r.mode input) = g.session (.create now id m input)) :
    ∃ t d₁ t' d₁', d.openSession s r p = (t, d₁) ∧
      d'.openSession s' { r with mode := m } p' = (t', d₁') ∧ g.session t = g.session t' ∧
      t.mode = r.mode ∧ t'.mode = m ∧ Similar g d₁ d₁' := by
  unfold openSession
  rw [hp.job.id, hp.attempt, hp.shelterPhone, hp.survivorPhone, h.transfersMade, h.readings, hs.now,
    hs.newTransfer]
  dsimp only
  generalize hinput : ({ jobId := p'.job.id, .. } : NewTransfer) = input
  have hsession := hmode (s.now d'.readings) (s.newTransfer d'.made.transfers) input
  have ht : (Session.create (s.now d'.readings) (s.newTransfer d'.made.transfers) r.mode
      input).mode = r.mode := rfl
  have ht' : (Session.create (s.now d'.readings) (s.newTransfer d'.made.transfers) m input).mode =
      m := rfl
  generalize Session.create (s.now d'.readings) (s.newTransfer d'.made.transfers) r.mode input =
    t at hsession ht ⊢
  generalize Session.create (s.now d'.readings) (s.newTransfer d'.made.transfers) m input =
    t' at hsession ht' ⊢
  have hinsert := TransferRegister.insert_disguise g.sessions d.transfers t
  rw [h.transfers, hsession, TransferRegister.insert_disguise g.sessions] at hinsert
  have hinserted : Similar g { d with
        made.transfers := d'.made.transfers + 1
        transfers := d.transfers.insert t
        readings := d'.readings + 1 }
      { d' with
        made.transfers := d'.made.transfers + 1
        transfers := d'.transfers.insert t'
        readings := d'.readings + 1 } :=
    { h with transfers := hinsert.symm, transfersMade := rfl, readings := rfl, shown := h.shown }
  have hopened := hinserted.sessionChanged hsession
  rw [sessionChanged_transfers, sessionChanged_transfers, sessionChanged_readings,
    sessionChanged_readings]
  dsimp only
  rw [(g.sessions.similar hsession).id]
  rcases TransferRegister.setStatus_cases g.sessions hinsert.symm (s.now (d'.readings + 1)) t'.id
      .connecting with
    ⟨hnone, hnone'⟩ | ⟨u, transfers, u', transfers', hu, hu', hconnecting, htransfers⟩
  · rw [hnone, hnone']
    exact ⟨t, _, t', _, rfl, rfl, hsession, ht, ht', hopened⟩
  · rw [hu, hu']
    exact ⟨t, _, t', _, rfl, rfl, hsession, ht, ht',
      ((hopened.withTransfers htransfers).read _).sessionChanged hconnecting⟩

theorem dialLeg_similar (h : Similar g d d') {t t' : Session} (ht : t.Similar t')
    (hc : SameCalls g s s' t.mode t'.mode) (leg : Leg) :
    SameResult g (d.dialLeg s t leg) (d'.dialLeg s' t' leg) := by
  unfold dialLeg
  rw [ht.id, ht.conference, ht.survivorPhone, ht.shelterPhone, hc.callbackUrl]
  exact placeCall_similar h hc _ _

theorem settleLeg_similar (h : Similar g d d') (hs : s.Same s') (ref : LegRef)
    (placed : Except TelephonyError String) :
    Similar g (d.settleLeg s ref placed) (d'.settleLeg s' ref placed) := by
  unfold settleLeg
  rw [hs.now, h.readings]
  cases placed with
  | ok sid =>
    dsimp only
    rcases TransferRegister.bindSid_cases g.sessions h.transfers (s.now d'.readings) ref sid with
      ⟨hnone, hnone'⟩ | ⟨t, transfers, t', transfers', ht, ht', hsession, htransfers⟩
    · rw [hnone, hnone']
      exact h
    · rw [ht, ht']
      exact ((h.withTransfers htransfers).read _).sessionChanged hsession
  | error e =>
    dsimp only
    rcases TransferRegister.setStatus_cases g.sessions h.transfers
        (s.now d'.readings) ref.transferId .failed with
      ⟨hnone, hnone'⟩ | ⟨t, transfers, t', transfers', ht, ht', hsession, htransfers⟩
    · rw [hnone, hnone']
      exact h
    · rw [ht, ht']
      exact ((h.withTransfers htransfers).read _).sessionChanged hsession

/-- Both legs of sessions that look alike are dialed and settled alike. -/
theorem dialLegs_similar (h : Similar g d d') {t t' : Session} (ht : t.Similar t')
    (hc : SameCalls g s s' t.mode t'.mode) : ∃ survivor shelter d₁ d₁' d₂ d₂',
      d.dialLeg s t .survivor = (survivor, d₁) ∧ d'.dialLeg s' t' .survivor = (survivor, d₁') ∧
      d₁.dialLeg s t .shelter = (shelter, d₂) ∧ d₁'.dialLeg s' t' .shelter = (shelter, d₂') ∧
      Similar g ((d₂.settleLeg s ⟨t.id, .survivor⟩ survivor).settleLeg s ⟨t.id, .shelter⟩ shelter)
        ((d₂'.settleLeg s' ⟨t'.id, .survivor⟩ survivor).settleLeg s'
          ⟨t'.id, .shelter⟩ shelter) := by
  obtain ⟨survivor, d₁, d₁', hcall, hcall', hcalled⟩ := dialLeg_similar h ht hc .survivor
  obtain ⟨shelter, d₂, d₂', hcall₂, hcall₂', hcalled₂⟩ := dialLeg_similar hcalled ht hc .shelter
  refine ⟨survivor, shelter, d₁, d₁', d₂, d₂', hcall, hcall', hcall₂, hcall₂', ?_⟩
  rw [ht.id]
  exact settleLeg_similar (settleLeg_similar hcalled₂ hc.toSame _ _) hc.toSame _ _

/-- Where the gate lets both pass, between parties that look alike, sessions that look alike are
opened, dialed and settled. -/
theorem startTransfer_similar {r : StartTransfer} {m : Mode} {p p' : Parties} {d₁ d₁' : Desk}
    (hfind : d.findParties s r = .ok p) (hfind' : d'.findParties s' { r with mode := m } = .ok p')
    (hp : p.Similar p')
    (hask : d.consult s (Risk.assess (riskText p.job r.notes))
      (r.approved || p.job.request.approved) r.mode.isLive .warmTransfer r.attemptId.toString =
      (.ok (), d₁))
    (hask' : d'.consult s' (Risk.assess (riskText p'.job r.notes))
      (r.approved || p'.job.request.approved) m.isLive .warmTransfer r.attemptId.toString =
        (.ok (), d₁'))
    (hasked : Similar g d₁ d₁') (hc : SameCalls g s s' r.mode m)
    (hmade : ∀ now id input,
      g.session (.create now id r.mode input) = g.session (.create now id m input)) :
    ∃ t d₂ t' d₂', d.startTransfer s r = (.ok t, d₂) ∧
      d'.startTransfer s' { r with mode := m } = (.ok t', d₂') ∧
      g.session t = g.session t' ∧ Similar g d₂ d₂' := by
  obtain ⟨t, d₂, t', d₂', hopen, hopen', hsession, hmode, hmode', hopened⟩ :=
    openSession_similar hasked hp hc.toSame hmade
  have hsimilar := g.sessions.similar hsession
  have hcalls : SameCalls g s s' t.mode t'.mode := by
    rw [hmode, hmode']
    exact hc
  obtain ⟨survivor, shelter, d₃, d₃', d₄, d₄', hcall, hcall', hcall₂, hcall₂', hdialed⟩ :=
    dialLegs_similar hopened hsimilar hcalls
  unfold startTransfer
  rw [hfind, hfind']
  dsimp only
  rw [hask, hask']
  dsimp only
  rw [hopen, hopen']
  dsimp only
  rw [hcall, hcall']
  dsimp only
  rw [hcall₂, hcall₂']
  refine ⟨_, _, _, _, rfl, rfl, ?_, hdialed⟩
  have hread := TransferRegister.getD_get?_eq g.sessions hdialed.transfers hsession t.id
  rwa [hsimilar.id] at hread ⊢

end Desk

end ShelterLine

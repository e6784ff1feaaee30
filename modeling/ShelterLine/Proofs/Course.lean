import ShelterLine.Desk.Operation

/-!
# The courses that operations can take

An operation that starts something is checked, judged and then carried out, and it may end at each
of these. What it comes to is said here once, with the guards that were passed on the way, so that
what operations preserve can be proved along their courses.
-/

namespace ShelterLine

/-- A refusal by the gate: something has to be approved first. -/
def Refusal.AsksApproval : Refusal → Prop
  | .policyDenied (.escalationRequired ..) => True
  | _ => False

namespace Desk

/-! ## What is wrong with a request as it stands -/

theorem checkLine_error {s : Surroundings} {mode : Mode} {refusal : Refusal}
    (h : checkLine s mode = .error refusal) : ¬ refusal.AsksApproval := by
  unfold checkLine at h
  split at h
  · obtain rfl := Except.error.inj h
    exact fun hasks => hasks
  · simp at h

theorem checkJob_error {s : Surroundings} {r : StartJob} {refusal : Refusal}
    (h : checkJob s r = .error refusal) : ¬ refusal.AsksApproval := by
  unfold checkJob at h
  split at h
  · obtain rfl := Except.error.inj h
    exact fun hasks => hasks
  · split at h
    · obtain rfl := Except.error.inj h
      exact fun hasks => hasks
    · exact checkLine_error h

/-! ## Taking records in -/

/-- What taking one item in keeps, taking in all of them keeps. -/
theorem takeIn_keeps {σ α : Type} {take : σ → α → Bool × σ} {I : σ → Prop}
    (htake : ∀ state a, I state → I (take state a).2) :
    ∀ (as : List α) (state : σ), I state → I (takeIn take state as).2
  | [], _, h => h
  | a :: as, state, h => takeIn_keeps htake as _ (htake state a h)

/-! ## Asking the gate -/

/-- What was recorded last is what its identifier finds, also in a full log. -/
theorem escalation?_record (g : Gate) (e : Escalation) :
    (g.record e).escalation? e.id = some e := by
  have hfront : (g.record e).escalations =
      e :: g.escalations.take (EscalationLog.capacity - 1) := rfl
  unfold Gate.escalation?
  rw [hfront, List.find?_cons_of_pos (by simp)]

/-- Low risk passes as it is. High risk leaves an escalation, which is recorded, kept and published;
then it passes, unless it is stopped, and the denial names the escalation. -/
theorem consult_course (s : Surroundings) (risk : RiskAssessment) (approved live : Bool)
    (source : EscalationSource) (reference : String) (d : Desk) :
    (risk.isHigh = false ∧ d.consult s risk approved live source reference = (.ok (), d)) ∨
    ∃ stopped e, stopped = (live && d.gate.stops risk approved) ∧
      e = Gate.escalation (s.stamp d.made.escalations) risk stopped source reference ∧
      d.consult s risk approved live source reference =
        (if stopped then .error (.escalationRequired e.id risk.matchedKeywords) else .ok (),
          { d with gate := d.gate.record e }.escalated e) := by
  unfold consult Gate.decide
  cases hhigh : risk.isHigh with
  | false => exact Or.inl ⟨rfl, rfl⟩
  | true =>
    refine Or.inr ⟨_, _, rfl, rfl, ?_⟩
    cases hstopped : live && d.gate.stops risk approved with
    | false => rfl
    | true =>
      -- the escalation stands in front, so looking for it finds it
      have hfound := escalation?_record d.gate
        (Gate.escalation (s.stamp d.made.escalations) risk true source reference)
      simp only [Bool.not_true, Bool.false_eq_true, ↓reduceIte, Denial.escalationId?,
        Option.bind_some, hfound]

/-! ## Starting a job -/

/-- A job is refused as it stands, denied by the gate, or registered and dialed. -/
theorem startJob_course (s : Surroundings) (r : StartJob) (d : Desk) :
    (∃ refusal, d.startJob s r = (.error refusal, d) ∧ ¬ refusal.AsksApproval) ∨
    ∃ job d₁ verdict d₂,
      checkJob s r = .ok () ∧
      (r.callbackNumber.bind Phone.canonical?).filter d.gate.blocked.blocks = none ∧
      d.makeJob s r (r.callbackNumber.bind Phone.canonical?) = (job, d₁) ∧
      d₁.consult s (Risk.assess r.survivorContext) r.approved r.mode.isLive .callJob
        job.id.toString = (verdict, d₂) ∧
      ((∃ denial, verdict = .error denial ∧ d.startJob s r = (.error (.policyDenied denial), d₂)) ∨
        verdict = .ok () ∧ ∃ d₃, d₃ = job.attempts.foldl (dial s job) (d₂.registerJob job) ∧
          d.startJob s r = (.ok ((d₃.jobs.get? job.id).getD job), d₃)) := by
  unfold startJob
  cases hcheck : checkJob s r with
  | error refusal => exact Or.inl ⟨refusal, rfl, checkJob_error hcheck⟩
  | ok u =>
    dsimp only
    cases hcall : (r.callbackNumber.bind Phone.canonical?).filter d.gate.blocked.blocks with
    | some number => exact Or.inl ⟨_, rfl, fun h => h⟩
    | none =>
      rcases hmake : d.makeJob s r (r.callbackNumber.bind Phone.canonical?) with ⟨job, d₁⟩
      rcases hask : d₁.consult s (Risk.assess r.survivorContext) r.approved r.mode.isLive .callJob
        job.id.toString with ⟨verdict, d₂⟩
      refine Or.inr ⟨job, d₁, verdict, d₂, rfl, rfl, rfl, hask, ?_⟩
      cases verdict with
      | error denial => exact Or.inl ⟨denial, rfl, rfl⟩
      | ok u => exact Or.inr ⟨rfl, _, rfl, rfl⟩

/-! ## Starting a transfer -/

/-- What is known of the parties of a transfer that may go on. -/
structure Parties.Found (s : Surroundings) (r : StartTransfer) (d : Desk) (p : Parties) : Prop where
  job : d.jobs.get? r.jobId = some p.job
  attempt : p.job.attempt? r.attemptId = some p.attempt
  shelterPhone : p.attempt.toPhone.bind Phone.canonical? = some p.shelterPhone
  survivorPhone : Phone.canonical? r.survivorPhone = some p.survivorPhone
  line : checkLine s r.mode = .ok ()
  survivorFree : d.gate.blocked.blocks p.survivorPhone = false
  shelterFree : d.gate.blocked.blocks p.shelterPhone = false

/-- Either the parties are found, or the request is refused as it stands. -/
theorem findParties_course (s : Surroundings) (r : StartTransfer) (d : Desk) :
    (∃ refusal, d.findParties s r = .error refusal ∧ ¬ refusal.AsksApproval) ∨
    ∃ p, d.findParties s r = .ok p ∧ p.Found s r d := by
  unfold findParties
  -- one guard after the other; a guard that stops the request says why
  cases hjob : d.jobs.get? r.jobId with
  | none => exact Or.inl ⟨_, rfl, fun h => h⟩
  | some job =>
    dsimp only
    cases hattempt : job.attempt? r.attemptId with
    | none => exact Or.inl ⟨_, rfl, fun h => h⟩
    | some attempt =>
      dsimp only
      cases hshelter : attempt.toPhone.bind Phone.canonical? with
      | none => exact Or.inl ⟨_, rfl, fun h => h⟩
      | some shelter =>
        dsimp only
        cases hsurvivor : Phone.canonical? r.survivorPhone with
        | none => exact Or.inl ⟨_, rfl, fun h => h⟩
        | some survivor =>
          dsimp only
          cases hline : checkLine s r.mode with
          | error refusal => exact Or.inl ⟨refusal, rfl, checkLine_error hline⟩
          | ok u =>
            cases hfree : d.gate.blocked.blocks survivor with
            | true => exact Or.inl ⟨_, rfl, fun h => h⟩
            | false =>
              cases hfree' : d.gate.blocked.blocks shelter with
              | true => exact Or.inl ⟨_, rfl, fun h => h⟩
              | false =>
                exact Or.inr ⟨⟨job, attempt, shelter, survivor⟩, rfl,
                  ⟨hjob, hattempt, hshelter, hsurvivor, hline, hfree, hfree'⟩⟩

/-- A transfer is refused as it stands, denied by the gate, or opened; then both legs are dialed
before either is settled. -/
theorem startTransfer_course (s : Surroundings) (r : StartTransfer) (d : Desk) :
    (∃ refusal, d.startTransfer s r = (.error refusal, d) ∧ ¬ refusal.AsksApproval) ∨
    ∃ (p : Parties) (verdict : Except Denial Unit) (d₁ : Desk),
      p.Found s r d ∧
      d.consult s (Risk.assess (riskText p.job r.notes)) (r.approved || p.job.request.approved)
        r.mode.isLive .warmTransfer r.attemptId.toString = (verdict, d₁) ∧
      ((∃ denial, verdict = .error denial ∧
          d.startTransfer s r = (.error (.policyDenied denial), d₁)) ∨
        verdict = .ok () ∧
        ∃ session d₂ survivor d₃ shelter d₄ d₅,
          d₁.openSession s r p = (session, d₂) ∧
          d₂.dialLeg s session .survivor = (survivor, d₃) ∧
          d₃.dialLeg s session .shelter = (shelter, d₄) ∧
          d₅ = (d₄.settleLeg s ⟨session.id, .survivor⟩ survivor).settleLeg s
            ⟨session.id, .shelter⟩ shelter ∧
          d.startTransfer s r = (.ok ((d₅.transfers.get? session.id).getD session), d₅)) := by
  unfold startTransfer
  rcases findParties_course s r d with ⟨refusal, hfind, hplain⟩ | ⟨p, hfind, hparties⟩
  · rw [hfind]
    exact Or.inl ⟨refusal, rfl, hplain⟩
  · rw [hfind]
    dsimp only
    rcases hask : d.consult s (Risk.assess (riskText p.job r.notes))
      (r.approved || p.job.request.approved) r.mode.isLive .warmTransfer
      r.attemptId.toString with ⟨verdict, d₁⟩
    refine Or.inr ⟨p, verdict, d₁, hparties, hask, ?_⟩
    cases verdict with
    | error denial => exact Or.inl ⟨denial, rfl, rfl⟩
    | ok u =>
      rcases hopen : d₁.openSession s r p with ⟨session, d₂⟩
      rcases hsurvivor : d₂.dialLeg s session .survivor with ⟨survivor, d₃⟩
      rcases hshelter : d₃.dialLeg s session .shelter with ⟨shelter, d₄⟩
      refine Or.inr ⟨rfl, session, d₂, survivor, d₃, shelter, d₄, _, rfl, hsurvivor,
        hshelter, rfl, ?_⟩
      dsimp only

/-! ## A message -/

/-- Whether a message is delivered or not, all that is left of it is that it was sent. -/
@[simp] theorem sendMessage_snd (s : Surroundings) (order : MessageOrder) (d : Desk) :
    (d.sendMessage s order).2 = d.note (.message order) := rfl

/-- The survivor is told by at most one message, and only of a live job whose callback number is not
blocked. Then the gate was asked about the transcript and let it pass. -/
theorem notifySurvivor_course (s : Surroundings) (job : Job) (attempt : Attempt) (text : String)
    (report : IntakeReport) (d : Desk) :
    d.notifySurvivor s job attempt text report = d ∨
    ∃ callback verdict d₁, job.mode = .live ∧ job.request.callbackNumber = some callback ∧
      d.gate.blocked.blocks callback = false ∧
      d.consult s (Risk.assess text) job.request.approved true .transcript attempt.id.toString =
        (verdict, d₁) ∧
      (d.notifySurvivor s job attempt text report = d₁ ∨
        verdict = .ok () ∧ ∃ body,
          d.notifySurvivor s job attempt text report = d₁.note (.message ⟨callback, body⟩)) := by
  unfold notifySurvivor
  cases hmode : job.mode with
  | dryRun => exact Or.inl rfl
  | live =>
    cases hcallback : job.request.callbackNumber with
    | none => exact Or.inl rfl
    | some callback =>
      dsimp only
      cases hfree : d.gate.blocked.blocks callback with
      | true => exact Or.inl rfl
      | false =>
        rcases hask : d.consult s (Risk.assess text) job.request.approved true .transcript
          attempt.id.toString with ⟨verdict, d₁⟩
        refine Or.inr ⟨callback, verdict, d₁, rfl, rfl, hfree, rfl, ?_⟩
        cases verdict with
        | error denial => exact Or.inl rfl
        | ok u =>
          by_cases hline : s.live = true
          · -- only now is there anything to send
            refine Or.inr ⟨rfl, availabilityMessage attempt.shelterName report, ?_⟩
            simp [Mode.isLive, hline]
          · exact Or.inl (by simp [Mode.isLive, hline])

/-! ## A transcript -/

/-- What a transcript changes about its attempt. -/
def transcriptPatch (text : String) (report : IntakeReport) : Attempt.Patch where
  excerpt := some (String.ofList (text.toList.take excerptLength))
  report := some report

/-- A transcript is ignored, or it is attached to the attempt whose call it is of; then a human is
asked to follow up and the survivor is told, each if the report says so. -/
theorem transcript_course (s : Surroundings) (sid text : String) (d : Desk) :
    d.transcript s sid text = (.ignored, d) ∨
    ∃ job attempt answer d₁ report changed d₂,
      d.jobs.findSid? sid = some (job, attempt) ∧
      d.ask s (Script.reportRequest text) = (answer, d₁) ∧
      report = (Script.reportFrom text answer).value ∧
      d₁.patchAttempt s ⟨job.id, attempt.id⟩ (transcriptPatch text report) = (changed, d₂) ∧
      (changed = none ∧ d.transcript s sid text = (.ignored, d₂) ∨
        ∃ job', changed = some job' ∧ d.transcript s sid text =
          (.applied, (d₂.followUp s attempt report).announce s job' attempt text report)) := by
  unfold transcript
  cases hfind : d.jobs.findSid? sid with
  | none => exact Or.inl rfl
  | some found =>
    obtain ⟨job, attempt⟩ := found
    rcases hask : d.ask s (Script.reportRequest text) with ⟨answer, d₁⟩
    rcases hpatch : d₁.patchAttempt s ⟨job.id, attempt.id⟩
      (transcriptPatch text (Script.reportFrom text answer).value) with ⟨changed, d₂⟩
    refine Or.inr ⟨job, attempt, answer, d₁, _, changed, d₂, rfl, rfl, rfl, hpatch, ?_⟩
    dsimp only
    unfold transcriptPatch at hpatch
    rw [hpatch]
    cases changed with
    | none => exact Or.inl ⟨rfl, rfl⟩
    | some job' => exact Or.inr ⟨job', rfl, rfl⟩

end Desk

end ShelterLine

import ShelterLine.Proofs.Provenance

/-!
# A model that is of no use

What a model answers is used only as far as it can be used: a script that has something to say, a
report that is a JSON object, a reply that is not blank. With a model of which every answer is of no
use the desk does the same as without a model, except that it asks. The questions aside, both desks
are the same at any time, whatever is asked of them.
-/

namespace ShelterLine

open Script in
/-- Each answer of the model, if there is one, is of no use for what it was asked for. -/
structure Surroundings.Useless (s : Surroundings) : Prop where
  script : ∀ answer, s.answer = some answer → ∀ n i a, answer n (scriptRequest i) = some a →
    sanitize a = ""
  report : ∀ answer, s.answer = some answer → ∀ n t a, answer n (reportRequest t) = some a →
    ∀ fields, Json.parse? (stripFence a) ≠ some (.obj fields)
  reply : ∀ answer, s.answer = some answer → ∀ n c a, answer n (replyRequest c) = some a →
    ∀ r, replyMembers.codec.read (stripFence a) = .ok r → Text.trim r.text.toList = []

/-- The surroundings without a model. -/
def Surroundings.unanswered (s : Surroundings) : Surroundings := { s with answer := none }

/-- A question to the model. -/
def Effect.isQuestion : Effect → Bool
  | .question _ => true
  | _ => false

namespace Script

/-! ## What an answer gives -/

theorem scriptFrom_eq {i : Input} {answer : Option String}
    (h : ∀ a, answer = some a → sanitize a = "") :
    scriptFrom i answer = scriptFrom i none := by
  cases answer with
  | none => rfl
  | some a =>
    unfold scriptFrom
    rw [Option.map_some, h a rfl]
    rfl

theorem reportFrom_eq {transcript : String} {answer : Option String}
    (h : ∀ a, answer = some a → ∀ fields, Json.parse? (stripFence a) ≠ some (.obj fields)) :
    reportFrom transcript answer = reportFrom transcript none := by
  cases answer with
  | none => rfl
  | some a =>
    unfold reportFrom
    rw [Option.bind_some]
    split
    · rename_i fields hfields
      exact absurd hfields (h a rfl fields)
    · rfl

theorem replyFrom_eq {c : Conversation} {answer : Option String}
    (h : ∀ a, answer = some a → ∀ r, replyMembers.codec.read (stripFence a) = .ok r →
      Text.trim r.text.toList = []) :
    replyFrom c answer = replyFrom c none := by
  cases answer with
  | none => rfl
  | some a =>
    unfold replyFrom
    dsimp only [Option.map_some]
    split
    · rename_i r hr
      rw [if_pos (h a rfl r (Option.some.inj hr))]
      rfl
    · rfl

end Script

namespace Desk

/-- The desk as if it had never asked the model. -/
def unasked (d : Desk) : Desk :=
  { d with made.questions := 0, trace := d.trace.filter (!·.isQuestion) }

@[simp] theorem unasked_gate (d : Desk) : d.unasked.gate = d.gate := rfl

@[simp] theorem unasked_jobs (d : Desk) : d.unasked.jobs = d.jobs := rfl

@[simp] theorem unasked_transfers (d : Desk) : d.unasked.transfers = d.transfers := rfl

@[simp] theorem unasked_readings (d : Desk) : d.unasked.readings = d.readings := rfl

@[simp] theorem unanswered_now (s : Surroundings) : s.unanswered.now = s.now := rfl

/-! ## What asks nothing -/

theorem patchAttempt_unasked (s : Surroundings) (ref : AttemptRef) (p : Attempt.Patch) (d : Desk) :
    d.unasked.patchAttempt s.unanswered ref p =
      ((d.patchAttempt s ref p).1, (d.patchAttempt s ref p).2.unasked) := by
  unfold patchAttempt
  rw [unasked_jobs, unasked_readings, unanswered_now]
  cases d.jobs.patch (s.now.moment d.readings) ref p <;> rfl

theorem consult_unasked (s : Surroundings) (risk : RiskAssessment) (approved live : Bool)
    (source : EscalationSource) (reference : String) (d : Desk) :
    d.unasked.consult s.unanswered risk approved live source reference =
      ((d.consult s risk approved live source reference).1,
        (d.consult s risk approved live source reference).2.unasked) := by
  have hstamp : s.unanswered.stamp d.unasked.made.escalations = s.stamp d.made.escalations := rfl
  unfold consult
  rw [unasked_gate, hstamp]
  obtain ⟨verdict, gate⟩ := d.gate.decide (s.stamp d.made.escalations) risk approved live
    source reference
  cases verdict with
  | ok e => cases e <;> rfl
  | error denial =>
    dsimp only
    cases denial.escalationId?.bind gate.escalation? <;> rfl

theorem status_unasked (s : Surroundings) (r : StatusReport) (d : Desk) :
    d.unasked.status s.unanswered r = ((d.status s r).1, (d.status s r).2.unasked) := by
  unfold status
  rw [unasked_jobs, unasked_transfers, unasked_readings, unanswered_now]
  cases d.jobs.findSid? r.sid with
  | some found =>
    dsimp only
    split
    · rfl
    · rw [patchAttempt_unasked]
  | none =>
    cases d.transfers.findSid? r.sid with
    | none => rfl
    | some found =>
      dsimp only
      cases TransferStatus.ofProvider? r.status with
      | none => rfl
      | some status =>
        dsimp only
        cases d.transfers.setStatus (s.now d.readings) found.1.id status <;> rfl

theorem recording_unasked (s : Surroundings) (sid url : String) (d : Desk) :
    d.unasked.recording s.unanswered sid url =
      ((d.recording s sid url).1, (d.recording s sid url).2.unasked) := by
  unfold recording
  rw [unasked_jobs]
  split
  · rfl
  · cases d.jobs.findSid? sid with
    | none => rfl
    | some found =>
      dsimp only
      rw [patchAttempt_unasked]

theorem block_unasked (raw : String) (d : Desk) :
    d.unasked.block raw = ((d.block raw).1, (d.block raw).2.unasked) := by
  unfold block
  rw [unasked_gate]
  obtain ⟨change, blocked⟩ := d.gate.blocked.add raw
  dsimp only
  split <;> rfl

theorem unblock_unasked (raw : String) (d : Desk) :
    d.unasked.unblock raw = ((d.unblock raw).1, (d.unblock raw).2.unasked) := by
  unfold unblock
  rw [unasked_gate]
  obtain ⟨change, blocked⟩ := d.gate.blocked.remove raw
  dsimp only
  split <;> rfl

theorem interrupt_unasked (s : Surroundings) (d : Desk) (i : Interruption) :
    interrupt s.unanswered d.unasked i = (interrupt s d i).unasked := by
  cases i with
  | reset => rfl
  | block raw => exact congrArg Prod.snd (block_unasked raw d)
  | status r => exact congrArg Prod.snd (status_unasked s r d)

theorem foldl_unasked {α : Type} {step step' : Desk → α → Desk}
    (hstep : ∀ d a, step' d.unasked a = (step d a).unasked) :
    ∀ (as : List α) (d : Desk), as.foldl step' d.unasked = (as.foldl step d).unasked
  | [], _ => rfl
  | a :: as, d => by
    rw [List.foldl_cons, List.foldl_cons, hstep]
    exact foldl_unasked hstep as (step d a)

theorem placeCall_unasked (s : Surroundings) (line : Mode) (purpose : CallPurpose)
    (order : CallOrder) (d : Desk) : d.unasked.placeCall s.unanswered line purpose order =
      ((d.placeCall s line purpose order).1, (d.placeCall s line purpose order).2.unasked) := by
  have hinterrupted := foldl_unasked (interrupt_unasked s) (s.meanwhile d.made.calls line)
    ({ d with made.calls := d.made.calls + 1 }.note (.call line purpose order))
  exact Prod.ext rfl hinterrupted

theorem settle_unasked (s : Surroundings) (ref : AttemptRef) (script : Script.Sourced String)
    (placed : Except TelephonyError String) (d : Desk) :
    d.unasked.settle s.unanswered ref script placed = (d.settle s ref script placed).unasked := by
  unfold settle
  cases placed with
  | error e => exact congrArg Prod.snd (patchAttempt_unasked s ref _ d)
  | ok sid =>
    dsimp only
    rw [unasked_jobs, unasked_readings, unanswered_now]
    cases d.jobs.patch (s.now.moment d.readings) ref _ with
    | none => rfl
    | some found =>
      dsimp only
      cases found.2.bindSid (s.now.moment (d.readings + 2)) ref sid <;> rfl

theorem openSession_unasked (s : Surroundings) (r : StartTransfer) (p : Parties) (d : Desk) :
    d.unasked.openSession s.unanswered r p =
      ((d.openSession s r p).1, (d.openSession s r p).2.unasked) := by
  have hmade : d.unasked.made.transfers = d.made.transfers := rfl
  have hnew : s.unanswered.newTransfer = s.newTransfer := rfl
  unfold openSession
  dsimp only
  rw [unanswered_now, hmade, hnew, unasked_transfers, unasked_readings]
  generalize Session.create (s.now d.readings) (s.newTransfer d.made.transfers) r.mode _ = t
  rw [sessionChanged_transfers, sessionChanged_transfers, sessionChanged_readings,
    sessionChanged_readings]
  dsimp only
  cases (d.transfers.insert t).setStatus (s.now (d.readings + 1)) t.id .connecting <;> rfl

theorem settleLeg_unasked (s : Surroundings) (ref : LegRef) (placed : Except TelephonyError String)
    (d : Desk) : d.unasked.settleLeg s.unanswered ref placed =
      (d.settleLeg s ref placed).unasked := by
  unfold settleLeg
  rw [unanswered_now, unasked_transfers, unasked_readings]
  dsimp only
  split <;> rfl

theorem startTransfer_unasked (s : Surroundings) (r : StartTransfer) (d : Desk) :
    d.unasked.startTransfer s.unanswered r =
      ((d.startTransfer s r).1, (d.startTransfer s r).2.unasked) := by
  have hfind : d.unasked.findParties s.unanswered r = d.findParties s r := rfl
  unfold startTransfer
  rw [hfind]
  cases d.findParties s r with
  | error refusal => rfl
  | ok p =>
    dsimp only
    rw [consult_unasked]
    obtain ⟨verdict, d₁⟩ := d.consult s (Risk.assess (riskText p.job r.notes))
      (r.approved || p.job.request.approved) r.mode.isLive .warmTransfer r.attemptId.toString
    cases verdict with
    | error denial => rfl
    | ok u =>
      have hleg : ∀ (t : Session) (leg : Leg) (d : Desk), d.unasked.dialLeg s.unanswered t leg =
          ((d.dialLeg s t leg).1, (d.dialLeg s t leg).2.unasked) := fun t leg d =>
        placeCall_unasked s t.mode (.leg ⟨t.id, leg⟩) _ d
      dsimp only
      rw [openSession_unasked]
      dsimp only
      rw [hleg]
      dsimp only
      rw [hleg]
      dsimp only
      rw [settleLeg_unasked, settleLeg_unasked]
      rfl

/-! ## What asks -/

/-- The model is asked, and its answer is either not there or of no use. -/
theorem ask_unasked (s : Surroundings) (r : ChatRequest) (d : Desk) :
    d.unasked.ask s.unanswered r = (none, (d.ask s r).2.unasked) := by
  unfold ask
  cases s.answer <;> rfl

/-- What is answered is what the model answers. -/
theorem exists_of_ask {s : Surroundings} {r : ChatRequest} {d : Desk} {a : String}
    (h : (d.ask s r).1 = some a) :
    ∃ answer, s.answer = some answer ∧ answer d.made.questions r = some a := by
  unfold ask at h
  cases hanswer : s.answer with
  | none =>
    rw [hanswer] at h
    cases h
  | some answer =>
    rw [hanswer] at h
    exact ⟨answer, rfl, h⟩

variable {s : Surroundings}

theorem prepare_unasked (h : s.Useless) (job : Job) (a : Attempt) (d : Desk) :
    d.unasked.prepare s.unanswered job a =
      ((d.prepare s job a).1, (d.prepare s job a).2.unasked) := by
  unfold prepare
  cases a.toPhone with
  | none => rfl
  | some raw =>
    dsimp only
    rw [unasked_gate]
    split
    · rfl
    · rw [ask_unasked, @Script.scriptFrom_eq _ (d.ask s _).1]
      · rfl
      · intro x hx
        obtain ⟨answer, hanswer, hx⟩ := exists_of_ask hx
        exact h.script answer hanswer _ _ x hx

theorem dial_unasked (h : s.Useless) (job : Job) (d : Desk) (a : Attempt) :
    d.unasked.dial s.unanswered job a = (d.dial s job a).unasked := by
  unfold dial
  dsimp only
  rw [prepare_unasked h]
  obtain ⟨preparation, d₁⟩ := d.prepare s job a
  cases preparation with
  | refused reason => exact congrArg Prod.snd (patchAttempt_unasked s _ _ d₁)
  | ready script order =>
    dsimp only
    rw [placeCall_unasked]
    exact settle_unasked s _ script _ _

theorem startJob_unasked (h : s.Useless) (r : StartJob) (d : Desk) :
    d.unasked.startJob s.unanswered r = ((d.startJob s r).1, (d.startJob s r).2.unasked) := by
  have hcheck : checkJob s.unanswered r = checkJob s r := rfl
  have hmake : ∀ callback, d.unasked.makeJob s.unanswered r callback =
    ((d.makeJob s r callback).1, (d.makeJob s r callback).2.unasked) := fun _ => rfl
  unfold startJob
  rw [hcheck]
  cases checkJob s r with
  | error refusal => rfl
  | ok u =>
    dsimp only
    rw [unasked_gate]
    cases (r.callbackNumber.bind Phone.canonical?).filter d.gate.blocked.blocks with
    | some number => rfl
    | none =>
      dsimp only
      rw [hmake]
      obtain ⟨job, d₁⟩ := d.makeJob s r (r.callbackNumber.bind Phone.canonical?)
      dsimp only
      rw [consult_unasked]
      obtain ⟨verdict, d₂⟩ := d₁.consult s (Risk.assess r.survivorContext) r.approved r.mode.isLive
        .callJob job.id.toString
      cases verdict with
      | error denial => rfl
      | ok u =>
        have hdialed := foldl_unasked (dial_unasked h job) job.attempts (d₂.registerJob job)
        have hregistered : d₂.unasked.registerJob job = (d₂.registerJob job).unasked := rfl
        dsimp only
        rw [hregistered, hdialed]
        rfl

theorem announce_unasked (s : Surroundings) (job : Job) (a : Attempt) (text : String)
    (report : IntakeReport) (d : Desk) : d.unasked.announce s.unanswered job a text report =
      (d.announce s job a text report).unasked := by
  unfold announce
  split
  · unfold notifySurvivor
    split
    · rfl
    · cases job.request.callbackNumber with
      | none => rfl
      | some callback =>
        dsimp only
        rw [unasked_gate]
        split
        · rfl
        · rw [consult_unasked]
          obtain ⟨verdict, d₁⟩ :=
            d.consult s (Risk.assess text) job.request.approved true .transcript a.id.toString
          cases verdict with
          | error denial => rfl
          | ok u =>
            change (if s.live then _ else _) = unasked (if s.live then _ else _)
            split <;> rfl
  · rfl

theorem followUp_unasked (s : Surroundings) (a : Attempt) (report : IntakeReport) (d : Desk) :
    d.unasked.followUp s.unanswered a report = (d.followUp s a report).unasked := by
  unfold followUp
  split <;> rfl

theorem transcript_unasked (h : s.Useless) (sid text : String) (d : Desk) :
    d.unasked.transcript s.unanswered sid text =
      ((d.transcript s sid text).1, (d.transcript s sid text).2.unasked) := by
  unfold transcript
  rw [unasked_jobs]
  cases d.jobs.findSid? sid with
  | none => rfl
  | some found =>
    have hreport : Script.reportFrom text (d.ask s (Script.reportRequest text)).1 =
        Script.reportFrom text none := Script.reportFrom_eq fun x hx => by
      obtain ⟨answer, hanswer, hx⟩ := exists_of_ask hx
      exact h.report answer hanswer _ _ x hx
    dsimp only
    rw [ask_unasked, hreport]
    dsimp only
    rw [patchAttempt_unasked]
    obtain ⟨changed, d₁⟩ := (d.ask s (Script.reportRequest text)).2.patchAttempt s _ _
    cases changed with
    | none => rfl
    | some job =>
      dsimp only
      rw [followUp_unasked, announce_unasked]

theorem gather_unasked (h : s.Useless) (ref : AttemptRef) (speech : Option String) (d : Desk) :
    d.unasked.gather s.unanswered ref speech =
      ((d.gather s ref speech).1, (d.gather s ref speech).2.unasked) := by
  unfold gather
  rw [unasked_jobs]
  cases d.jobs.attempt? ref with
  | none => rfl
  | some found =>
    dsimp only
    rw [ask_unasked, @Script.replyFrom_eq _ (d.ask s _).1]
    · rfl
    · intro x hx
      obtain ⟨answer, hanswer, hx⟩ := exists_of_ask hx
      exact h.reply answer hanswer _ _ x hx

/-! ## Operations -/

theorem replied_unasked {α : Type} {x x' : α × Desk} (h : x' = (x.1, x.2.unasked))
    (reply : α → Reply) :
    (reply x'.1, x'.2) = (reply x.1, x.2.unasked) := by
  rw [h]

/-- **With answers of no use the desk does what it does without a model**, apart from asking. -/
theorem perform_unasked (h : s.Useless) (d : Desk) (op : Operation) :
    d.unasked.perform s.unanswered op = ((d.perform s op).1, (d.perform s op).2.unasked) := by
  cases op with
  | startJob r => exact replied_unasked (startJob_unasked h r d) .job
  | startTransfer r => exact replied_unasked (startTransfer_unasked s r d) .session
  | status r => exact replied_unasked (status_unasked s r d) .outcome
  | recording sid url => exact replied_unasked (recording_unasked s sid url d) .outcome
  | transcript sid text => exact replied_unasked (transcript_unasked h sid text d) .outcome
  | gather ref speech => exact replied_unasked (gather_unasked h ref speech d) .document
  | block raw => exact replied_unasked (block_unasked raw d) .change
  | unblock raw => exact replied_unasked (unblock_unasked raw d) .change
  | reset => rfl
  | restore stored => rfl

/-- What is asked of the desk when there is no model. -/
def unansweredOps (ops : List (Surroundings × Operation)) : List (Surroundings × Operation) :=
  ops.map fun (s, op) => (s.unanswered, op)

theorem run_unasked : ∀ (ops : List (Surroundings × Operation)), (∀ p ∈ ops, p.1.Useless) →
    ∀ d : Desk, d.unasked.run (unansweredOps ops) = (d.run ops).unasked ∧
      d.unasked.replies (unansweredOps ops) = d.replies ops
  | [], _, _ => ⟨rfl, rfl⟩
  | (s, op) :: ops, huseless, d => by
    have hperform := perform_unasked (huseless (s, op) List.mem_cons_self) d op
    obtain ⟨hrun, hreplies⟩ := run_unasked ops
      (fun p hp => huseless p (List.mem_cons_of_mem _ hp)) (d.perform s op).2
    refine ⟨?_, ?_⟩
    · change (d.unasked.perform s.unanswered op).2.run (unansweredOps ops) = _
      rw [hperform]
      exact hrun
    · change (d.unasked.perform s.unanswered op).1 ::
        (d.unasked.perform s.unanswered op).2.replies (unansweredOps ops) = _
      rw [hperform]
      exact congrArg _ hreplies

/-- With answers of no use all scripts are the ones that are there without a model. -/
theorem writes_of_useless (h : s.Useless) : s.Writes .fallback := by
  intro d i
  rw [Script.scriptFrom_eq fun x hx => ?_]
  · rfl
  · obtain ⟨answer, hanswer, hx⟩ := exists_of_ask hx
    exact h.script answer hanswer _ i x hx

/-- **A useless model is no worse than none.** A run in which no answer of the model is of use gives
the same replies as the run without a model, and leaves the same jobs and transfers, the same gate
with its block list and log, and the same trace of calls, messages, writes and events: only the
questions are more. Every attempt that was called says that its script was not the model's, unless
its job was taken in from storage or is gone. -/
theorem useless_model_unnoticed (c : SafetyConfig) (ops : List (Surroundings × Operation))
    (huseless : ∀ p ∈ ops, p.1.Useless) :
    (ofConfig c).replies ops = (ofConfig c).replies (unansweredOps ops) ∧
    ((ofConfig c).run ops).jobs = ((ofConfig c).run (unansweredOps ops)).jobs ∧
    ((ofConfig c).run ops).transfers = ((ofConfig c).run (unansweredOps ops)).transfers ∧
    ((ofConfig c).run ops).gate = ((ofConfig c).run (unansweredOps ops)).gate ∧
    ((ofConfig c).run ops).trace.filter (!·.isQuestion) =
      ((ofConfig c).run (unansweredOps ops)).trace ∧
    (FreshIds ops → ∀ ref, (∀ p ∈ ops, ¬ p.2.TakesIn ref.jobId) →
      ((ofConfig c).run ops).Called ref → ∀ j a,
        ((ofConfig c).run ops).jobs.attempt? ref = some (j, a) →
          a.scriptSource = some .fallback) := by
  have hsame : (ofConfig c).run (unansweredOps ops) = ((ofConfig c).run ops).unasked ∧
      (ofConfig c).replies (unansweredOps ops) = (ofConfig c).replies ops :=
    run_unasked ops huseless (ofConfig c)
  obtain ⟨hrun, hreplies⟩ := hsame
  rw [hrun, hreplies]
  refine ⟨rfl, rfl, rfl, rfl, rfl, fun hfresh ref hown => ?_⟩
  exact run_attributes hfresh (fun p hp => writes_of_useless (huseless p hp)) hown

/-- Surroundings with a model that has nothing to say: blanks where text is asked for, and an empty
list where an object is. -/
def mute : Surroundings :=
  { Surroundings.calm with answer := some fun _ r => some (if r.jsonMode then "[]" else " \n") }

/-- Two shelters, a call to one of them, what was said there, and its transcript. -/
def muteRun : List (Surroundings × Operation) :=
  [(mute, .startJob twoShelters),
    (mute, .gather ⟨.ofNat 0, .ofNat 0⟩ (some "We have a bed.")),
    (mute, .transcript "CA0" "We have a bed.")]

/-- The call is made with a script that is not the model's, and the run goes as it
does without one. -/
theorem useless_model_unnoticed_mute : (∀ p ∈ muteRun, p.1.Useless) ∧ FreshIds muteRun ∧
    (ofConfig {}).replies muteRun = (ofConfig {}).replies (unansweredOps muteRun) ∧
    ∃ j a, ((ofConfig {}).run muteRun).jobs.attempt? ⟨.ofNat 0, .ofNat 0⟩ = some (j, a) ∧
      a.scriptSource = some .fallback := by
  have hmute : ∀ p ∈ muteRun, p.1 = mute := by simp [muteRun]
  have huseless : mute.Useless := by
    have hblank : Script.sanitize " \n" = "" := by decide +kernel
    have hlist : ((Json.parse? (Script.stripFence "[]")).bind Json.items?).isSome = true := by
      decide +kernel
    have hunread : (Script.replyMembers.codec.read (Script.stripFence "[]")).toOption.isNone =
        true := by
      decide +kernel
    refine ⟨?_, ?_, ?_⟩
    · rintro answer hanswer n i a ha
      obtain rfl := Option.some.inj hanswer
      obtain rfl := Option.some.inj ha
      exact hblank
    · rintro answer hanswer n t a ha fields hfields
      obtain rfl := Option.some.inj hanswer
      obtain rfl := Option.some.inj ha
      rw [show Json.parse? (Script.stripFence "[]") = some (.obj fields) from hfields] at hlist
      cases hlist
    · rintro answer hanswer n conv a ha r hr
      obtain rfl := Option.some.inj hanswer
      obtain rfl := Option.some.inj ha
      rw [show Script.replyMembers.codec.read (Script.stripFence "[]") = .ok r from hr] at hunread
      cases hunread
  have hfresh : FreshIds muteRun := by
    refine ⟨fun p hp q hq m n hmn hn => ?_, fun p hp r hr n hn => ?_⟩
    · rw [hmute p hp, hmute q hq]
      have hdifferent : ∀ n < 3, ∀ m < n, Uuid.ofNat m ≠ Uuid.ofNat n := by decide
      exact hdifferent n hn m hmn
    · rw [hmute p hp]
      have hr' : r = twoShelters := by
        simp only [muteRun, List.mem_cons, List.not_mem_nil, or_false] at hp
        rcases hp with rfl | rfl | rfl <;> cases hr
        rfl
      rw [hr']
      change ((List.range 2).map Uuid.ofNat).Nodup
      decide
  obtain ⟨hreplies, -, -, -, -, hsource⟩ :=
    useless_model_unnoticed {} muteRun fun p hp => hmute p hp ▸ huseless
  refine ⟨fun p hp => hmute p hp ▸ huseless, hfresh, hreplies, ?_⟩
  have hcalled : ((ofConfig {}).run muteRun).Called ⟨.ofNat 0, .ofNat 0⟩ := by decide +kernel
  have hfound : (((ofConfig {}).run muteRun).jobs.attempt? ⟨.ofNat 0, .ofNat 0⟩).isSome = true := by
    decide +kernel
  obtain ⟨⟨j, a⟩, hfound⟩ := Option.isSome_iff_exists.1 hfound
  refine ⟨j, a, hfound, hsource hfresh _ ?_ hcalled j a hfound⟩
  rintro p hp ⟨stored, hstored, -⟩
  simp only [muteRun, List.mem_cons, List.not_mem_nil, or_false] at hp
  rcases hp with rfl | rfl | rfl <;> cases hstored

end Desk

end ShelterLine

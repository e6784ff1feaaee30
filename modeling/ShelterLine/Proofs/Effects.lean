import ShelterLine.Desk.Operation
import ShelterLine.Proofs.Phone

/-!
# What the parts of an operation do to the trace

A trace only grows: `Grows P d d'` says that `d'` has the effects of `d` and in front of them some
that satisfy `P`. Most of what the desk does is bookkeeping, `Notes d d'`, which reaches nobody and
leaves the gate as it is. For each part of an operation there is one statement here, and the
operations are put together from these without being opened again. Calls are placed in `placeCall`
alone and messages sent in `notifySurvivor` alone; everything else is quiet.
-/

namespace ShelterLine

/-- The number that an effect reaches, if it reaches anyone. -/
def Effect.contact? : Effect → Option String
  | .call _ _ order => some order.number
  | .message order => some order.number
  | .question _ | .keep _ | .publish _ => none

/-- Reaches nobody. -/
def Effect.Quiet (e : Effect) : Prop := e.contact? = none

theorem Effect.quiet_keep (w : Write) : Effect.Quiet (.keep w) := rfl

theorem Effect.quiet_publish (v : Event) : Effect.Quiet (.publish v) := rfl

theorem Effect.quiet_question (r : ChatRequest) : Effect.Quiet (.question r) := rfl

namespace Desk

variable {P Q : Effect → Prop} {d d' d'' : Desk} {e : Effect} {earlier : List Effect}

/-- `d'` goes on from `d` by effects that satisfy `P`, under the same policy and
without a new job. -/
structure Grows (P : Effect → Prop) (d d' : Desk) : Prop where
  /-- The trace keeps what it has. -/
  trace : ∃ own, d'.trace = own ++ d.trace ∧ ∀ e ∈ own, P e
  /-- Whether live actions need approval is settled once and for all. -/
  policy : d'.gate.requireEscalation = d.gate.requireEscalation
  /-- No job has been made. -/
  jobsMade : d'.made.jobs = d.made.jobs

/-- Changes of registers, of the block list and of other counts do not matter here. -/
theorem Grows.change {gate : Gate} {jobs : JobRegister} {transfers : TransferRegister}
    {made : Tally} {readings : Nat} (hp : gate.requireEscalation = d.gate.requireEscalation)
    (hj : made.jobs = d.made.jobs) : Grows P d { d with gate, jobs, transfers, made, readings } :=
  ⟨⟨[], rfl, by simp⟩, hp, hj⟩

theorem Grows.refl (d : Desk) : Grows P d d := .change rfl rfl

theorem Grows.trans (h : Grows P d d') (h' : Grows P d' d'') : Grows P d d'' := by
  obtain ⟨own, ht, hp⟩ := h.trace
  obtain ⟨own', ht', hp'⟩ := h'.trace
  refine ⟨⟨own' ++ own, by rw [ht', ht, List.append_assoc], ?_⟩, h'.policy.trans h.policy,
    h'.jobsMade.trans h.jobsMade⟩
  intro e he
  rcases List.mem_append.1 he with he | he
  · exact hp' e he
  · exact hp e he

theorem Grows.mono (h : Grows P d d') (hpq : ∀ e, P e → Q e) : Grows Q d d' := by
  obtain ⟨own, ht, hp⟩ := h.trace
  exact ⟨⟨own, ht, fun e he => hpq e (hp e he)⟩, h.policy, h.jobsMade⟩

theorem Grows.note (h : Grows P d d') {e : Effect} (he : P e) : Grows P d (d'.note e) :=
  h.trans ⟨⟨[e], rfl, by simpa using he⟩, rfl, rfl⟩

/-- `d'` goes on from `d` by bookkeeping alone. -/
structure Notes (d d' : Desk) : Prop extends Grows Effect.Quiet d d' where
  /-- Neither the block list nor the log of escalations changes. -/
  gate : d'.gate = d.gate

theorem Notes.change {jobs : JobRegister} {transfers : TransferRegister} {made : Tally}
    {readings : Nat} (hj : made.jobs = d.made.jobs) :
    Notes d { d with jobs, transfers, made, readings } :=
  ⟨.change rfl hj, rfl⟩

theorem Notes.refl (d : Desk) : Notes d d := .change rfl

theorem Notes.trans (h : Notes d d') (h' : Notes d' d'') : Notes d d'' :=
  ⟨h.toGrows.trans h'.toGrows, h'.gate.trans h.gate⟩

theorem Grows.suffix (h : Grows P d d') : d.trace <:+ d'.trace := by
  obtain ⟨own, htrace, -⟩ := h.trace
  rw [htrace]
  exact List.suffix_append ..

/-- What was done between two states satisfies `P`, and everything before the first came earlier. -/
theorem Grows.effect (h : Grows P d d') (he : e :: earlier <:+ d'.trace)
    (hnew : ¬ e :: earlier <:+ d.trace) : P e ∧ d.trace <:+ earlier := by
  obtain ⟨own, htrace, hown⟩ := h.trace
  rw [htrace] at he
  -- of two ends of one trace the one with the effect is the longer
  have hle : d.trace <:+ e :: earlier := by
    rcases List.suffix_or_suffix_of_suffix he (List.suffix_append own d.trace) with h | h
    · exact absurd h hnew
    · exact h
  have hbefore : d.trace <:+ earlier := by
    rcases List.suffix_cons_iff.1 hle with h | h
    · exact absurd (h ▸ List.suffix_refl _) hnew
    · exact h
  obtain ⟨later, hlater⟩ := he
  obtain ⟨since, rfl⟩ := hbefore
  refine ⟨hown e ?_, List.suffix_append ..⟩
  -- the effect stands in what was done since
  have hsplit : later ++ e :: since = own := by
    refine (List.append_left_inj d.trace).1 ?_
    simpa using hlater
  rw [← hsplit]
  simp

/-- A contact after some bookkeeping comes after all of the bookkeeping. -/
theorem Grows.contact_after (h₁ : Grows Effect.Quiet d d') (h₂ : Grows P d' d'')
    (he : e :: earlier <:+ d''.trace) (hnew : ¬ e :: earlier <:+ d.trace) (hc : ¬ e.Quiet) :
    P e ∧ d'.trace <:+ earlier :=
  h₂.effect he fun h => hc (h₁.effect h hnew).1

/-! ## Bookkeeping -/

theorem Notes.jobChanged (h : Notes d d') (j : Job) : Notes d (d'.jobChanged j) :=
  ⟨(h.toGrows.note (Effect.quiet_keep _)).note (Effect.quiet_publish _), h.gate⟩

theorem Notes.sessionChanged (h : Notes d d') (t : Session) : Notes d (d'.sessionChanged t) :=
  ⟨(h.toGrows.note (Effect.quiet_keep _)).note (Effect.quiet_publish _), h.gate⟩

theorem sessionChanged_transfers (d : Desk) (t : Session) :
    (d.sessionChanged t).transfers = d.transfers := rfl

theorem sessionChanged_readings (d : Desk) (t : Session) :
    (d.sessionChanged t).readings = d.readings := rfl

theorem patchAttempt_notes (s : Surroundings) (ref : AttemptRef) (p : Attempt.Patch) (d : Desk) :
    Notes d (d.patchAttempt s ref p).2 := by
  unfold patchAttempt
  split
  · exact Notes.jobChanged (.change rfl) _
  · exact .refl d

theorem ask_notes (s : Surroundings) (r : ChatRequest) (d : Desk) : Notes d (d.ask s r).2 := by
  unfold ask
  split
  · exact .refl d
  · refine ⟨Grows.note ?_ (Effect.quiet_question _), rfl⟩
    exact .change rfl rfl

theorem ask_jobs (s : Surroundings) (r : ChatRequest) (d : Desk) : (d.ask s r).2.jobs = d.jobs := by
  unfold ask
  split <;> rfl

theorem ask_readings (s : Surroundings) (r : ChatRequest) (d : Desk) :
    (d.ask s r).2.readings = d.readings := by
  unfold ask
  split <;> rfl

theorem registerJob_notes (job : Job) (d : Desk) : Notes d (d.registerJob job) :=
  Notes.jobChanged (.change rfl) job

theorem status_notes (s : Surroundings) (r : StatusReport) (d : Desk) :
    Notes d (d.status s r).2 := by
  unfold status
  split
  · dsimp only
    split
    · exact .refl d
    · exact patchAttempt_notes ..
  · split
    · exact .refl d
    · split
      · exact .refl d
      · split
        · exact Notes.sessionChanged (.change rfl) _
        · exact .refl d

theorem recording_notes (s : Surroundings) (sid url : String) (d : Desk) :
    Notes d (d.recording s sid url).2 := by
  unfold recording
  split
  · exact .refl d
  · split
    · exact .refl d
    · exact patchAttempt_notes ..

theorem gather_notes (s : Surroundings) (ref : AttemptRef) (speech : Option String) (d : Desk) :
    Notes d (d.gather s ref speech).2 := by
  unfold gather
  split
  · exact .refl d
  · exact ask_notes ..

theorem prepare_notes (s : Surroundings) (job : Job) (a : Attempt) (d : Desk) :
    Notes d (d.prepare s job a).2 := by
  unfold prepare
  split
  · exact .refl d
  · split
    · exact .refl d
    · exact ask_notes ..

theorem settle_notes (s : Surroundings) (ref : AttemptRef) (script : Script.Sourced String)
    (placed : Except TelephonyError String) (d : Desk) :
    Notes d (d.settle s ref script placed) := by
  unfold settle
  split
  · dsimp only
    split
    · exact .refl d
    · split
      · exact Notes.jobChanged (.change rfl) _
      · exact .change rfl
  · exact patchAttempt_notes ..

theorem openSession_notes (s : Surroundings) (r : StartTransfer) (p : Parties) (d : Desk) :
    Notes d (d.openSession s r p).2 := by
  unfold openSession
  dsimp only
  -- the session is announced when it is registered and again when it connects
  generalize hd₁ : Desk.sessionChanged _ _ = d₁
  have hopen : Notes d d₁ := by
    rw [← hd₁]
    refine Notes.sessionChanged ?_ _
    exact .change rfl
  split
  · exact Notes.sessionChanged (hopen.trans (.change rfl)) _
  · exact hopen

theorem settleLeg_notes (s : Surroundings) (ref : LegRef) (placed : Except TelephonyError String)
    (d : Desk) : Notes d (d.settleLeg s ref placed) := by
  unfold settleLeg
  dsimp only
  split
  · exact Notes.sessionChanged (.change rfl) _
  · exact .refl d

/-! ## Changes of policy -/

theorem block_quiet (raw : String) (d : Desk) : Grows Effect.Quiet d (d.block raw).2 := by
  unfold block
  dsimp only
  split
  · refine Grows.note ?_ (Effect.quiet_keep _)
    exact .change rfl rfl
  · exact .change rfl rfl

theorem unblock_quiet (raw : String) (d : Desk) : Grows Effect.Quiet d (d.unblock raw).2 := by
  unfold unblock
  dsimp only
  split
  · refine Grows.note ?_ (Effect.quiet_keep _)
    exact .change rfl rfl
  · exact .change rfl rfl

theorem restore_quiet (stored : Stored) (d : Desk) : Grows Effect.Quiet d (d.restore stored).2 :=
  .change rfl rfl

/-! ## Escalations -/

theorem Grows.escalated (h : Grows Effect.Quiet d d') (x : Escalation) :
    Grows Effect.Quiet d (d'.escalated x) := by
  have hcount : Grows Effect.Quiet d'
      { d' with made.escalations := d'.made.escalations + 1 } := .change rfl rfl
  exact h.trans ((hcount.note (Effect.quiet_keep _)).note (Effect.quiet_publish _))

theorem escalate_quiet (s : Surroundings) (source : EscalationSource) (reference reason : String)
    (details : Option String) (d : Desk) :
    Grows Effect.Quiet d (d.escalate s source reference reason details) := by
  unfold escalate
  refine Grows.escalated ?_ _
  exact .change rfl rfl

theorem followUp_quiet (s : Surroundings) (attempt : Attempt) (report : IntakeReport) (d : Desk) :
    Grows Effect.Quiet d (d.followUp s attempt report) := by
  unfold followUp
  split
  · exact escalate_quiet ..
  · exact .refl d

theorem followUp_blocked (s : Surroundings) (attempt : Attempt) (report : IntakeReport) (d : Desk) :
    (d.followUp s attempt report).gate.blocked = d.gate.blocked := by
  unfold followUp
  split <;> rfl

/-- The gate decides without touching the policy or the block list. -/
theorem decide_policy (g : Gate) (stamp : Stamp) (risk : RiskAssessment)
    (approved live : Bool) (source : EscalationSource) (reference : String) :
    (g.decide stamp risk approved live source reference).2.requireEscalation =
        g.requireEscalation ∧
      (g.decide stamp risk approved live source reference).2.blocked = g.blocked := by
  unfold Gate.decide
  split
  · exact ⟨rfl, rfl⟩
  · dsimp only
    split <;> exact ⟨rfl, rfl⟩

theorem consult_quiet (s : Surroundings) (risk : RiskAssessment) (approved live : Bool)
    (source : EscalationSource) (reference : String) (d : Desk) :
    Grows Effect.Quiet d (d.consult s risk approved live source reference).2 := by
  have hgate : Grows Effect.Quiet d { d with
      gate := (d.gate.decide
        (s.stamp d.made.escalations) risk approved live source reference).2 } :=
    .change (decide_policy ..).1 rfl
  unfold consult
  dsimp only
  split
  · exact hgate
  · exact hgate.escalated _
  · split
    · exact hgate.escalated _
    · exact hgate

theorem consult_gate (s : Surroundings) (risk : RiskAssessment) (approved live : Bool)
    (source : EscalationSource) (reference : String) (d : Desk) :
    (d.consult s risk approved live source reference).2.gate =
      (d.gate.decide (s.stamp d.made.escalations) risk approved live source reference).2 := by
  unfold consult
  dsimp only
  split
  · rfl
  · rfl
  · split <;> rfl

theorem consult_blocked (s : Surroundings) (risk : RiskAssessment) (approved live : Bool)
    (source : EscalationSource) (reference : String) (d : Desk) :
    (d.consult s risk approved live source reference).2.gate.blocked = d.gate.blocked := by
  rw [consult_gate, (decide_policy ..).2]

/-- The gate lets low risk pass as it is. High risk passes if it needs no approval or has
it, and goes to the log. -/
theorem decide_ok {g g' : Gate} {stamp : Stamp} {risk : RiskAssessment} {approved live : Bool}
    {source : EscalationSource} {reference : String} {found : Option Escalation}
    (h : g.decide stamp risk approved live source reference = (.ok found, g')) :
    risk.isHigh = false ∨
      (live = true → g.requireEscalation = true → approved = true) ∧
      ∃ x : Escalation, found = some x ∧ x.source = source ∧ x.referenceId = reference ∧
        x ∈ g'.escalations := by
  unfold Gate.decide at h
  dsimp only at h
  split at h
  · rename_i hlow
    exact Or.inl (by simpa using hlow)
  · rename_i hhigh
    split at h
    · simp at h
    · rename_i hpass
      simp only [Prod.mk.injEq, Except.ok.injEq] at h
      obtain ⟨hx, hg⟩ := h
      refine Or.inr ⟨?_, _, hx.symm, rfl, rfl, ?_⟩
      · intro hlive hrequire
        have hrisk : risk.isHigh = true := by simpa using hhigh
        simpa [hlive, hrequire, hrisk, Gate.stops] using hpass
      · rw [← hg]
        exact List.mem_cons_self ..

/-- An action that passes the gate is low risk, or it needed no approval or has it, and an
escalation of it was recorded, kept and published. -/
theorem consult_ok {s : Surroundings} {risk : RiskAssessment} {approved live : Bool}
    {source : EscalationSource} {reference : String}
    (h : d.consult s risk approved live source reference = (.ok (), d')) :
    risk.isHigh = false ∨
      (live = true → d.gate.requireEscalation = true → approved = true) ∧
      ∃ x : Escalation, x.source = source ∧ x.referenceId = reference ∧
        x ∈ d'.gate.escalations ∧
        d'.trace = .publish (.escalationRecorded x) :: .keep (.escalation x) :: d.trace := by
  rcases hdecide : d.gate.decide (s.stamp d.made.escalations) risk approved live source reference
    with ⟨verdict, gate⟩
  unfold consult at h
  rw [hdecide] at h
  cases verdict with
  | error denial =>
    dsimp only at h
    split at h <;> simp at h
  | ok found =>
    rcases decide_ok hdecide with hlow | ⟨happroved, x, rfl, hsource, hreference, hx⟩
    · exact Or.inl hlow
    · obtain rfl : _ = d' := congrArg Prod.snd h
      exact Or.inr ⟨happroved, x, hsource, hreference, hx, rfl⟩

/-! ## Placing calls -/

/-- Nothing is blocked while a call is placed. -/
def BlocksNothing (s : Surroundings) : Prop :=
  ∀ n line i, i ∈ s.meanwhile n line → ∀ raw, i ≠ .block raw

/-- The gate is held while calls are placed: its log stays, and so does its block list unless
something is blocked at that time. -/
structure Holds (s : Surroundings) (d d' : Desk) : Prop where
  log : d'.gate.escalations = d.gate.escalations
  blocked : BlocksNothing s → d'.gate.blocked = d.gate.blocked

theorem Notes.holds {s : Surroundings} (h : Notes d d') : Holds s d d' :=
  ⟨by rw [h.gate], fun _ => by rw [h.gate]⟩

theorem Holds.refl {s : Surroundings} (d : Desk) : Holds s d d := (Notes.refl d).holds

theorem Holds.trans {s : Surroundings} (h : Holds s d d') (h' : Holds s d' d'') : Holds s d d'' :=
  ⟨h'.log.trans h.log, fun hs => (h'.blocked hs).trans (h.blocked hs)⟩

/-- `d'` goes on from `d` by placing calls: by effects that satisfy `P`, with the gate held. -/
structure Calls (s : Surroundings) (P : Effect → Prop) (d d' : Desk) : Prop
    extends Grows P d d', Holds s d d'

theorem Notes.calls {s : Surroundings} (h : Notes d d') (hp : ∀ e, e.Quiet → P e) :
    Calls s P d d' :=
  ⟨h.toGrows.mono hp, h.holds⟩

theorem Calls.trans {s : Surroundings} (h : Calls s P d d') (h' : Calls s P d' d'') :
    Calls s P d d'' := ⟨h.toGrows.trans h'.toGrows, h.toHolds.trans h'.toHolds⟩

theorem Calls.mono {s : Surroundings} (h : Calls s P d d') (hpq : ∀ e, P e → Q e) :
    Calls s Q d d' :=
  ⟨h.toGrows.mono hpq, h.toHolds⟩

/-- Calls placed one after the other, each of them while the gate is held since `d₀`. -/
theorem Calls.foldl {α : Type} {s : Surroundings} {step : Desk → α → Desk} {d₀ : Desk} {as : List α}
    (hstep : ∀ d a, a ∈ as → Holds s d₀ d → Calls s P d (step d a)) (d : Desk)
    (hd : Holds s d₀ d) : Calls s P d (as.foldl step d) := by
  induction as generalizing d with
  | nil => exact ⟨.refl d, Holds.refl d⟩
  | cons a as ih =>
    have hfirst := hstep d a (by simp) hd
    exact hfirst.trans (ih (fun d b hb => hstep d b (by simp [hb])) _ (hd.trans hfirst.toHolds))

theorem interrupt_calls {s : Surroundings} {n : Nat} {line : Mode} {i : Interruption}
    (hi : i ∈ s.meanwhile n line) (d : Desk) : Calls s Effect.Quiet d (interrupt s d i) := by
  cases i with
  | reset => exact ⟨.change rfl rfl, rfl, fun _ => rfl⟩
  | block raw =>
    -- blocking leaves the log alone; that it changes the list was excluded
    refine ⟨block_quiet raw d, ?_, fun hs => absurd rfl (hs n line _ hi raw)⟩
    unfold interrupt block
    dsimp only
    split <;> rfl
  | status r => exact (status_notes s r d).calls fun _ he => he

theorem placeCall_calls (s : Surroundings) (line : Mode) (purpose : CallPurpose) (order : CallOrder)
    (d : Desk) :
    Calls s (fun e => e.Quiet ∨ e = .call line purpose order) d
      (d.placeCall s line purpose order).2 := by
  have hcounted : Grows (fun e => e.Quiet ∨ e = .call line purpose order) d
      { d with made.calls := d.made.calls + 1 } := .change rfl rfl
  have hcall : Calls s (fun e => e.Quiet ∨ e = .call line purpose order) d
      ({ d with made.calls := d.made.calls + 1 }.note (.call line purpose order)) :=
    ⟨hcounted.note (Or.inr rfl), rfl, fun _ => rfl⟩
  refine hcall.trans (Calls.foldl (fun d i hi _ => ?_) _ (Holds.refl _))
  exact (interrupt_calls hi d).mono fun e he => Or.inl he

/-- An attempt that is ready has a number which is not blocked, and it is dialed there. -/
theorem prepare_ready {s : Surroundings} {job : Job} {a : Attempt}
    {script : Script.Sourced String} {order : CallOrder}
    (h : d.prepare s job a = (.ready script order, d')) :
    d.gate.blocked.blocks order.number = false := by
  unfold prepare at h
  split at h
  · simp at h
  · rename_i raw _
    split at h
    · simp at h
    · rename_i hfree
      simp only [Prod.mk.injEq, Preparation.ready.injEq] at h
      rw [← h.1.2]
      -- the list was asked about the number as it was given, and its canonical form is dialed
      rw [BlockList.blocks_congr (Phone.canonical?_dialed raw)]
      simpa using hfree

/-- Dialing an attempt places at most calls for it, on the line of its job, to a number that is not
blocked when the attempt is prepared. -/
theorem dial_calls (s : Surroundings) (job : Job) (d : Desk) (a : Attempt) :
    Calls s (fun e => e.Quiet ∨ ∃ order, e = .call job.mode (.attempt ⟨job.id, a.id⟩) order ∧
        d.gate.blocked.blocks order.number = false)
      d (d.dial s job a) := by
  unfold dial
  dsimp only
  have hprep := prepare_notes s job a d
  split
  · rename_i reason d₁ h
    rw [h] at hprep
    exact (hprep.trans (patchAttempt_notes ..)).calls fun e he => Or.inl he
  · rename_i script order d₁ h
    rw [h] at hprep
    have hcall := placeCall_calls s job.mode (.attempt ⟨job.id, a.id⟩) order d₁
    have hset := settle_notes s ⟨job.id, a.id⟩ script
      (d₁.placeCall s job.mode (.attempt ⟨job.id, a.id⟩) order).1
      (d₁.placeCall s job.mode (.attempt ⟨job.id, a.id⟩) order).2
    refine (hprep.calls fun e he => Or.inl he).trans
      (Calls.trans ?_ (hset.calls fun e he => Or.inl he))
    exact hcall.mono fun e he => he.imp_right fun he => ⟨order, he, prepare_ready h⟩

/-- Dialing the attempts of a job places calls for them alone, on the line of the job, and none to a
blocked number. -/
theorem dialAll_calls (s : Surroundings) (job : Job) (as : List Attempt) (d : Desk) :
    Calls s (fun e => e.Quiet ∨ ∃ id order, e = .call job.mode (.attempt ⟨job.id, id⟩) order ∧
        (BlocksNothing s → d.gate.blocked.blocks order.number = false))
      d (as.foldl (dial s job) d) := by
  refine Calls.foldl (fun d' a _ hd' => ?_) d (Holds.refl d)
  -- the list that the attempt is held against is the one from the start
  refine (dial_calls s job d' a).mono fun e he => he.imp_right ?_
  rintro ⟨order, rfl, hfree⟩
  exact ⟨a.id, order, rfl, fun hs => hd'.blocked hs ▸ hfree⟩

/-- The number that a leg of a session is dialed at. -/
def legNumber (t : Session) : Leg → String
  | .survivor => t.survivorPhone
  | .shelter => t.shelterPhone

theorem dialLeg_calls (s : Surroundings) (t : Session) (leg : Leg) (d : Desk) :
    Calls s (fun e => e.Quiet ∨ ∃ order, e = .call t.mode (.leg ⟨t.id, leg⟩) order ∧
        order.number = legNumber t leg)
      d (d.dialLeg s t leg).2 := by
  refine (placeCall_calls ..).mono fun e he => he.imp_right fun he => ⟨_, he, ?_⟩
  cases leg <;> rfl

theorem openSession_session (s : Surroundings) (r : StartTransfer) (p : Parties) (d : Desk) :
    (d.openSession s r p).1.mode = r.mode ∧
      (d.openSession s r p).1.survivorPhone = p.survivorPhone ∧
      (d.openSession s r p).1.shelterPhone = p.shelterPhone := by
  unfold openSession
  dsimp only
  split <;> exact ⟨rfl, rfl, rfl⟩

/-- Both legs of a session are dialed, on its line and at their numbers, before either
is settled. -/
theorem dialLegs_calls {t : Session} {survivor shelter : Except TelephonyError String}
    (hsurvivor : d.dialLeg s t .survivor = (survivor, d'))
    (hshelter : d'.dialLeg s t .shelter = (shelter, d'')) :
    Calls s (fun e => e.Quiet ∨ ∃ leg order, e = .call t.mode (.leg ⟨t.id, leg⟩) order ∧
        order.number = legNumber t leg) d
      ((d''.settleLeg s ⟨t.id, .survivor⟩ survivor).settleLeg s ⟨t.id, .shelter⟩ shelter) := by
  have hleg₁ := dialLeg_calls s t .survivor d
  have hleg₂ := dialLeg_calls s t .shelter d'
  rw [hsurvivor] at hleg₁
  rw [hshelter] at hleg₂
  have hsettled := (settleLeg_notes s ⟨t.id, .survivor⟩ survivor d'').trans
    (settleLeg_notes s ⟨t.id, .shelter⟩ shelter _)
  refine (hleg₁.mono ?_).trans ((hleg₂.mono ?_).trans (hsettled.calls fun e he => Or.inl he))
  · exact fun e he => he.imp_right fun ⟨order, h⟩ => ⟨.survivor, order, h⟩
  · exact fun e he => he.imp_right fun ⟨order, h⟩ => ⟨.shelter, order, h⟩

end Desk

end ShelterLine

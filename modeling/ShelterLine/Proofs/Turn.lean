import Mathlib.Data.List.Chain
import ShelterLine.Proofs.Lifecycle
import ShelterLine.Proofs.TransferRegister

/-!
# Turns

Where nothing is forgotten, an operation is a chain of turns: a turn changes one record at most and
tells of it at once, so between two turns the world knows what the desk knows. An attempt that was
dialed is marked and gets its SID in one turn. A SID that is bound must be free, or else its former
owner would lose it without a word; it is, since SIDs are given to calls, calls are numbered, and
different calls get different SIDs.
-/

namespace ShelterLine

/-- Goes to the outside: neither a write nor an event. -/
def Effect.Outward : Effect → Prop
  | .call .. | .message _ | .question _ => True
  | .keep _ | .publish _ => False

instance : DecidablePred Effect.Outward
  | .call .. | .message _ | .question _ => .isTrue trivial
  | .keep _ | .publish _ => .isFalse False.elim

/-- `m'` counts on from `m`, calls and questions only. -/
structure Tally.Acts (m m' : Tally) : Prop where
  jobs : m'.jobs = m.jobs
  transfers : m'.transfers = m.transfers
  escalations : m'.escalations = m.escalations
  calls : m.calls ≤ m'.calls

namespace Desk

/-- One turn of a desk. If new identifiers are `unique`, a new job has one that is not taken. -/
inductive Turn (s : Surroundings) (unique : Prop) (d : Desk) : Desk → Prop where
  /-- Someone is called, told or asked. -/
  | acted {made : Tally} (counts : d.made.Acts made) (e : Effect) (outward : e.Outward) :
    Turn s unique d ({ d with made }.note e)
  /-- A job is counted. -/
  | counted : Turn s unique d d.counted
  /-- Job number `n` is registered, which was made at an earlier reading of the clock. -/
  | registered (n : Nat) {reading : Nat} (past : reading < d.readings) (r : StartJob)
    (callback : Option String) (accepted : checkJob s r = .ok ())
    (new : unique → d.jobs.get? (s.newJob n) = none) :
    Turn s unique d (d.registerJob (Job.create (s.now reading) (s.newJob n) (s.newAttempt n) r.mode
      ⟨r.survivorContext, callback, r.anonymous, r.approved⟩ r.targets))
  /-- An attempt is patched. -/
  | patched {ref : AttemptRef} {p : Attempt.Patch} {job : Job} {jobs : JobRegister}
    (noSid : p.sid = none) (h : d.jobs.patch (s.now.moment d.readings) ref p = some (job, jobs)) :
    Turn s unique d ({ d with jobs, readings := d.readings + 2 }.jobChanged job)
  /-- An attempt is patched and gets its SID. -/
  | dialed {ref : AttemptRef} {p : Attempt.Patch} {sid : String} {marked job : Job}
    {jobs jobs' : JobRegister} (noSid : p.sid = none)
    (mark : d.jobs.patch (s.now.moment d.readings) ref p = some (marked, jobs))
    (bind : jobs.bindSid (s.now.moment (d.readings + 2)) ref sid = some (job, jobs'))
    (free : d.jobs.sids.owner? sid = none) :
    Turn s unique d ({ d with jobs := jobs', readings := d.readings + 4 }.jobChanged job)
  /-- The next session is registered. -/
  | opened {t : Session} (mode : Mode) (input : NewTransfer)
    (made : t = .create (s.now d.readings) (s.newTransfer d.made.transfers) mode input) :
    Turn s unique d ({ d with
      made.transfers := d.made.transfers + 1
      transfers := d.transfers.insert t
      readings := d.readings + 1 }.sessionChanged t)
  /-- A session gets a status. -/
  | moved {id : Uuid} {status : TransferStatus} {t : Session} {transfers : TransferRegister}
    (h : d.transfers.setStatus (s.now d.readings) id status = some (t, transfers)) :
    Turn s unique d ({ d with transfers, readings := d.readings + 1 }.sessionChanged t)
  /-- A leg gets its SID. -/
  | joined {ref : LegRef} {sid : String} {t : Session} {transfers : TransferRegister}
    (bind : d.transfers.bindSid (s.now d.readings) ref sid = some (t, transfers))
    (free : d.transfers.sids.owner? sid = none) :
    Turn s unique d ({ d with transfers, readings := d.readings + 1 }.sessionChanged t)
  /-- The next escalation is recorded. -/
  | escalated (e : Escalation)
    (stamped : (⟨e.id, e.createdAt⟩ : Stamp) = s.stamp d.made.escalations) :
    Turn s unique d ({ d with gate := d.gate.record e }.escalated e)
  /-- A number is blocked. -/
  | blocked (raw : String) : Turn s unique d (d.block raw).2
  /-- A number is unblocked. -/
  | unblocked (raw : String) : Turn s unique d (d.unblock raw).2

/-- A chain of turns. -/
abbrev Turns (s : Surroundings) (unique : Prop) : Desk → Desk → Prop :=
  Relation.ReflTransGen (Turn s unique)

variable {s : Surroundings} {unique : Prop} {d d' d'' : Desk}

/-- The clock is read on. -/
theorem Turn.readings_le (h : Turn s unique d d') : d.readings ≤ d'.readings := by
  cases h with
  | acted | registered | escalated => exact Nat.le_refl _
  | counted | opened | moved | joined => exact Nat.le_succ _
  | patched => exact Nat.le_add_right _ 2
  | dialed => exact Nat.le_add_right _ 4
  | blocked raw =>
    unfold block
    dsimp only
    split <;> exact Nat.le_refl _
  | unblocked raw =>
    unfold unblock
    dsimp only
    split <;> exact Nat.le_refl _

theorem Turns.readings_le (h : Turns s unique d d') : d.readings ≤ d'.readings := by
  induction h with
  | refl => exact Nat.le_refl _
  | tail _ hlast ih => exact Nat.le_trans ih hlast.readings_le

/-- Nothing is made unmade. -/
theorem Turn.made_le (h : Turn s unique d d') : d.made.transfers ≤ d'.made.transfers ∧
    d.made.escalations ≤ d'.made.escalations := by
  cases h with
  | acted counts => exact ⟨Nat.le_of_eq counts.transfers.symm, Nat.le_of_eq counts.escalations.symm⟩
  | opened => exact ⟨Nat.le_succ _, Nat.le_refl _⟩
  | escalated => exact ⟨Nat.le_refl _, Nat.le_succ _⟩
  | counted | registered | patched | dialed | moved | joined => exact ⟨Nat.le_refl _, Nat.le_refl _⟩
  | blocked raw =>
    unfold block
    dsimp only
    split <;> exact ⟨Nat.le_refl _, Nat.le_refl _⟩
  | unblocked raw =>
    unfold unblock
    dsimp only
    split <;> exact ⟨Nat.le_refl _, Nat.le_refl _⟩

/-! ## Turns without a SID -/

/-- A chain of turns in which no SID is bound. -/
structure Stays (s : Surroundings) (unique : Prop) (d d' : Desk) : Prop where
  turns : Turns s unique d d'
  jobSids : d'.jobs.sids = d.jobs.sids
  legSids : d'.transfers.sids = d.transfers.sids
  calls : d.made.calls ≤ d'.made.calls

theorem Stays.refl (d : Desk) : Stays s unique d d := ⟨.refl, rfl, rfl, Nat.le_refl _⟩

theorem Stays.trans (h : Stays s unique d d') (h' : Stays s unique d' d'') : Stays s unique d d'' :=
  ⟨h.turns.trans h'.turns, h'.jobSids.trans h.jobSids, h'.legSids.trans h.legSids,
    Nat.le_trans h.calls h'.calls⟩

theorem Stays.foldl {α : Type} {step : Desk → α → Desk} {as : List α}
    (hstep : ∀ d a, a ∈ as → Stays s unique d (step d a)) (d : Desk) :
    Stays s unique d (as.foldl step d) := by
  induction as generalizing d with
  | nil => exact .refl d
  | cons a as ih =>
    exact (hstep d a List.mem_cons_self).trans
      (ih (fun d b hb => hstep d b (List.mem_cons_of_mem a hb)) _)

theorem Turn.stays (h : Turn s unique d d') (hjobs : d'.jobs.sids = d.jobs.sids)
    (hlegs : d'.transfers.sids = d.transfers.sids) (hcalls : d'.made.calls = d.made.calls) :
    Stays s unique d d' := ⟨.single h, hjobs, hlegs, Nat.le_of_eq hcalls.symm⟩

theorem patchAttempt_stays (ref : AttemptRef) {p : Attempt.Patch} (hp : p.sid = none) (d : Desk) :
    Stays s unique d (d.patchAttempt s ref p).2 := by
  unfold patchAttempt
  cases hpatch : d.jobs.patch (s.now.moment d.readings) ref p with
  | none => exact .refl d
  | some found =>
    obtain ⟨job, jobs⟩ := found
    obtain ⟨-, -, -, -, hjobs⟩ := JobRegister.patch_eq_some_iff.1 hpatch
    exact (Turn.patched hp hpatch).stays (congrArg (·.sids) hjobs) rfl rfl

theorem patchAttempt_made (ref : AttemptRef) (p : Attempt.Patch) (d : Desk) :
    (d.patchAttempt s ref p).2.made = d.made := by
  unfold patchAttempt
  split <;> rfl

theorem ask_stays (r : ChatRequest) (d : Desk) : Stays s unique d (d.ask s r).2 := by
  unfold ask
  split
  · exact .refl d
  · have hcounts : d.made.Acts { d.made with questions := d.made.questions + 1 } :=
      ⟨rfl, rfl, rfl, Nat.le_refl _⟩
    exact (Turn.acted hcounts (.question r) trivial).stays rfl rfl rfl

theorem prepare_stays (job : Job) (a : Attempt) (d : Desk) :
    Stays s unique d (d.prepare s job a).2 := by
  unfold prepare
  split
  · exact .refl d
  · split
    · exact .refl d
    · exact ask_stays ..

/-- A new session is registered, and connecting. -/
theorem openSession_stays (r : StartTransfer) (p : Parties) (d : Desk) :
    Stays s unique d (d.openSession s r p).2 := by
  unfold openSession
  dsimp only
  generalize ht : Session.create (s.now d.readings) (s.newTransfer d.made.transfers) r.mode _ = t
  have hopened : Stays s unique d _ := (Turn.opened r.mode _ ht.symm).stays rfl rfl rfl
  split
  · rename_i connecting transfers hconnect
    obtain ⟨-, hsids⟩ := TransferRegister.update_eq_some_iff.1 hconnect
    exact hopened.trans ((Turn.moved hconnect).stays rfl (congrArg (·.sids) hsids) rfl)
  · exact hopened

theorem status_stays (r : StatusReport) (d : Desk) : Stays s unique d (d.status s r).2 := by
  unfold status
  split
  · dsimp only
    split
    · exact .refl d
    · exact patchAttempt_stays _ rfl d
  · split
    · exact .refl d
    · split
      · exact .refl d
      · split
        · rename_i hset
          obtain ⟨-, hsids⟩ := TransferRegister.update_eq_some_iff.1 hset
          exact (Turn.moved hset).stays rfl (congrArg (·.sids) hsids) rfl
        · exact .refl d

theorem recording_stays (sid url : String) (d : Desk) :
    Stays s unique d (d.recording s sid url).2 := by
  unfold recording
  split
  · exact .refl d
  · split
    · exact .refl d
    · exact patchAttempt_stays _ rfl d

theorem gather_stays (ref : AttemptRef) (speech : Option String) (d : Desk) :
    Stays s unique d (d.gather s ref speech).2 := by
  unfold gather
  split
  · exact .refl d
  · exact ask_stays ..

theorem consult_stays (risk : RiskAssessment) (approved live : Bool) (source : EscalationSource)
    (reference : String) (d : Desk) :
    Stays s unique d (d.consult s risk approved live source reference).2 := by
  rcases consult_course s risk approved live source reference d with
    ⟨-, h⟩ | ⟨stopped, e, -, rfl, h⟩
  · rw [h]
    exact .refl d
  · rw [h]
    exact (Turn.escalated _ rfl).stays rfl rfl rfl

theorem followUp_stays (attempt : Attempt) (report : IntakeReport) (d : Desk) :
    Stays s unique d (d.followUp s attempt report) := by
  unfold followUp
  split
  · exact (Turn.escalated _ rfl).stays rfl rfl rfl
  · exact .refl d

theorem announce_stays (job : Job) (attempt : Attempt) (text : String) (report : IntakeReport)
    (d : Desk) : Stays s unique d (d.announce s job attempt text report) := by
  unfold announce
  split
  · have hasked : Stays s unique d _ := consult_stays (Risk.assess text) job.request.approved true
      .transcript attempt.id.toString d
    rcases notifySurvivor_course s job attempt text report d with
      h | ⟨callback, verdict, d₁, -, -, -, hask, h | ⟨-, body, h⟩⟩
    · rw [h]
      exact .refl d
    · rw [hask] at hasked
      rw [h]
      exact hasked
    · rw [hask] at hasked
      rw [h]
      exact hasked.trans ((Turn.acted ⟨rfl, rfl, rfl, Nat.le_refl _⟩
        (.message ⟨callback, body⟩) trivial).stays rfl rfl rfl)
  · exact .refl d

theorem transcript_stays (sid text : String) (d : Desk) :
    Stays s unique d (d.transcript s sid text).2 := by
  rcases transcript_course s sid text d with
    h | ⟨job, attempt, answer, d₁, report, changed, d₂, -, hask, -, hpatch, hcourse⟩
  · rw [h]
    exact .refl d
  · have hasked : Stays s unique d _ := ask_stays (Script.reportRequest text) d
    have hpatched : Stays s unique d₁ _ := patchAttempt_stays ⟨job.id, attempt.id⟩
      (p := transcriptPatch text report) rfl d₁
    rw [hask] at hasked
    rw [hpatch] at hpatched
    have hattached : Stays s unique d d₂ := hasked.trans hpatched
    rcases hcourse with ⟨-, h⟩ | ⟨job', -, h⟩
    · rw [h]
      exact hattached
    · rw [h]
      exact hattached.trans ((followUp_stays ..).trans (announce_stays ..))

/-! ## Calls -/

/-- Blocking a number changes the block list and the trace only. -/
theorem block_eq (raw : String) (d : Desk) :
    ∃ blocked trace, (d.block raw).2 = { d with gate.blocked := blocked, trace } := by
  unfold block
  dsimp only
  split <;> exact ⟨_, _, rfl⟩

/-- Unblocking a number changes the block list and the trace only. -/
theorem unblock_eq (raw : String) (d : Desk) :
    ∃ blocked trace, (d.unblock raw).2 = { d with gate.blocked := blocked, trace } := by
  unfold unblock
  dsimp only
  split <;> exact ⟨_, _, rfl⟩

theorem block_stays (raw : String) (d : Desk) : Stays s unique d (d.block raw).2 := by
  obtain ⟨blocked, trace, h⟩ := block_eq raw d
  exact (Turn.blocked raw).stays (by rw [h]) (by rw [h]) (by rw [h])

theorem unblock_stays (raw : String) (d : Desk) : Stays s unique d (d.unblock raw).2 := by
  obtain ⟨blocked, trace, h⟩ := unblock_eq raw d
  exact (Turn.unblocked raw).stays (by rw [h]) (by rw [h]) (by rw [h])

theorem interrupt_stays {i : Interruption} (hi : i ≠ .reset) (d : Desk) :
    Stays s unique d (interrupt s d i) := by
  cases i with
  | reset => exact absurd rfl hi
  | block raw => exact block_stays raw d
  | status r => exact status_stays r d

/-- Placing a call counts it, and meanwhile no SID is bound. -/
theorem placeCall_stays (hforget : ForgetsNothing s) {line : Mode} {purpose : CallPurpose}
    {order : CallOrder} {placed : Except TelephonyError String}
    (h : d.placeCall s line purpose order = (placed, d')) :
    Stays s unique d d' ∧ d.made.calls < d'.made.calls ∧
      placed = s.place d.made.calls line order := by
  obtain ⟨rfl, rfl⟩ := Prod.mk.inj h
  have hcounts : d.made.Acts { d.made with calls := d.made.calls + 1 } :=
    ⟨rfl, rfl, rfl, Nat.le_succ _⟩
  have hcall : Turn s unique d
      ({ d with made.calls := d.made.calls + 1 }.note (.call line purpose order)) :=
    .acted hcounts (.call line purpose order) trivial
  have hmeanwhile : Stays s unique
      ({ d with made.calls := d.made.calls + 1 }.note (.call line purpose order))
      (d.placeCall s line purpose order).2 :=
    Stays.foldl (fun d i hi => interrupt_stays (fun he => hforget _ _ (he ▸ hi)) d) _
  exact ⟨⟨hmeanwhile.turns.head hcall, hmeanwhile.jobSids, hmeanwhile.legSids,
    Nat.le_trans (Nat.le_succ _) hmeanwhile.calls⟩, hmeanwhile.calls, rfl⟩

/-! ## SIDs -/

/-- Whoever has a SID, it was given to a call with a number below `n`. -/
structure Named {κ : Type} [DecidableEq κ] (given : Nat → String → Prop) (n : Nat)
    (ix : SidIndex κ) : Prop where
  linked : ix.Linked
  given : ∀ sid owner, ix.owner? sid = some owner → ∃ m < n, given m sid

section

variable {κ : Type} [DecidableEq κ] {given : Nat → String → Prop} {n m : Nat} {ix : SidIndex κ}
  {sid : String}

theorem Named.mono (h : Named given n ix) (hle : n ≤ m) : Named given m ix := by
  refine ⟨h.linked, fun sid owner howner => ?_⟩
  obtain ⟨k, hk, hgiven⟩ := h.given sid owner howner
  exact ⟨k, Nat.lt_of_lt_of_le hk hle, hgiven⟩

/-- The SID of the next call is free. -/
theorem Named.free (h : Named given n ix) (hdistinct : ∀ m, given m sid → m = n) :
    ix.owner? sid = none := by
  refine Option.eq_none_iff_forall_ne_some.2 fun owner howner => ?_
  obtain ⟨m, hm, hgiven⟩ := h.given sid owner howner
  exact absurd (hdistinct m hgiven) (Nat.ne_of_lt hm)

theorem Named.bind (h : Named given n ix) (hgiven : given n sid) (owner : κ) :
    Named given (n + 1) (ix.bind sid owner) := by
  refine ⟨SidIndex.linked_bind h.linked sid owner, fun sid' owner' howner => ?_⟩
  rcases SidIndex.owner?_or_eq_of_owner?_bind h.linked howner with hold | ⟨rfl, -⟩
  · exact (h.mono (Nat.le_succ n)).given sid' owner' hold
  · exact ⟨n, Nat.lt_succ_self n, hgiven⟩

end

/-- All SIDs that a desk knows were given to calls with numbers below `n`. -/
structure Names (given : Nat → String → Prop) (n : Nat) (d : Desk) : Prop where
  attempts : Named given n d.jobs.sids
  legs : Named given n d.transfers.sids

variable {given : Nat → String → Prop} {n m : Nat}

theorem Names.mono (h : Names given n d) (hle : n ≤ m) : Names given m d :=
  ⟨h.attempts.mono hle, h.legs.mono hle⟩

theorem Names.stays (h : Names given n d) (hs : Stays s unique d d') : Names given n d' :=
  ⟨hs.jobSids ▸ h.attempts, hs.legSids ▸ h.legs⟩

/-- An attempt is settled in one turn, if there is anything left to settle. -/
theorem settle_turns (hn : Names given n d) (ref : AttemptRef) (script : Script.Sourced String)
    (placed : Except TelephonyError String) (hgiven : ∀ sid, placed = .ok sid → given n sid)
    (hdistinct : ∀ m sid, given m sid → given n sid → m = n) :
    Turns s unique d (d.settle s ref script placed) ∧
      Names given (n + 1) (d.settle s ref script placed) ∧
      (d.settle s ref script placed).made = d.made := by
  have hlater := hn.mono (Nat.le_succ n)
  unfold settle
  cases placed with
  | error e =>
    have hfailed : Stays s unique d _ := patchAttempt_stays ref
      (p := { Attempt.Patch.failed e.message with
        script := some script.value, scriptSource := some script.source }) rfl d
    exact ⟨hfailed.turns, hlater.stays hfailed, patchAttempt_made ..⟩
  | ok sid =>
    dsimp only
    cases hmark : d.jobs.patch (s.now.moment d.readings) ref {
        status := some .initiated, script := some script.value,
        scriptSource := some script.source } with
    | none => exact ⟨.refl, hlater, rfl⟩
    | some marked =>
      obtain ⟨job, jobs⟩ := marked
      obtain ⟨j, a, hfound, -, hjobs⟩ := JobRegister.patch_eq_some_iff.1 hmark
      have hsids : jobs.sids = d.jobs.sids := congrArg (·.sids) hjobs
      dsimp only
      cases hbind : jobs.bindSid (s.now.moment (d.readings + 2)) ref sid with
      | none =>
        -- the attempt that was marked is there, so it gets its SID
        have hthere := JobRegister.bindSid_isSome jobs (s.now.moment (d.readings + 2)) ref sid
        rw [hbind, hjobs, JobRegister.attempt?_modify (Job.touches_patch ..), hfound] at hthere
        cases hthere
      | some bound =>
        obtain ⟨job', jobs'⟩ := bound
        have hgivenSid := hgiven sid rfl
        have hfree := hn.attempts.free fun m hm => hdistinct m sid hm hgivenSid
        refine ⟨.single (.dialed rfl hmark hbind hfree), ⟨?_, hlater.legs⟩, rfl⟩
        obtain ⟨-, rfl⟩ := JobRegister.bindSid_eq_some hbind
        change Named given (n + 1) (jobs.sids.bind sid ref)
        rw [hsids]
        exact hn.attempts.bind hgivenSid ref

/-- A leg is settled in one turn, if its session is still there. -/
theorem settleLeg_turns (hn : Names given n d) (ref : LegRef)
    (placed : Except TelephonyError String) (hgiven : ∀ sid, placed = .ok sid → given n sid)
    (hdistinct : ∀ m sid, given m sid → given n sid → m = n) :
    Turns s unique d (d.settleLeg s ref placed) ∧ Names given (n + 1) (d.settleLeg s ref placed) ∧
      (d.settleLeg s ref placed).made = d.made := by
  have hlater := hn.mono (Nat.le_succ n)
  unfold settleLeg
  cases placed with
  | error e =>
    dsimp only
    cases hset : d.transfers.setStatus (s.now d.readings) ref.transferId .failed with
    | none => exact ⟨.refl, hlater, rfl⟩
    | some found =>
      obtain ⟨-, hsids⟩ := TransferRegister.update_eq_some_iff.1 hset
      have hfailed : Stays s unique d _ := (Turn.moved hset).stays rfl (congrArg (·.sids) hsids) rfl
      exact ⟨hfailed.turns, hlater.stays hfailed, rfl⟩
  | ok sid =>
    dsimp only
    cases hbind : d.transfers.bindSid (s.now d.readings) ref sid with
    | none => exact ⟨.refl, hlater, rfl⟩
    | some bound =>
      obtain ⟨t, transfers⟩ := bound
      have hgivenSid := hgiven sid rfl
      have hfree := hn.legs.free fun m hm => hdistinct m sid hm hgivenSid
      refine ⟨.single (.joined hbind hfree), ⟨hlater.attempts, ?_⟩, rfl⟩
      obtain ⟨-, rfl⟩ := TransferRegister.bindSid_eq_some hbind
      exact hn.legs.bind hgivenSid ref

/-! ## Operations -/

/-- SIDs are `given` to calls: each call gets one of its own, and no other call gets it. -/
structure Gives (given : Nat → String → Prop) (s : Surroundings) : Prop where
  place : ∀ n line order sid, s.place n line order = .ok sid → given n sid
  distinct : ∀ m n sid, given m sid → given n sid → m = n

/-- A chain of turns after which all SIDs are those of calls that were placed. -/
structure Goes (given : Nat → String → Prop) (s : Surroundings) (unique : Prop) (d d' : Desk) :
    Prop where
  turns : Turns s unique d d'
  names : Names given d'.made.calls d'

theorem Stays.goes (h : Stays s unique d d') (hn : Names given d.made.calls d) :
    Goes given s unique d d' := ⟨h.turns, (hn.stays h).mono h.calls⟩

theorem Stays.trans_goes (h : Stays s unique d d') (h' : Goes given s unique d' d'') :
    Goes given s unique d d'' := ⟨h.turns.trans h'.turns, h'.names⟩

/-- Dialing an attempt prepares it, places its call and settles it. -/
theorem dial_goes (hgives : Gives given s) (hforget : ForgetsNothing s)
    (hn : Names given d.made.calls d) (job : Job) (a : Attempt) :
    Goes given s unique d (d.dial s job a) := by
  unfold dial
  dsimp only
  have hprep : Stays s unique d _ := prepare_stays job a d
  split
  · rename_i reason d₁ h
    rw [h] at hprep
    exact (hprep.trans (patchAttempt_stays _ rfl d₁)).goes hn
  · rename_i script order d₁ h
    rw [h] at hprep
    rcases hcall : d₁.placeCall s job.mode (.attempt ⟨job.id, a.id⟩) order with ⟨placed, d₂⟩
    obtain ⟨hplace, hcalls, hplaced⟩ : Stays s unique d₁ d₂ ∧ _ := placeCall_stays hforget hcall
    -- the SID is given to the call that was just counted
    have hbefore : Names given d₁.made.calls d₂ := ((hn.stays hprep).mono hprep.calls).stays hplace
    obtain ⟨hturns, hnames, hmade⟩ := settle_turns hbefore ⟨job.id, a.id⟩ script placed
      (fun sid hsid => hgives.place _ _ _ sid (hplaced.symm.trans hsid))
      fun m sid => hgives.distinct m _ sid
    refine ⟨(hprep.trans hplace).turns.trans hturns, hnames.mono ?_⟩
    rw [hmade]
    exact hcalls

theorem dialAll_goes (hgives : Gives given s) (hforget : ForgetsNothing s) (job : Job) :
    ∀ (as : List Attempt) (d : Desk), Names given d.made.calls d →
      Goes given s unique d (as.foldl (dial s job) d)
  | [], d, hn => (Stays.refl d).goes hn
  | a :: as, d, hn => by
    have hfirst : Goes given s unique d (d.dial s job a) := dial_goes hgives hforget hn job a
    have hrest := dialAll_goes hgives hforget job as _ hfirst.names
    exact ⟨hfirst.turns.trans hrest.turns, hrest.names⟩

theorem startJob_goes (hgives : Gives given s) (hforget : ForgetsNothing s)
    (hn : Names given d.made.calls d) (r : StartJob)
    (hnew : unique → d.jobs.get? (s.newJob d.made.jobs) = none) :
    Goes given s unique d (d.startJob s r).2 := by
  rcases startJob_course s r d with
    ⟨refusal, h, -⟩ | ⟨job, d₁, verdict, d₂, hcheck, -, hmake, hask, hcourse⟩
  · rw [h]
    exact (Stays.refl d).goes hn
  · have hasked : Stays s unique d₁ _ := consult_stays (Risk.assess r.survivorContext) r.approved
      r.mode.isLive .callJob job.id.toString d₁
    have hjobs := consult_jobs s (Risk.assess r.survivorContext) r.approved r.mode.isLive .callJob
      job.id.toString d₁
    rw [hask] at hasked hjobs
    -- making the job only counts it
    obtain ⟨rfl, rfl⟩ := Prod.mk.inj hmake
    have hjudged : Stays s unique d d₂ := (Turn.counted.stays rfl rfl rfl).trans hasked
    have hpast : d.readings < d₂.readings := hasked.turns.readings_le
    rcases hcourse with ⟨denial, -, h⟩ | ⟨-, d₃, rfl, h⟩
    · rw [h]
      exact hjudged.goes hn
    · rw [h]
      have hfree : unique → d₂.jobs.get? (s.newJob d.made.jobs) = none := by
        intro hu
        rw [show d₂.jobs = d.jobs from hjobs]
        exact hnew hu
      have hregistered := hjudged.trans ((Turn.registered d.made.jobs hpast r
        (r.callbackNumber.bind Phone.canonical?) hcheck hfree).stays rfl rfl rfl)
      exact hregistered.trans_goes (dialAll_goes hgives hforget _ _ _
        ((hn.stays hregistered).mono hregistered.calls))

theorem startTransfer_goes (hgives : Gives given s) (hforget : ForgetsNothing s)
    (hn : Names given d.made.calls d) (r : StartTransfer) :
    Goes given s unique d (d.startTransfer s r).2 := by
  rcases startTransfer_course s r d with ⟨refusal, h, -⟩ | ⟨p, verdict, d₁, -, hask, hcourse⟩
  · rw [h]
    exact (Stays.refl d).goes hn
  · have hasked : Stays s unique d _ := consult_stays (Risk.assess (riskText p.job r.notes))
      (r.approved || p.job.request.approved) r.mode.isLive .warmTransfer r.attemptId.toString d
    rw [hask] at hasked
    rcases hcourse with ⟨denial, rfl, h⟩ |
      ⟨rfl, t, d₂, survivor, d₃, shelter, d₄, d₅, hopen, hsurvivor, hshelter, rfl, h⟩
    · rw [h]
      exact hasked.goes hn
    · have hopened : Stays s unique d₁ _ := openSession_stays r p d₁
      rw [hopen] at hopened
      obtain ⟨hleg₁, hcalls₁, hplaced₁⟩ : Stays s unique d₂ d₃ ∧ _ :=
        placeCall_stays hforget hsurvivor
      obtain ⟨hleg₂, hcalls₂, hplaced₂⟩ : Stays s unique d₃ d₄ ∧ _ :=
        placeCall_stays hforget hshelter
      -- both calls have been counted by now, the survivor's first
      have hdialed : Stays s unique d d₄ := (hasked.trans hopened).trans (hleg₁.trans hleg₂)
      have hbefore : Names given d₂.made.calls d₄ :=
        (hn.mono (hasked.trans hopened).calls).stays hdialed
      obtain ⟨hturns₁, hnames₁, hmade₁⟩ := settleLeg_turns (s := s) hbefore ⟨t.id, .survivor⟩
        survivor (fun sid hsid => hgives.place _ _ _ sid (hplaced₁.symm.trans hsid))
        fun m sid => hgives.distinct m _ sid
      obtain ⟨hturns₂, hnames₂, hmade₂⟩ := settleLeg_turns (s := s) (hnames₁.mono hcalls₁)
        ⟨t.id, .shelter⟩ shelter (fun sid hsid => hgives.place _ _ _ sid (hplaced₂.symm.trans hsid))
        fun m sid => hgives.distinct m _ sid
      rw [h]
      refine ⟨hdialed.turns.trans (hturns₁.trans hturns₂), hnames₂.mono ?_⟩
      rw [hmade₂, hmade₁]
      exact hcalls₂

/-- **An operation that forgets nothing and takes nothing in is a chain of turns.** -/
theorem perform_goes (hgives : Gives given s) (hn : Names given d.made.calls d) {op : Operation}
    (hremembers : Remembers s op) (hmemory : ∀ stored, op ≠ .restore stored)
    (hnew : unique → ∀ r, op = .startJob r → d.jobs.get? (newJob s r d).id = none) :
    Goes given s unique d (d.perform s op).2 := by
  cases op with
  | startJob r => exact startJob_goes hgives hremembers.2 hn r fun hu => hnew hu r rfl
  | startTransfer r => exact startTransfer_goes hgives hremembers.2 hn r
  | status r => exact (status_stays r d).goes hn
  | recording sid url => exact (recording_stays sid url d).goes hn
  | transcript sid text => exact (transcript_stays sid text d).goes hn
  | gather ref speech => exact (gather_stays ref speech d).goes hn
  | block raw => exact (block_stays raw d).goes hn
  | unblock raw => exact (unblock_stays raw d).goes hn
  | reset => exact absurd rfl hremembers.1
  | restore stored => exact absurd rfl (hmemory stored)

/-! ## Runs -/

/-- A call of a run with this number can get this SID. -/
def Granted (ops : List (Surroundings × Operation)) (n : Nat) (sid : String) : Prop :=
  ∃ p ∈ ops, ∃ line order, p.1.place n line order = .ok sid

/-- Calls with different numbers get different SIDs. -/
def DistinctSids (ops : List (Surroundings × Operation)) : Prop :=
  ∀ m n sid, Granted ops m sid → Granted ops n sid → m = n

variable {ops : List (Surroundings × Operation)} {c : SafetyConfig}

theorem DistinctSids.gives (h : DistinctSids ops) {p : Surroundings × Operation} (hp : p ∈ ops) :
    Gives (Granted ops) p.1 :=
  ⟨fun _ line order _ hplace => ⟨p, hp, line, order, hplace⟩, h⟩

/-- Where SIDs are numbers, different calls get different ones. -/
theorem distinctSids_calm (h : ∀ p ∈ ops, p.1.place = Surroundings.calm.place) :
    DistinctSids ops := by
  rintro m n sid ⟨p, hp, line, order, hm⟩ ⟨q, hq, line', order', hn⟩
  rw [h p hp] at hm
  rw [h q hq] at hn
  have hsids : "CA" ++ m.repr = "CA" ++ n.repr := (Except.ok.inj hm).trans (Except.ok.inj hn).symm
  have hdigits : Nat.toDigits 10 m = Nat.toDigits 10 n := by
    rw [← Nat.toList_repr, ← Nat.toList_repr, (String.append_right_inj "CA").1 hsids]
  rw [← @Nat.ofDigitChars_ten_toDigits m, hdigits, Nat.ofDigitChars_ten_toDigits]

theorem names_ofConfig (c : SafetyConfig) : Names given n (ofConfig c) := by
  have hnone : ∀ {κ : Type} [DecidableEq κ], Named given n ({} : SidIndex κ) :=
    ⟨SidIndex.linked_empty, fun sid owner howner => by cases howner⟩
  exact ⟨hnone, hnone⟩

/-- The desks that a run passes after its first, one turn from each to the next. -/
inductive Passes : Desk → List (Surroundings × Operation) → List Desk → Prop where
  | done (d : Desk) : Passes d [] []
  | perform {d : Desk} {s : Surroundings} {op : Operation} {ops : List (Surroundings × Operation)}
    {ds ds' : List Desk} (turns : (d :: ds).IsChain (Turn s False))
    (last : (d :: ds).getLast (List.cons_ne_nil d ds) = (d.perform s op).2)
    (rest : Passes (d.perform s op).2 ops ds') : Passes d ((s, op) :: ops) (ds ++ ds')

theorem Passes.chain {ds : List Desk} (h : Passes d ops ds) :
    (d :: ds).IsChain fun d d' => ∃ s, Turn s False d d' := by
  induction h with
  | done d => exact .singleton d
  | @perform d s op ops ds ds' turns last rest ih =>
    rw [← List.cons_append]
    have hturns : (d :: ds).IsChain fun d d' => ∃ s, Turn s False d d' :=
      turns.imp fun _ _ h => ⟨s, h⟩
    refine hturns.append ih.tail fun x hx y hy => ?_
    -- the last of these desks is the first of the rest
    rw [List.getLast?_eq_getLast_of_ne_nil (List.cons_ne_nil d ds), last] at hx
    obtain rfl := Option.mem_some_iff.1 hx
    exact ih.rel_head? hy

/-- A run passes what its parts leave, and ends with what it leaves itself. -/
theorem Passes.getLast {ds : List Desk} (h : Passes d ops ds) :
    (d :: ds).getLast (List.cons_ne_nil d ds) = d.run ops := by
  induction h with
  | done d => rfl
  | @perform d s op ops ds ds' turns last rest ih =>
    change _ = Desk.run (d.perform s op).2 ops
    rw [← ih]
    cases ds' with
    | nil => simpa using last
    | cons d' ds' => simp

/-- **A run that forgets nothing and takes nothing in passes from turn to turn.** -/
theorem exists_passes (hdistinct : DistinctSids ops) :
    ∀ (after : List (Surroundings × Operation)) (d : Desk), after ⊆ ops →
      (∀ p ∈ after, Remembers p.1 p.2) → Unrestored after → Names (Granted ops) d.made.calls d →
      ∃ ds, d.Passes after ds
  | [], d, _, _, _, _ => ⟨[], .done d⟩
  | (s, op) :: after, d, hsub, hkept, hmemory, hn => by
    have hfirst : Goes (Granted ops) s False d _ :=
      perform_goes (hdistinct.gives (hsub List.mem_cons_self)) hn (hkept (s, op) List.mem_cons_self)
        (hmemory (s, op) List.mem_cons_self) False.elim
    obtain ⟨ds, hchain, hlast⟩ := List.exists_isChain_cons_of_relationReflTransGen hfirst.turns
    obtain ⟨ds', hrest⟩ := exists_passes hdistinct after _
      (fun p hp => hsub (List.mem_cons_of_mem _ hp))
      (fun p hp => hkept p (List.mem_cons_of_mem _ hp))
      (fun p hp => hmemory p (List.mem_cons_of_mem _ hp)) hfirst.names
    exact ⟨ds ++ ds', .perform hchain hlast hrest⟩

end Desk

end ShelterLine

import ShelterLine.Proofs.Turn

/-!
# Elementary changes

Whatever an operation does to the desk, it does by a chain of elementary changes: one register, the
log or the block list changes at one place and this is told, or something is noted about the
outside. Between two of them the world may go on, so the states along a chain are all that anybody
can see of a desk. What every elementary change keeps is kept by every operation, and by what
interrupts one. Taking records in from storage is no such change.
-/

namespace ShelterLine

namespace Desk

variable {s : Surroundings} {d d' d'' : Desk}

/-- One elementary change of a desk, whatever the clock shows. -/
inductive Change (s : Surroundings) (d : Desk) : Desk → Prop where
  /-- Someone is called, told or asked. -/
  | acted (e : Effect) (outward : e.Outward) : Change s d (d.note e)
  /-- Something is counted, readings of the clock among it. -/
  | counted (made : Tally) (readings : Nat) : Change s d { d with made, readings }
  /-- Job number `n` is registered. -/
  | registered (n : Nat) (now : Instant) (r : StartJob) (callback : Option String)
    (accepted : checkJob s r = .ok ()) :
    Change s d (d.registerJob (Job.create now (s.newJob n) (s.newAttempt n) r.mode
      ⟨r.survivorContext, callback, r.anonymous, r.approved⟩ r.targets))
  /-- An attempt is patched, and its job has changed. -/
  | patched {now : Moment} {ref : AttemptRef} {p : Attempt.Patch} {job : Job} {jobs : JobRegister}
    (noSid : p.sid = none) (h : d.jobs.patch now ref p = some (job, jobs)) :
    Change s d ({ d with jobs }.jobChanged job)
  /-- An attempt is patched, and nobody is told yet. -/
  | marked {now : Moment} {ref : AttemptRef} {p : Attempt.Patch} {job : Job} {jobs : JobRegister}
    (noSid : p.sid = none) (h : d.jobs.patch now ref p = some (job, jobs)) :
    Change s d { d with jobs }
  /-- An attempt gets its SID, and its job has changed. -/
  | bound {now : Moment} {ref : AttemptRef} {sid : String} {job : Job} {jobs : JobRegister}
    (h : d.jobs.bindSid now ref sid = some (job, jobs)) :
    Change s d ({ d with jobs }.jobChanged job)
  /-- Session number `n` is registered. -/
  | opened {t : Session} (n : Nat) (mode : Mode) (input : NewTransfer)
    {now : Instant} (made : t = .create now (s.newTransfer n) mode input) :
    Change s d ({ d with transfers := d.transfers.insert t }.sessionChanged t)
  /-- A session gets a status. -/
  | moved {now : Instant} {id : Uuid} {status : TransferStatus} {t : Session}
    {transfers : TransferRegister} (h : d.transfers.setStatus now id status = some (t, transfers)) :
    Change s d ({ d with transfers }.sessionChanged t)
  /-- A leg gets its SID. -/
  | joined {now : Instant} {ref : LegRef} {sid : String} {t : Session}
    {transfers : TransferRegister} (h : d.transfers.bindSid now ref sid = some (t, transfers)) :
    Change s d ({ d with transfers }.sessionChanged t)
  /-- An escalation is recorded. -/
  | escalated (e : Escalation) : Change s d ({ d with gate := d.gate.record e }.escalated e)
  /-- A number is blocked. -/
  | blocked (raw : String) : Change s d (d.block raw).2
  /-- A number is unblocked. -/
  | unblocked (raw : String) : Change s d (d.unblock raw).2
  /-- All jobs and transfers are forgotten. -/
  | forgotten : Change s d d.reset

/-- A chain of elementary changes. -/
abbrev Changes (s : Surroundings) : Desk → Desk → Prop := Relation.ReflTransGen (Change s)

theorem Change.changes (h : Change s d d') : Changes s d d' := .single h

/-- The clock is read. -/
theorem Changes.read (d : Desk) (readings : Nat) : Changes s d { d with readings } :=
  (Change.counted d.made readings).changes

theorem Changes.foldl {α : Type} {step : Desk → α → Desk} {as : List α}
    (hstep : ∀ d a, a ∈ as → Changes s d (step d a)) (d : Desk) :
    Changes s d (as.foldl step d) := by
  induction as generalizing d with
  | nil => exact .refl
  | cons a as ih =>
    exact (hstep d a (by simp)).trans (ih (fun d b hb => hstep d b (by simp [hb])) _)

/-- What every elementary change keeps a chain keeps. -/
theorem Changes.keeps {I : Desk → Prop} (hstep : ∀ d d', Change s d d' → I d → I d')
    (h : Changes s d d') (hd : I d) : I d' := by
  induction h with
  | refl => exact hd
  | tail _ hlast ih => exact hstep _ _ hlast ih

/-- A turn is at most a few changes: whoever is called is counted first and so is a reading of the
clock, an attempt that was dialed is marked before it gets its SID, and a session is counted
before it is registered. -/
theorem Turn.changes {unique : Prop} (h : Turn s unique d d') : Changes s d d' := by
  cases h with
  | acted counts e outward => exact (Change.counted _ _).changes.tail (.acted e outward)
  | counted => exact (Change.counted _ _).changes
  | registered n past r callback accepted new =>
    exact (Change.registered n _ r callback accepted).changes
  | patched noSid h => exact (Changes.read d (d.readings + 2)).tail (.patched noSid h)
  | dialed noSid mark bind free =>
    exact ((Changes.read d (d.readings + 4)).tail (.marked noSid mark)).tail (.bound bind)
  | opened mode input made =>
    have hcounted : Changes s d { d with
        made.transfers := d.made.transfers + 1, readings := d.readings + 1 } :=
      (Change.counted _ _).changes
    exact hcounted.tail (.opened d.made.transfers mode input made)
  | moved h => exact (Changes.read d (d.readings + 1)).tail (.moved h)
  | joined bind free => exact (Changes.read d (d.readings + 1)).tail (.joined bind)
  | escalated e stamped => exact (Change.escalated e).changes
  | blocked raw => exact (Change.blocked raw).changes
  | unblocked raw => exact (Change.unblocked raw).changes

theorem Turns.changes {unique : Prop} (h : Turns s unique d d') : Changes s d d' := by
  induction h with
  | refl => exact .refl
  | tail _ hlast ih => exact ih.trans hlast.changes

theorem Stays.changes (h : Stays s False d d') : Changes s d d' := h.turns.changes

/-! ## Settling a call -/

theorem settle_changes (ref : AttemptRef) (script : Script.Sourced String)
    (placed : Except TelephonyError String) (d : Desk) :
    Changes s d (d.settle s ref script placed) := by
  unfold settle
  cases placed with
  | error e => exact (patchAttempt_stays ref rfl d).changes
  | ok sid =>
    dsimp only
    cases hpatch : d.jobs.patch (s.now.moment d.readings) ref {
        status := some .initiated, script := some script.value,
        scriptSource := some script.source } with
    | none => exact .refl
    | some found =>
      obtain ⟨job, jobs⟩ := found
      have hmarked (readings : Nat) : Changes s d { d with jobs, readings } :=
        (Changes.read d readings).tail (.marked rfl hpatch)
      dsimp only
      cases hbind : jobs.bindSid (s.now.moment (d.readings + 2)) ref sid with
      | none => exact hmarked (d.readings + 2)
      | some bound => exact (hmarked (d.readings + 4)).tail (.bound hbind)

theorem settleLeg_changes (ref : LegRef) (placed : Except TelephonyError String) (d : Desk) :
    Changes s d (d.settleLeg s ref placed) := by
  unfold settleLeg
  dsimp only
  cases placed with
  | ok sid =>
    dsimp only
    cases hbind : d.transfers.bindSid (s.now d.readings) ref sid with
    | none => exact .refl
    | some bound => exact (Changes.read d (d.readings + 1)).tail (.joined hbind)
  | error e =>
    dsimp only
    cases hset : d.transfers.setStatus (s.now d.readings) ref.transferId .failed with
    | none => exact .refl
    | some found => exact (Changes.read d (d.readings + 1)).tail (.moved hset)

/-! ## Calls -/

theorem interrupt_changes (i : Interruption) (d : Desk) : Changes s d (interrupt s d i) := by
  cases i with
  | reset => exact Change.forgotten.changes
  | block raw => exact (Change.blocked raw).changes
  | status r => exact (status_stays r d).changes

theorem placeCall_changes (line : Mode) (purpose : CallPurpose) (order : CallOrder) (d : Desk) :
    Changes s d (d.placeCall s line purpose order).2 := by
  have hcall : Changes s d
      ({ d with made.calls := d.made.calls + 1 }.note (.call line purpose order)) :=
    (Change.counted _ _).changes.tail (.acted _ trivial)
  exact hcall.trans (Changes.foldl (fun d i _ => interrupt_changes i d) _)

/-- Dialing an attempt prepares it, places its call and settles it. -/
theorem dial_changes (job : Job) (d : Desk) (a : Attempt) : Changes s d (d.dial s job a) := by
  unfold dial
  dsimp only
  have hprep : Changes s d (d.prepare s job a).2 := (prepare_stays job a d).changes
  split
  · rename_i reason d₁ h
    rw [h] at hprep
    exact hprep.trans (patchAttempt_stays _ rfl d₁).changes
  · rename_i script order d₁ h
    rw [h] at hprep
    exact hprep.trans ((placeCall_changes ..).trans (settle_changes ..))

/-! ## Operations -/

theorem startJob_changes (r : StartJob) (d : Desk) : Changes s d (d.startJob s r).2 := by
  rcases startJob_course s r d with
    ⟨refusal, h, -⟩ | ⟨job, d₁, verdict, d₂, hcheck, -, hmake, hask, hcourse⟩
  · rw [h]
  · have hasked : Changes s d₁ _ := (consult_stays (Risk.assess r.survivorContext) r.approved
      r.mode.isLive .callJob job.id.toString d₁).changes
    rw [hask] at hasked
    -- making the job only counts it
    obtain ⟨rfl, rfl⟩ := Prod.mk.inj hmake
    have hjudged : Changes s d d₂ := (Change.counted _ _).changes.trans hasked
    rcases hcourse with ⟨denial, -, h⟩ | ⟨-, d₃, rfl, h⟩
    · rw [h]
      exact hjudged
    · rw [h]
      exact (hjudged.tail (.registered d.made.jobs _ r _ hcheck)).trans
        (Changes.foldl (fun d a _ => dial_changes _ d a) _)

theorem startTransfer_changes (r : StartTransfer) (d : Desk) :
    Changes s d (d.startTransfer s r).2 := by
  rcases startTransfer_course s r d with ⟨refusal, h, -⟩ | ⟨p, verdict, d₁, -, hask, hcourse⟩
  · rw [h]
  · have hasked : Changes s d _ := (consult_stays (Risk.assess (riskText p.job r.notes))
      (r.approved || p.job.request.approved) r.mode.isLive .warmTransfer
      r.attemptId.toString d).changes
    rw [hask] at hasked
    rcases hcourse with ⟨denial, rfl, h⟩ |
      ⟨rfl, t, d₂, survivor, d₃, shelter, d₄, d₅, hopen, hsurvivor, hshelter, rfl, h⟩
    · rw [h]
      exact hasked
    · have hopened : Changes s d₁ _ := (openSession_stays r p d₁).changes
      have hleg₁ : Changes s d₂ (d₂.dialLeg s t .survivor).2 := placeCall_changes ..
      have hleg₂ : Changes s d₃ (d₃.dialLeg s t .shelter).2 := placeCall_changes ..
      rw [hopen] at hopened
      rw [hsurvivor] at hleg₁
      rw [hshelter] at hleg₂
      rw [h]
      exact hasked.trans (hopened.trans (hleg₁.trans (hleg₂.trans
        ((settleLeg_changes ..).trans (settleLeg_changes ..)))))

/-- **An operation other than taking records in is a chain of elementary changes.** -/
theorem perform_changes (s : Surroundings) (d : Desk) {op : Operation}
    (hmemory : ∀ stored, op ≠ .restore stored) : Changes s d (d.perform s op).2 := by
  cases op with
  | startJob r => exact startJob_changes r d
  | startTransfer r => exact startTransfer_changes r d
  | status r => exact (status_stays r d).changes
  | recording sid url => exact (recording_stays sid url d).changes
  | transcript sid text => exact (transcript_stays sid text d).changes
  | gather ref speech => exact (gather_stays ref speech d).changes
  | block raw => exact (Change.blocked raw).changes
  | unblock raw => exact (Change.unblocked raw).changes
  | reset => exact Change.forgotten.changes
  | restore stored => exact absurd rfl (hmemory stored)

end Desk

end ShelterLine

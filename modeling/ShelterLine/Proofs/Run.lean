import Mathlib.Data.List.Induction
import ShelterLine.Proofs.Course
import ShelterLine.Proofs.Effects

/-!
# Runs

A run carries out operations one after the other, so what one operation keeps a run keeps, and an
effect of a run belongs to one operation.
-/

namespace ShelterLine

/-- Surroundings without a model, in which every call is placed and nothing happens meanwhile. -/
def Surroundings.calm : Surroundings where
  baseUrl := none
  live := true
  now := .midnight 0
  newJob n := .ofNat n
  newAttempt _ n := .ofNat n
  newTransfer n := .ofNat n
  stamp n := ⟨.ofNat n, .midnight 0⟩
  place n _ _ := .ok s!"CA{n}"
  meanwhile _ _ := []
  answer := none

namespace Desk

variable {s : Surroundings} {d d' d'' : Desk} {e : Effect} {earlier : List Effect}
  {ops : List (Surroundings × Operation)}

/-! ## One operation -/

/-- `d'` goes on from `d` by effects of any kind, and the block list changes at most while a call is
placed. -/
structure Acts (s : Surroundings) (d d' : Desk) : Prop extends Grows (fun _ => True) d d' where
  blocked : BlocksNothing s → d'.gate.blocked = d.gate.blocked

theorem Calls.acts {P : Effect → Prop} (h : Calls s P d d') : Acts s d d' :=
  ⟨h.toGrows.mono fun _ _ => trivial, h.blocked⟩

theorem Acts.of_blocked {P : Effect → Prop} (hg : Grows P d d')
    (hb : d'.gate.blocked = d.gate.blocked) : Acts s d d' :=
  ⟨hg.mono fun _ _ => trivial, fun _ => hb⟩

theorem Notes.acts (h : Notes d d') : Acts s d d' := (h.calls fun _ he => he).acts

theorem Acts.trans (h : Acts s d d') (h' : Acts s d' d'') : Acts s d d'' :=
  ⟨h.toGrows.trans h'.toGrows, fun hs => (h'.blocked hs).trans (h.blocked hs)⟩

theorem consult_acts (s : Surroundings) (risk : RiskAssessment) (approved live : Bool)
    (source : EscalationSource) (reference : String) (d : Desk) :
    Acts s d (d.consult s risk approved live source reference).2 :=
  .of_blocked (consult_quiet ..) (consult_blocked ..)

/-- A new job is counted unless it is refused. -/
theorem startJob_acts (s : Surroundings) (r : StartJob) (d : Desk) :
    (d.startJob s r).2 = d ∨
    Acts s d.counted (d.startJob s r).2 := by
  rcases startJob_course s r d with
    ⟨refusal, h, -⟩ | ⟨job, d₁, verdict, d₂, -, -, hmake, hask, hcourse⟩
  · exact Or.inl (by rw [h])
  · have hasked := consult_acts s (Risk.assess r.survivorContext) r.approved r.mode.isLive .callJob
      job.id.toString d₁
    -- making the job only counts it
    obtain ⟨-, rfl⟩ := Prod.mk.inj hmake
    rw [hask] at hasked
    right
    rcases hcourse with ⟨denial, -, h⟩ | ⟨-, d₃, rfl, h⟩
    · rw [h]
      exact hasked
    · rw [h]
      exact hasked.trans ((registerJob_notes job d₂).acts.trans
        (dialAll_calls s job job.attempts _).acts)

theorem startTransfer_acts (s : Surroundings) (r : StartTransfer) (d : Desk) :
    Acts s d (d.startTransfer s r).2 := by
  rcases startTransfer_course s r d with ⟨refusal, h, -⟩ | ⟨p, verdict, d₁, -, hask, hcourse⟩
  · rw [h]
    exact (Notes.refl d).acts
  · have hasked := consult_acts s (Risk.assess (riskText p.job r.notes))
      (r.approved || p.job.request.approved) r.mode.isLive .warmTransfer r.attemptId.toString d
    rw [hask] at hasked
    rcases hcourse with ⟨denial, rfl, h⟩ |
      ⟨rfl, t, d₂, survivor, d₃, shelter, d₄, d₅, hopen, hsurvivor, hshelter, rfl, h⟩
    · rw [h]
      exact hasked
    · have hopened := openSession_notes s r p d₁
      rw [hopen] at hopened
      rw [h]
      exact hasked.trans (hopened.acts.trans
        (dialLegs_calls hsurvivor hshelter).acts)

theorem notifySurvivor_acts (s : Surroundings) (job : Job) (attempt : Attempt) (text : String)
    (report : IntakeReport) (d : Desk) : Acts s d (d.notifySurvivor s job attempt text report) := by
  have hasked := consult_acts s (Risk.assess text) job.request.approved true .transcript
    attempt.id.toString d
  rcases notifySurvivor_course s job attempt text report d with
    h | ⟨callback, verdict, d₁, -, -, -, hask, h | ⟨-, body, h⟩⟩
  · rw [h]
    exact (Notes.refl d).acts
  · rw [hask] at hasked
    rw [h]
    exact hasked
  · rw [hask] at hasked
    rw [h]
    exact ⟨hasked.toGrows.note trivial, hasked.blocked⟩

theorem announce_acts (s : Surroundings) (job : Job) (attempt : Attempt) (text : String)
    (report : IntakeReport) (d : Desk) :
    Acts s d (d.announce s job attempt text report) := by
  unfold announce
  split
  · exact notifySurvivor_acts ..
  · exact (Notes.refl d).acts

theorem transcript_acts (s : Surroundings) (sid text : String) (d : Desk) :
    Acts s d (d.transcript s sid text).2 := by
  rcases transcript_course s sid text d with
    h | ⟨job, attempt, answer, d₁, report, changed, d₂, -, hask, -, hpatch, hcourse⟩
  · rw [h]
    exact (Notes.refl d).acts
  · have hasked := ask_notes s (Script.reportRequest text) d
    have hpatched := patchAttempt_notes s ⟨job.id, attempt.id⟩ (transcriptPatch text report) d₁
    rw [hask] at hasked
    rw [hpatch] at hpatched
    have hnotes : Acts s d d₂ := (hasked.trans hpatched).acts
    rcases hcourse with ⟨-, h⟩ | ⟨job', -, h⟩
    · rw [h]
      exact hnotes
    · rw [h]
      have hfollow : Acts s d₂ (d₂.followUp s attempt report) :=
        .of_blocked (followUp_quiet ..) (followUp_blocked ..)
      exact hnotes.trans (hfollow.trans (announce_acts ..))

/-- An operation other than starting something and taking in a transcript reaches nobody. -/
theorem perform_quiet (s : Surroundings) (d : Desk) {op : Operation}
    (hjob : ∀ r, op ≠ .startJob r) (htransfer : ∀ r, op ≠ .startTransfer r)
    (htranscript : ∀ sid text, op ≠ .transcript sid text) :
    Grows Effect.Quiet d (d.perform s op).2 := by
  cases op with
  | startJob r => exact absurd rfl (hjob r)
  | startTransfer r => exact absurd rfl (htransfer r)
  | transcript sid text => exact absurd rfl (htranscript sid text)
  | status r => exact (status_notes s r d).toGrows
  | recording sid url => exact (recording_notes s sid url d).toGrows
  | gather ref speech => exact (gather_notes s ref speech d).toGrows
  | block raw => exact block_quiet raw d
  | unblock raw => exact unblock_quiet raw d
  | reset => exact .change rfl rfl
  | restore stored => exact restore_quiet stored d

/-- Every operation but the start of a job leaves the count of jobs and the policy as they are. -/
theorem perform_grows (s : Surroundings) (d : Desk) {op : Operation}
    (hjob : ∀ r, op ≠ .startJob r) :
    Grows (fun _ => True) d (d.perform s op).2 := by
  by_cases htransfer : ∃ r, op = .startTransfer r
  · obtain ⟨r, rfl⟩ := htransfer
    exact (startTransfer_acts s r d).toGrows
  · by_cases htranscript : ∃ sid text, op = .transcript sid text
    · obtain ⟨sid, text, rfl⟩ := htranscript
      exact (transcript_acts s sid text d).toGrows
    · refine (perform_quiet s d hjob (fun r h => htransfer ⟨r, h⟩) ?_).mono fun _ _ => trivial
      exact fun sid text h => htranscript ⟨sid, text, h⟩

/-- Whether live actions need approval is settled once and for all. -/
theorem perform_policy (s : Surroundings) (d : Desk) (op : Operation) :
    (d.perform s op).2.gate.requireEscalation = d.gate.requireEscalation := by
  by_cases hjob : ∃ r, op = .startJob r
  · obtain ⟨r, rfl⟩ := hjob
    rcases startJob_acts s r d with h | h
    · exact congrArg (·.gate.requireEscalation) h
    · exact h.policy
  · exact (perform_grows s d fun r h => hjob ⟨r, h⟩).policy

/-- An operation makes at most one job. -/
theorem perform_jobsMade (s : Surroundings) (d : Desk) (op : Operation) :
    (d.perform s op).2.made.jobs = d.made.jobs ∨
      (d.perform s op).2.made.jobs = d.made.jobs + 1 := by
  by_cases hjob : ∃ r, op = .startJob r
  · obtain ⟨r, rfl⟩ := hjob
    rcases startJob_acts s r d with h | h
    · exact Or.inl (congrArg (·.made.jobs) h)
    · exact Or.inr h.jobsMade
  · exact Or.inl (perform_grows s d fun r h => hjob ⟨r, h⟩).jobsMade

/-! ## Runs -/

/-- What the desk replies to operations that are carried out in order. -/
def replies (d : Desk) : List (Surroundings × Operation) → List Reply
  | [] => []
  | (s, op) :: ops => (d.perform s op).1 :: (d.perform s op).2.replies ops

theorem run_append (d : Desk) (ops ops' : List (Surroundings × Operation)) :
    d.run (ops ++ ops') = (d.run ops).run ops' := List.foldl_append ..

/-- **An effect of a run was there before or belongs to one of its operations.** -/
theorem run_effect {ops : List (Surroundings × Operation)}
    (he : e :: earlier <:+ (d.run ops).trace) :
    e :: earlier <:+ d.trace ∨
    ∃ before s op after, ops = before ++ (s, op) :: after ∧
      e :: earlier <:+ ((d.run before).perform s op).2.trace ∧
      ¬ e :: earlier <:+ (d.run before).trace := by
  induction ops using List.reverseRecOn with
  | nil => exact Or.inl he
  | append_singleton ops last ih =>
    -- the effect was there before the last operation, or it belongs to it
    by_cases hthere : e :: earlier <:+ (d.run ops).trace
    · refine (ih hthere).imp_right ?_
      rintro ⟨before, s, op, after, rfl, h⟩
      exact ⟨before, s, op, after ++ [last], by simp, h⟩
    · refine Or.inr ⟨ops, last.1, last.2, [], rfl, ?_, hthere⟩
      rw [run_append] at he
      exact he

/-- What every operation keeps a run keeps. -/
theorem run_induction {I : Desk → Prop} (hstep : ∀ d s op, I d → I (d.perform s op).2) :
    ∀ (ops : List (Surroundings × Operation)) (d : Desk), I d → I (d.run ops)
  | [], _, hd => hd
  | (s, op) :: ops, d, hd => run_induction hstep ops _ (hstep d s op hd)

theorem run_policy (d : Desk) (ops : List (Surroundings × Operation)) :
    (d.run ops).gate.requireEscalation = d.gate.requireEscalation :=
  run_induction (I := fun d' => d'.gate.requireEscalation = d.gate.requireEscalation)
    (fun d' s op hd' => (perform_policy s d' op).trans hd') ops d rfl

end Desk

end ShelterLine

import ShelterLine.Proofs.Guise

/-!
# Behind a veil

A veil over a job is a guise: two desks look alike behind it if they differ at most in what
they know of the context of the job beyond what may be spoken, and in the escalations, to
which that may have led. What an operation reads is either not veiled, or it is the spoken
context, unless it asks the gate.
-/

namespace ShelterLine

/-! ## Jobs -/

namespace Job

/-- The job as if its context had been what may be spoken of it. -/
def veiled (j : Job) : Job :=
  { j with request.survivorContext := Desk.spokenContext j, request.anonymous := false }

/-- Veils the job with this identifier. -/
def veil (id : Uuid) (j : Job) : Job := if j.id = id then j.veiled else j

variable {id : Uuid} {j j' : Job}

theorem veil_of_ne (h : j.id ≠ id) : j.veil id = j := if_neg h

/-- The veil leaves all fields but the context alone, and the context can be spoken as before. -/
theorem veil_eq (id : Uuid) (j : Job) : ∃ context anonymous,
    j.veil id = { j with request.survivorContext := context, request.anonymous := anonymous } ∧
      Desk.spokenContext (j.veil id) = Desk.spokenContext j := by
  unfold veil
  split
  · exact ⟨_, _, rfl, rfl⟩
  · exact ⟨_, _, rfl, rfl⟩

theorem disguise_veil (id : Uuid) : Disguise (veil id) := by
  have hpatch : ∀ now a p (j : Job), (j.patch now a p).veil id = (j.veil id).patch now a p := by
    intro now a p j
    unfold veil
    change (if j.id = id then _ else _) = _
    split <;> rfl
  have hclear : ∀ a (j : Job), (j.clearSid a).veil id = (j.veil id).clearSid a := by
    intro a j
    unfold veil
    change (if j.id = id then _ else _) = _
    split <;> rfl
  refine ⟨fun j => ?_, fun j => ?_, fun j => ?_, fun j => ?_, fun j => ?_, hpatch, hclear⟩ <;>
    obtain ⟨context, anonymous, heq, hspoken⟩ := veil_eq id j
  · rw [heq]
  · rw [heq]
  · rw [heq]
  · rw [heq]
  · exact hspoken

/-- What is redacted to the same text makes jobs that look alike. -/
theorem veil_create {context context' : String}
    (h : Redaction.redact context = Redaction.redact context') (now : Instant) (id : Uuid)
    (attemptId : Nat → Uuid) (mode : Mode) (callback : Option String) (approved : Bool)
    (targets : List Target) :
    (create now id attemptId mode ⟨context, callback, true, approved⟩ targets).veil id =
      (create now id attemptId mode ⟨context', callback, true, approved⟩ targets).veil id := by
  have hveiled : ∀ context, (create now id attemptId mode ⟨context, callback, true, approved⟩
      targets).veil id = create now id attemptId mode
        ⟨Redaction.redact context, callback, false, approved⟩ targets := fun _ => if_pos rfl
  rw [hveiled, hveiled, h]

theorem mode_eq_of_veil (h : j.veil id = j'.veil id) : j.mode = j'.mode := by
  obtain ⟨context, anonymous, heq, -⟩ := veil_eq id j
  obtain ⟨context', anonymous', heq', -⟩ := veil_eq id j'
  exact congrArg (·.mode) (heq.symm.trans (h.trans heq'))

/-- Other jobs are not veiled. -/
theorem eq_of_veil (h : j.veil id = j'.veil id) (hne : j.id ≠ id) : j = j' := by
  have hne' : j'.id ≠ id := ((disguise_veil id).similar h).id ▸ hne
  rwa [veil_of_ne hne, veil_of_ne hne'] at h

end Job

/-! ## Desks -/

/-- A veil over a job. Of what was done it shows what went outside. -/
def Guise.veil (id : Uuid) : Guise where
  job := Job.veil id
  session t := t
  effect e := if e.Outward then some e else none
  jobs := Job.disguise_veil id
  sessions := by constructor <;> intros <;> rfl
  jobKept _ := rfl
  jobPublished _ := rfl
  sessionKept _ := rfl
  sessionPublished _ := rfl

namespace Desk

variable {id : Uuid} {s : Surroundings} {d d' : Desk}

/-- What the desk did to the outside, newest first. -/
def outward (d : Desk) : List Effect := d.trace.filter Effect.Outward

theorem shown_veil (id : Uuid) (d : Desk) : d.shown (.veil id) = d.outward := by
  have hguard : (Guise.veil id).effect = Option.guard fun e => decide e.Outward := by
    funext e
    cases e <;> rfl
  unfold shown outward
  rw [hguard, List.filterMap_eq_filter]

theorem Similar.outward (h : Similar (.veil id) d d') : d.outward = d'.outward := by
  rw [← shown_veil id, h.shown, shown_veil]

/-- The gate lets both pass or neither, and leaves desks that are alike. -/
def Judged (id : Uuid) (x x' : Except Denial Unit × Desk) : Prop :=
  (∃ denial d denial' d', x = (.error denial, d) ∧ x' = (.error denial', d') ∧
    Similar (.veil id) d d') ∨
  ∃ d d', x = (.ok (), d) ∧ x' = (.ok (), d') ∧ Similar (.veil id) d d'

theorem Judged.of_ok_iff {x x' : Except Denial Unit × Desk} (h : Similar (.veil id) x.2 x'.2)
    (hok : x.1 = .ok () ↔ x'.1 = .ok ()) : Judged id x x' := by
  obtain ⟨verdict, d⟩ := x
  obtain ⟨verdict', d'⟩ := x'
  cases verdict with
  | error denial =>
    cases verdict' with
    | error denial' => exact Or.inl ⟨denial, d, denial', d', rfl, rfl, h⟩
    | ok u => cases hok.2 rfl
  | ok u =>
    obtain rfl : verdict' = .ok () := hok.1 rfl
    exact Or.inr ⟨d, d', rfl, rfl, h⟩

/-! ## Asking the gate -/

/-- What the gate lets pass depends on the policy and on what it is asked. -/
theorem consult_ok_iff (s : Surroundings) (risk : RiskAssessment) (approved live : Bool)
    (source : EscalationSource) (reference : String) (d : Desk) :
    (d.consult s risk approved live source reference).1 = .ok () ↔
      (risk.isHigh && (live && d.gate.stops risk approved)) = false := by
  unfold consult Gate.decide
  cases risk.isHigh with
  | false => simp
  | true =>
    cases hstops : live && d.gate.stops risk approved with
    | false => simp
    | true =>
      simp only [Bool.not_true, Bool.false_eq_true, ↓reduceIte]
      split <;> simp

/-- What the gate leaves are escalations, which stay inside. -/
theorem consult_veiled (id : Uuid) (s : Surroundings) (risk : RiskAssessment) (approved live : Bool)
    (source : EscalationSource) (reference : String) (d : Desk) :
    Similar (.veil id) d (d.consult s risk approved live source reference).2 :=
  similar_consult s approved live (fun _ _ => ⟨rfl, rfl⟩) d

/-- The gate says the same about the same risk. -/
theorem consult_judged (h : Similar (.veil id) d d') (s : Surroundings) (risk : RiskAssessment)
    (approved live : Bool) (source : EscalationSource) (reference : String) :
    Judged id (d.consult s risk approved live source reference)
      (d'.consult s risk approved live source reference) := by
  refine .of_ok_iff ((consult_veiled ..).symm.trans (h.trans (consult_veiled ..))) ?_
  rw [consult_ok_iff, consult_ok_iff]
  unfold Gate.stops
  rw [h.policy]

/-! ## Transcripts -/

theorem followUp_veiled (h : Similar (.veil id) d d') (s : Surroundings) (a : Attempt)
    (report : IntakeReport) :
    Similar (.veil id) (d.followUp s a report) (d'.followUp s a report) := by
  unfold followUp
  split
  · exact (similar_escalated d rfl rfl).symm.trans (h.trans (similar_escalated d' rfl rfl))
  · exact h

theorem announce_veiled (h : Similar (.veil id) d d') {j j' : Job} (hj : j.veil id = j'.veil id)
    (s : Surroundings) (a : Attempt) (text : String) (report : IntakeReport) :
    Similar (.veil id) (d.announce s j a text report) (d'.announce s j' a text report) := by
  have hsimilar := (Job.disguise_veil id).similar hj
  unfold announce notifySurvivor
  rw [Job.mode_eq_of_veil hj, hsimilar.callback, hsimilar.approved]
  split
  · split
    · exact h
    · cases j'.request.callbackNumber with
      | none => exact h
      | some callback =>
        dsimp only
        rw [h.blocked]
        split
        · exact h
        · -- the gate is asked about the transcript, and says the same to both
          rcases consult_judged h s (Risk.assess text) j'.request.approved true .transcript
            a.id.toString with ⟨denial, d₁, denial', d₁', hask, hask', hasked⟩ |
              ⟨d₁, d₁', hask, hask', hasked⟩
          · rw [hask, hask']
            exact hasked
          · rw [hask, hask']
            dsimp only
            split
            · exact hasked.note rfl
            · exact hasked
  · exact h

theorem transcript_veiled (h : Similar (.veil id) d d') (s : Surroundings) (sid text : String) :
    SameResult (.veil id) (d.transcript s sid text) (d'.transcript s sid text) :=
  transcript_similar h (.refl s) sid text fun a _ hattached _ _ hjob =>
    announce_veiled (followUp_veiled hattached s a _) hjob s a text _

end Desk

end ShelterLine

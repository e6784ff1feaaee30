import ShelterLine.Proofs.Run

/-!
# A refused start leaves no trace but its escalation

Starting a job and starting a transfer can be refused at about ten places, and all of them come
before anything is registered, dialed or asked. Only the last of them, the gate, leaves
something behind: the escalation that a human has to approve. It stands in front of the log,
also of a full one, so that it is this one that is looked up again for the announcement,
whatever identifiers the older ones have.
-/

namespace ShelterLine

/-- The refusal that a reply brings. -/
def Reply.refusal? : Reply → Option Refusal
  | .job (.error r) | .session (.error r) => some r
  | _ => none

/-- What a denied start is said to be about: its source and the record that it refers to, which for
a job is the one that is not registered. -/
def Operation.reference? (s : Surroundings) (d : Desk) :
    Operation → Option (EscalationSource × String)
  | .startJob _ => some (.callJob, (s.newJob d.made.jobs).toString)
  | .startTransfer r => some (.warmTransfer, r.attemptId.toString)
  | _ => none

/-- The refusal names an escalation and the keywords that it is about. -/
def Refusal.Names (refusal : Refusal) (e : Escalation) : Prop :=
  ∃ matched, refusal = .policyDenied (.escalationRequired e.id matched) ∧
    e.details = some ("matched: " ++ ", ".intercalate matched)

theorem Refusal.Names.asksApproval {refusal : Refusal} {e : Escalation} (h : refusal.Names e) :
    refusal.AsksApproval := by
  obtain ⟨matched, rfl, -⟩ := h
  trivial

namespace Desk

variable {s : Surroundings} {d d' : Desk}

/-! ## Refused starts -/

/-- The registers, the indices and the policy are as before, and nobody was called or asked. -/
structure Unmoved (d d' : Desk) : Prop where
  jobs : d'.jobs = d.jobs
  transfers : d'.transfers = d.transfers
  blocked : d'.gate.blocked = d.gate.blocked
  policy : d'.gate.requireEscalation = d.gate.requireEscalation
  calls : d'.made.calls = d.made.calls
  questions : d'.made.questions = d.made.questions

theorem Unmoved.refl (d : Desk) : Unmoved d d := ⟨rfl, rfl, rfl, rfl, rfl, rfl⟩

/-- An escalation went in front of the log and was kept and published, and nothing else happened. -/
structure Escalates (e : Escalation) (d d' : Desk) : Prop extends Unmoved d d' where
  log : d'.gate.escalations = (e :: d.gate.escalations).take EscalationLog.capacity
  newest : d'.gate.escalations.take 1 = [e]
  trace : d'.trace = .publish (.escalationRecorded e) :: .keep (.escalation e) :: d.trace

/-- A denial by the gate is about the action that it denies, and leaves its escalation. -/
theorem consult_denies {risk : RiskAssessment} {approved live : Bool} {source : EscalationSource}
    {reference : String} {denial : Denial}
    (h : d.consult s risk approved live source reference = (.error denial, d')) :
    ∃ e, Refusal.Names (.policyDenied denial) e ∧ (e.source, e.referenceId) = (source, reference) ∧
      Escalates e d d' := by
  rcases consult_course s risk approved live source reference d with
    ⟨-, hcourse⟩ | ⟨stopped, e, -, rfl, hcourse⟩
  · rw [hcourse] at h
    simp at h
  · rw [hcourse] at h
    obtain ⟨hverdict, rfl⟩ := Prod.mk.inj h
    -- only an action that is stopped is denied
    cases stopped with
    | false => simp at hverdict
    | true =>
      obtain rfl := Except.error.inj hverdict
      exact ⟨_, ⟨risk.matchedKeywords, rfl, rfl⟩, rfl, ⟨rfl, rfl, rfl, rfl, rfl, rfl⟩,
        rfl, rfl, rfl⟩

/-- Counting the job that is not registered does not matter. -/
theorem Escalates.of_counted {e : Escalation} (h : Escalates e d.counted d') : Escalates e d d' :=
  ⟨⟨h.jobs, h.transfers, h.blocked, h.policy, h.calls, h.questions⟩, h.log, h.newest, h.trace⟩

/-- What a refused start leaves: nothing, or the escalation that it asks approval of. -/
def LeavesEscalation (s : Surroundings) (d : Desk) (op : Operation)
    (refusal : Refusal) (d' : Desk) : Prop :=
  refusal.AsksApproval ∧ ∃ e, refusal.Names e ∧ op.reference? s d = some (e.source, e.referenceId) ∧
    Escalates e d d'

theorem startJob_refused {r : StartJob} {refusal : Refusal}
    (h : (d.startJob s r).1 = .error refusal) :
    ¬ refusal.AsksApproval ∧ (d.startJob s r).2 = d ∨
      LeavesEscalation s d (.startJob r) refusal (d.startJob s r).2 := by
  rcases startJob_course s r d with
    ⟨plain, hcourse, hplain⟩ | ⟨job, d₁, verdict, d₂, -, -, hmake, hask, hcourse⟩
  · rw [hcourse] at h ⊢
    obtain rfl := Except.error.inj h
    exact Or.inl ⟨hplain, rfl⟩
  · rcases hcourse with ⟨denial, rfl, hcourse⟩ | ⟨rfl, d₃, -, hcourse⟩
    · rw [hcourse] at h ⊢
      obtain rfl := Except.error.inj h
      -- making the job only counts it
      obtain ⟨rfl, rfl⟩ := Prod.mk.inj hmake
      obtain ⟨e, hnames, hreference, hleft⟩ := consult_denies hask
      exact Or.inr ⟨hnames.asksApproval, e, hnames, congrArg some hreference.symm, hleft.of_counted⟩
    · rw [hcourse] at h
      simp at h

theorem startTransfer_refused {r : StartTransfer} {refusal : Refusal}
    (h : (d.startTransfer s r).1 = .error refusal) :
    ¬ refusal.AsksApproval ∧ (d.startTransfer s r).2 = d ∨
      LeavesEscalation s d (.startTransfer r) refusal (d.startTransfer s r).2 := by
  rcases startTransfer_course s r d with
    ⟨plain, hcourse, hplain⟩ | ⟨p, verdict, d₁, -, hask, hcourse⟩
  · rw [hcourse] at h ⊢
    obtain rfl := Except.error.inj h
    exact Or.inl ⟨hplain, rfl⟩
  · rcases hcourse with ⟨denial, rfl, hcourse⟩ |
      ⟨rfl, t, d₂, survivor, d₃, shelter, d₄, d₅, -, -, -, -, hcourse⟩
    · rw [hcourse] at h ⊢
      obtain rfl := Except.error.inj h
      obtain ⟨e, hnames, hreference, hleft⟩ := consult_denies hask
      exact Or.inr ⟨hnames.asksApproval, e, hnames, congrArg some hreference.symm, hleft⟩
    · rw [hcourse] at h
      simp at h

/-- **A refused start leaves no trace but its escalation.** Whatever was refused, registers,
indices and policy are as before, and nobody was called or asked. A refusal that asks for approval
names the escalation that is now the newest of the log, and of which alone was told; any other
leaves the desk as it was. -/
theorem refused_start_traceless (s : Surroundings) (d : Desk) (op : Operation) (refusal : Refusal)
    (h : (d.perform s op).1.refusal? = some refusal) :
    Unmoved d (d.perform s op).2 ∧
    (refusal.AsksApproval → ∃ e, refusal.Names e ∧
      op.reference? s d = some (e.source, e.referenceId) ∧ Escalates e d (d.perform s op).2) ∧
    (¬ refusal.AsksApproval → (d.perform s op).2 = d) := by
  have hcourse : ¬ refusal.AsksApproval ∧ (d.perform s op).2 = d ∨
      LeavesEscalation s d op refusal (d.perform s op).2 := by
    cases op with
    | startJob r =>
      cases hresult : (d.startJob s r).1 with
      | ok job => simp [perform, Reply.refusal?, hresult] at h
      | error e =>
        obtain rfl : e = refusal := by simpa [perform, Reply.refusal?, hresult] using h
        exact startJob_refused hresult
    | startTransfer r =>
      cases hresult : (d.startTransfer s r).1 with
      | ok t => simp [perform, Reply.refusal?, hresult] at h
      | error e =>
        obtain rfl : e = refusal := by simpa [perform, Reply.refusal?, hresult] using h
        exact startTransfer_refused hresult
    | _ => simp [perform, Reply.refusal?] at h
  rcases hcourse with ⟨hplain, hsame⟩ | ⟨hasks, e, hnames, hreference, hleft⟩
  · rw [hsame]
    exact ⟨.refl d, fun hasks => absurd hasks hplain, fun _ => rfl⟩
  · exact ⟨hleft.toUnmoved, fun _ => ⟨e, hnames, hreference, hleft⟩,
      fun hplain => absurd hasks hplain⟩

/-- A live job whose context is high risk, without approval. -/
def unapprovedJob : StartJob where
  mode := .live
  survivorContext := "He has a weapon."
  callbackNumber := none
  anonymous := false
  approved := false
  targets := [⟨1, "Harbor House", some "555-010-0100", none, none⟩]

/-- The second denial of such a job: its escalation comes before that of the first. -/
theorem refused_start_traceless_unapprovedJob :
    let d := (ofConfig {}).run [(.calm, .startJob unapprovedJob)]
    ∃ refusal e, (d.perform .calm (.startJob unapprovedJob)).1.refusal? = some refusal ∧
      d.gate.escalations.length = 1 ∧ refusal.Names e ∧
      (e.source, e.referenceId) = (.callJob, (Uuid.ofNat 1).toString) ∧
      Escalates e d (d.perform .calm (.startJob unapprovedJob)).2 := by
  intro d
  have hrefused : ∃ id matched, (d.perform .calm (.startJob unapprovedJob)).1.refusal? =
      some (.policyDenied (.escalationRequired id matched)) := ⟨_, _, rfl⟩
  obtain ⟨id, matched, hrefused⟩ := hrefused
  obtain ⟨-, hasks, -⟩ := refused_start_traceless .calm d _ _ hrefused
  obtain ⟨e, hnames, hreference, hleft⟩ := hasks trivial
  exact ⟨_, e, hrefused, rfl, hnames, (Option.some.inj hreference).symm, hleft⟩

end Desk

end ShelterLine

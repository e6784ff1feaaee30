import ShelterLine.Proofs.JobRegister
import ShelterLine.Proofs.Run

/-!
# Where contacts come from

An operation that reaches anybody does so after everything that could forbid it was looked at.
`Permitted` is what is known of a contact then: the number was not blocked, and the gate was asked
about the text that the operation is judged by. There is one statement for each of the three
operations that reach anybody, and one for all the others.
-/

namespace ShelterLine.Desk

variable {P Q : Effect → Prop} {s : Surroundings} {d d' d₁ d₂ : Desk} {e : Effect}
  {earlier : List Effect}

/-! ## What is known of a contact -/

/-- A risky text was cleared: it is low risk after all, or it was approved and an escalation of it
went to the log and out to the store and to whoever listens. -/
def Cleared (own : List Effect) (log : List Escalation) (risk : RiskAssessment) (approved : Bool)
    (source : EscalationSource) (reference : String) : Prop :=
  risk.isHigh = false ∨ approved = true ∧
    ∃ x : Escalation, x.source = source ∧ x.referenceId = reference ∧ x ∈ log ∧
      .keep (.escalation x) ∈ own ∧ .publish (.escalationRecorded x) ∈ own

/-- What is known when an operation that leads from `d` to `d'` contacts a number and had
the effects `own` before. -/
structure Permitted (s : Surroundings) (d d' : Desk) (own : List Effect) (live : Bool)
    (risk : RiskAssessment) (approved : Bool) (source : EscalationSource)
    (reference number : String) : Prop where
  free : BlocksNothing s → d.gate.blocked.blocks number = false
  cleared : live = true → d.gate.requireEscalation = true →
    Cleared own d'.gate.escalations risk approved source reference

/-- What an operation was permitted after some bookkeeping it was permitted from the start. -/
theorem Permitted.after {own since : List Effect} {live approved : Bool} {risk : RiskAssessment}
    {source : EscalationSource} {reference number : String}
    (h : Permitted s d₁ d' own live risk approved source reference number)
    (hpolicy : d₁.gate.requireEscalation = d.gate.requireEscalation)
    (hblocked : d₁.gate.blocked = d.gate.blocked) :
    Permitted s d d' (own ++ since) live risk approved source reference number where
  free hs := hblocked ▸ h.free hs
  cleared hlive hrequire := by
    refine (h.cleared hlive (hpolicy ▸ hrequire)).imp_right ?_
    rintro ⟨happroved, x, hsource, hreference, hx, hkept, hpublished⟩
    exact ⟨happroved, x, hsource, hreference, hx, List.mem_append_left _ hkept,
      List.mem_append_left _ hpublished⟩

/-- Passing the gate clears what is done afterwards. -/
theorem cleared_of_consult {risk : RiskAssessment} {approved : Bool} {source : EscalationSource}
    {reference : String} {own : List Effect}
    (hok : d.consult s risk approved true source reference = (.ok (), d₁))
    (hrequire : d.gate.requireEscalation = true) (hown : d₁.trace <:+ own ++ d.trace)
    (hlog : d'.gate.escalations = d₁.gate.escalations) :
    Cleared own d'.gate.escalations risk approved source reference := by
  refine (consult_ok hok).imp_right ?_
  rintro ⟨happroved, x, hsource, hreference, hx, htrace⟩
  obtain ⟨later, hlater⟩ := hown
  -- the escalation is the first that the operation did
  have hsplit : own = later ++ [.publish (.escalationRecorded x), .keep (.escalation x)] := by
    refine (List.append_left_inj d.trace).1 ?_
    rw [← hlater, htrace]
    simp
  exact ⟨happroved rfl hrequire, x, hsource, hreference,
    hlog ▸ hx, by simp [hsplit], by simp [hsplit]⟩

/-- A contact after the gate let an action pass, and after some bookkeeping, is permitted once its
number is known to be free. -/
theorem gated_contact {risk : RiskAssessment} {approved live : Bool} {source : EscalationSource}
    {reference : String}
    (hask : d.consult s risk approved live source reference = (.ok (), d₁)) (hnotes : Notes d₁ d₂)
    (hcalls : Calls s P d₂ d')
    (he : e :: earlier <:+ d'.trace) (hnew : ¬ e :: earlier <:+ d.trace) (hc : ¬ e.Quiet) :
    ∃ own, earlier = own ++ d.trace ∧ P e ∧ d₂.gate.blocked = d.gate.blocked ∧
      ∀ number, (BlocksNothing s → d.gate.blocked.blocks number = false) →
        Permitted s d d' own live risk approved source reference number := by
  have hquiet := consult_quiet s risk approved live source reference d
  have hblocked := consult_blocked s risk approved live source reference d
  rw [hask] at hquiet hblocked
  -- nothing before the contact reached anybody, so all of it came earlier
  obtain ⟨hp, hafter⟩ := (hquiet.trans hnotes.toGrows).contact_after hcalls.toGrows he hnew hc
  have hasked : d₁.trace <:+ earlier := hnotes.suffix.trans hafter
  obtain ⟨own, hown⟩ : d.trace <:+ earlier := hquiet.suffix.trans hasked
  have hsame : d₂.gate.blocked = d.gate.blocked := by rw [hnotes.gate, hblocked]
  refine ⟨own, hown.symm, hp, hsame, fun number hfree => ⟨hfree, fun hlive hrequire => ?_⟩⟩
  rw [hlive] at hask
  exact cleared_of_consult hask hrequire (hown ▸ hasked) (hnotes.holds.trans hcalls.toHolds).log

/-! ## The operations -/

/-- The calls of a new job. -/
theorem startJob_contact {r : StartJob} (he : e :: earlier <:+ (d.startJob s r).2.trace)
    (hnew : ¬ e :: earlier <:+ d.trace) (hc : ¬ e.Quiet) :
    ∃ own id order, earlier = own ++ d.trace ∧
      e = .call r.mode (.attempt ⟨s.newJob d.made.jobs, id⟩) order ∧
      Permitted s d (d.startJob s r).2 own r.mode.isLive (Risk.assess r.survivorContext) r.approved
        .callJob (s.newJob d.made.jobs).toString order.number := by
  rcases startJob_course s r d with
    ⟨refusal, h, -⟩ | ⟨job, d₁, verdict, d₂, -, -, hmake, hask, hcourse⟩
  · rw [h] at he
    exact absurd he hnew
  · obtain ⟨hjob, hd₁⟩ := Prod.mk.inj hmake
    have hid : s.newJob d.made.jobs = job.id := hjob ▸ rfl
    have hmode : r.mode = job.mode := hjob ▸ rfl
    have htrace : d₁.trace = d.trace := hd₁ ▸ rfl
    have hgate : d₁.gate = d.gate := hd₁ ▸ rfl
    -- making the job has no effects, so the gate is asked first
    rw [← htrace] at hnew ⊢
    rcases hcourse with ⟨denial, rfl, h⟩ | ⟨rfl, d₃, rfl, h⟩
    · rw [h] at he
      have hquiet := consult_quiet s (Risk.assess r.survivorContext) r.approved
        r.mode.isLive .callJob job.id.toString d₁
      exact absurd (hquiet.effect (hask ▸ he) hnew).1 hc
    · rw [h] at he ⊢
      obtain ⟨own, hown, hcall, hsame, hpermitted⟩ := gated_contact hask (registerJob_notes job d₂)
        (dialAll_calls s job job.attempts _) he hnew hc
      obtain ⟨id, order, rfl, hfree⟩ := hcall.resolve_left hc
      obtain ⟨hfree, hcleared⟩ := hpermitted order.number fun hs => hsame ▸ hfree hs
      rw [hgate] at hfree hcleared
      rw [hid, hmode]
      exact ⟨own, id, order, hown, rfl, hfree, hmode ▸ hcleared⟩

/-- The calls of the two legs of a new transfer. -/
theorem startTransfer_contact {r : StartTransfer}
    (he : e :: earlier <:+ (d.startTransfer s r).2.trace)
    (hnew : ¬ e :: earlier <:+ d.trace) (hc : ¬ e.Quiet) :
    ∃ own job ref order, earlier = own ++ d.trace ∧ d.jobs.get? r.jobId = some job ∧
      e = .call r.mode (.leg ref) order ∧
      Permitted s d (d.startTransfer s r).2 own r.mode.isLive
        (Risk.assess (riskText job r.notes)) (r.approved || job.request.approved) .warmTransfer
        r.attemptId.toString order.number := by
  rcases startTransfer_course s r d with ⟨refusal, h, -⟩ | ⟨p, verdict, d₁, hfound, hask, hcourse⟩
  · rw [h] at he
    exact absurd he hnew
  · rcases hcourse with ⟨denial, rfl, h⟩ |
      ⟨rfl, t, d₂, survivor, d₃, shelter, d₄, d₅, hopen, hsurvivor, hshelter, rfl, h⟩
    · rw [h] at he
      have hquiet := consult_quiet s (Risk.assess (riskText p.job r.notes))
        (r.approved || p.job.request.approved) r.mode.isLive .warmTransfer r.attemptId.toString d
      exact absurd (hquiet.effect (hask ▸ he) hnew).1 hc
    · rw [h] at he ⊢
      have hopened := openSession_notes s r p d₁
      have hsession := openSession_session s r p d₁
      rw [hopen] at hopened hsession
      obtain ⟨own, hown, hcall, -, hpermitted⟩ := gated_contact hask hopened
        (dialLegs_calls hsurvivor hshelter) he hnew hc
      obtain ⟨leg, order, rfl, hnumber⟩ := hcall.resolve_left hc
      refine ⟨own, p.job, _, order, hown, hfound.job, by rw [hsession.1], hpermitted _ fun _ => ?_⟩
      rw [hnumber]
      -- both numbers were held against the block list before the gate was asked
      cases leg with
      | survivor =>
        have hphone : legNumber t .survivor = p.survivorPhone := hsession.2.1
        rw [hphone, hfound.survivorFree]
      | shelter =>
        have hphone : legNumber t .shelter = p.shelterPhone := hsession.2.2
        rw [hphone, hfound.shelterFree]

/-- What an attempt's patch hands out is its job, with the attempt changed. -/
theorem patchAttempt_job {ref : AttemptRef} {p : Attempt.Patch} {job job' : Job} {a : Attempt}
    (hfound : d.jobs.attempt? ref = some (job, a))
    (h : d.patchAttempt s ref p = (some job', d')) :
    job'.mode = job.mode ∧ job'.request = job.request := by
  unfold patchAttempt at h
  split at h
  · rename_i job₁ jobs hpatch
    obtain ⟨j, a', hfound', rfl, -⟩ := JobRegister.patch_eq_some_iff.1 hpatch
    rw [hfound] at hfound'
    simp only [Prod.mk.injEq, Option.some.injEq] at h hfound'
    rw [← h.1, hfound'.1]
    exact ⟨rfl, rfl⟩
  · simp at h

/-- The message to the survivor that an announcement sends. -/
theorem announce_contact {job : Job} {attempt : Attempt} {text : String} {report : IntakeReport}
    (he : e :: earlier <:+ (d.announce s job attempt text report).trace)
    (hnew : ¬ e :: earlier <:+ d.trace) (hc : ¬ e.Quiet) :
    ∃ own order, earlier = own ++ d.trace ∧ job.mode = .live ∧ e = .message order ∧
      job.request.callbackNumber = some order.number ∧
      Permitted s d (d.announce s job attempt text report) own true (Risk.assess text)
        job.request.approved .transcript attempt.id.toString order.number := by
  unfold announce at he ⊢
  split at he
  · rename_i havailable
    rw [if_pos havailable]
    have hasked := consult_quiet s (Risk.assess text) job.request.approved true .transcript
      attempt.id.toString d
    rcases notifySurvivor_course s job attempt text report d with
      h | ⟨callback, verdict, d₁, hmode, hcallback, hfree, hask, h | ⟨rfl, body, h⟩⟩
    · rw [h] at he
      exact absurd he hnew
    · rw [h] at he
      rw [hask] at hasked
      exact absurd (hasked.effect he hnew).1 hc
    · rw [h] at he ⊢
      obtain ⟨own, hown, he, -, hpermitted⟩ := gated_contact (P := (· = .message ⟨callback, body⟩))
        hask (.refl d₁) ⟨Grows.note (.refl d₁) rfl, rfl, fun _ => rfl⟩ he hnew hc
      exact ⟨own, _, hown, hmode, he, hcallback, hpermitted _ fun _ => hfree⟩
  · exact absurd he hnew

/-- The message to the survivor about a transcript. -/
theorem transcript_contact {sid text : String}
    (he : e :: earlier <:+ (d.transcript s sid text).2.trace) (hnew : ¬ e :: earlier <:+ d.trace)
    (hc : ¬ e.Quiet) :
    ∃ own job attempt order, earlier = own ++ d.trace ∧
      d.jobs.findSid? sid = some (job, attempt) ∧ job.mode = .live ∧ e = .message order ∧
      job.request.callbackNumber = some order.number ∧
      Permitted s d (d.transcript s sid text).2 own true (Risk.assess text) job.request.approved
        .transcript attempt.id.toString order.number := by
  rcases transcript_course s sid text d with
    h | ⟨job, attempt, answer, d₁, report, changed, d₂, hfind, hask, -, hpatch, hcourse⟩
  · rw [h] at he
    exact absurd he hnew
  · have hasked := ask_notes s (Script.reportRequest text) d
    have hjobs := ask_jobs s (Script.reportRequest text) d
    have hpatched := patchAttempt_notes s ⟨job.id, attempt.id⟩ (transcriptPatch text report) d₁
    rw [hask] at hasked hjobs
    rw [hpatch] at hpatched
    have hnotes := hasked.trans hpatched
    rcases hcourse with ⟨-, h⟩ | ⟨job', rfl, h⟩
    · rw [h] at he
      exact absurd (hnotes.toGrows.effect he hnew).1 hc
    · rw [h] at he ⊢
      have hfound := JobRegister.attempt?_of_findSid? hfind
      rw [← hjobs] at hfound
      -- the message is about the patched job, whose mode and request are those of the one found
      obtain ⟨hmode, hrequest⟩ := patchAttempt_job hfound hpatch
      have hbefore := hnotes.toGrows.trans (followUp_quiet s attempt report d₂)
      have hblocked := followUp_blocked s attempt report d₂
      rw [hnotes.gate] at hblocked
      obtain ⟨own, order, hown, hlive, rfl, hcallback, hpermitted⟩ :=
        announce_contact he (fun h => hc (hbefore.effect h hnew).1) hc
      rw [hmode] at hlive
      rw [hrequest] at hcallback hpermitted
      obtain ⟨since, hsince, -⟩ := hbefore.trace
      refine ⟨own ++ since, job, attempt, order, ?_, hfind, hlive, rfl, hcallback,
        hpermitted.after hbefore.policy hblocked⟩
      rw [hown, hsince, List.append_assoc]

end ShelterLine.Desk

import ShelterLine.Proofs.Veil

/-!
# Anonymity

Whoever asks to stay anonymous tells a context of which only a redacted version is spoken. The
desk keeps the context as it was told, and reads it again when it judges risks. Still nothing
that reaches the outside, neither a call nor a message nor a question to the model nor what is
said on the line, tells two contexts apart that are redacted to the same text, unless it is the
fact that something was refused.
-/

namespace ShelterLine

/-- A request that was refused. -/
def Reply.isRefusal : Reply → Bool
  | job (.error _) | session (.error _) => true
  | _ => false

/-- What is said on the line. -/
def Reply.document? : Reply → Option Markup
  | document m => some m
  | _ => none

namespace Desk

variable {id : Uuid} {s : Surroundings} {d d' : Desk} {r r' : StartJob}

/-! ## Starting jobs -/

/-- One request is judged by its own context, so both refuse it or both carry it out. -/
theorem startJob_veiled (h : Similar (.veil id) d d') (s : Surroundings) (r : StartJob) :
    Similar (.veil id) (d.startJob s r).2 (d'.startJob s r).2 := by
  unfold startJob makeJob
  cases checkJob s r with
  | error refusal => exact h
  | ok u =>
    dsimp only
    rw [h.blocked]
    cases (r.callbackNumber.bind Phone.canonical?).filter d'.gate.blocked.blocks with
    | some number => exact h
    | none =>
      dsimp only
      rw [h.jobsMade, h.readings]
      generalize Job.create (s.now d'.readings) (s.newJob d'.made.jobs) _ r.mode _ r.targets = job
      rcases consult_judged h.counted s (Risk.assess r.survivorContext) r.approved r.mode.isLive
        .callJob job.id.toString with
          ⟨denial, d₁, denial', d₁', hask, hask', hasked⟩ | ⟨d₁, d₁', hask, hask', hasked⟩
      · rw [hask, hask']
        exact hasked
      · rw [hask, hask']
        exact dialAll_similar hasked rfl (.refl _ s _)

/-- A job that is accepted is counted, judged, registered and dialed. -/
theorem startJob_accepted (h : (d.perform s (.startJob r)).1.isRefusal = false) (id : Uuid) :
    ∃ d₁, Similar (.veil id) d.counted d₁ ∧
      (d.startJob s r).2 =
        (newJob s r d).attempts.foldl (dial s (newJob s r d)) (d₁.registerJob (newJob s r d)) := by
  have hreply : (Reply.job (d.startJob s r).1).isRefusal = false := h
  rcases startJob_course s r d with
    ⟨refusal, hrefused, -⟩ | ⟨job, d₁, verdict, d₂, -, -, hmake, hask, hcourse⟩
  · rw [hrefused] at hreply
    cases hreply
  · have hjob : newJob s r d = job := congrArg Prod.fst hmake
    have hasked := consult_veiled id s (Risk.assess r.survivorContext) r.approved r.mode.isLive
      .callJob job.id.toString d₁
    rw [hask] at hasked
    obtain ⟨-, rfl⟩ := Prod.mk.inj hmake
    rcases hcourse with ⟨denial, -, hdenied⟩ | ⟨-, d₃, rfl, hdone⟩
    · rw [hdenied] at hreply
      cases hreply
    · rw [hjob, hdone]
      exact ⟨d₂, hasked, rfl⟩

/-- Two requests that are accepted and make jobs that look alike are carried out alike. -/
theorem startJob_veiled_of_accepted (h : Similar (.veil id) d d')
    (hjob : (newJob s r d).veil id = (newJob s r' d').veil id)
    (haccepted : (d.perform s (.startJob r)).1.isRefusal = false)
    (haccepted' : (d'.perform s (.startJob r')).1.isRefusal = false) :
    Similar (.veil id) (d.startJob s r).2 (d'.startJob s r').2 := by
  obtain ⟨d₁, hjudged, hdone⟩ := startJob_accepted haccepted id
  obtain ⟨d₁', hjudged', hdone'⟩ := startJob_accepted haccepted' id
  rw [hdone, hdone']
  have hcalls : SameCalls (.veil id) s s (newJob s r d).mode (newJob s r' d').mode := by
    rw [Job.mode_eq_of_veil hjob]
    exact .refl _ s _
  exact dialAll_similar (hjudged.symm.trans (h.counted.trans hjudged')) hjob hcalls

/-! ## Starting transfers -/

/-- A transfer between parties that are found is refused if and only if the gate denies it. -/
theorem startTransfer_accepted_iff {r : StartTransfer} {p : Parties}
    (hfind : d.findParties s r = .ok p) :
    (d.perform s (.startTransfer r)).1.isRefusal = false ↔
      (d.consult s (Risk.assess (riskText p.job r.notes)) (r.approved || p.job.request.approved)
        r.mode.isLive .warmTransfer r.attemptId.toString).1 = .ok () := by
  change (Reply.session (d.startTransfer s r).1).isRefusal = false ↔ _
  unfold startTransfer
  rw [hfind]
  dsimp only
  generalize d.consult s _ _ _ _ _ = x
  obtain ⟨verdict, d₁⟩ := x
  cases verdict with
  | error denial => exact ⟨nofun, nofun⟩
  | ok u => exact ⟨fun _ => rfl, fun _ => rfl⟩

/-- A transfer of another job is judged by what is not veiled. One of the job itself may be judged
by what is veiled, so it must not be refused to one alone. -/
theorem startTransfer_veiled (h : Similar (.veil id) d d') (s : Surroundings) (r : StartTransfer)
    (hagreed : r.jobId = id → (d.perform s (.startTransfer r)).1.isRefusal =
      (d'.perform s (.startTransfer r)).1.isRefusal) :
    Similar (.veil id) (d.startTransfer s r).2 (d'.startTransfer s r).2 := by
  rcases findParties_similar (r := r) h (rfl : checkLine s r.mode = _) with
    ⟨refusal, hfind, hfind'⟩ | ⟨p, p', hfind, hfind', hp, hveil, hid⟩
  · unfold startTransfer
    rw [hfind, hfind']
    exact h
  · have hjudged : Judged id
        (d.consult s (Risk.assess (riskText p.job r.notes)) (r.approved || p.job.request.approved)
          r.mode.isLive .warmTransfer r.attemptId.toString)
        (d'.consult s (Risk.assess (riskText p'.job r.notes))
          (r.approved || p'.job.request.approved)
          r.mode.isLive .warmTransfer r.attemptId.toString) := by
      by_cases hjob : r.jobId = id
      · refine .of_ok_iff ((consult_veiled ..).symm.trans (h.trans (consult_veiled ..))) ?_
        rw [← startTransfer_accepted_iff hfind, ← startTransfer_accepted_iff hfind', hagreed hjob]
      · rw [Job.eq_of_veil hveil (hid ▸ hjob)]
        exact consult_judged h ..
    rcases hjudged with
      ⟨denial, d₁, denial', d₁', hask, hask', hasked⟩ | ⟨d₁, d₁', hask, hask', hasked⟩
    · unfold startTransfer
      rw [hfind, hfind']
      dsimp only
      rw [hask, hask']
      exact hasked
    · obtain ⟨t, d₂, t', d₂', hstart, hstart', -, hstarted⟩ :=
        startTransfer_similar (m := r.mode) hfind hfind' hp hask hask' hasked (.refl _ s r.mode)
          fun _ _ _ => rfl
      rw [hstart, hstart']
      exact hstarted

/-! ## Runs -/

/-- **Operations leave alike what was alike, and say the same on the line.** -/
theorem perform_veiled (h : Similar (.veil id) d d') (s : Surroundings) (op : Operation)
    (hagreed : ∀ r, op = .startTransfer r → r.jobId = id →
      (d.perform s op).1.isRefusal = (d'.perform s op).1.isRefusal) :
    (d.perform s op).1.document? = (d'.perform s op).1.document? ∧
      Similar (.veil id) (d.perform s op).2 (d'.perform s op).2 := by
  cases op with
  | startJob r => exact ⟨rfl, startJob_veiled h s r⟩
  | startTransfer r => exact ⟨rfl, startTransfer_veiled h s r (hagreed r rfl)⟩
  | status r => exact ⟨rfl, (status_similar h (.refl s) r).similar⟩
  | recording sid url => exact ⟨rfl, (recording_similar h (.refl s) sid url).similar⟩
  | transcript sid text => exact ⟨rfl, (transcript_veiled h s sid text).similar⟩
  | gather ref speech =>
    obtain ⟨m, d₁, d₁', hgather, hgather', hgathered⟩ := gather_similar h (.refl s) ref speech
    change some (d.gather s ref speech).1 = some (d'.gather s ref speech).1 ∧
      Similar (.veil id) (d.gather s ref speech).2 (d'.gather s ref speech).2
    rw [hgather, hgather']
    exact ⟨rfl, hgathered⟩
  | block raw => exact ⟨rfl, (block_similar h raw).similar⟩
  | unblock raw => exact ⟨rfl, (unblock_similar h raw).similar⟩
  | reset => exact ⟨rfl, reset_similar h⟩
  | restore stored => exact ⟨rfl, (restore_similar h stored).similar⟩

/-- What is said on the line in a run, in order. -/
def documents (d : Desk) : List (Surroundings × Operation) → List Markup
  | [] => []
  | (s, op) :: ops => (d.perform s op).1.document?.toList ++ (d.perform s op).2.documents ops

/-- No transfer of the job is refused to one of two desks alone. -/
def RefusedAlike (id : Uuid) (d d' : Desk) (ops : List (Surroundings × Operation)) : Prop :=
  ∀ before s r after, ops = before ++ (s, .startTransfer r) :: after → r.jobId = id →
    ((d.run before).perform s (.startTransfer r)).1.isRefusal =
      ((d'.run before).perform s (.startTransfer r)).1.isRefusal

theorem run_veiled (ops : List (Surroundings × Operation)) {d d' : Desk}
    (h : Similar (.veil id) d d') (hagreed : RefusedAlike id d d' ops) :
    d.documents ops = d'.documents ops ∧ Similar (.veil id) (d.run ops) (d'.run ops) := by
  induction ops generalizing d d' with
  | nil => exact ⟨rfl, h⟩
  | cons p ops ih =>
    obtain ⟨s, op⟩ := p
    obtain ⟨hdocument, hfirst⟩ := perform_veiled h s op fun r hop hr =>
      hop ▸ hagreed [] s r ops (by rw [hop]; rfl) hr
    obtain ⟨hdocuments, hrest⟩ := ih hfirst fun before s' r after hops hr =>
      hagreed ((s, op) :: before) s' r after (by rw [hops]; rfl) hr
    refine ⟨?_, hrest⟩
    unfold documents
    rw [hdocument, hdocuments]

/-- **An anonymous context is told by its redaction alone.** If a job for an anonymous survivor is
accepted whichever of two contexts with the same redaction it was told, and no later transfer of it
is refused for one of them alone, then all calls, messages and questions to the model are the same,
in the same order, and so is all that is said on the line. -/
theorem anonymous_context_untold (d : Desk) (s : Surroundings) (r : StartJob) (context : String)
    (hanonymous : r.anonymous = true)
    (hredacted : Redaction.redact context = Redaction.redact r.survivorContext)
    (haccepted : (d.perform s (.startJob r)).1.isRefusal = false)
    (haccepted' :
      (d.perform s (.startJob { r with survivorContext := context })).1.isRefusal = false)
    (later : List (Surroundings × Operation))
    (hlater : RefusedAlike (s.newJob d.made.jobs) (d.startJob s r).2
      (d.startJob s { r with survivorContext := context }).2 later) :
    (d.run ((s, .startJob r) :: later)).outward =
        (d.run ((s, .startJob { r with survivorContext := context }) :: later)).outward ∧
      d.documents ((s, .startJob r) :: later) =
        d.documents ((s, .startJob { r with survivorContext := context }) :: later) := by
  have hjob : (newJob s r d).veil (s.newJob d.made.jobs) =
      (newJob s { r with survivorContext := context } d).veil (s.newJob d.made.jobs) := by
    unfold newJob makeJob
    dsimp only
    rw [hanonymous]
    exact Job.veil_create hredacted.symm ..
  have hstarted := startJob_veiled_of_accepted (.refl _ d) hjob haccepted haccepted'
  obtain ⟨hdocuments, hrun⟩ := run_veiled later hstarted hlater
  exact ⟨hrun.outward, hdocuments⟩

/-- Someone who stays anonymous but leaves a number, which is redacted. -/
def anonymousCall : StartJob where
  mode := .dryRun
  survivorContext := "Text 555-010-0199 tonight."
  callbackNumber := none
  anonymous := true
  approved := false
  targets := [⟨1, "Harbor House", some "555-010-0100", none, none⟩]

/-- Calm, with a model that always says the same. -/
def talkative : Surroundings := { Surroundings.calm with answer := some fun _ _ => some "Hello." }

/-- What is asked on the line, and a transfer. -/
def laterTransfer : List (Surroundings × Operation) :=
  [(talkative, .gather ⟨.ofNat 0, .ofNat 0⟩ (some "For how many?")),
    (talkative, .startTransfer ⟨.dryRun, .ofNat 0, .ofNat 0, "555-010-0123", none, none, false⟩)]

/-- Of two numbers nothing is told: the model is asked twice, three calls are placed, and the line
is answered once, all the same. -/
theorem anonymous_context_untold_numbers :
    ((ofConfig {}).run ((talkative, .startJob anonymousCall) :: laterTransfer)).outward =
      ((ofConfig {}).run ((talkative, .startJob { anonymousCall with
        survivorContext := "Text 555-010-0155 tonight." }) :: laterTransfer)).outward ∧
    ((ofConfig {}).run ((talkative, .startJob anonymousCall) :: laterTransfer)).outward.length = 5 ∧
    (ofConfig {}).documents ((talkative, .startJob anonymousCall) :: laterTransfer) =
      (ofConfig {}).documents ((talkative, .startJob { anonymousCall with
        survivorContext := "Text 555-010-0155 tonight." }) :: laterTransfer) ∧
    ((ofConfig {}).documents
      ((talkative, .startJob anonymousCall) :: laterTransfer)).length = 1 := by
  obtain ⟨houtward, hdocuments⟩ := anonymous_context_untold (ofConfig {}) talkative anonymousCall
    "Text 555-010-0155 tonight." rfl (by decide +kernel) (by decide +kernel) (by decide +kernel)
    laterTransfer (by
      intro before s r after hlater _
      rcases before with _ | ⟨p, _ | ⟨q, before⟩⟩
      · cases hlater
      · cases hlater
        decide +kernel
      · cases before <;> cases hlater)
  exact ⟨houtward, by decide +kernel, hdocuments, by decide +kernel⟩

end Desk

end ShelterLine

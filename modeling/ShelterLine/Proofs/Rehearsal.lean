import ShelterLine.Proofs.Change
import ShelterLine.Proofs.Guise

/-!
# Dry runs rehearse live runs

A dry run does what the live run does whose calls are answered as those on the line that rehearses.
Where nothing is stopped for want of approval, the mode decides on which line a call goes out, and
whether the survivor is told of room by a message. A message is the last thing that an operation
does, and asking the gate about it leaves at most an escalation; so the runs go on alike, if the
escalations that both record get the same stamps.
-/

namespace ShelterLine

/-! ## What is left of a mode -/

/-- The job as if it had been a dry run. -/
def Job.rehearsed (j : Job) : Job := { j with mode := .dryRun }

/-- The session as if it had been a dry run. -/
def Session.rehearsed (t : Session) : Session := { t with mode := .dryRun }

/-- Escalations about transcripts either ask for follow-up, or are about the message
to the survivor. -/
def Escalation.ForMessage (e : Escalation) : Prop :=
  e.source = .transcript ∧ ¬ " call needs human follow-up".toList <:+ e.reason.toList

instance : DecidablePred Escalation.ForMessage := fun e =>
  inferInstanceAs (Decidable (e.source = .transcript ∧ _))

/-- What there is of an effect in a dry run: neither messages nor escalations about them. -/
def Effect.rehearsed : Effect → Option Effect
  | .call _ purpose order => some (.call .dryRun purpose order)
  | .message _ => none
  | .keep (.job j) => some (.keep (.job j.rehearsed))
  | .keep (.session t) => some (.keep (.session t.rehearsed))
  | .keep (.escalation e) => if e.ForMessage then none else some (.keep (.escalation e))
  | .publish (.jobUpdated j) => some (.publish (.jobUpdated j.rehearsed))
  | .publish (.transferUpdated t) => some (.publish (.transferUpdated t.rehearsed))
  | .publish (.escalationRecorded e) =>
    if e.ForMessage then none else some (.publish (.escalationRecorded e))
  | e => some e

/-- What is ordered by a call, and for what. -/
def Effect.order? : Effect → Option (CallPurpose × CallOrder)
  | .call _ purpose order => some (purpose, order)
  | _ => none

/-- The escalation that an effect keeps. -/
def Effect.escalation? : Effect → Option Escalation
  | .keep (.escalation e) => some e
  | _ => none

/-- A reply as if it had been a dry run. -/
def Reply.rehearsed : Reply → Reply
  | job (.ok j) => job (.ok j.rehearsed)
  | session (.ok t) => session (.ok t.rehearsed)
  | r => r

/-- Desks as if everything had been a dry run. -/
def rehearsal : Guise where
  job := Job.rehearsed
  session := Session.rehearsed
  effect := Effect.rehearsed
  jobs := by constructor <;> intros <;> rfl
  sessions := by constructor <;> intros <;> rfl
  jobKept h := congrArg (fun j => some (Effect.keep (.job j))) h
  jobPublished h := congrArg (fun j => some (Effect.publish (.jobUpdated j))) h
  sessionKept h := congrArg (fun t => some (Effect.keep (.session t))) h
  sessionPublished h := congrArg (fun t => some (Effect.publish (.transferUpdated t))) h

/-- Live surroundings for which others are a rehearsal: live calls are answered as the rehearsed
ones are, and the same happens meanwhile. -/
structure Surroundings.Rehearses (s s' : Surroundings) : Prop extends s.Same s' where
  live : s'.live = true
  place : ∀ n, s'.place n .live = s.place n .dryRun
  meanwhile : ∀ n, s'.meanwhile n .live = s.meanwhile n .dryRun

namespace Operation

/-- The operation in a mode, if it starts something. -/
def inMode (m : Mode) : Operation → Operation
  | startJob r => startJob { r with mode := m }
  | startTransfer r => startTransfer { r with mode := m }
  | op => op

theorem inMode_ne_restore {op : Operation} {stored : Stored} (h : op ≠ .restore stored) (m : Mode) :
    op.inMode m ≠ .restore stored := by
  cases op with
  | restore => exact h
  | _ => exact Operation.noConfusion

/-- What is started is approved. -/
def isApproved : Operation → Bool
  | startJob r => r.approved
  | startTransfer r => r.approved
  | _ => true

end Operation

namespace Desk

variable {s s' : Surroundings} {d d' : Desk}

theorem sameCalls_rehearsal (h : s.Rehearses s') : SameCalls rehearsal s s' .dryRun .live :=
  ⟨h.toSame, h.place, h.meanwhile, fun _ _ => rfl⟩

/-! ## The gate -/

/-- What is not stopped passes, and leaves an escalation if it is high risk. -/
theorem consult_passes (s : Surroundings) {risk : RiskAssessment} {approved live : Bool} {d : Desk}
    (hpass : (live && d.gate.stops risk approved) = false) (source : EscalationSource)
    (reference : String) :
    d.consult s risk approved live source reference = (.ok (),
      if risk.isHigh then { d with gate := d.gate.record (Gate.escalation
        (s.stamp d.made.escalations)
        risk false source reference) }.escalated (Gate.escalation (s.stamp d.made.escalations) risk
        false source reference) else d) := by
  unfold consult Gate.decide
  rw [hpass]
  cases risk.isHigh <;> rfl

/-- What is not stopped in a live run is judged as in a dry run. -/
theorem consult_rehearsed (h : Similar rehearsal d d')
    (hstamp : s'.stamp d'.made.escalations = s.stamp d.made.escalations) {approved : Bool}
    (hpass : d'.gate.requireEscalation = false ∨ approved = true) (risk : RiskAssessment)
    (source : EscalationSource) (reference : String) :
    ∃ d₁ d₁', d.consult s risk approved false source reference = (.ok (), d₁) ∧
      d'.consult s' risk approved true source reference =
        (.ok (), d₁') ∧ Similar rehearsal d₁ d₁' := by
  have hstops : (true && d'.gate.stops risk approved) = false := by
    unfold Gate.stops
    rcases hpass with hpass | hpass <;> simp [hpass]
  refine ⟨_, _, consult_passes s rfl source reference,
    consult_passes s' hstops source reference, ?_⟩
  rw [hstamp]
  split
  · exact h.escalated _
  · exact h

/-- What is recorded of a transcript's risk is about the message. -/
theorem forMessage_escalation (stamp : Stamp) (risk : RiskAssessment) (stopped : Bool)
    (reference : String) :
    (Gate.escalation stamp risk stopped .transcript reference).ForMessage := by
  refine ⟨rfl, ?_⟩
  cases stopped
  · change ¬ _ <:+ "High-risk content detected".toList
    decide
  · change ¬ _ <:+ "High-risk content; live action blocked pending human approval".toList
    decide

/-- Telling the survivor does not show in a rehearsal. -/
theorem similar_announce (s : Surroundings) (j : Job) (a : Attempt) (text : String)
    (report : IntakeReport) (d : Desk) : Similar rehearsal d (d.announce s j a text report) := by
  unfold announce
  split
  · have hasked : Similar rehearsal d
        (d.consult s (Risk.assess text) j.request.approved true .transcript a.id.toString).2 :=
      similar_consult s j.request.approved true (fun stamp stopped =>
        have hmessage := forMessage_escalation stamp (Risk.assess text) stopped a.id.toString
        ⟨if_pos hmessage, if_pos hmessage⟩) d
    rcases notifySurvivor_course s j a text report d with
      h | ⟨callback, verdict, d₁, -, -, -, hask, h | ⟨-, body, h⟩⟩
    · rw [h]
      exact .refl _ d
    · rw [hask] at hasked
      rw [h]
      exact hasked
    · rw [hask] at hasked
      rw [h]
      exact { hasked with shown := hasked.shown }
  · exact .refl _ d

/-! ## Transcripts -/

/-- A follow-up is no message, and asked for in both. -/
theorem followUp_rehearsed (h : Similar rehearsal d d')
    (hstamp : s'.stamp d'.made.escalations = s.stamp d.made.escalations) (a : Attempt)
    (report : IntakeReport) :
    Similar rehearsal (d.followUp s a report) (d'.followUp s' a report) := by
  unfold followUp escalate
  rw [hstamp]
  split
  · exact h.escalated _
  · exact h

/-- What is announced does not show, whether it is announced in both or in one. -/
theorem transcript_rehearsed (h : Similar rehearsal d d') (hs : s.Same s')
    (hstamp : s'.stamp d'.made.escalations = s.stamp d.made.escalations) (sid text : String) :
    SameResult rehearsal (d.transcript s sid text) (d'.transcript s' sid text) :=
  transcript_similar h hs sid text fun a _ hattached hcount hcount' _ =>
    (similar_announce ..).symm.trans
      ((followUp_rehearsed hattached (by rw [hcount, hcount', hstamp]) a
      _).trans (similar_announce ..))

/-! ## Starting jobs and transfers -/

/-- The jobs that are made differ in their modes. -/
theorem makeJob_rehearsed (h : Similar rehearsal d d') (hs : s.Same s') (r : StartJob)
    (callback : Option String) :
    ∃ j d₁ j' d₁', d.makeJob s { r with mode := .dryRun } callback = (j, d₁) ∧
      d'.makeJob s' { r with mode := .live } callback = (j', d₁') ∧
      j.rehearsed = j'.rehearsed ∧ j.mode = .dryRun ∧ j'.mode = .live ∧ Similar rehearsal d₁ d₁' ∧
      d₁.made.escalations = d.made.escalations ∧ d₁'.made.escalations = d'.made.escalations ∧
      d₁'.gate = d'.gate := by
  refine ⟨_, _, _, _, rfl, rfl, ?_, rfl, rfl, ?_, rfl, rfl, rfl⟩
  · rw [h.jobsMade, h.readings, hs.now, hs.newJob, hs.newAttempt]
    rfl
  · exact h.counted

theorem startJob_rehearsed (h : Similar rehearsal d d') (hs : s.Rehearses s')
    (hstamp : s'.stamp d'.made.escalations = s.stamp d.made.escalations) (r : StartJob)
    (hpass : d'.gate.requireEscalation = false ∨ r.approved = true) :
    (Reply.job (d.startJob s { r with mode := .dryRun }).1).rehearsed =
        (Reply.job (d'.startJob s' { r with mode := .live }).1).rehearsed ∧
      Similar rehearsal (d.startJob s { r with mode := .dryRun }).2
        (d'.startJob s' { r with mode := .live }).2 := by
  have hcheck : checkJob s' { r with mode := .live } = checkJob s { r with mode := .dryRun } := by
    unfold checkJob checkLine
    dsimp only
    rw [hs.live]
    rfl
  unfold startJob
  rw [hcheck, h.blocked]
  cases checkJob s { r with mode := .dryRun } with
  | error refusal => exact ⟨rfl, h⟩
  | ok u =>
    dsimp only
    cases (r.callbackNumber.bind Phone.canonical?).filter d'.gate.blocked.blocks with
    | some number => exact ⟨rfl, h⟩
    | none =>
      obtain ⟨j, d₁, j', d₁', hmake, hmake', hjob, hmode, hmode', hmade, hcount, hcount', hgate⟩ :=
        makeJob_rehearsed h hs.toSame r (r.callbackNumber.bind Phone.canonical?)
      have hid := (rehearsal.jobs.similar hjob).id
      rw [← hgate] at hpass
      rw [← hcount, ← hcount'] at hstamp
      obtain ⟨d₂, d₂', hask, hask', hasked⟩ := consult_rehearsed hmade hstamp hpass
        (Risk.assess r.survivorContext) .callJob j'.id.toString
      have hcalls : SameCalls rehearsal s s' j.mode j'.mode := by
        rw [hmode, hmode']
        exact sameCalls_rehearsal hs
      have hdialed := dialAll_similar hasked hjob hcalls
      dsimp only
      rw [hmake, hmake']
      dsimp only [Mode.isLive]
      rw [hid, hask, hask']
      have hread := JobRegister.getD_get?_eq rehearsal.jobs hdialed.jobs hjob j'.id
      exact ⟨congrArg (Reply.job <| .ok ·) hread, hdialed⟩

theorem startTransfer_rehearsed (h : Similar rehearsal d d') (hs : s.Rehearses s')
    (hstamp : s'.stamp d'.made.escalations = s.stamp d.made.escalations) (r : StartTransfer)
    (hpass : d'.gate.requireEscalation = false ∨ r.approved = true) :
    (Reply.session (d.startTransfer s { r with mode := .dryRun }).1).rehearsed =
        (Reply.session (d'.startTransfer s' { r with mode := .live }).1).rehearsed ∧
      Similar rehearsal (d.startTransfer s { r with mode := .dryRun }).2
        (d'.startTransfer s' { r with mode := .live }).2 := by
  have hline : checkLine s' .live = checkLine s .dryRun := by
    unfold checkLine
    rw [hs.live]
    rfl
  rcases findParties_similar (r := { r with mode := .dryRun }) h hline with
    ⟨refusal, hfind, hfind'⟩ | ⟨p, p', hfind, hfind', hp, hjob, -⟩
  · unfold startTransfer
    rw [hfind, hfind']
    exact ⟨rfl, h⟩
  · have hrequest : p.job.rehearsed.request = p'.job.rehearsed.request := congrArg Job.request hjob
    change p.job.request = p'.job.request at hrequest
    have hrisk : riskText p.job r.notes = riskText p'.job r.notes := by
      unfold riskText
      rw [hrequest]
    have happroved : d'.gate.requireEscalation = false ∨
        (r.approved || p'.job.request.approved) = true := hpass.imp_right fun hr => by simp [hr]
    obtain ⟨d₁, d₁', hask, hask', hasked⟩ := consult_rehearsed h hstamp happroved
      (Risk.assess (riskText p'.job r.notes)) .warmTransfer r.attemptId.toString
    rw [← hrisk, ← hrequest] at hask
    obtain ⟨t, d₂, t', d₂', hstart, hstart', hsession, hstarted⟩ :=
      startTransfer_similar (r := { r with mode := .dryRun })
        (m := .live) hfind hfind' hp hask hask' hasked (sameCalls_rehearsal hs) fun _ _ _ => rfl
    rw [hstart, hstart']
    exact ⟨congrArg (Reply.session <| .ok ·) hsession, hstarted⟩

/-! ## Operations -/

theorem SameResult.replied {α : Type} {x x' : α × Desk} (h : SameResult rehearsal x x')
    (reply : α → Reply) :
    (reply x.1).rehearsed = (reply x'.1).rehearsed ∧ Similar rehearsal x.2 x'.2 := by
  obtain ⟨a, d₁, d₁', rfl, rfl, halike⟩ := h
  exact ⟨rfl, halike⟩

/-- **Every operation is rehearsed.** What comes of it, and what it leaves, is the same up to modes,
messages and the escalations about them. -/
theorem perform_rehearsed (h : Similar rehearsal d d') (hs : s.Rehearses s')
    (hstamp : s'.stamp d'.made.escalations = s.stamp d.made.escalations) (op : Operation)
    (hpass : d'.gate.requireEscalation = false ∨ op.isApproved = true) :
    (d.perform s (op.inMode .dryRun)).1.rehearsed = (d'.perform s' (op.inMode .live)).1.rehearsed ∧
      Similar rehearsal (d.perform s (op.inMode .dryRun)).2
        (d'.perform s' (op.inMode .live)).2 := by
  cases op with
  | startJob r => exact startJob_rehearsed h hs hstamp r hpass
  | startTransfer r => exact startTransfer_rehearsed h hs hstamp r hpass
  | transcript sid text => exact (transcript_rehearsed h hs.toSame hstamp sid text).replied .outcome
  | status r => exact (status_similar h hs.toSame r).replied .outcome
  | recording sid url => exact (recording_similar h hs.toSame sid url).replied .outcome
  | gather ref speech => exact (gather_similar h hs.toSame ref speech).replied .document
  | block raw => exact (block_similar h raw).replied .change
  | unblock raw => exact (unblock_similar h raw).replied .change
  | reset => exact ⟨rfl, reset_similar h⟩
  | restore stored => exact (restore_similar h stored).replied .restored

/-! ## The log -/

/-- The escalations that were recorded, newest first. -/
def recorded (d : Desk) : List Escalation := d.trace.filterMap Effect.escalation?

/-- The log has the newest escalations that were recorded. -/
def Logged (d : Desk) : Prop := d.gate.escalations = d.recorded.take EscalationLog.capacity

theorem Change.logged (h : Change s d d') (hd : d.Logged) : d'.Logged := by
  cases h with
  | acted e outward => cases e <;> first | exact hd | exact outward.elim
  | counted | registered | patched | marked | bound | opened | moved | joined | forgotten =>
    exact hd
  | escalated e =>
    change EscalationLog.record d.gate.escalations e = (e :: d.recorded).take EscalationLog.capacity
    rw [hd]
    unfold EscalationLog.record EscalationLog.capacity
    rw [List.take_succ_cons, List.take_succ_cons, List.take_take]
    rfl
  | blocked raw =>
    unfold block
    dsimp only
    split <;> exact hd
  | unblocked raw =>
    unfold unblock
    dsimp only
    split <;> exact hd

/-- As long as nothing is taken in from storage, the log has what was recorded. -/
theorem run_logged (c : SafetyConfig) {ops : List (Surroundings × Operation)}
    (hmemory : Unrestored ops) :
    ((ofConfig c).run ops).Logged := by
  induction ops using List.reverseRecOn with
  | nil => rfl
  | append_singleton ops last ih =>
    rw [run_concat]
    exact (perform_changes last.1 _ (hmemory last (by simp))).keeps (fun _ _ => Change.logged)
      (ih hmemory.left)

/-! ## Runs -/

/-- The calls that were ordered, newest first. -/
def orders (d : Desk) : List (CallPurpose × CallOrder) := d.trace.filterMap Effect.order?

/-- Calls show in a rehearsal with all that is ordered. -/
theorem orders_rehearsed (d : Desk) : d.orders = (d.shown rehearsal).filterMap Effect.order? := by
  have heffect : ∀ e : Effect, e.order? = e.rehearsed.bind Effect.order? := by
    intro e
    cases e with
    | call | message | question => rfl
    | keep w =>
      cases w with
      | escalation e => by_cases h : e.ForMessage <;> simp [Effect.rehearsed, Effect.order?, h]
      | job | session | block | unblock => rfl
    | publish v =>
      cases v with
      | escalationRecorded e =>
        by_cases h : e.ForMessage <;> simp [Effect.rehearsed, Effect.order?, h]
      | snapshot | jobUpdated | transferUpdated => rfl
  unfold orders shown
  rw [List.filterMap_filterMap]
  exact List.filterMap_congr fun e _ => heffect e

/-- Of the escalations those show in a rehearsal that are not about messages. -/
theorem recorded_rehearsed (d : Desk) :
    d.recorded.filter (¬ ·.ForMessage) = (d.shown rehearsal).filterMap Effect.escalation? := by
  have heffect : ∀ e : Effect, e.escalation?.filter (¬ ·.ForMessage) =
      e.rehearsed.bind Effect.escalation? := by
    intro e
    cases e with
    | call | message | question => rfl
    | keep w =>
      cases w with
      | escalation e => by_cases h : e.ForMessage <;> simp [Effect.rehearsed, Effect.escalation?, h]
      | job | session | block | unblock => rfl
    | publish v =>
      cases v with
      | escalationRecorded e =>
        by_cases h : e.ForMessage <;> simp [Effect.rehearsed, Effect.escalation?, h]
      | snapshot | jobUpdated | transferUpdated => rfl
  unfold recorded shown
  rw [List.filter_filterMap, List.filterMap_filterMap]
  exact List.filterMap_congr fun e _ => heffect e

end Desk

/-- What is asked of the desk, in surroundings for a dry run and in others for the live run. -/
abbrev Plan := List (Surroundings × Surroundings × Operation)

namespace Plan

/-- Everything that is started is rehearsed. -/
def dry (plan : Plan) : List (Surroundings × Operation) :=
  plan.map fun (s, _, op) => (s, op.inMode .dryRun)

/-- Everything that is started is live. -/
def live (plan : Plan) : List (Surroundings × Operation) :=
  plan.map fun (_, s', op) => (s', op.inMode .live)

/-- Before each operation the next escalation is to get the same stamp in both runs. -/
def Stamped (d d' : Desk) : Plan → Prop
  | [] => True
  | (s, s', op) :: plan => s'.stamp d'.made.escalations = s.stamp d.made.escalations ∧
    Stamped (d.perform s (op.inMode .dryRun)).2 (d'.perform s' (op.inMode .live)).2 plan

/-- The dry run is a rehearsal for the live run: calls are answered in the same way, identifiers,
times and answers of the model are the same, and nothing waits for approval. -/
structure Rehearses (c : SafetyConfig) (plan : Plan) : Prop where
  surroundings : ∀ x ∈ plan, x.1.Rehearses x.2.1
  stamps : Stamped (.ofConfig c) (.ofConfig c) plan
  approved : c.requireEscalation = false ∨ ∀ x ∈ plan, x.2.2.isApproved = true

theorem Stamped.left {d d' : Desk} :
    ∀ {plan rest : Plan}, Stamped d d' (plan ++ rest) → Stamped d d' plan
  | [], _, _ => trivial
  | (_, _, _) :: _, _, h => ⟨h.1, Stamped.left h.2⟩

/-- Nothing is taken in from storage. -/
def Unrestored (plan : Plan) : Prop := ∀ x ∈ plan, ∀ stored, x.2.2 ≠ .restore stored

theorem Unrestored.dry {plan : Plan} (h : plan.Unrestored) : Desk.Unrestored plan.dry := by
  intro x hx stored
  obtain ⟨y, hy, rfl⟩ := List.mem_map.1 hx
  exact Operation.inMode_ne_restore (h y hy stored) .dryRun

theorem Unrestored.live {plan : Plan} (h : plan.Unrestored) : Desk.Unrestored plan.live := by
  intro x hx stored
  obtain ⟨y, hy, rfl⟩ := List.mem_map.1 hx
  exact Operation.inMode_ne_restore (h y hy stored) .live

end Plan

namespace Desk

open Plan (Stamped)

theorem run_rehearsed : ∀ (plan : Plan) {d d' : Desk}, Similar rehearsal d d' →
    (∀ x ∈ plan, x.1.Rehearses x.2.1) → Stamped d d' plan →
    (d'.gate.requireEscalation = false ∨ ∀ x ∈ plan, x.2.2.isApproved = true) →
    (d.replies plan.dry).map Reply.rehearsed = (d'.replies plan.live).map Reply.rehearsed ∧
      Similar rehearsal (d.run plan.dry) (d'.run plan.live)
  | [], _, _, h, _, _, _ => ⟨rfl, h⟩
  | (s, s', op) :: plan, d, d', h, hsame, hstamps, hpass => by
    obtain ⟨hreply, hfirst⟩ := perform_rehearsed h (hsame _ List.mem_cons_self) hstamps.1 op
      (hpass.imp_right fun happroved => happroved _ List.mem_cons_self)
    have hpolicy := perform_policy s' d' (op.inMode .live)
    rw [← hpolicy] at hpass
    obtain ⟨hreplies, hrest⟩ := run_rehearsed plan hfirst
      (fun x hx => hsame x (List.mem_cons_of_mem _ hx)) hstamps.2
      (hpass.imp_right fun happroved x hx => happroved x (List.mem_cons_of_mem _ hx))
    exact ⟨congrArg₂ List.cons hreply hreplies, hrest⟩

/-- **A dry run rehearses the live run.** Whatever is asked of the desk, if nothing waits for
approval and live calls are answered as those that rehearse, then after every operation the replies
are the same up to modes, and so are the jobs and transfers; the indices of SIDs, the block list and
the orders of all calls are the same. Of what was done, and written and published, nothing differs
but modes and lines, messages to survivors, and escalations about them. That is true of the logs as
well, as long as nothing comes from storage and neither is full. -/
theorem dry_run_rehearses_live (c : SafetyConfig) (before after : Plan)
    (h : (before ++ after).Rehearses c) :
    let d := (ofConfig c).run before.dry
    let d' := (ofConfig c).run before.live
    ((ofConfig c).replies before.dry).map Reply.rehearsed =
        ((ofConfig c).replies before.live).map Reply.rehearsed ∧
      d.orders = d'.orders ∧
      d.jobs.jobs.map Job.rehearsed = d'.jobs.jobs.map Job.rehearsed ∧ d.jobs.sids = d'.jobs.sids ∧
      d.transfers.sessions.map Session.rehearsed = d'.transfers.sessions.map Session.rehearsed ∧
      d.transfers.sids = d'.transfers.sids ∧
      d.gate.blocked = d'.gate.blocked ∧
      d.trace.filterMap Effect.rehearsed = d'.trace.filterMap Effect.rehearsed ∧
      (before.Unrestored → d.gate.escalations.length < EscalationLog.capacity →
        d'.gate.escalations.length < EscalationLog.capacity →
        d.gate.escalations.filter (¬ ·.ForMessage) =
        d'.gate.escalations.filter (¬ ·.ForMessage)) := by
  dsimp only
  obtain ⟨hreplies, halike⟩ := run_rehearsed before (.refl _ (ofConfig c))
    (fun x hx => h.surroundings x (List.mem_append_left _ hx)) h.stamps.left
    (h.approved.imp_right fun happroved x hx => happroved x (List.mem_append_left _ hx))
  refine ⟨hreplies, ?_, congrArg (·.jobs) halike.jobs, congrArg (·.sids) halike.jobs,
    congrArg (·.sessions) halike.transfers, congrArg (·.sids) halike.transfers, halike.blocked,
    halike.shown, fun hmemory hroom hroom' => ?_⟩
  · rw [orders_rehearsed, orders_rehearsed, halike.shown]
  · -- a log with room has everything that was recorded
    have hall : ∀ {d : Desk}, d.Logged → d.gate.escalations.length < EscalationLog.capacity →
        d.gate.escalations = d.recorded := by
      intro d hlogged hroom
      rw [hlogged, List.length_take] at hroom
      rw [hlogged, List.take_of_length_le (by omega)]
    rw [hall (run_logged c hmemory.dry) hroom, hall (run_logged c hmemory.live) hroom',
      recorded_rehearsed, recorded_rehearsed, halike.shown]

/-- An approved job for someone who is at risk and leaves a number. -/
def approvedJob : StartJob where
  mode := .live
  survivorContext := "He has a weapon."
  callbackNumber := some "555-010-0199"
  anonymous := false
  approved := true
  targets := [⟨1, "Harbor House", some "555-010-0100", none, none⟩]

/-- Calm surroundings without a live line. Of the stamps some are skipped. -/
def rehearsalRoom (skipped : Nat) : Surroundings :=
  { Surroundings.calm with live := false, stamp := fun n => Surroundings.calm.stamp (n + skipped) }

/-- A job, a transcript that tells of room and of a weapon, and a transfer. -/
def riskyPlan : Plan :=
  [(rehearsalRoom 0, .calm, .startJob approvedJob),
    (rehearsalRoom 0, .calm, .transcript "CA0" "Yes, we have beds available. He has a weapon."),
    (rehearsalRoom 1, .calm,
      .startTransfer ⟨.live, .ofNat 0, .ofNat 0, "555-010-0123", none, none, true⟩)]

/-- The live run sends a message and records an escalation about it, and the dry run does not. All
three calls are the same, and so are the other escalations. -/
theorem dry_run_rehearses_live_riskyPlan : riskyPlan.Rehearses {} ∧
    ((ofConfig {}).run riskyPlan.dry).orders = ((ofConfig {}).run riskyPlan.live).orders ∧
    ((ofConfig {}).run riskyPlan.dry).orders.length = 3 ∧
    ((ofConfig {}).run riskyPlan.dry).gate.escalations.filter (¬ ·.ForMessage) =
      ((ofConfig {}).run riskyPlan.live).gate.escalations.filter (¬ ·.ForMessage) ∧
    ((ofConfig {}).run riskyPlan.dry).gate.escalations.length = 2 ∧
    ((ofConfig {}).run riskyPlan.live).gate.escalations.length = 3 := by
  have hcalm : ∀ skipped, (rehearsalRoom skipped).Rehearses .calm := fun _ =>
    ⟨⟨rfl, rfl, rfl, rfl, rfl, rfl⟩, rfl, fun _ => rfl, fun _ => rfl⟩
  have hplan : riskyPlan.Rehearses {} := by
    refine ⟨fun x hx => ?_, ?_, Or.inr ?_⟩
    · simp only [riskyPlan, List.mem_cons, List.not_mem_nil, or_false] at hx
      rcases hx with rfl | rfl | rfl
      · exact hcalm 0
      · exact hcalm 0
      · exact hcalm 1
    · exact ⟨by decide +kernel, by decide +kernel, by decide +kernel, trivial⟩
    · decide
  have hmemory : riskyPlan.Unrestored := by
    intro x hx stored
    simp only [riskyPlan, List.mem_cons, List.not_mem_nil, or_false] at hx
    rcases hx with rfl | rfl | rfl <;> exact Operation.noConfusion
  have hdry : ((ofConfig {}).run riskyPlan.dry).gate.escalations.length = 2 := by decide +kernel
  have hlive : ((ofConfig {}).run riskyPlan.live).gate.escalations.length = 3 := by decide +kernel
  obtain ⟨-, horders, -, -, -, -, -, -, hlog⟩ := dry_run_rehearses_live {} riskyPlan [] hplan
  refine ⟨hplan, horders, by decide +kernel, ?_, hdry, hlive⟩
  exact hlog hmemory (by rw [hdry]; decide) (by rw [hlive]; decide)

end Desk

end ShelterLine

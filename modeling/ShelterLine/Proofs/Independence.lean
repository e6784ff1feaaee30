import ShelterLine.Proofs.SideBySide

/-!
# The attempts of a job are independent

A job that is accepted dials one attempt per target. Whatever is answered about the targets, and
in whatever order, each attempt comes to what its own target and its own answers make of it, in
one of four ways; the calls that are placed are one for each target that can be dialed; and the
job is what its attempts amount to. To dial the targets one right after the other, as `startJob`
does, is one of those orders.
-/

namespace ShelterLine

/-! ## One target -/

/-- What a target comes to: its own answers are the only ones that it depends on. -/
def Target.outcome (now : Instant) (blocked : BlockList) (jobId id : Uuid) (context : String)
    (callback : Option String) (answer : Option String) (placed : Except TelephonyError String)
    (t : Target) : Attempt :=
  (Attempt.queued now jobId id t).outcome blocked
    (Script.scriptFrom ⟨t.shelterName, context, callback⟩ answer) placed

/-- The call to a target, if there is one: to its number, or to what stands there if
that is no number. -/
def Target.call? (s : Surroundings) (blocked : BlockList) (mode : Mode) (jobId id : Uuid)
    (context : String) (callback : Option String) (answer : Option String) (t : Target) :
    Option (Mode × CallPurpose × CallOrder) :=
  (t.intakePhone.filter fun raw => !blocked.blocks raw).map fun raw =>
    (mode, .attempt ⟨jobId, id⟩,
      Desk.attemptOrder s ⟨jobId, id⟩ raw ⟨t.shelterName, context, callback⟩
        (Script.scriptFrom ⟨t.shelterName, context, callback⟩ answer))

/-- What of a request may be spoken. -/
def StartJob.spoken (r : StartJob) : String :=
  if r.anonymous then Redaction.redact r.survivorContext else r.survivorContext

/-! ## Lists and jobs -/

theorem map_mapIdx {α β γ : Type} (g : β → γ) (f : Nat → α → β) (xs : List α) :
    (xs.mapIdx f).map g = xs.mapIdx fun i x => g (f i x) := by
  apply List.ext_getElem
  · simp
  · intro i h h'
    simp

/-- What comes of no two elements is the same. -/
theorem eq_of_nodup_filterMap {α β : Type} {f : α → Option β} {xs : List α}
    (hn : (xs.filterMap f).Nodup) {x y : α} (hx : x ∈ xs) (hy : y ∈ xs) {v : β} (hfx : f x = some v)
    (hfy : f y = some v) : x = y := by
  by_contra hne
  have hsymm : Std.Symm fun a b : α => ∀ v, f a = some v → ∀ v', f b = some v' → v ≠ v' :=
    ⟨fun a b hab v hv v' hv' heq => hab v' hv' v hv heq.symm⟩
  exact (List.pairwise_filterMap.1 hn).forall hx hy hne v hfx v hfy rfl

/-- Jobs that are the same apart from times agree in what was asked for. -/
theorem Job.eq_of_untimed {j k : Job} (h : j.untimed = k.untimed) :
    j = { k with status := j.status, updatedAt := j.updatedAt, attempts := j.attempts } := by
  cases j
  cases k
  obtain ⟨rfl, rfl, -, rfl, -, rfl, -⟩ := Job.mk.inj h
  rfl

namespace Desk

open Dialing (Finished Separate Upto outcomeOf callOf)

variable {s : Surroundings} {r : StartJob} {d d' : Desk} {j job : Job} {a : Attempt}
    {answers : Answers}

/-! ## Accepting a job -/

/-- The desk once a job has been accepted: it was judged, and it is registered. -/
def accept (s : Surroundings) (r : StartJob) (d : Desk) : Desk :=
  (d.counted.consult s (Risk.assess r.survivorContext) r.approved
    r.mode.isLive .callJob (newJob s r d).id.toString).2.registerJob (newJob s r d)

theorem startJob_eq_of_accepted (h : d.startJob s r = (.ok j, d')) : r.targets ≠ [] ∧
    d' = (newJob s r d).attempts.foldl (dial s (newJob s r d)) (d.accept s r) ∧
    j = (d'.jobs.get? (newJob s r d).id).getD (newJob s r d) := by
  rcases startJob_course s r d with
    ⟨refusal, hrefused, -⟩ | ⟨job, d₁, verdict, d₂, hcheck, -, hmake, hask, hverdict⟩
  · rw [hrefused] at h
    cases h
  · obtain ⟨rfl, rfl⟩ := Prod.mk.inj hmake
    have hd₂ : d₂ = (d.counted.consult s (Risk.assess r.survivorContext)
        r.approved r.mode.isLive .callJob (newJob s r d).id.toString).2 :=
        (congrArg Prod.snd hask).symm
    rcases hverdict with ⟨denial, -, hdenied⟩ | ⟨-, d₃, hd₃, hok⟩
    · rw [hdenied] at h
      cases h
    · rw [hok] at h
      obtain ⟨hj, rfl⟩ := Prod.mk.inj h
      refine ⟨targets_of_checkJob hcheck, ?_, (Except.ok.inj hj).symm⟩
      rw [hd₃, hd₂]
      rfl

theorem accept_eq (s : Surroundings) (r : StartJob) (d : Desk) :
    (d.accept s r).gate.blocked = d.gate.blocked ∧
    (d.accept s r).jobs = d.jobs.insert (newJob s r d) ∧ (d.accept s r).calls = d.calls := by
  unfold accept
  rcases consult_course s (Risk.assess r.survivorContext) r.approved r.mode.isLive .callJob
    (newJob s r d).id.toString d.counted with ⟨-, h⟩ | ⟨_, _, -, -, h⟩
  · rw [h]
    exact ⟨rfl, rfl, rfl⟩
  · rw [h]
    exact ⟨rfl, rfl, rfl⟩

/-! ## One attempt after the other -/

/-- Each attempt goes on three times. -/
def inOrder (now : Clock) (as : List Attempt) : List Wakeup :=
  as.flatMap fun a => List.replicate 3 ⟨a.id, now⟩

/-- One attempt goes on without a break. -/
theorem run_replicate {t : Wakeup} (hfind : job.attempt? t.id = some a) (n : Nat) (w : Dialing) :
    w.run s job answers (List.replicate n t) =
      let next := (advance (s.atWakeup answers t) job a)^[n] (w.desk, w.stage a.id)
      ⟨next.1, Function.update w.stage a.id next.2⟩ := by
  induction n generalizing w with
  | zero =>
    dsimp only [Function.iterate_zero, id_eq]
    rw [Function.update_eq_self]
    rfl
  | succ n ih =>
    have hwake : w.wake s job answers t =
        ⟨(advance (s.atWakeup answers t) job a (w.desk, w.stage a.id)).1,
          Function.update w.stage a.id
            (advance (s.atWakeup answers t) job a (w.desk, w.stage a.id)).2⟩ := by
      unfold Dialing.wake
      rw [hfind]
    change (w.wake s job answers t).run s job answers (List.replicate n t) = _
    rw [ih, hwake]
    dsimp only
    rw [Function.update_self, Function.update_idem, Function.iterate_succ_apply]

/-- After three times it has been dialed. -/
theorem run_three {t : Wakeup} (hfind : job.attempt? t.id = some a) {w : Dialing}
    (hstage : w.stage a.id = .waiting) :
    w.run s job answers (List.replicate 3 t) =
      ⟨dial (s.atWakeup answers t) job w.desk a, Function.update w.stage a.id .settled⟩ := by
  rw [run_replicate hfind, hstage, ← dial_eq_advance]

/-- Where nothing happens meanwhile, an attempt that is dialed has got two answers. -/
theorem dial_atWakeup (hcalm : ∀ n line, s.meanwhile n line = []) (job : Job)
    (a : Attempt) (d : Desk) :
    ∃ script placed, ∀ answers : Answers, answers.script a.id = script →
      answers.placed a.id = placed →
      dial (s.atWakeup answers ⟨a.id, s.now⟩) job d a = dial s job d a := by
  cases hdial : a.dialable? d.gate.blocked with
  | none =>
    refine ⟨none, .ok "", fun answers _ _ => ?_⟩
    unfold dial
    rw [prepare_of_refused hdial, prepare_of_refused hdial]
    rfl
  | some raw =>
    have hask : ∀ answers : Answers,
        answers.script a.id = (d.ask s (Script.scriptRequest (scriptInput job a))).1 →
        d.ask (s.atWakeup answers ⟨a.id, s.now⟩) (Script.scriptRequest (scriptInput job a)) =
          d.ask s (Script.scriptRequest (scriptInput job a)) := by
      intro answers hscript
      unfold ask at hscript ⊢
      unfold Surroundings.atWakeup
      cases hmodel : s.answer with
      | none => rfl
      | some model =>
        rw [hmodel] at hscript
        dsimp only [Option.map_some] at hscript ⊢
        rw [hscript]
    refine ⟨(d.ask s (Script.scriptRequest (scriptInput job a))).1,
      s.place (d.ask s (Script.scriptRequest (scriptInput job a))).2.made.calls job.mode
        (attemptOrder s ⟨job.id, a.id⟩ raw (scriptInput job a)
          (Script.scriptFrom (scriptInput job a)
            (d.ask s (Script.scriptRequest (scriptInput job a))).1)),
      fun answers hscript hplaced => ?_⟩
    unfold dial
    rw [prepare_of_dialable hdial, prepare_of_dialable hdial, hask answers hscript]
    dsimp only
    unfold placeCall
    dsimp only
    rw [hcalm]
    change settle _ _ _ (answers.placed a.id) _ = _
    rw [hplaced]
    rfl

/-- **One attempt after the other** is one of the orders, with some answers. -/
theorem run_inOrder (job : Job) (hcalm : ∀ n line, s.meanwhile n line = []) {as : List Attempt}
    (hn : (as.map (·.id)).Nodup) (hfind : ∀ a ∈ as, job.attempt? a.id = some a) (d : Desk) :
    ∃ answers : Answers, ∀ answers' : Answers,
      (∀ a ∈ as, answers'.script a.id = answers.script a.id ∧
        answers'.placed a.id = answers.placed a.id) →
      ∀ stage : Uuid → Stage, (∀ a ∈ as, stage a.id = .waiting) →
        ∃ stage', (⟨d, stage⟩ : Dialing).run s job answers' (inOrder s.now as) =
          ⟨as.foldl (dial s job) d, stage'⟩ ∧ (∀ a ∈ as, stage' a.id = .settled) ∧
          ∀ id, id ∉ as.map (·.id) → stage' id = stage id := by
  induction as generalizing d with
  | nil =>
    exact ⟨⟨fun _ => none, fun _ => .ok ""⟩, fun _ _ stage _ =>
      ⟨stage, rfl, fun a ha => absurd ha List.not_mem_nil, fun _ _ => rfl⟩⟩
  | cons a as ih =>
    rw [List.map_cons, List.nodup_cons] at hn
    obtain ⟨hfirst, hrest⟩ := List.forall_mem_cons.1 hfind
    obtain ⟨script, placed, hdial⟩ := dial_atWakeup hcalm job a d
    obtain ⟨later, hlater⟩ := ih hn.2 hrest (dial s job d a)
    have hne : ∀ b ∈ as, b.id ≠ a.id := fun b hb hid => hn.1 (hid ▸ List.mem_map_of_mem hb)
    -- the answers of the first attempt are put in front of those of the others
    refine ⟨⟨Function.update later.script a.id script, Function.update later.placed a.id placed⟩,
      fun answers hanswers stage hstage => ?_⟩
    dsimp only at hanswers
    obtain ⟨⟨hscript, hplaced⟩, hothers⟩ := List.forall_mem_cons.1 hanswers
    obtain ⟨hwaiting, hwaitings⟩ := List.forall_mem_cons.1 hstage
    rw [Function.update_self] at hscript hplaced
    have hdialed : (⟨d, stage⟩ : Dialing).run s job answers (List.replicate 3 ⟨a.id, s.now⟩) =
        ⟨dial s job d a, Function.update stage a.id .settled⟩ := by
      rw [run_three (t := ⟨a.id, s.now⟩) hfirst hwaiting, hdial answers hscript hplaced]
    obtain ⟨stage', hrun, hsettled, hkept⟩ := hlater answers
      (fun b hb => by
        obtain ⟨hscript', hplaced'⟩ := hothers b hb
        rw [Function.update_of_ne (hne b hb)] at hscript' hplaced'
        exact ⟨hscript', hplaced'⟩)
      (Function.update stage a.id .settled)
      (fun b hb => by
        rw [Function.update_of_ne (hne b hb)]
        exact hwaitings b hb)
    refine ⟨stage', ?_, List.forall_mem_cons.2 ⟨?_, hsettled⟩, fun id hid => ?_⟩
    · have hsplit : inOrder s.now (a :: as) =
          List.replicate 3 ⟨a.id, s.now⟩ ++ inOrder s.now as := rfl
      unfold Dialing.run at hrun hdialed ⊢
      rw [hsplit, List.foldl_append, hdialed, hrun]
      rfl
    · rw [hkept a.id hn.1, Function.update_self]
    · rw [List.map_cons, List.mem_cons, not_or] at hid
      rw [hkept id hid.2, Function.update_of_ne hid.1]

/-! ## All targets of a job -/

/-- What target number `i` of a request comes to. -/
def targetOutcome (s : Surroundings) (r : StartJob) (d : Desk) (answers : Answers)
    (i : Nat) (t : Target) : Attempt :=
  let id := s.newAttempt d.made.jobs i
  t.outcome (s.now d.readings) d.gate.blocked (s.newJob d.made.jobs) id r.spoken
    (r.callbackNumber.bind Phone.canonical?) (s.answer.bind fun _ => answers.script id)
    (answers.placed id)

/-- The call to target number `i` of a request. -/
def targetCall? (s : Surroundings) (r : StartJob) (d : Desk) (answers : Answers)
    (i : Nat) (t : Target) : Option (Mode × CallPurpose × CallOrder) :=
  let id := s.newAttempt d.made.jobs i
  t.call? s d.gate.blocked r.mode (s.newJob d.made.jobs) id r.spoken
    (r.callbackNumber.bind Phone.canonical?) (s.answer.bind fun _ => answers.script id)

/-- The SIDs that the calls of a request get. -/
def targetSids (s : Surroundings) (r : StartJob) (d : Desk) (answers : Answers) : List String :=
  (r.targets.mapIdx (targetOutcome s r d answers)).filterMap (·.sid)

theorem newJob_outcomes (s : Surroundings) (r : StartJob) (d : Desk) (answers : Answers) :
    (newJob s r d).attempts.map (outcomeOf s (newJob s r d) answers d.gate.blocked) =
      r.targets.mapIdx (targetOutcome s r d answers) := map_mapIdx _ _ r.targets

theorem newJob_calls (s : Surroundings) (r : StartJob) (d : Desk) (answers : Answers) :
    (newJob s r d).attempts.filterMap (callOf s (newJob s r d) answers d.gate.blocked) =
      (r.targets.mapIdx (targetCall? s r d answers)).reduceOption := by
  have hcalls : (newJob s r d).attempts.map (callOf s (newJob s r d) answers d.gate.blocked) =
      r.targets.mapIdx (targetCall? s r d answers) := map_mapIdx _ _ r.targets
  unfold List.reduceOption
  rw [← hcalls, List.filterMap_map]
  rfl

/-- The attempts of a new job cannot be taken for one another, nor for others. -/
theorem separate_newJob (hd : d.Reached) (hfresh : d.jobs.get? (s.newJob d.made.jobs) = none)
    (hids : ((List.range r.targets.length).map (s.newAttempt d.made.jobs)).Nodup)
    (hdistinct : (targetSids s r d answers).Nodup)
    (hunused : ∀ sid ∈ targetSids s r d answers, d.jobs.sids.owner? sid = none) :
    Separate s (newJob s r d) answers (d.accept s r) := by
  obtain ⟨hblocked, hjobs, -⟩ := accept_eq s r d
  have hsids : targetSids s r d answers = (newJob s r d).attempts.filterMap
      fun a => (outcomeOf s (newJob s r d) answers d.gate.blocked a).sid := by
    unfold targetSids
    rw [← newJob_outcomes, List.filterMap_map]
    rfl
  rw [hsids] at hdistinct hunused
  refine ⟨(Job.create_ids ..).symm ▸ hids, fun a => Job.create_sid, ?_, ?_, ?_⟩
  · rintro sid ref howner heq
    rw [hjobs] at howner
    have hthere := hd.jobs.owned howner
    rw [heq] at hthere
    change (d.jobs.get? (s.newJob d.made.jobs)).isSome = true at hthere
    rw [hfresh] at hthere
    cases hthere
  · intro a ha b hb sid hsid hsid'
    rw [hblocked] at hsid hsid'
    exact congrArg Attempt.id (eq_of_nodup_filterMap hdistinct ha hb hsid hsid')
  · intro a ha sid hsid
    rw [hblocked] at hsid
    rw [hjobs]
    exact hunused sid (List.mem_filterMap.2 ⟨a, ha, hsid⟩)

/-! ## The result -/

/-- The job that is returned. -/
def returned (s : Surroundings) (r : StartJob) (d : Desk) (w : Dialing) : Job :=
  (w.desk.jobs.get? (newJob s r d).id).getD (newJob s r d)

/-- The attempts of an accepted job, once they have gone on in some order. -/
def sideBySide (s : Surroundings) (r : StartJob) (d : Desk) (answers : Answers)
    (wakeups : List Wakeup) : Dialing :=
  Dialing.run s (newJob s r d) answers wakeups { desk := d.accept s r }

/-- What the answers about a request leave, whatever the order was: the desk `d'`, and a job. -/
structure DialedApart (s : Surroundings) (r : StartJob) (d : Desk) (answers : Answers) (d' : Desk)
    (j : Job) : Prop where
  /-- The job is the one that is registered. -/
  registered : d'.jobs.get? j.id = some j
  /-- It has one attempt per target, in order, and each is what comes of its own target. -/
  attempts : j.attempts.map Attempt.untimed =
    r.targets.mapIdx fun i t => (targetOutcome s r d answers i t).untimed
  /-- Its status is what the attempts amount to. -/
  status : j.status = .rule (j.attempts.map (·.status))
  /-- What was asked for is as it was. -/
  asked : j = { newJob s r d with
    status := j.status, updatedAt := j.updatedAt, attempts := j.attempts }
  /-- The calls that were placed are one for each target that can be dialed. -/
  calls : d'.calls.Perm (d.calls ++ (r.targets.mapIdx (targetCall? s r d answers)).reduceOption)
  /-- The SID of a call finds its attempt. -/
  found : ∀ i t sid, r.targets[i]? = some t → (targetOutcome s r d answers i t).sid = some sid →
    ∃ a, d'.jobs.findSid? sid = some (j, a) ∧ a.id = s.newAttempt d.made.jobs i
  /-- All other jobs are as they were. -/
  others : ∀ id, id ≠ j.id → d'.jobs.get? id = d.jobs.get? id

/-- Once all attempts have gone all the way. -/
theorem dialedApart_of_finished (h : d.startJob s r = (.ok j, d')) (hd : d.Reached)
    (hfresh : d.jobs.get? (s.newJob d.made.jobs) = none)
    (hids : ((List.range r.targets.length).map (s.newAttempt d.made.jobs)).Nodup)
    (hdistinct : (targetSids s r d answers).Nodup)
    (hunused : ∀ sid ∈ targetSids s r d answers, d.jobs.sids.owner? sid = none)
    {wakeups : List Wakeup}
    (hfinished : (sideBySide s r d answers wakeups).Finished (newJob s r d)) :
    DialedApart s r d answers (sideBySide s r d answers wakeups).desk
      (returned s r d (sideBySide s r d answers wakeups)) := by
  obtain ⟨hne, -, -⟩ := startJob_eq_of_accepted h
  obtain ⟨hblocked, hjobs, hcalls⟩ := accept_eq s r d
  have hsep := separate_newJob hd hfresh hids hdistinct hunused
  have hbegin : Upto s (newJob s r d) answers (d.accept s r) { desk := d.accept s r } := by
    refine Dialing.upto_begin ?_ (Job.aggregated_create _ _ _ _ _ hne) (hjobs ▸ hd.jobs.linked)
      fun a => Job.create_sid
    rw [hjobs, JobRegister.get?_insert, if_pos rfl]
  have hend := hbegin.run hsep wakeups
  change Upto s (newJob s r d) answers (d.accept s r) (sideBySide s r d answers wakeups) at hend
  generalize sideBySide s r d answers wakeups = w at hfinished hend ⊢
  obtain ⟨j', hj', huntimed⟩ := hend.registered
  have hreturned : returned s r d w = j' := by
    unfold returned
    rw [hj']
    rfl
  have hid : j'.id = (newJob s r d).id := JobRegister.get?_id hj'
  have hsoFar : ∀ a ∈ (newJob s r d).attempts,
      Dialing.soFar s (newJob s r d) answers (d.accept s r).gate.blocked w a =
        outcomeOf s (newJob s r d) answers d.gate.blocked a := fun a ha => by
    rw [hfinished.soFar_eq ha, hblocked]
  have hattempts : ((newJob s r d).withAttempts
      (Dialing.soFar s (newJob s r d) answers (d.accept s r).gate.blocked w)) = { newJob s r d with
        attempts := r.targets.mapIdx (targetOutcome s r d answers)
        status := .rule ((r.targets.mapIdx (targetOutcome s r d answers)).map (·.status)) } := by
    unfold Job.withAttempts
    rw [List.map_congr_left hsoFar, newJob_outcomes, JobStatus.ofAttempts_eq_rule]
  rw [hattempts] at huntimed
  have hshown : j'.attempts.map Attempt.untimed =
      (r.targets.mapIdx (targetOutcome s r d answers)).map Attempt.untimed :=
    congrArg Job.attempts huntimed
  have hstatuses : ∀ as : List Attempt, (as.map Attempt.untimed).map (·.status) =
      as.map (·.status) := fun as => by
      rw [List.map_map]
      rfl
  rw [hreturned]
  refine ⟨hid ▸ hj', hshown.trans (map_mapIdx ..), ?_, ?_, ?_, ?_, ?_⟩
  · rw [← hstatuses, hshown, hstatuses]
    exact congrArg Job.status huntimed
  · have hsame := Job.eq_of_untimed huntimed
    exact hsame
  · have hplaced := hend.calls
    rw [hcalls, hfinished.placed_eq, hblocked, newJob_calls] at hplaced
    exact hplaced
  · intro i t sid ht hsid
    -- the attempt of the target is the owner of the SID
    have ha : Attempt.queued (s.now d.readings) (s.newJob d.made.jobs)
        (s.newAttempt d.made.jobs i) t ∈ (newJob s r d).attempts := by
      obtain ⟨hi, rfl⟩ := List.getElem?_eq_some_iff.1 ht
      exact List.mem_mapIdx.2 ⟨i, hi, rfl⟩
    have howner := (hend.owners sid _).2 (Or.inr ⟨_, ha, rfl, by
      rw [hsoFar _ ha]
      exact hsid⟩)
    obtain ⟨j₁, a, hfound⟩ := hend.attempt? ha
    obtain ⟨hj₁, ha'⟩ := JobRegister.attempt?_eq_some_iff.1 hfound
    obtain rfl : j' = j₁ := Option.some.inj (hj'.symm.trans hj₁)
    exact ⟨a, JobRegister.findSid?_eq_some_iff.2 ⟨_, howner, hfound⟩, Job.attempt?_id ha'⟩
  · intro id hother
    have hne' : (newJob s r d).id ≠ id := fun heq => hother (heq ▸ hid).symm
    rw [hend.others id (Ne.symm hne'), hjobs, JobRegister.get?_insert, if_neg hne']

/-- **The attempts of a job are independent.** Whatever is answered about the targets of an accepted
job, and in whatever order, the job has one attempt per target, which is what the target comes to by
its own answers: it fails for want of a number, or because its number is blocked, or because its
call cannot be placed, or it is on its way and known by its SID. The calls are one for each target
that can be dialed, the job is what its attempts amount to, and it is registered as it is returned.
To start a job is to go through one of these orders. -/
theorem attempts_independent (h : d.startJob s r = (.ok j, d')) (hd : d.Reached)
    (hfresh : d.jobs.get? (s.newJob d.made.jobs) = none)
    (hids : ((List.range r.targets.length).map (s.newAttempt d.made.jobs)).Nodup) :
    ((∀ n line, s.meanwhile n line = []) → ∃ answers wakeups,
      let w := sideBySide s r d answers wakeups
      w.Finished (newJob s r d) ∧ d.startJob s r = (.ok (returned s r d w), w.desk)) ∧
    ∀ (answers : Answers) (wakeups : List Wakeup),
      let w := sideBySide s r d answers wakeups
      w.Finished (newJob s r d) → (targetSids s r d answers).Nodup →
      (∀ sid ∈ targetSids s r d answers, d.jobs.sids.owner? sid = none) →
      DialedApart s r d answers w.desk (returned s r d w) := by
  refine ⟨fun hcalm => ?_, fun answers wakeups hfinished hdistinct hunused =>
    dialedApart_of_finished h hd hfresh hids hdistinct hunused hfinished⟩
  obtain ⟨-, hd', hj⟩ := startJob_eq_of_accepted h
  have hn : ((newJob s r d).attempts.map (·.id)).Nodup := (Job.create_ids ..).symm ▸ hids
  obtain ⟨answers, hanswers⟩ := run_inOrder (newJob s r d) hcalm hn
    (fun a ha => (find?_key_eq_some_iff hn).2 ⟨ha, rfl⟩) (d.accept s r)
  obtain ⟨stage, hrun, hsettled, -⟩ := hanswers answers (fun _ _ => ⟨rfl, rfl⟩) (fun _ => .waiting)
    fun _ _ => rfl
  change sideBySide s r d answers (inOrder s.now (newJob s r d).attempts) = _ at hrun
  refine ⟨answers, inOrder s.now (newJob s r d).attempts, ?_⟩
  dsimp only
  rw [hrun, ← hd']
  refine ⟨hsettled, ?_⟩
  rw [h, hj]
  rfl

/-- A request for four shelters. The first has no number. -/
def fourShelters : StartJob where
  mode := .live
  survivorContext := "Needs a bed tonight."
  callbackNumber := none
  anonymous := false
  approved := false
  targets := [⟨1, "Elm House", none, none, none⟩, ⟨2, "Ash House", some "555-010-0102", none, none⟩,
    ⟨3, "Oak House", some "555-010-0103", none, none⟩,
    ⟨4, "Harbor House", some "555-010-0104", none, none⟩]

/-- The third shelter does not pick up, the others do. -/
def thirdUnreachable : Answers where
  script _ := none
  placed id := if id = .ofNat 2 then .error (.requestFailed "stub" "no answer") else .ok "CA7"

/-- The fourth shelter is called first and is the last to pick up. -/
def fourthWaits : List Wakeup :=
  [3, 3, 0, 2, 2, 1, 2, 3].map fun n => ⟨.ofNat n, .midnight n⟩

/-- The number of the second shelter is blocked. Each of the four attempts comes to another end. -/
theorem attempts_independent_fourthWaits :
    ∃ j d', (ofConfig { blockedNumbers := ["555-010-0102"] }).startJob .calm fourShelters =
      (.ok j, d') ∧
      let d := ofConfig { blockedNumbers := ["555-010-0102"] }
      let w := sideBySide .calm fourShelters d thirdUnreachable fourthWaits
      w.Finished (newJob .calm fourShelters d) ∧
      (returned .calm fourShelters d w).attempts.map (fun a => (a.status, a.error, a.sid)) =
        [(.failed, some noNumber, none), (.failed, some blockedNumber, none),
          (.failed, some (TelephonyError.requestFailed "stub" "no answer").message, none),
          (.initiated, none, some "CA7")] ∧
      w.desk.calls.length = 2 := by
  have hstart : ∃ j d', (ofConfig { blockedNumbers := ["555-010-0102"] }).startJob .calm
      fourShelters = (.ok j, d') := ⟨_, _, rfl⟩
  obtain ⟨j, d', hstart⟩ := hstart
  have hreachable : Reachable { blockedNumbers := ["555-010-0102"] }
      (ofConfig { blockedNumbers := ["555-010-0102"] }) := ⟨[], .calm, .refl⟩
  have hfinished : (sideBySide .calm fourShelters (ofConfig { blockedNumbers := ["555-010-0102"] })
      thirdUnreachable fourthWaits).Finished
        (newJob .calm fourShelters (ofConfig { blockedNumbers := ["555-010-0102"] })) :=
    List.forall_mem_cons.2 ⟨rfl, List.forall_mem_cons.2 ⟨rfl, List.forall_mem_cons.2 ⟨rfl,
      List.forall_mem_cons.2 ⟨rfl, fun a ha => absurd ha List.not_mem_nil⟩⟩⟩⟩
  have hapart := (attempts_independent hstart hreachable.reached rfl (by decide)).2 thirdUnreachable
    fourthWaits hfinished (by decide +kernel) fun sid _ => rfl
  refine ⟨j, d', hstart, hfinished, ?_, ?_⟩
  · have hattempts := congrArg (List.map fun a : Attempt => (a.status, a.error, a.sid))
      hapart.attempts
    rw [List.map_map] at hattempts
    exact hattempts.trans rfl
  · rw [hapart.calls.length_eq]
    rfl

end Desk

end ShelterLine

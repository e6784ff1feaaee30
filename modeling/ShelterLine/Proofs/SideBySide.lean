import ShelterLine.Proofs.Aggregate
import ShelterLine.Proofs.Newcomers
import ShelterLine.Proofs.OwnRecord
import ShelterLine.Proofs.Placed

/-!
# Attempts are dialed side by side

An attempt waits twice while it is dialed, for the model to write its script and for the provider
to place its call. Meanwhile the other attempts of the job go on, in whatever order their answers
come. What an attempt comes to depends on its own target and its own answers alone; `outcome` says
what that is. However they alternate, an attempt that has gone all the way has come to its
outcome, the calls that were placed are those of the attempts that can be dialed, and nothing else
has changed but the times.
-/

namespace ShelterLine

/-! ## What an attempt comes to by itself -/

namespace Attempt

/-- The number that an attempt dials. -/
def dialable? (blocked : BlockList) (a : Attempt) : Option String :=
  a.toPhone.filter fun raw => !blocked.blocks raw

/-- Why an attempt is not dialed. -/
def refusal (a : Attempt) : String := if a.toPhone.isNone then Desk.noNumber else Desk.blockedNumber

/-- What an attempt comes to, given the script that is written and what comes of the call, if it is
dialed. -/
def outcome (blocked : BlockList) (script : Script.Sourced String)
    (placed : Except TelephonyError String) (a : Attempt) : Attempt :=
  match a.toPhone with
  | none => { a with status := .failed, error := some Desk.noNumber }
  | some raw =>
    if blocked.blocks raw then { a with status := .failed, error := some Desk.blockedNumber }
    else match placed with
    | .ok sid => { a with
        status := .initiated
        script := some script.value
        scriptSource := some script.source
        sid := some sid }
    | .error e => { a with
        status := .failed
        script := some script.value
        scriptSource := some script.source
        error := some e.message }

/-- What is noted about an attempt that comes to its outcome. -/
def outcomePatch (script : Script.Sourced String) : Except TelephonyError String → Patch
  | .ok sid => {
      status := some .initiated
      script := some script.value
      scriptSource := some script.source
      sid := some sid }
  | .error e => { Patch.failed e.message with
      script := some script.value
      scriptSource := some script.source }

variable {blocked : BlockList} {a : Attempt} (script : Script.Sourced String)
  (placed : Except TelephonyError String)

theorem dialable?_eq_none_iff : a.dialable? blocked = none ↔
    a.toPhone = none ∨ ∃ raw, a.toPhone = some raw ∧ blocked.blocks raw = true := by
  unfold dialable?
  cases a.toPhone <;> simp [Option.filter_eq_none_iff]

theorem dialable?_eq_some_iff {raw : String} :
    a.dialable? blocked = some raw ↔ a.toPhone = some raw ∧ blocked.blocks raw = false := by
  simp [dialable?, Option.filter_eq_some_iff]

@[simp] theorem outcome_id : (a.outcome blocked script placed).id = a.id := by
  unfold outcome
  split
  · rfl
  · split
    · rfl
    · split <;> rfl

/-- An attempt that cannot be dialed has failed, for the one reason or the other. -/
theorem outcome_of_refused (h : a.dialable? blocked = none) :
    (a.apply default (.failed a.refusal)).untimed = (a.outcome blocked script placed).untimed := by
  rcases dialable?_eq_none_iff.1 h with hphone | ⟨raw, hphone, hblocked⟩
  · simp [outcome, refusal, hphone, apply, Patch.failed, untimed]
  · simp [outcome, refusal, hphone, hblocked, apply, Patch.failed, untimed]

theorem outcome_of_dialed (h : (a.dialable? blocked).isSome) :
    (a.apply default (outcomePatch script placed)).untimed =
      (a.outcome blocked script placed).untimed := by
  obtain ⟨raw, hraw⟩ := Option.isSome_iff_exists.1 h
  obtain ⟨hphone, hfree⟩ := dialable?_eq_some_iff.1 hraw
  cases placed <;> simp [outcome, hphone, hfree, outcomePatch, apply, Patch.failed, untimed]

end Attempt

/-- A patch and then a SID are one patch, at the later time. -/
theorem Job.patch_sid (now later : Moment) (id : Uuid) (p : Attempt.Patch)
    (sid : String) (j : Job) :
    (j.patch now id p).patch later id { sid := some sid } =
      j.patch later id { p with sid := some sid } := by
  have hattempts : modifyAttempt id (Attempt.apply later.attempt { sid := some sid })
      (modifyAttempt id (Attempt.apply now.attempt p) j.attempts) =
        modifyAttempt id (Attempt.apply later.attempt { p with sid := some sid }) j.attempts := by
    rw [modifyAttempt_modifyAttempt (Attempt.apply_id now.attempt p)]
    rfl
  simp only [patch, hattempts]

/-- An attempt that has just been patched gets a free SID. -/
theorem JobRegister.bindSid_modify_patch {r : JobRegister} {now later : Moment} {ref : AttemptRef}
    {p : Attempt.Patch} {sid : String} {j : Job} {a : Attempt}
    (hfound : r.attempt? ref = some (j, a)) (hfree : r.sids.owner? sid = none) :
    (r.modify ref.jobId (Job.patch now ref.attemptId p)).bindSid later ref sid =
      some (j.patch later ref.attemptId { p with sid := some sid },
        { r.modify ref.jobId (Job.patch later ref.attemptId { p with sid := some sid }) with
          sids := r.sids.bind sid ref }) := by
  have hthere : (r.modify ref.jobId (Job.patch now ref.attemptId p)).attempt? ref =
      some (j.patch now ref.attemptId p, a.apply now.attempt p) := by
    rw [attempt?_modify (Job.touches_patch ..), hfound, Option.map_some,
      if_pos (congrArg AttemptRef.jobId (attempt?_ref hfound)), if_pos rfl]
  have hreleased : (r.modify ref.jobId (Job.patch now ref.attemptId p)).released ref sid =
      r.modify ref.jobId (Job.patch now ref.attemptId p) := by
    unfold released
    rw [modify_sids, hfree]
  have hboth := modify_modify (f := Job.patch now ref.attemptId p) (Job.touches_patch ..).id_eq
    (Job.patch later ref.attemptId { sid := some sid }) r ref.jobId
  simp only [Job.patch_sid] at hboth
  rw [bindSid_eq, hthere, Option.bind_some, hreleased, patch_eq]
  change ((r.modify ref.jobId (Job.patch now ref.attemptId p)).attempt? ref).map (fun found =>
    (found.1.patch later ref.attemptId { sid := some sid },
      { (r.modify ref.jobId (Job.patch now ref.attemptId p)).modify ref.jobId
        (Job.patch later ref.attemptId { sid := some sid }) with sids := r.sids.bind sid ref })) = _
  rw [hthere, Option.map_some, hboth, Job.patch_sid]

namespace Desk

variable {s : Surroundings} {job : Job} {a : Attempt} {d : Desk}

/-- What the script for a call is written from. -/
def scriptInput (job : Job) (a : Attempt) : Script.Input :=
  ⟨a.shelterName, spokenContext job, job.request.callbackNumber⟩

/-- The order for the call of an attempt. -/
def attemptOrder (s : Surroundings) (ref : AttemptRef) (raw : String) (input : Script.Input)
    (script : Script.Sourced String) : CallOrder where
  number := (Phone.canonical? raw).getD raw
  document := (Markup.intake {
    shelterName := input.shelterName
    survivorContext := input.survivorContext
    callbackNumber := input.callbackNumber
    script := some script.value
    gatherUrl := gatherUrl s ref }).toString
  statusUrl := s.callbackUrl statusPath
  record := (s.callbackUrl recordingPath).isSome
  recordingUrl := s.callbackUrl recordingPath

theorem prepare_of_refused (h : a.dialable? d.gate.blocked = none) :
    d.prepare s job a = (.refused a.refusal, d) := by
  unfold prepare Attempt.refusal
  rcases Attempt.dialable?_eq_none_iff.1 h with hphone | ⟨raw, hphone, hblocked⟩
  · rw [hphone]
    rfl
  · rw [hphone]
    dsimp only
    rw [if_pos hblocked]
    rfl

theorem prepare_of_dialable {raw : String} (h : a.dialable? d.gate.blocked = some raw) :
    d.prepare s job a =
      let asked := d.ask s (Script.scriptRequest (scriptInput job a))
      let script := Script.scriptFrom (scriptInput job a) asked.1
      (.ready script (attemptOrder s ⟨job.id, a.id⟩ raw (scriptInput job a) script), asked.2) := by
  obtain ⟨hphone, hfree⟩ := Attempt.dialable?_eq_some_iff.1 h
  unfold prepare
  rw [hphone]
  dsimp only
  rw [hfree]
  rfl

/-- What the register is once a call has been settled. -/
def settledJobs (r : JobRegister) (now : Moment) (ref : AttemptRef)
    (script : Script.Sourced String) (placed : Except TelephonyError String) : JobRegister :=
  { r.modify ref.jobId (Job.patch now ref.attemptId (Attempt.outcomePatch script placed)) with
    sids := match placed with
      | .ok sid => r.sids.bind sid ref
      | .error _ => r.sids }

/-- A call is settled by one patch, and by one binding if it was placed; its SID has to be free.
What is left shows the last two readings of the clock. -/
theorem settle_of_free {ref : AttemptRef} {j : Job} (script : Script.Sourced String)
    {placed : Except TelephonyError String} (hfound : d.jobs.attempt? ref = some (j, a))
    (hfree : ∀ sid, placed = .ok sid → d.jobs.sids.owner? sid = none) :
    ∃ n, d.settle s ref script placed =
      { d with
        jobs := settledJobs d.jobs (s.now.moment n) ref script placed
        readings := n + 2 }.jobChanged
          (j.patch (s.now.moment n) ref.attemptId (Attempt.outcomePatch script placed)) := by
  cases placed with
  | error e =>
    refine ⟨d.readings, ?_⟩
    unfold settle
    dsimp only
    rw [patchAttempt_of_found hfound]
    rfl
  | ok sid =>
    refine ⟨d.readings + 2, ?_⟩
    have hmarked := JobRegister.patch_eq d.jobs (s.now.moment d.readings) ref {
      status := some .initiated, script := some script.value, scriptSource := some script.source }
    rw [hfound, Option.map_some] at hmarked
    unfold settle
    dsimp only
    rw [hmarked]
    dsimp only
    rw [JobRegister.bindSid_modify_patch hfound (hfree sid rfl)]
    rfl

/-! ## Waiting and going on -/

/-- How far an attempt has come. -/
inductive Stage where
  | waiting
  | scripted (script : Script.Sourced String) (order : CallOrder)
  | dialed (script : Script.Sourced String) (placed : Except TelephonyError String)
  | settled

/-- Dials an attempt as far as to where it has to wait again. -/
def advance (s : Surroundings) (job : Job) (a : Attempt) : Desk × Stage → Desk × Stage
  | (d, .waiting) => match d.prepare s job a with
    | (.refused reason, d) => ((d.patchAttempt s ⟨job.id, a.id⟩ (.failed reason)).2, .settled)
    | (.ready script order, d) => (d, .scripted script order)
  | (d, .scripted script order) =>
    let (placed, d) := d.placeCall s job.mode (.attempt ⟨job.id, a.id⟩) order
    (d, .dialed script placed)
  | (d, .dialed script placed) => (d.settle s ⟨job.id, a.id⟩ script placed, .settled)
  | (d, .settled) => (d, .settled)

/-- To dial an attempt is to go on without a break. -/
theorem dial_eq_advance (s : Surroundings) (job : Job) (a : Attempt) (d : Desk) :
    (dial s job d a, .settled) = (advance s job a)^[3] (d, .waiting) := by
  unfold dial
  simp only [Function.iterate_succ_apply', Function.iterate_zero, id_eq]
  conv_rhs => arg 4; arg 4; rw [advance]
  rcases d.prepare s job a with ⟨_ | _, d⟩ <;> rfl

end Desk

/-- What is answered about each attempt, by the model about its script and by the provider about its
call. -/
structure Answers where
  script : Uuid → Option String
  placed : Uuid → Except TelephonyError String

/-- What an attempt waits for has come. It goes on by a clock of its own. -/
structure Wakeup where
  id : Uuid
  now : Clock

/-- Surroundings in which an attempt goes on. It gets its own answers, and nobody else
does anything. -/
def Surroundings.atWakeup (s : Surroundings) (answers : Answers) (t : Wakeup) : Surroundings :=
  { s with
    now := t.now
    place := fun _ _ _ => answers.placed t.id
    meanwhile := fun _ _ => []
    answer := s.answer.map fun _ _ _ => answers.script t.id }

/-- A desk at which the attempts of a job are dialed side by side. -/
structure Dialing where
  desk : Desk
  stage : Uuid → Desk.Stage := fun _ => .waiting

namespace Dialing

/-- An attempt of the job goes on; the others wait. -/
def wake (s : Surroundings) (job : Job) (answers : Answers) (w : Dialing) (t : Wakeup) : Dialing :=
  match job.attempt? t.id with
  | none => w
  | some a =>
    let next := Desk.advance (s.atWakeup answers t) job a (w.desk, w.stage a.id)
    ⟨next.1, Function.update w.stage a.id next.2⟩

/-- Attempts go on in some order. -/
def run (s : Surroundings) (job : Job) (answers : Answers) (wakeups : List Wakeup) (w : Dialing) :
    Dialing :=
  wakeups.foldl (wake s job answers) w

/-- Every attempt has gone all the way. -/
def Finished (job : Job) (w : Dialing) : Prop := ∀ a ∈ job.attempts, w.stage a.id = .settled

variable {s : Surroundings} {job : Job} {answers : Answers} {blocked : BlockList}
    {a b : Attempt} {w : Dialing}

/-! ## Outcomes and calls of a job's attempts -/

variable (s job answers blocked) in
/-- The script that the answers give for an attempt. -/
def scriptOf (a : Attempt) : Script.Sourced String :=
  Script.scriptFrom (Desk.scriptInput job a) (s.answer.bind fun _ => answers.script a.id)

variable (s job answers blocked) in
/-- What an attempt of the job comes to. -/
def outcomeOf (a : Attempt) : Attempt :=
  a.outcome blocked (scriptOf s job answers a) (answers.placed a.id)

variable (s job answers blocked) in
/-- The call of an attempt of the job, if it can be dialed. -/
def callOf (a : Attempt) : Option (Mode × CallPurpose × CallOrder) :=
  (a.dialable? blocked).map fun raw => (job.mode, .attempt ⟨job.id, a.id⟩,
    Desk.attemptOrder s ⟨job.id, a.id⟩ raw (Desk.scriptInput job a) (scriptOf s job answers a))

/-- What an attempt shows. -/
def shown (outcome a : Attempt) : Desk.Stage → Attempt
  | .settled => outcome
  | .waiting | .scripted .. | .dialed .. => a

/-- The calls that have been placed for an attempt. -/
def placed (call : Option (Mode × CallPurpose × CallOrder)) :
    Desk.Stage → List (Mode × CallPurpose × CallOrder)
  | .dialed .. | .settled => call.toList
  | .waiting | .scripted .. => []

variable (s job answers blocked) in
/-- An attempt has come as far as its own answers took it. -/
def Fits (a : Attempt) : Desk.Stage → Prop
  | .waiting | .settled => True
  | .scripted script order => script = scriptOf s job answers a ∧
      callOf s job answers blocked a = some (job.mode, .attempt ⟨job.id, a.id⟩, order)
  | .dialed script placed => script = scriptOf s job answers a ∧ placed = answers.placed a.id ∧
      (a.dialable? blocked).isSome

end Dialing

/-- A job whose attempts are other ones now. -/
def Job.withAttempts (f : Attempt → Attempt) (j : Job) : Job :=
  { j with attempts := j.attempts.map f, status := .ofAttempts ((j.attempts.map f).map (·.status)) }

/-- A patch of one of different attempts, apart from times. -/
theorem Job.patch_withAttempts {j : Job} (hn : (j.attempts.map (·.id)).Nodup)
    {f g : Attempt → Attempt} (hid : ∀ a ∈ j.attempts, (f a).id = a.id)
    {id : Uuid} {p : Attempt.Patch}
    (hpatched : ∀ a ∈ j.attempts, a.id = id → ((f a).apply default p).untimed = (g a).untimed)
    (hothers : ∀ a ∈ j.attempts, a.id ≠ id → (f a).untimed = (g a).untimed) :
    (j.withAttempts f).untimed.patch default id p = (j.withAttempts g).untimed := by
  have hids : (((j.attempts.map f).map Attempt.untimed).map (·.id)).Nodup := by
    rw [List.map_map, List.map_map]
    rwa [List.map_congr_left (g := (·.id)) hid]
  have hattempts : modifyAttempt id (Attempt.apply (default : Moment).attempt p)
      ((j.attempts.map f).map Attempt.untimed) = (j.attempts.map g).map Attempt.untimed := by
    rw [modifyAttempt_eq_map hids, List.map_map, List.map_map, List.map_map]
    refine List.map_congr_left fun a ha => ?_
    dsimp only [Function.comp_apply]
    rw [Attempt.untimed_id, hid a ha]
    split
    · rename_i h
      exact hpatched a ha h
    · rename_i h
      exact hothers a ha h
  have hstatuses : ∀ as : List Attempt, (as.map Attempt.untimed).map (·.status) =
      as.map (·.status) := fun as => by rw [List.map_map]; rfl
  unfold Job.patch Job.untimed Job.withAttempts
  dsimp only
  rw [hattempts, hstatuses]
  rfl

/-- One more thing done for one of different records. -/
theorem perm_flatMap_of_one {α β : Type} {f g : α → List β} {x : α} {own : List β} {xs : List α}
    (hn : xs.Nodup) (hx : x ∈ xs) (hone : g x = f x ++ own)
    (hothers : ∀ y ∈ xs, y ≠ x → g y = f y) :
    (xs.flatMap g).Perm (xs.flatMap f ++ own) := by
  obtain ⟨before, after, rfl⟩ := List.append_of_mem hx
  have hne : ∀ y ∈ before ++ after, y ≠ x := by
    rintro y hy rfl
    rw [List.nodup_middle, List.nodup_cons] at hn
    exact hn.1 hy
  have hbefore : before.flatMap g = before.flatMap f := by
    unfold List.flatMap
    rw [List.map_congr_left fun y hy => hothers y (List.mem_append_left _ hy)
      (hne y (List.mem_append_left _ hy))]
  have hafter : after.flatMap g = after.flatMap f := by
    unfold List.flatMap
    rw [List.map_congr_left fun y hy => hothers y
      (List.mem_append_right _ (List.mem_cons_of_mem _ hy)) (hne y (List.mem_append_right _ hy))]
  rw [List.flatMap_append, List.flatMap_cons, hbefore, hafter, hone, List.flatMap_append,
    List.flatMap_cons, List.append_assoc, List.append_assoc, List.append_assoc]
  exact ((List.perm_append_comm).append_left _).append_left _

namespace Dialing

variable {s : Surroundings} {job : Job} {answers : Answers} {blocked : BlockList}
    {a b : Attempt} {w : Dialing}

/-! ## What holds all along -/

variable (s job answers) in
/-- A job whose attempts cannot be taken for one another, by identifier or by SID, nor
for others. -/
structure Separate (d₀ : Desk) : Prop where
  ids : (job.attempts.map (·.id)).Nodup
  unbound : ∀ a ∈ job.attempts, a.sid = none
  fresh : ∀ sid ref, d₀.jobs.sids.owner? sid = some ref → ref.jobId ≠ job.id
  distinct : ∀ a ∈ job.attempts, ∀ b ∈ job.attempts, ∀ sid,
    (outcomeOf s job answers d₀.gate.blocked a).sid = some sid →
    (outcomeOf s job answers d₀.gate.blocked b).sid = some sid → a.id = b.id
  unused : ∀ a ∈ job.attempts, ∀ sid, (outcomeOf s job answers d₀.gate.blocked a).sid = some sid →
    d₀.jobs.sids.owner? sid = none

variable (s job answers) in
/-- What an attempt has come to so far. -/
def soFar (blocked : BlockList) (w : Dialing) (a : Attempt) : Attempt :=
  shown (outcomeOf s job answers blocked a) a (w.stage a.id)

variable (s job answers) in
/-- The desk `d₀` has changed by what the attempts have come to so far, and by nothing else. -/
structure Upto (d₀ : Desk) (w : Dialing) : Prop where
  gate : w.desk.gate = d₀.gate
  fits : ∀ a ∈ job.attempts, Fits s job answers d₀.gate.blocked a (w.stage a.id)
  registered : ∃ j, w.desk.jobs.get? job.id = some j ∧
    j.untimed = (job.withAttempts (soFar s job answers d₀.gate.blocked w)).untimed
  others : ∀ id, id ≠ job.id → w.desk.jobs.get? id = d₀.jobs.get? id
  calls : w.desk.calls.Perm (d₀.calls ++ job.attempts.flatMap fun a =>
    placed (callOf s job answers d₀.gate.blocked a) (w.stage a.id))
  linked : w.desk.jobs.sids.Linked
  owners : ∀ sid ref, w.desk.jobs.sids.owner? sid = some ref ↔ d₀.jobs.sids.owner? sid = some ref ∨
    ∃ a ∈ job.attempts, ref = ⟨job.id, a.id⟩ ∧
      (soFar s job answers d₀.gate.blocked w a).sid = some sid

variable {d₀ d' : Desk} {stage : Desk.Stage}

theorem soFar_id (w : Dialing) (a : Attempt) : (soFar s job answers blocked w a).id = a.id := by
  unfold soFar shown outcomeOf
  split
  · exact Attempt.outcome_id ..
  · rfl
  · rfl
  · rfl

/-- An attempt that has a SID has come to its outcome. -/
theorem Separate.outcome_of_soFar (h : Separate s job answers d₀) (ha : a ∈ job.attempts)
    {sid : String} (hsid : (soFar s job answers blocked w a).sid = some sid) :
    (outcomeOf s job answers blocked a).sid = some sid := by
  unfold soFar at hsid
  cases hstage : w.stage a.id with
  | settled =>
    rw [hstage] at hsid
    exact hsid
  | waiting | scripted | dialed =>
    rw [hstage] at hsid
    exact absurd ((h.unbound a ha).symm.trans hsid) (by simp)

/-- That one attempt goes on is not seen in another. -/
theorem soFar_update_of_ne (h : b.id ≠ a.id) :
    soFar s job answers blocked ⟨d', Function.update w.stage a.id stage⟩ b =
      soFar s job answers blocked w b := by
  unfold soFar
  dsimp only
  rw [Function.update_of_ne h]

theorem soFar_update_self :
    soFar s job answers blocked ⟨d', Function.update w.stage a.id stage⟩ a =
      shown (outcomeOf s job answers blocked a) a stage := by
  unfold soFar
  dsimp only
  rw [Function.update_self]

theorem Separate.eq_of_id (h : Separate s job answers d₀) (ha : a ∈ job.attempts)
    (hb : b ∈ job.attempts) (hid : b.id = a.id) : b = a := List.inj_on_of_nodup_map h.ids hb ha hid

/-- An attempt goes on, by what this does to the desk. -/
theorem Upto.next (hsep : Separate s job answers d₀) (h : Upto s job answers d₀ w)
    (ha : a ∈ job.attempts) (hgate : d'.gate = w.desk.gate)
    (hfits : Fits s job answers d₀.gate.blocked a stage)
    (hregistered : ∃ j, d'.jobs.get? job.id = some j ∧ j.untimed = (job.withAttempts
      (soFar s job answers d₀.gate.blocked ⟨d', Function.update w.stage a.id stage⟩)).untimed)
    (hothers : ∀ id, id ≠ job.id → d'.jobs.get? id = w.desk.jobs.get? id)
    {own : List (Mode × CallPurpose × CallOrder)} (hcalls : d'.calls = w.desk.calls ++ own)
    (hplaced : placed (callOf s job answers d₀.gate.blocked a) stage =
      placed (callOf s job answers d₀.gate.blocked a) (w.stage a.id) ++ own)
    (hlinked : d'.jobs.sids.Linked)
    (howners : ∀ sid ref, d'.jobs.sids.owner? sid = some ref ↔ d₀.jobs.sids.owner? sid = some ref ∨
      ∃ b ∈ job.attempts, ref = ⟨job.id, b.id⟩ ∧
        (soFar s job answers d₀.gate.blocked ⟨d', Function.update w.stage a.id stage⟩ b).sid =
          some sid) :
    Upto s job answers d₀ ⟨d', Function.update w.stage a.id stage⟩ where
  gate := hgate.trans h.gate
  fits b hb := by
    by_cases hid : b.id = a.id
    · obtain rfl := hsep.eq_of_id ha hb hid
      dsimp only
      rw [Function.update_self]
      exact hfits
    · dsimp only
      rw [Function.update_of_ne hid]
      exact h.fits b hb
  registered := hregistered
  others id hid := (hothers id hid).trans (h.others id hid)
  calls := by
    have hone : placed (callOf s job answers d₀.gate.blocked a)
        (Function.update w.stage a.id stage a.id) =
          placed (callOf s job answers d₀.gate.blocked a) (w.stage a.id) ++ own := by
      rw [Function.update_self]
      exact hplaced
    have hgrown := perm_flatMap_of_one
      (f := fun b => placed (callOf s job answers d₀.gate.blocked b) (w.stage b.id))
      (g := fun b => placed (callOf s job answers d₀.gate.blocked b)
        (Function.update w.stage a.id stage b.id))
      (List.Nodup.of_map _ hsep.ids) ha hone fun b hb hne => by
        rw [Function.update_of_ne fun hid => hne (hsep.eq_of_id ha hb hid)]
    dsimp only
    rw [hcalls]
    refine (h.calls.append_right own).trans ?_
    rw [List.append_assoc]
    exact hgrown.symm.append_left _
  linked := hlinked
  owners := howners

/-- An attempt goes on and stays as it is. -/
theorem Upto.waits (hsep : Separate s job answers d₀) (h : Upto s job answers d₀ w)
    (ha : a ∈ job.attempts) (hgate : d'.gate = w.desk.gate) (hjobs : d'.jobs = w.desk.jobs)
    (hfits : Fits s job answers d₀.gate.blocked a stage)
    (hshown : shown (outcomeOf s job answers d₀.gate.blocked a) a stage =
      shown (outcomeOf s job answers d₀.gate.blocked a) a (w.stage a.id))
    {own : List (Mode × CallPurpose × CallOrder)} (hcalls : d'.calls = w.desk.calls ++ own)
    (hplaced : placed (callOf s job answers d₀.gate.blocked a) stage =
      placed (callOf s job answers d₀.gate.blocked a) (w.stage a.id) ++ own) :
    Upto s job answers d₀ ⟨d', Function.update w.stage a.id stage⟩ := by
  have hsoFar : ∀ b, b ∈ job.attempts →
      soFar s job answers d₀.gate.blocked ⟨d', Function.update w.stage a.id stage⟩ b =
        soFar s job answers d₀.gate.blocked w b := by
    intro b hb
    by_cases hid : b.id = a.id
    · obtain rfl := hsep.eq_of_id ha hb hid
      rw [soFar_update_self]
      exact hshown
    · exact soFar_update_of_ne hid
  have hattempts : job.withAttempts
      (soFar s job answers d₀.gate.blocked ⟨d', Function.update w.stage a.id stage⟩) =
        job.withAttempts (soFar s job answers d₀.gate.blocked w) := by
    unfold Job.withAttempts
    rw [List.map_congr_left hsoFar]
  refine h.next hsep ha hgate hfits ?_ (fun id _ => by rw [hjobs]) hcalls hplaced (hjobs ▸ h.linked)
    fun sid ref => ?_
  · rw [hjobs, hattempts]
    exact h.registered
  · rw [hjobs, h.owners]
    refine or_congr_right (exists_congr fun b => and_congr_right fun hb => ?_)
    rw [hsoFar b hb]

/-- An attempt comes to its outcome. -/
theorem Upto.settles (hsep : Separate s job answers d₀) (h : Upto s job answers d₀ w)
    (ha : a ∈ job.attempts) (hgate : d'.gate = w.desk.gate) {p : Attempt.Patch}
    (hpatch : (a.apply default p).untimed = (outcomeOf s job answers d₀.gate.blocked a).untimed)
    (hsoFar : soFar s job answers d₀.gate.blocked w a = a)
    (hget : ∀ id, ∃ now, d'.jobs.get? id =
      (w.desk.jobs.get? id).map fun j => if j.id = job.id then j.patch now a.id p else j)
    (hcalls : d'.calls = w.desk.calls)
    (hplaced : (callOf s job answers d₀.gate.blocked a).toList =
      placed (callOf s job answers d₀.gate.blocked a) (w.stage a.id))
    (hlinked : d'.jobs.sids.Linked)
    (howners : ∀ sid ref, d'.jobs.sids.owner? sid = some ref ↔
      w.desk.jobs.sids.owner? sid = some ref ∨
      ref = ⟨job.id, a.id⟩ ∧ (outcomeOf s job answers d₀.gate.blocked a).sid = some sid) :
    Upto s job answers d₀ ⟨d', Function.update w.stage a.id .settled⟩ := by
  refine h.next hsep ha hgate trivial ?_ (fun id hid => ?_)
    (hcalls.trans (List.append_nil _).symm) (hplaced.trans (List.append_nil _).symm) hlinked
    fun sid ref => ?_
  · obtain ⟨j, hj, huntimed⟩ := h.registered
    obtain ⟨time, htime⟩ := hget job.id
    rw [hj, Option.map_some, if_pos (JobRegister.get?_id hj)] at htime
    refine ⟨_, htime, ?_⟩
    rw [Job.patch_untimed, huntimed]
    refine Job.patch_withAttempts hsep.ids (fun b _ => soFar_id w b) (fun b hb hid => ?_)
      fun b hb hid => ?_
    · obtain rfl := hsep.eq_of_id ha hb hid
      rw [soFar_update_self, hsoFar]
      exact hpatch
    · rw [soFar_update_of_ne hid]
  · obtain ⟨time, htime⟩ := hget id
    rw [htime]
    cases hj : w.desk.jobs.get? id with
    | none => rfl
    | some j =>
      have hne : j.id ≠ job.id := by
        rw [JobRegister.get?_id hj]
        exact hid
      rw [Option.map_some, if_neg hne]
  · rw [howners, h.owners, or_assoc]
    refine or_congr_right ⟨?_, ?_⟩
    · rintro (⟨b, hb, href, hsid⟩ | ⟨href, hsid⟩)
      · refine ⟨b, hb, href, ?_⟩
        by_cases hid : b.id = a.id
        · -- so far the attempt has had no SID
          obtain rfl := hsep.eq_of_id ha hb hid
          rw [hsoFar, hsep.unbound b hb] at hsid
          cases hsid
        · rwa [soFar_update_of_ne hid]
      · refine ⟨a, ha, href, ?_⟩
        rw [soFar_update_self]
        exact hsid
    · rintro ⟨b, hb, href, hsid⟩
      by_cases hid : b.id = a.id
      · obtain rfl := hsep.eq_of_id ha hb hid
        rw [soFar_update_self] at hsid
        exact Or.inr ⟨href, hsid⟩
      · rw [soFar_update_of_ne hid] at hsid
        exact Or.inl ⟨b, hb, href, hsid⟩

/-! ## One attempt goes on -/

/-- The attempts of the job are registered all along. -/
theorem Upto.attempt? (h : Upto s job answers d₀ w) (ha : a ∈ job.attempts) :
    ∃ j a', w.desk.jobs.attempt? ⟨job.id, a.id⟩ = some (j, a') := by
  obtain ⟨j, hj, huntimed⟩ := h.registered
  have hids : j.attempts.map (·.id) = job.attempts.map (·.id) := by
    have hattempts := congrArg (fun j : Job => j.attempts.map (·.id)) huntimed
    unfold Job.untimed Job.withAttempts at hattempts
    dsimp only at hattempts
    rw [List.map_map, List.map_map, List.map_map] at hattempts
    refine hattempts.trans (List.map_congr_left fun b _ => ?_)
    exact soFar_id w b
  obtain ⟨a', ha', hid⟩ := List.mem_map.1 (hids ▸ List.mem_map_of_mem ha)
  have hthere : (j.attempt? a.id).isSome := List.find?_isSome.2 ⟨a', ha', decide_eq_true hid⟩
  obtain ⟨found, hfound⟩ := Option.isSome_iff_exists.1 hthere
  exact ⟨j, found, JobRegister.attempt?_eq_some_iff.2 ⟨hj, hfound⟩⟩

/-- The model gives the attempt its own answer, if there is a model. -/
theorem ask_atWakeup (t : Wakeup) (r : ChatRequest) (d : Desk) :
    (d.ask (s.atWakeup answers t) r).1 = s.answer.bind (fun _ => answers.script t.id) ∧
    (d.ask (s.atWakeup answers t) r).2.gate = d.gate ∧
    (d.ask (s.atWakeup answers t) r).2.jobs = d.jobs ∧
    (d.ask (s.atWakeup answers t) r).2.calls = d.calls := by
  unfold Desk.ask Surroundings.atWakeup
  cases s.answer <;> exact ⟨rfl, rfl, rfl, rfl⟩

/-- At first the attempt is refused, or its script is written. -/
theorem Upto.prepares (hsep : Separate s job answers d₀) (h : Upto s job answers d₀ w)
    (ha : a ∈ job.attempts) (hstage : w.stage a.id = .waiting) (t : Wakeup) (ht : a.id = t.id) :
    Upto s job answers d₀
      ⟨(Desk.advance (s.atWakeup answers t) job a (w.desk, .waiting)).1,
        Function.update w.stage a.id
          (Desk.advance (s.atWakeup answers t) job a (w.desk, .waiting)).2⟩ := by
  have hblocked : w.desk.gate.blocked = d₀.gate.blocked := by rw [h.gate]
  unfold Desk.advance
  dsimp only
  cases hdial : a.dialable? w.desk.gate.blocked with
  | none =>
    rw [Desk.prepare_of_refused hdial]
    dsimp only
    obtain ⟨j, a', hfound⟩ := h.attempt? ha
    rw [Desk.patchAttempt_of_found hfound]
    rw [hblocked] at hdial
    have hcall : callOf s job answers d₀.gate.blocked a = none := by
      unfold callOf
      rw [hdial]
      rfl
    have hsid : (outcomeOf s job answers d₀.gate.blocked a).sid = none := by
      have hsame := congrArg Attempt.sid (Attempt.outcome_of_refused
        (scriptOf s job answers a) (answers.placed a.id) hdial)
      exact hsame.symm.trans (hsep.unbound a ha)
    refine h.settles hsep ha rfl (Attempt.outcome_of_refused _ _ hdial) ?_
      (fun id => ⟨t.now.moment w.desk.readings, ?_⟩) rfl ?_ h.linked fun sid ref => ?_
    · unfold soFar
      rw [hstage]
      rfl
    · exact JobRegister.get?_modify (Job.touches_patch ..).id_eq _ _ _
    · rw [hcall, hstage]
      rfl
    · rw [hsid]
      exact (or_iff_left fun hnew => Option.some_ne_none _ hnew.2.symm).symm
  | some raw =>
    rw [Desk.prepare_of_dialable hdial]
    dsimp only
    obtain ⟨hanswer, hgate, hjobs, hcalls⟩ :=
      ask_atWakeup t (Script.scriptRequest (Desk.scriptInput job a)) w.desk
    rw [hblocked] at hdial
    rw [hanswer, ← ht]
    refine h.waits hsep ha hgate hjobs ⟨rfl, ?_⟩ ?_ (hcalls.trans (List.append_nil _).symm) ?_
    · unfold callOf
      rw [hdial]
      rfl
    · rw [hstage]
      rfl
    · rw [hstage]
      rfl

/-- With a script the call is placed. -/
theorem Upto.places (hsep : Separate s job answers d₀) (h : Upto s job answers d₀ w)
    (ha : a ∈ job.attempts) {script : Script.Sourced String} {order : CallOrder}
    (hstage : w.stage a.id = .scripted script order) (t : Wakeup) (ht : a.id = t.id) :
    Upto s job answers d₀
      ⟨(Desk.advance (s.atWakeup answers t) job a (w.desk, .scripted script order)).1,
        Function.update w.stage a.id
          (Desk.advance (s.atWakeup answers t) job a (w.desk, .scripted script order)).2⟩ := by
  have hfits := h.fits a ha
  rw [hstage] at hfits
  obtain ⟨hscript, hcall⟩ := hfits
  unfold Desk.advance
  dsimp only
  refine h.waits hsep ha rfl rfl ⟨hscript, ?_, ?_⟩ ?_ (Desk.placeCall_calls_eq ..) ?_
  · rw [ht]
    rfl
  · unfold callOf at hcall
    rw [← Option.isSome_map]
    exact Option.isSome_iff_exists.2 ⟨_, hcall⟩
  · rw [hstage]
    rfl
  · rw [hcall, hstage]
    rfl

/-- At last the attempt gets what came of its call. -/
theorem Upto.ends (hsep : Separate s job answers d₀) (h : Upto s job answers d₀ w)
    (ha : a ∈ job.attempts) {script : Script.Sourced String} {placed : Except TelephonyError String}
    (hstage : w.stage a.id = .dialed script placed) (t : Wakeup) :
    Upto s job answers d₀
      ⟨(Desk.advance (s.atWakeup answers t) job a (w.desk, .dialed script placed)).1,
        Function.update w.stage a.id
          (Desk.advance (s.atWakeup answers t) job a (w.desk, .dialed script placed)).2⟩ := by
  have hfits := h.fits a ha
  rw [hstage] at hfits
  obtain ⟨rfl, rfl, hdial⟩ := hfits
  have hsoFar : soFar s job answers d₀.gate.blocked w a = a := by
    unfold soFar
    rw [hstage]
    rfl
  have hpatch := Attempt.outcome_of_dialed (scriptOf s job answers a) (answers.placed a.id) hdial
  have hsid : ∀ sid, (outcomeOf s job answers d₀.gate.blocked a).sid = some sid ↔
      answers.placed a.id = .ok sid := by
    intro sid
    have hsame : (outcomeOf s job answers d₀.gate.blocked a).sid = (Attempt.outcomePatch
        (scriptOf s job answers a) (answers.placed a.id)).sid.or a.sid :=
      (congrArg Attempt.sid hpatch).symm
    rw [hsame, hsep.unbound a ha]
    cases answers.placed a.id <;> simp [Attempt.outcomePatch, Attempt.Patch.failed]
  have hfree : ∀ sid, answers.placed a.id = .ok sid → w.desk.jobs.sids.owner? sid = none := by
    intro sid hplaced
    refine Option.eq_none_iff_forall_ne_some.2 fun ref howner => ?_
    rcases (h.owners sid ref).1 howner with hold | ⟨b, hb, -, hother⟩
    · rw [hsep.unused a ha sid ((hsid sid).2 hplaced)] at hold
      cases hold
    · -- only the attempt itself comes to that SID, and it has not got there yet
      have hid := hsep.distinct b hb a ha sid (hsep.outcome_of_soFar hb hother)
        ((hsid sid).2 hplaced)
      obtain rfl := hsep.eq_of_id ha hb hid
      rw [hsoFar, hsep.unbound b hb] at hother
      cases hother
  have hnone : w.desk.jobs.sids.sid? ⟨job.id, a.id⟩ = none := by
    refine Option.eq_none_iff_forall_ne_some.2 fun sid hown => ?_
    rcases (h.owners sid _).1 ((h.linked sid _).2 hown) with hold | ⟨b, hb, href, hother⟩
    · exact hsep.fresh sid _ hold rfl
    · obtain rfl := hsep.eq_of_id ha hb (congrArg AttemptRef.attemptId href).symm
      rw [hsoFar, hsep.unbound b hb] at hother
      cases hother
  obtain ⟨j, a', hfound⟩ := h.attempt? ha
  unfold Desk.advance
  dsimp only
  obtain ⟨n, hsettle⟩ := Desk.settle_of_free (s := s.atWakeup answers t) (scriptOf s job answers a)
    hfound hfree
  rw [hsettle]
  refine h.settles hsep ha rfl hpatch hsoFar (fun id => ⟨t.now.moment n, ?_⟩) rfl ?_ ?_
    fun sid ref => ?_
  · exact JobRegister.get?_modify (Job.touches_patch ..).id_eq _ _ _
  · rw [hstage]
    rfl
  · unfold Desk.settledJobs
    cases answers.placed a.id with
    | ok sid => exact SidIndex.linked_bind h.linked sid _
    | error e => exact h.linked
  · rw [hsid]
    unfold Desk.settledJobs
    cases hplaced : answers.placed a.id with
    | ok own =>
      change (w.desk.jobs.sids.bind own ⟨job.id, a.id⟩).owner? sid = some ref ↔ _
      rw [SidIndex.owner?_bind h.linked, hnone]
      have hown := hfree own hplaced
      by_cases hsame : sid = own
      · subst hsame
        simp [hown, eq_comm]
      · simp [hsame, Ne.symm hsame]
    | error e => exact (or_iff_left fun hnew => by cases hnew.2).symm

/-- **Whichever attempt goes on.** -/
theorem Upto.wake (hsep : Separate s job answers d₀) (h : Upto s job answers d₀ w) (t : Wakeup) :
    Upto s job answers d₀ (w.wake s job answers t) := by
  unfold Dialing.wake
  cases hfind : job.attempt? t.id with
  | none => exact h
  | some a =>
    have ha : a ∈ job.attempts := Job.attempt?_mem hfind
    have ht : a.id = t.id := Job.attempt?_id hfind
    dsimp only
    cases hstage : w.stage a.id with
    | waiting => exact h.prepares hsep ha hstage t ht
    | scripted script order => exact h.places hsep ha hstage t ht
    | dialed script placed => exact h.ends hsep ha hstage t
    | settled =>
      -- nothing is left to do
      have hsame : Function.update w.stage a.id .settled = w.stage := by
        rw [← hstage, Function.update_eq_self]
      change Upto s job answers d₀ ⟨w.desk, Function.update w.stage a.id .settled⟩
      rw [hsame]
      exact h

/-! ## In every order -/

/-- **In every order.** -/
theorem Upto.run (hsep : Separate s job answers d₀) (h : Upto s job answers d₀ w)
    (wakeups : List Wakeup) :
    Upto s job answers d₀ (w.run s job answers wakeups) := by
  unfold Dialing.run
  exact List.foldlRecOn wakeups _ h fun _ hw t _ => hw.wake hsep t

/-- Before any attempt goes on. -/
theorem upto_begin (hjob : d₀.jobs.get? job.id = some job) (hstatus : job.Aggregated)
    (hlinked : d₀.jobs.sids.Linked) (hunbound : ∀ a ∈ job.attempts, a.sid = none) :
    Upto s job answers d₀ ⟨d₀, fun _ => .waiting⟩ where
  gate := rfl
  fits _ _ := trivial
  registered := by
    refine ⟨job, hjob, ?_⟩
    have hsame : job.withAttempts (soFar s job answers d₀.gate.blocked ⟨d₀, fun _ => .waiting⟩) =
        job := by
      have hattempts : job.attempts.map
          (soFar s job answers d₀.gate.blocked ⟨d₀, fun _ => .waiting⟩) = job.attempts :=
        List.map_id job.attempts
      unfold Job.withAttempts
      rw [hattempts, JobStatus.ofAttempts_eq_rule, ← hstatus]
    rw [hsame]
  others _ _ := rfl
  calls := by
    have hnone : job.attempts.flatMap (fun a =>
        placed (callOf s job answers d₀.gate.blocked a) .waiting) = [] :=
      List.flatMap_eq_nil_iff.2 fun _ _ => rfl
    rw [hnone, List.append_nil]
  linked := hlinked
  owners sid ref := by
    constructor
    · exact Or.inl
    · rintro (hold | ⟨a, ha, -, hsid⟩)
      · exact hold
      · exact absurd ((hunbound a ha).symm.trans hsid) (by simp)

/-- Once it has gone all the way an attempt has come to its outcome. -/
theorem Finished.soFar_eq (h : w.Finished job) (ha : a ∈ job.attempts) :
    soFar s job answers blocked w a = outcomeOf s job answers blocked a := by
  unfold soFar
  rw [h a ha]
  rfl

/-- The calls of the attempts that can be dialed. -/
theorem Finished.placed_eq (h : w.Finished job)
    (call : Attempt → Option (Mode × CallPurpose × CallOrder)) :
    (job.attempts.flatMap fun a => placed (call a) (w.stage a.id)) =
      job.attempts.filterMap call := by
  rw [List.filterMap_eq_flatMap_toList]
  unfold List.flatMap
  refine congrArg List.flatten (List.map_congr_left fun a ha => ?_)
  rw [h a ha]
  rfl

end Dialing

end ShelterLine

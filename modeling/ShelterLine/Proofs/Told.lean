import ShelterLine.Proofs.Change

/-!
# What a desk has told

The trace of a desk has everything that it did, newest first. Two parts of it go to others:
the records to keep and the events to show, each in the order in which they came. A turn
adds at most one record to either, and it is the one record that the turn changed, whole
and as it is from then on.
-/

namespace ShelterLine

/-- The record that is kept. -/
def Effect.write? : Effect → Option Write
  | keep w => some w
  | _ => none

/-- The event that is shown. -/
def Effect.event? : Effect → Option Event
  | publish e => some e
  | _ => none

/-! ## Records under identifiers -/

/-- What became of records: `told` is new, or it took the place of an older one;
otherwise they stay. -/
inductive Recorded {σ : Type} (id : σ → Uuid) (fresh : σ → Prop) (next : σ → σ → Prop)
    (xs : List σ) : Option σ → List σ → Prop where
  | same : Recorded id fresh next xs none xs
  | added (new : σ) (made : fresh new) :
    Recorded id fresh next xs (some new) (new :: xs.filter (id · ≠ id new))
  | changed (old new : σ) (there : old ∈ xs) (follows : next old new) (same : id new = id old) :
    Recorded id fresh next xs (some new) (xs.map fun x => if id x = id new then new else x)

section

variable {σ : Type} {id : σ → Uuid} {fresh : σ → Prop} {next : σ → σ → Prop} {xs ys : List σ}
  {told : Option σ}

theorem Recorded.nodup (h : Recorded id fresh next xs told ys) (hn : (xs.map id).Nodup) :
    (ys.map id).Nodup := by
  cases h with
  | same => exact hn
  | added new => exact nodup_key_cons_filter id new hn
  | changed old new there follows same =>
    have hids : (xs.map fun x => if id x = id new then new else x).map id = xs.map id := by
      refine map_key_map (fun x => ?_) xs
      split
      · rename_i hx
        exact hx.symm
      · rfl
    rw [hids]
    exact hn

/-- What was told is found from then on, and everything else as before. -/
theorem Recorded.find? (h : Recorded id fresh next xs told ys) (u : Uuid) :
    ys.find? (id · = u) = (told.filter (id · = u)).or (xs.find? (id · = u)) := by
  cases h with
  | same => rfl
  | added new =>
    rw [find?_key_cons_filter id new xs u, Option.filter_some]
    split <;> simp_all
  | changed old new there follows same =>
    have hids : ∀ x, id (if id x = id new then new else x) = id x := by
      intro x
      split
      · rename_i hx
        exact hx.symm
      · rfl
    rw [find?_key_map hids, Option.filter_some]
    by_cases hu : id new = u
    · -- something has this identifier, and it was replaced
      have hthere : (xs.find? (id · = u)).isSome := by
        rw [List.find?_isSome]
        exact ⟨old, there, by simpa [← same] using hu⟩
      obtain ⟨x, hx⟩ := Option.isSome_iff_exists.1 hthere
      have hid : id x = u := by simpa using List.find?_some hx
      simp [hx, hid, hu]
    · cases hx : xs.find? (id · = u) with
      | none => simp [hu]
      | some x =>
        have hid : id x = u := by simpa using List.find?_some hx
        simp [hu, hid, Ne.symm hu]

/-- What holds of new and of changed records, and of the others before, holds of all. -/
theorem Recorded.forall {P : σ → Prop} (h : Recorded id fresh next xs told ys) (hxs : ∀ x ∈ xs, P x)
    (hfresh : ∀ x, fresh x → P x)
    (hnext : ∀ old ∈ xs, ∀ new, next old new → id new = id old → P new) : ∀ y ∈ ys, P y := by
  cases h with
  | same => exact hxs
  | added new made =>
    intro y hy
    rcases List.mem_cons.1 hy with rfl | hy
    · exact hfresh _ made
    · exact hxs y (List.mem_filter.1 hy).1
  | changed old new there follows same =>
    intro y hy
    obtain ⟨x, hx, rfl⟩ := List.mem_map.1 hy
    split
    · exact hnext old there new follows same
    · exact hxs x hx

/-- Where identifiers are different, changing whatever has one of them changes one record. -/
theorem Recorded.of_modify (hn : (xs.map id).Nodup) {f : σ → σ}
    (hf : ∀ x, id (f x) = id x) {old : σ} (hold : old ∈ xs) (hnext : next old (f old)) :
    Recorded id fresh next xs (some (f old))
      (xs.map fun x => if id x = id old then f x else x) := by
  have hmap : (xs.map fun x => if id x = id old then f x else x) =
      xs.map fun x => if id x = id (f old) then f old else x := by
    refine List.map_congr_left fun x hx => ?_
    rw [hf old]
    split
    · rename_i hid
      have hfound := (find?_key_eq_some_iff hn).2 ⟨hx, hid⟩
      rw [(find?_key_eq_some_iff hn).2 ⟨hold, rfl⟩] at hfound
      rw [Option.some.inj hfound]
    · rfl
  rw [hmap]
  exact .changed old (f old) hold hnext (hf old)

end

/-! ## When a record is made and changed -/

/-- The clock shows this at a reading from number `m` on and before number `n`. -/
def Clock.Shows (c : Clock) (m n : Nat) (t : Instant) : Prop := ∃ k, m ≤ k ∧ k < n ∧ c k = t

/-- The clock shows this at the next reading. -/
theorem Clock.shows_next (c : Clock) (m : Nat) : c.Shows m (m + 1) (c m) :=
  ⟨m, Nat.le_refl m, Nat.lt_succ_self m, rfl⟩

/-- A moment at such times. -/
structure Moment.At (shown : Instant → Prop) (now : Moment) : Prop where
  attempt : shown now.attempt
  job : shown now.job

theorem Clock.moment_at (c : Clock) {m k n : Nat} (hfirst : m ≤ k) (hlast : k + 1 < n) :
    (c.moment k).At (c.Shows m n) :=
  ⟨⟨k, hfirst, Nat.lt_of_succ_lt hlast, rfl⟩, ⟨k + 1, Nat.le_succ_of_le hfirst, hlast, rfl⟩⟩

/-- A job that was made at such times. -/
structure Job.MadeAt (shown : Instant → Prop) (j : Job) : Prop where
  createdAt : shown j.createdAt
  updatedAt : shown j.updatedAt
  attempts : ∀ a ∈ j.attempts, shown a.updatedAt

/-- A job that was changed at such times. -/
structure Job.ChangedAt (shown : Instant → Prop) (old new : Job) : Prop where
  createdAt : new.createdAt = old.createdAt
  updatedAt : shown new.updatedAt
  attempts : ∀ a ∈ new.attempts, shown a.updatedAt ∨ ∃ b ∈ old.attempts, a.updatedAt = b.updatedAt

/-- A session that was made at such times. -/
structure Session.MadeAt (shown : Instant → Prop) (t : Session) : Prop where
  createdAt : shown t.createdAt
  updatedAt : shown t.updatedAt

/-- A session that was changed at such times. -/
structure Session.ChangedAt (shown : Instant → Prop) (old new : Session) : Prop where
  createdAt : new.createdAt = old.createdAt
  updatedAt : shown new.updatedAt
  jobId : new.jobId = old.jobId
  attemptId : new.attemptId = old.attemptId

section

variable {shown : Instant → Prop} {now : Instant}

theorem Job.madeAt_create (hnow : shown now) (id : Uuid) (attemptId : Nat → Uuid) (mode : Mode)
    (input : NewJob) (targets : List Target) :
    (create now id attemptId mode input targets).MadeAt shown := by
  refine ⟨hnow, hnow, fun a ha => ?_⟩
  obtain ⟨i, hi, rfl⟩ := List.mem_mapIdx.1 ha
  exact hnow

theorem Job.mem_modifyAttempt {id : Uuid} {f : Attempt → Attempt} {a : Attempt} :
    ∀ {as : List Attempt}, a ∈ modifyAttempt id f as → a ∈ as ∨ ∃ b ∈ as, b.id = id ∧ a = f b
  | [], h => absurd h List.not_mem_nil
  | b :: as, h => by
    unfold modifyAttempt at h
    split at h
    · rename_i hid
      rcases List.mem_cons.1 h with rfl | h
      · exact Or.inr ⟨b, List.mem_cons_self, hid, rfl⟩
      · exact Or.inl (List.mem_cons_of_mem b h)
    · rcases List.mem_cons.1 h with rfl | h
      · exact Or.inl List.mem_cons_self
      · rcases mem_modifyAttempt h with h | ⟨b', hb', hid, heq⟩
        · exact Or.inl (List.mem_cons_of_mem b h)
        · exact Or.inr ⟨b', List.mem_cons_of_mem b hb', hid, heq⟩

theorem Job.changedAt_patch {now : Moment} (hnow : now.At shown) (id : Uuid) (p : Attempt.Patch)
    (j : Job) : ChangedAt shown j (j.patch now id p) := by
  refine ⟨rfl, hnow.job, fun a ha => ?_⟩
  rcases mem_modifyAttempt ha with ha | ⟨b, hb, -, rfl⟩
  · exact Or.inr ⟨a, ha, rfl⟩
  · exact Or.inl hnow.attempt

theorem Job.ChangedAt.trans {j j' j'' : Job} (h : ChangedAt shown j j')
    (h' : ChangedAt shown j' j'') : ChangedAt shown j j'' := by
  refine ⟨h'.createdAt.trans h.createdAt, h'.updatedAt, fun a ha => ?_⟩
  rcases h'.attempts a ha with hnow | ⟨b, hb, hab⟩
  · exact Or.inl hnow
  · rw [hab]
    exact h.attempts b hb

end

namespace Desk

/-! ## Writes and events -/

/-- The writes that a desk has issued, in order. -/
def writes (d : Desk) : List Write := (d.trace.filterMap Effect.write?).reverse

/-- The events that a desk has published, in order. -/
def events (d : Desk) : List Event := (d.trace.filterMap Effect.event?).reverse

theorem writes_note (d : Desk) (e : Effect) : (d.note e).writes = d.writes ++ e.write?.toList := by
  unfold writes note
  cases e with
  | keep w => exact List.reverse_cons
  | call | message | question | publish => exact (List.append_nil _).symm

theorem events_note (d : Desk) (e : Effect) : (d.note e).events = d.events ++ e.event?.toList := by
  unfold events note
  cases e with
  | publish v => exact List.reverse_cons
  | call | message | question | keep => exact (List.append_nil _).symm

@[simp] theorem writes_jobChanged (d : Desk) (j : Job) :
    (d.jobChanged j).writes = d.writes ++ [.job j] := by
  unfold jobChanged
  rw [writes_note, writes_note]
  exact List.append_nil _

@[simp] theorem events_jobChanged (d : Desk) (j : Job) :
    (d.jobChanged j).events = d.events ++ [.jobUpdated j] := by
  unfold jobChanged
  rw [events_note, events_note]
  exact congrArg (· ++ _) (List.append_nil _)

@[simp] theorem writes_sessionChanged (d : Desk) (t : Session) :
    (d.sessionChanged t).writes = d.writes ++ [.session t] := by
  unfold sessionChanged
  rw [writes_note, writes_note]
  exact List.append_nil _

@[simp] theorem events_sessionChanged (d : Desk) (t : Session) :
    (d.sessionChanged t).events = d.events ++ [.transferUpdated t] := by
  unfold sessionChanged
  rw [events_note, events_note]
  exact congrArg (· ++ _) (List.append_nil _)

@[simp] theorem writes_escalated (d : Desk) (e : Escalation) :
    (d.escalated e).writes = d.writes ++ [.escalation e] := by
  unfold escalated
  rw [writes_note, writes_note]
  exact List.append_nil _

@[simp] theorem events_escalated (d : Desk) (e : Escalation) :
    (d.escalated e).events = d.events ++ [.escalationRecorded e] := by
  unfold escalated
  rw [events_note, events_note]
  exact congrArg (· ++ _) (List.append_nil _)

theorem writes_outward {e : Effect} (h : e.Outward) (d : Desk) : (d.note e).writes = d.writes := by
  rw [writes_note]
  cases e with
  | call | message | question => exact List.append_nil _
  | keep | publish => exact h.elim

theorem events_outward {e : Effect} (h : e.Outward) (d : Desk) : (d.note e).events = d.events := by
  rw [events_note]
  cases e with
  | call | message | question => exact List.append_nil _
  | keep | publish => exact h.elim

/-- A number that was not blocked is kept when it is. -/
theorem writes_block (raw : String) (d : Desk) : (d.block raw).2.writes = d.writes ++
    ((Phone.canonical? raw).filter (!d.gate.blocked.contains ·)).toList.map .block := by
  unfold block BlockList.add
  cases Phone.canonical? raw with
  | none => exact (List.append_nil _).symm
  | some n =>
    cases h : d.gate.blocked.contains n with
    | false =>
      simp only [h, Bool.not_false, Option.filter_some, ↓reduceIte]
      exact writes_note _ _
    | true =>
      simp only [h, Bool.not_true, Option.filter_some, Bool.false_eq_true, ↓reduceIte]
      exact (List.append_nil _).symm

theorem events_block (raw : String) (d : Desk) : (d.block raw).2.events = d.events := by
  unfold block
  dsimp only
  split
  · exact (events_note _ _).trans (List.append_nil _)
  · rfl

theorem events_unblock (raw : String) (d : Desk) : (d.unblock raw).2.events = d.events := by
  unfold unblock
  dsimp only
  split
  · exact (events_note _ _).trans (List.append_nil _)
  · rfl

/-- A number that was blocked is removed from what is kept when it no longer is. -/
theorem writes_unblock (raw : String) (d : Desk) : (d.unblock raw).2.writes = d.writes ++
    ((Phone.canonical? raw).filter (d.gate.blocked.contains ·)).toList.map .unblock := by
  unfold unblock BlockList.remove
  cases Phone.canonical? raw with
  | none => exact (List.append_nil _).symm
  | some n =>
    cases h : d.gate.blocked.contains n with
    | false =>
      simp only [h, Option.filter_some, Bool.false_eq_true, ↓reduceIte]
      exact (List.append_nil _).symm
    | true =>
      simp only [h, Option.filter_some, ↓reduceIte]
      exact writes_note _ _

/-! ## What a turn tells -/

variable {s : Surroundings} {unique : Prop} {d d' : Desk}

/-- What a turn changes and tells: a job, a session or an escalation, or something
about a number. -/
structure Tells (s : Surroundings) (unique : Prop) (d d' : Desk) (job : Option Job)
    (session : Option Session) (escalation : Option Escalation) (policy : List Write) : Prop where
  readings : d.readings ≤ d'.readings
  jobs : Recorded (·.id)
    (fun j => j.MadeAt (s.now.Shows 0 d'.readings) ∧ (unique → d.jobs.get? j.id = none))
    (Job.ChangedAt (s.now.Shows d.readings d'.readings)) d.jobs.jobs job d'.jobs.jobs
  sessions : Recorded (·.id)
    (fun t => t.MadeAt (s.now.Shows 0 d'.readings) ∧ t.id = s.newTransfer d.made.transfers ∧
      d.made.transfers < d'.made.transfers)
    (Session.ChangedAt (s.now.Shows d.readings d'.readings))
    d.transfers.sessions session d'.transfers.sessions
  log : d'.gate.escalations =
    escalation.elim d.gate.escalations (EscalationLog.record d.gate.escalations)
  stamped : ∀ e ∈ escalation, (⟨e.id, e.createdAt⟩ : Stamp) = s.stamp d.made.escalations
  transfersMade : d.made.transfers ≤ d'.made.transfers
  escalationsMade : d'.made.escalations = d.made.escalations + escalation.elim 0 fun _ => 1
  numbers : ∀ w ∈ policy, (∃ n, w = .block n) ∨ ∃ n, w = .unblock n
  writes : d'.writes = d.writes ++ (job.toList.map .job ++ session.toList.map .session ++
    escalation.toList.map .escalation ++ policy)
  events : d'.events = d.events ++ (job.toList.map .jobUpdated ++
    session.toList.map .transferUpdated ++ escalation.toList.map .escalationRecorded)

/-- Of the writes of a turn one is about the record of a kind, if it changed. -/
theorem Tells.filterMap_writes {α : Type} {f : Write → Option α} {job : Option Job}
    {session : Option Session} {escalation : Option Escalation} {policy : List Write}
    (h : Tells s unique d d' job session escalation policy)
    (hblock : ∀ n, f (.block n) = none) (hunblock : ∀ n, f (.unblock n) = none) :
    d'.writes.filterMap f = d.writes.filterMap f ++ (job.toList.map Write.job ++
      session.toList.map Write.session ++ escalation.toList.map Write.escalation).filterMap f := by
  have hpolicy : policy.filterMap f = [] := by
    refine List.filterMap_eq_nil_iff.2 fun w hw => ?_
    rcases h.numbers w hw with ⟨n, rfl⟩ | ⟨n, rfl⟩
    · exact hblock n
    · exact hunblock n
  rw [h.writes, List.filterMap_append, List.filterMap_append (l := _ ++ _), hpolicy,
    List.append_nil]

/-- Nothing about a record is changed or told. -/
theorem Tells.of_records (d d' : Desk) (hreadings : d.readings ≤ d'.readings)
    (hjobs : d'.jobs = d.jobs) (htransfers : d'.transfers = d.transfers)
    (hlog : d'.gate.escalations = d.gate.escalations) (hmade : d'.made.transfers = d.made.transfers)
    (hmade' : d'.made.escalations = d.made.escalations) {policy : List Write}
    (hnumbers : ∀ w ∈ policy, (∃ n, w = .block n) ∨ ∃ n, w = .unblock n)
    (hwrites : d'.writes = d.writes ++ policy) (hevents : d'.events = d.events) :
    Tells s unique d d' none none none policy where
  readings := hreadings
  jobs := hjobs ▸ .same
  sessions := htransfers ▸ .same
  log := hlog
  stamped e he := by cases he
  transfersMade := Nat.le_of_eq hmade.symm
  escalationsMade := hmade'
  numbers := hnumbers
  writes := hwrites
  events := hevents.trans (List.append_nil _).symm

/-- A job is changed and told. -/
theorem Tells.of_job {jobs : JobRegister} {readings : Nat} {job : Job}
    (hread : d.readings ≤ readings) (h : Recorded (·.id)
      (fun j => j.MadeAt (s.now.Shows 0 readings) ∧ (unique → d.jobs.get? j.id = none))
      (Job.ChangedAt (s.now.Shows d.readings readings)) d.jobs.jobs (some job) jobs.jobs) :
    Tells s unique d ({ d with jobs, readings }.jobChanged job) (some job) none none [] where
  readings := hread
  jobs := h
  sessions := .same
  log := rfl
  stamped e he := by cases he
  transfersMade := Nat.le_refl _
  escalationsMade := rfl
  numbers := by simp
  writes := writes_jobChanged ..
  events := events_jobChanged ..

/-- A session is changed and told. -/
theorem Tells.of_session {transfers : TransferRegister} (made : Tally)
    {readings : Nat} {t : Session} (hmade : d.made.transfers ≤ made.transfers)
    (hmade' : made.escalations = d.made.escalations) (hread : d.readings ≤ readings)
    (h : Recorded (·.id)
      (fun t => t.MadeAt (s.now.Shows 0 readings) ∧ t.id = s.newTransfer d.made.transfers ∧
        d.made.transfers < made.transfers)
      (Session.ChangedAt (s.now.Shows d.readings readings)) d.transfers.sessions (some t)
        transfers.sessions) :
    Tells s unique d ({ d with made, transfers, readings }.sessionChanged t)
      none (some t) none [] where
  readings := hread
  jobs := .same
  sessions := h
  log := rfl
  stamped e he := by cases he
  transfersMade := hmade
  escalationsMade := hmade'
  numbers := by simp
  writes := writes_sessionChanged ..
  events := events_sessionChanged ..

variable {shown : Instant → Prop}

section

variable {now : Moment}

theorem recorded_patch {fresh : Job → Prop} (hn : (d.jobs.jobs.map (·.id)).Nodup) {ref : AttemptRef}
    {p : Attempt.Patch} {job : Job} {jobs : JobRegister}
    (hnow : now.At shown) (h : d.jobs.patch now ref p = some (job, jobs)) :
    Recorded (·.id) fresh (Job.ChangedAt shown) d.jobs.jobs (some job) jobs.jobs := by
  obtain ⟨j, a, hfound, rfl, rfl⟩ := JobRegister.patch_eq_some_iff.1 h
  obtain ⟨hj, -⟩ := JobRegister.attempt?_eq_some_iff.1 hfound
  have hid : j.id = ref.jobId := JobRegister.get?_id hj
  have hrecorded : Recorded (·.id) fresh (Job.ChangedAt shown) d.jobs.jobs (some _) _ :=
    .of_modify hn (Job.touches_patch now ref.attemptId p).id_eq (List.mem_of_find?_eq_some hj)
      (Job.changedAt_patch hnow ..)
  rw [hid] at hrecorded
  exact hrecorded

/-- Where a SID is free, binding it changes nothing but the attempt that gets it. -/
theorem bindSid_of_free {r r' : JobRegister} {ref : AttemptRef} {sid : String} {job : Job}
    (hfree : r.sids.owner? sid = none) (h : r.bindSid now ref sid = some (job, r')) :
    ∃ j, r.get? ref.jobId = some j ∧ job = j.patch now ref.attemptId { sid := some sid } ∧
      r'.jobs = (r.modify ref.jobId (Job.patch now ref.attemptId { sid := some sid })).jobs := by
  have hreleased : r.released ref sid = r := by
    unfold JobRegister.released
    rw [hfree]
  rw [JobRegister.bindSid_eq, hreleased] at h
  obtain ⟨-, -, hpatch⟩ := Option.bind_eq_some_iff.1 h
  obtain ⟨j, a, hfound, rfl, rfl⟩ := JobRegister.patch_eq_some_iff.1 hpatch
  obtain ⟨hj, -⟩ := JobRegister.attempt?_eq_some_iff.1 hfound
  exact ⟨j, hj, rfl, rfl⟩

/-- An attempt that is marked and then gets a free SID changes its job once. -/
theorem recorded_dialed {fresh : Job → Prop} (hn : (d.jobs.jobs.map (·.id)).Nodup)
    {ref : AttemptRef} {p : Attempt.Patch} {sid : String} {marked job : Job}
    {jobs jobs' : JobRegister}
    {later : Moment} (hnow : now.At shown) (hmark : d.jobs.patch now ref p = some (marked, jobs))
    (hlater : later.At shown) (hbind : jobs.bindSid later ref sid = some (job, jobs'))
    (hfree : d.jobs.sids.owner? sid = none) :
    Recorded (·.id) fresh (Job.ChangedAt shown) d.jobs.jobs (some job) jobs'.jobs := by
  obtain ⟨j, a, hfound, -, rfl⟩ := JobRegister.patch_eq_some_iff.1 hmark
  obtain ⟨hj, -⟩ := JobRegister.attempt?_eq_some_iff.1 hfound
  have hid : j.id = ref.jobId := JobRegister.get?_id hj
  obtain ⟨j', hj', rfl, hjobs'⟩ :=
    bindSid_of_free (r := d.jobs.modify ref.jobId _) hfree hbind
  -- what is found after the mark is the job that was found before, patched
  rw [JobRegister.get?_modify (Job.touches_patch ..).id_eq, hj, Option.map_some, if_pos hid,
    Option.some.injEq] at hj'
  subst hj'
  have hboth : jobs'.jobs = d.jobs.jobs.map fun x => if x.id = j.id then
      (x.patch now ref.attemptId p).patch later ref.attemptId { sid := some sid } else x := by
    rw [hjobs']
    unfold JobRegister.modify
    rw [List.map_map]
    refine List.map_congr_left fun x _ => ?_
    dsimp only [Function.comp_apply]
    rw [hid]
    by_cases hx : x.id = ref.jobId
    · rw [if_pos hx, if_pos hx, if_pos (show (x.patch _ _ _).id = ref.jobId from hx)]
    · rw [if_neg hx, if_neg hx, if_neg hx]
  rw [hboth]
  exact Recorded.of_modify hn (f := fun x => (x.patch now ref.attemptId p).patch later
    ref.attemptId { sid := some sid }) (fun _ => rfl) (List.mem_of_find?_eq_some hj)
    ((Job.changedAt_patch hnow ..).trans (Job.changedAt_patch hlater ..))

end

theorem recorded_update {fresh : Session → Prop} {r r' : TransferRegister}
    (hn : (r.sessions.map (·.id)).Nodup) {id : Uuid} {f : Session → Session} {t : Session}
    (hf : ∀ t, (f t).id = t.id) (hnext : ∀ t, Session.ChangedAt shown t (f t))
    (h : r.update id f = some (t, r')) :
    Recorded (·.id) fresh (Session.ChangedAt shown) r.sessions (some t) r'.sessions := by
  obtain ⟨⟨t₀, hfound, rfl⟩, rfl⟩ := TransferRegister.update_eq_some_iff.1 h
  have hrecorded : Recorded (·.id) fresh (Session.ChangedAt shown) r.sessions (some _) _ :=
    .of_modify hn hf (List.mem_of_find?_eq_some hfound) (hnext t₀)
  rw [TransferRegister.get?_id hfound] at hrecorded
  exact hrecorded

theorem recorded_setStatus {fresh : Session → Prop} {r r' : TransferRegister}
    (hn : (r.sessions.map (·.id)).Nodup) {id : Uuid} {status : TransferStatus} {t : Session}
    {now : Instant} (hnow : shown now) (h : r.setStatus now id status = some (t, r')) :
    Recorded (·.id) fresh (Session.ChangedAt shown) r.sessions (some t) r'.sessions :=
  recorded_update hn (f := fun t => { t with status, updatedAt := now }) (fun _ => rfl)
    (fun _ => ⟨rfl, hnow, rfl, rfl⟩) h

/-- Where a SID is free, binding it changes nothing but the session whose leg gets it. -/
theorem recorded_joined {fresh : Session → Prop} {r r' : TransferRegister}
    (hn : (r.sessions.map (·.id)).Nodup) {ref : LegRef} {sid : String} {t : Session}
    {now : Instant} (hnow : shown now) (hbind : r.bindSid now ref sid = some (t, r'))
    (hfree : r.sids.owner? sid = none) :
    Recorded (·.id) fresh (Session.ChangedAt shown) r.sessions (some t) r'.sessions := by
  have hreleased : r.released ref sid = r := by
    unfold TransferRegister.released
    rw [hfree]
  rw [TransferRegister.bindSid_eq, hreleased] at hbind
  obtain ⟨-, -, hupdate⟩ := Option.bind_eq_some_iff.1 hbind
  have hrecorded : Recorded (·.id) fresh (Session.ChangedAt shown) _ (some t) r'.sessions :=
    recorded_update (r := { r with sids := r.sids.bind sid ref }) hn
      (f := fun t => { t with sids := t.sids.set ref.leg (some sid), updatedAt := now })
      (fun _ => rfl) (fun _ => ⟨rfl, hnow, rfl, rfl⟩) hupdate
  exact hrecorded

/-- **A turn tells of the one record that it changes, as it is from then on.** -/
theorem Turn.tells (h : Turn s unique d d') (hjobs : (d.jobs.jobs.map (·.id)).Nodup)
    (hsessions : (d.transfers.sessions.map (·.id)).Nodup) :
    ∃ job session escalation policy, Tells s unique d d' job session escalation policy := by
  have hnothing : ∀ w ∈ ([] : List Write), (∃ n, w = .block n) ∨ ∃ n, w = .unblock n := by simp
  have hnext := s.now.shows_next d.readings
  cases h with
  | @acted made counts e outward =>
    exact ⟨none, none, none, [], .of_records d ({ d with made }.note e) (Nat.le_refl _) rfl rfl rfl
      counts.transfers counts.escalations hnothing
      ((writes_outward outward _).trans (List.append_nil _).symm) (events_outward outward _)⟩
  | counted =>
    exact ⟨none, none, none, [],
      .of_records d d.counted (Nat.le_succ _) rfl rfl rfl rfl rfl hnothing
        (List.append_nil d.writes).symm rfl⟩
  | @registered n reading past r callback accepted new =>
    have hpast : s.now.Shows 0 d.readings (s.now reading) := ⟨reading, Nat.zero_le _, past, rfl⟩
    exact ⟨_, none, none, [], .of_job (Nat.le_refl _) (.added _ ⟨Job.madeAt_create hpast .., new⟩)⟩
  | patched noSid h =>
    have hnow : (s.now.moment d.readings).At (s.now.Shows d.readings (d.readings + 2)) :=
      s.now.moment_at (Nat.le_refl _) (by omega)
    exact ⟨_, none, none, [], .of_job (Nat.le_add_right _ 2) (recorded_patch hjobs hnow h)⟩
  | dialed noSid mark bind free =>
    have hnow : (s.now.moment d.readings).At (s.now.Shows d.readings (d.readings + 4)) :=
      s.now.moment_at (Nat.le_refl _) (by omega)
    have hlater : (s.now.moment (d.readings + 2)).At (s.now.Shows d.readings (d.readings + 4)) :=
      s.now.moment_at (by omega) (by omega)
    exact ⟨_, none, none, [],
      .of_job (Nat.le_add_right _ 4) (recorded_dialed hjobs hnow mark hlater bind free)⟩
  | opened mode input made =>
    refine ⟨none, _, none, [], .of_session _ (Nat.le_succ _) rfl (Nat.le_succ _) (.added _ ?_)⟩
    have hthis : s.now.Shows 0 (d.readings + 1) (s.now d.readings) :=
      ⟨_, Nat.zero_le _, Nat.lt_succ_self _, rfl⟩
    rw [made]
    exact ⟨⟨hthis, hthis⟩, rfl, Nat.lt_succ_self _⟩
  | moved h =>
    exact ⟨none, _, none, [], .of_session d.made (Nat.le_refl _) rfl (Nat.le_succ _)
      (recorded_setStatus hsessions hnext h)⟩
  | joined bind free =>
    exact ⟨none, _, none, [], .of_session d.made (Nat.le_refl _) rfl (Nat.le_succ _)
      (recorded_joined hsessions hnext bind free)⟩
  | escalated e stamped =>
    exact ⟨none, none, some e, [], ⟨Nat.le_refl _, .same, .same, rfl,
      fun e' he' => by cases he'; exact stamped, Nat.le_refl _, rfl, hnothing, writes_escalated ..,
      events_escalated ..⟩⟩
  | blocked raw =>
    obtain ⟨blocked, trace, heq⟩ := block_eq raw d
    refine ⟨none, none, none, _, .of_records _ _ (by rw [heq]) (by rw [heq])
      (by rw [heq]) (by rw [heq]) (by rw [heq]) (by rw [heq]) (fun w hw => ?_) (writes_block raw d)
      (events_block raw d)⟩
    obtain ⟨n, -, rfl⟩ := List.mem_map.1 hw
    exact Or.inl ⟨n, rfl⟩
  | unblocked raw =>
    obtain ⟨blocked, trace, heq⟩ := unblock_eq raw d
    refine ⟨none, none, none, _, .of_records _ _ (by rw [heq]) (by rw [heq])
      (by rw [heq]) (by rw [heq]) (by rw [heq]) (by rw [heq]) (fun w hw => ?_)
      (writes_unblock raw d) (events_unblock raw d)⟩
    obtain ⟨n, -, rfl⟩ := List.mem_map.1 hw
    exact Or.inr ⟨n, rfl⟩

end Desk

end ShelterLine

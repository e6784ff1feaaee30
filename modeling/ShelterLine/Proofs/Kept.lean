import ShelterLine.Proofs.Restore

/-!
# What is kept follows what is in memory

Whatever changes in memory is written at once and whole. Carried out in the order in which they were
issued, the writes leave one row for every job and every session, that of the record as it is, and
one for every escalation. A row is settled by time, and a record is never changed before it was
changed last, so the newer one stays, also where both have the same time.
-/

namespace ShelterLine

open Schema

/-! ## Clocks that run -/

/-- The clock never goes back, and shows years of four digits. -/
structure Clock.Runs (c : Clock) : Prop where
  ordered : ∀ m n, m ≤ n → c m ≤ c n
  years : ∀ n, (c n).FourDigitYear

namespace Clock.Shows

variable {c : Clock} {m n : Nat} {t : Instant}

theorem year (h : c.Shows m n t) (hc : c.Runs) : t.FourDigitYear := by
  obtain ⟨k, -, -, rfl⟩ := h
  exact hc.years k

theorem le_end (h : c.Shows m n t) (hc : c.Runs) : t ≤ c n := by
  obtain ⟨k, -, hk, rfl⟩ := h
  exact hc.ordered k n (Nat.le_of_lt hk)

theorem start_le (h : c.Shows m n t) (hc : c.Runs) : c m ≤ t := by
  obtain ⟨k, hk, -, rfl⟩ := h
  exact hc.ordered m k hk

end Clock.Shows

/-! ## Putting what changed into a table -/

theorem Table.put_of_forall_ne {ρ : Type} {key : ρ → Option String} {settle : ρ → ρ → ρ} {new : ρ}
    {rows : List ρ} (h : ∀ r ∈ rows, key r ≠ key new) :
    put key settle new rows = rows ++ [new] := by
  induction rows with
  | nil => rfl
  | cons r rows ih =>
    rw [put_of_key_ne fun hkey => h r List.mem_cons_self hkey.2,
      ih fun r' hr' => h r' (List.mem_cons_of_mem r hr'), List.cons_append]

namespace Keeping

variable {σ ρ : Type} (k : Keeping σ ρ) {xs ys : List σ} {rows : List ρ}

theorem putAll_append (xs ys : List σ) (rows : List ρ) :
    k.putAll (xs ++ ys) rows = k.putAll ys (k.putAll xs rows) := by
  unfold putAll Table.putAll
  rw [List.map_append, List.foldl_append]

theorem key_row_eq_iff {x y : σ} : k.key (k.row x) = k.key (k.row y) ↔ k.id x = k.id y := by
  rw [k.key_row, k.key_row, Uuid.some_toString_inj]

/-- A record with a new identifier comes last. -/
theorem put_new {x : σ} (h : ∀ y ∈ xs, k.id y ≠ k.id x) :
    Table.put k.key k.settle (k.row x) (xs.map k.row) = xs.map k.row ++ [k.row x] := by
  refine Table.put_of_forall_ne fun r hr hkey => ?_
  obtain ⟨y, hy, rfl⟩ := List.mem_map.1 hr
  exact h y hy (k.key_row_eq_iff.1 hkey)

/-- A record that changed takes the place of the older version. -/
theorem put_changed {old new : σ} (hn : (xs.map k.id).Nodup) (hold : old ∈ xs)
    (hid : k.id new = k.id old) (hsettle : k.settle (k.row old) (k.row new) = k.row new) :
    Table.put k.key k.settle (k.row new) (xs.map k.row) =
      (xs.map fun x => if k.id x = k.id new then new else x).map k.row := by
  induction xs with
  | nil => exact absurd hold List.not_mem_nil
  | cons x xs ih =>
    obtain ⟨hx, hxs⟩ := List.nodup_cons.1 hn
    rw [List.map_cons, List.map_cons, List.map_cons]
    by_cases hnew : k.id x = k.id new
    · -- this is the older version, and the others have other identifiers
      have hrest : (xs.map fun y => if k.id y = k.id new then new else y) = xs := by
        refine (List.map_congr_left fun y hy => if_neg fun hy' => ?_).trans (List.map_id xs)
        exact hx (List.mem_map.2 ⟨y, hy, hy'.trans hnew.symm⟩)
      have hthis : x = old := by
        rcases List.mem_cons.1 hold with h | h
        · exact h.symm
        · exact absurd (List.mem_map.2 ⟨old, h, hid.symm.trans hnew.symm⟩) hx
      rw [if_pos hnew, hrest, Table.put_of_key_eq (k.key_row new)
        ((k.key_row x).trans (hnew ▸ rfl)), hthis, hsettle]
    · have hold' : old ∈ xs := by
        rcases List.mem_cons.1 hold with h | h
        · exact absurd (h ▸ hid.symm) hnew
        · exact h
      rw [if_neg hnew, Table.put_of_key_ne fun h => hnew (k.key_row_eq_iff.1 h.2), ih hxs hold']

/-- **A table follows its records**: what is new comes last, what changed stays where it is. -/
theorem putAll_recorded {fresh : σ → Prop} {next : σ → σ → Prop} {told : Option σ}
    (h : Recorded k.id fresh next xs told ys) (hn : (xs.map k.id).Nodup)
    (hfresh : ∀ x, fresh x → ∀ y ∈ xs, k.id y ≠ k.id x)
    (hnext : ∀ old ∈ xs, ∀ new, next old new → k.settle (k.row old) (k.row new) = k.row new) :
    k.putAll told.toList (xs.map k.row).reverse = (ys.map k.row).reverse := by
  rw [← List.map_reverse, ← List.map_reverse]
  cases h with
  | same => rfl
  | added new made =>
    have hnew := hfresh new made
    have hothers : xs.filter (k.id · ≠ k.id new) = xs :=
      List.filter_eq_self.2 fun y hy => decide_eq_true (hnew y hy)
    rw [hothers, List.reverse_cons, List.map_append]
    exact k.put_new fun y hy => hnew y (List.mem_reverse.1 hy)
  | changed old new there follows same =>
    have hn' : (xs.reverse.map k.id).Nodup := by
      rw [List.map_reverse, List.nodup_reverse]
      exact hn
    rw [← List.map_reverse]
    exact k.put_changed hn' (List.mem_reverse.2 there) same (hnext old there new follows)

end Keeping

/-- The escalation that is written. -/
def Write.escalation? : Write → Option Escalation
  | escalation e => some e
  | _ => none

/-- How escalations are kept. -/
def Escalation.keeping : Keeping Escalation EscalationRow where
  id := (·.id)
  row := .ofEscalation
  read? := EscalationRow.toEscalation?
  key := (·.id)
  settle := EscalationRow.settle
  key_row _ := rfl
  key_settle _ _ h := h
  key_read := by
    intro r e h
    unfold EscalationRow.toEscalation? at h
    simp only [Option.bind_eq_bind, Option.bind_eq_some_iff] at h
    obtain ⟨text, htext, id, hid, _, -, he⟩ := h
    rw [htext, Option.bind_some, hid, ← Option.some.inj he]

namespace Database

variable {db : Database}

theorem escalations_absorb (h : db.hasTable escalationTable) (w : Write) :
    (db.absorb w).escalations = Escalation.keeping.putAll w.escalation?.toList db.escalations := by
  cases w with
  | escalation e =>
    rw [absorb_eq rfl, if_pos h]
    rfl
  | job | session | block | unblock =>
    rw [absorb_eq rfl]
    split <;> rfl

/-- The escalations that are written are put into their table, in order. -/
theorem escalations_absorbAll (h : db.hasTable escalationTable) (ws : List Write) :
    (db.absorbAll ws).escalations =
      Escalation.keeping.putAll (ws.filterMap Write.escalation?) db.escalations :=
  rows_absorbAll Escalation.keeping Database.escalations Write.escalation? escalations_absorb h ws

/-- A database with all tables and no record in any of them. -/
structure Blank (db : Database) : Prop where
  jobTable : db.hasTable jobTable
  sessionTable : db.hasTable sessionTable
  escalationTable : db.hasTable escalationTable
  blockedTable : db.hasTable blockedTable
  jobs : db.jobs = []
  sessions : db.sessions = []
  escalations : db.escalations = []
  blocked : db.blocked = []

end Database

namespace Desk

variable {db : Database} {ops : List (Surroundings × Operation)} {s : Surroundings} {d d' : Desk}
  {now : Instant}

/-! ## Fresh records, on a clock -/

/-- As far as sessions and escalations are kept, new ones have new identifiers. -/
structure FreshRecords (ops : List (Surroundings × Operation)) : Prop where
  transfers : ∀ p ∈ ops, ∀ q ∈ ops, ∀ m n, m < n → n < Database.startLimit →
    p.1.newTransfer m ≠ q.1.newTransfer n
  escalations : ∀ p ∈ ops, ∀ q ∈ ops, ∀ m n, m < n → n < EscalationLog.capacity →
    (p.1.stamp m).id ≠ (q.1.stamp n).id

/-- The clock never goes back, from one reading to the next and from one operation to the next, and
shows years of four digits. -/
structure Clocked (ops : List (Surroundings × Operation)) : Prop where
  runs : ∀ p ∈ ops, p.1.now.Runs
  ordered : ops.Pairwise fun p q => ∀ n, p.1.now n ≤ q.1.now n
  stamps : ∀ p ∈ ops, ∀ n, (p.1.stamp n).time.FourDigitYear

/-- There are not more records than a start takes in. -/
structure Within (d : Desk) : Prop where
  jobs : d.jobs.jobs.length ≤ Database.startLimit
  transfers : d.made.transfers ≤ Database.startLimit
  escalations : d.made.escalations ≤ EscalationLog.capacity

/-! ## Jobs -/

/-- The table of jobs follows the register, where no job changes after `now`. -/
structure KeepsJobs (db : Database) (now : Instant) (d : Desk) : Prop where
  rows : (db.absorbAll d.writes).jobs = (d.jobs.jobs.map JobRow.ofJob).reverse
  ids : (d.jobs.jobs.map (·.id)).Nodup
  times : ∀ j ∈ d.jobs.jobs, j.FourDigitYears ∧ j.updatedAt ≤ now

/-- The table of sessions follows the register. Their identifiers are those of sessions that were
made, and the index knows the SIDs of their legs. -/
structure KeepsSessions (db : Database) (ops : List (Surroundings × Operation)) (now : Instant)
    (d : Desk) : Prop where
  rows : (db.absorbAll d.writes).sessions = (d.transfers.sessions.map SessionRow.ofSession).reverse
  keyed : d.transfers.Keyed
  coherent : d.transfers.Coherent
  times : ∀ t ∈ d.transfers.sessions, t.FourDigitYears ∧ t.updatedAt ≤ now
  made : ∀ t ∈ d.transfers.sessions, ∃ p ∈ ops, ∃ m < d.made.transfers, t.id = p.1.newTransfer m
  length : d.transfers.sessions.length ≤ d.made.transfers

/-- The table of escalations follows the log, which has all of them. -/
structure KeepsEscalations (db : Database) (ops : List (Surroundings × Operation)) (d : Desk) :
    Prop where
  rows : (db.absorbAll d.writes).escalations.Perm
    (d.gate.escalations.map EscalationRow.ofEscalation)
  ids : (d.gate.escalations.map (·.id)).Nodup
  times : ∀ e ∈ d.gate.escalations, e.createdAt.FourDigitYear
  made : ∀ e ∈ d.gate.escalations, ∃ p ∈ ops, ∃ m < d.made.escalations, e.id = (p.1.stamp m).id
  length : d.gate.escalations.length = d.made.escalations

variable {job : Option Job} {session : Option Session} {escalation : Option Escalation}
  {policy : List Write}

/-- What changes from now on is the newer one. -/
theorem settle_changed {old new : Job} {m n : Nat} (h : Job.ChangedAt (s.now.Shows m n) old new)
    (hyears : old.FourDigitYears) (hpast : old.updatedAt ≤ s.now m) (hclock : s.now.Runs) :
    JobRow.settle (.ofJob old) (.ofJob new) = .ofJob new := by
  have hle : old.updatedAt.toMicros ≤ new.updatedAt.toMicros :=
    Instant.toMicros_le (Instant.le_trans hpast (h.updatedAt.start_le hclock))
  rw [JobRow.settle_ofJob hyears.updatedAt (h.updatedAt.year hclock) h.createdAt.symm]
  unfold later
  rw [if_pos hle]

theorem KeepsJobs.tells (h : KeepsJobs db (s.now d.readings) d) (hdb : db.Blank)
    (hclock : s.now.Runs) (htells : Tells s True d d' job session escalation policy) :
    KeepsJobs db (s.now d'.readings) d' := by
  have hwrites : d'.writes.filterMap Write.job? = d.writes.filterMap Write.job? ++ job.toList := by
    rw [htells.filterMap_writes (fun _ => rfl) (fun _ => rfl)]
    cases job <;> cases session <;> cases escalation <;> rfl
  have hlater := hclock.ordered _ _ htells.readings
  refine ⟨?_, htells.jobs.nodup h.ids, htells.jobs.forall (fun j hj =>
    ⟨(h.times j hj).1, Instant.le_trans (h.times j hj).2 hlater⟩) (fun j hj => ?_) ?_⟩
  · rw [Database.jobs_absorbAll hdb.jobTable, hwrites, Keeping.putAll_append,
      ← Database.jobs_absorbAll hdb.jobTable, h.rows]
    refine Job.keeping.putAll_recorded htells.jobs h.ids (fun j hj k hk => ?_) ?_
    · exact JobRegister.get?_eq_none_iff.1 (hj.2 trivial) k hk
    · intro old hold new hnext
      obtain ⟨hyears, hpast⟩ := h.times old hold
      rw [Job.keeping_settle, Job.keeping_row]
      exact settle_changed hnext hyears hpast hclock
  · exact ⟨⟨hj.1.createdAt.year hclock, hj.1.updatedAt.year hclock,
      fun a ha => (hj.1.attempts a ha).year hclock⟩, hj.1.updatedAt.le_end hclock⟩
  · intro old hold new hnext _
    obtain ⟨hyears, -⟩ := h.times old hold
    refine ⟨⟨hnext.createdAt ▸ hyears.createdAt, hnext.updatedAt.year hclock, fun a ha => ?_⟩,
      hnext.updatedAt.le_end hclock⟩
    rcases hnext.attempts a ha with hnow | ⟨b, hb, hab⟩
    · exact hnow.year hclock
    · exact hab ▸ hyears.attempts b hb

/-! ## Sessions -/

/-- What changes from now on is the newer one. -/
theorem settle_changedSession {old new : Session} {m n : Nat}
    (h : Session.ChangedAt (s.now.Shows m n) old new) (hyears : old.FourDigitYears)
    (hpast : old.updatedAt ≤ s.now m) (hclock : s.now.Runs) :
    SessionRow.settle (.ofSession old) (.ofSession new) = .ofSession new := by
  have hle : old.updatedAt.toMicros ≤ new.updatedAt.toMicros :=
    Instant.toMicros_le (Instant.le_trans hpast (h.updatedAt.start_le hclock))
  rw [SessionRow.settle_ofSession hyears.updatedAt (h.updatedAt.year hclock) h.createdAt.symm
    h.jobId.symm h.attemptId.symm]
  unfold later
  rw [if_pos hle]

/-- A turn keeps the index of sessions right if the next session is new. -/
theorem Turn.coherent {unique : Prop} (h : Turn s unique d d') (hc : d.transfers.Coherent)
    (hnew : d.made.transfers < d'.made.transfers →
      d.transfers.get? (s.newTransfer d.made.transfers) = none) : d'.transfers.Coherent := by
  cases h with
  | acted | counted | registered | patched | dialed | escalated => exact hc
  | opened mode input made =>
    subst made
    exact hc.insert (hnew (Nat.lt_succ_self _)) rfl
  | moved h => exact hc.setStatus h
  | joined bind free => exact hc.bindSid bind
  | blocked raw =>
    obtain ⟨blocked, trace, heq⟩ := block_eq raw d
    rw [heq]
    exact hc
  | unblocked raw =>
    obtain ⟨blocked, trace, heq⟩ := unblock_eq raw d
    rw [heq]
    exact hc

/-- The next session is new. -/
theorem KeepsSessions.next (h : KeepsSessions db ops now d) (hs : ∃ op, (s, op) ∈ ops)
    (hfresh : FreshRecords ops) (hlimit : d.made.transfers < Database.startLimit) :
    ∀ t ∈ d.transfers.sessions, t.id ≠ s.newTransfer d.made.transfers := by
  intro t ht
  obtain ⟨p, hp, m, hm, hid⟩ := h.made t ht
  obtain ⟨op, hop⟩ := hs
  rw [hid]
  exact hfresh.transfers p hp (s, op) hop m _ hm hlimit

theorem KeepsSessions.turn (h : KeepsSessions db ops (s.now d.readings) d) (hdb : db.Blank)
    (hclock : s.now.Runs) (hs : ∃ op, (s, op) ∈ ops) (hfresh : FreshRecords ops)
    (hlimit : d'.made.transfers ≤ Database.startLimit) (hturn : Turn s True d d')
    (htells : Tells s True d d' job session escalation policy) :
    KeepsSessions db ops (s.now d'.readings) d' := by
  have hwrites : d'.writes.filterMap Write.session? =
      d.writes.filterMap Write.session? ++ session.toList := by
    rw [htells.filterMap_writes (fun _ => rfl) (fun _ => rfl)]
    cases job <;> cases session <;> cases escalation <;> rfl
  have hnext : d.made.transfers < d'.made.transfers →
      ∀ t ∈ d.transfers.sessions, t.id ≠ s.newTransfer d.made.transfers :=
    fun hlt => h.next hs hfresh (Nat.lt_of_lt_of_le hlt hlimit)
  have hlater := hclock.ordered _ _ htells.readings
  refine ⟨?_, htells.sessions.nodup h.keyed, hturn.coherent h.coherent fun hlt => ?_,
    htells.sessions.forall (fun t ht =>
      ⟨(h.times t ht).1, Instant.le_trans (h.times t ht).2 hlater⟩) (fun t ht => ?_) ?_,
    htells.sessions.forall (fun t ht => ?_) (fun t ht => ?_) ?_, ?_⟩
  · rw [Database.sessions_absorbAll hdb.sessionTable, hwrites, Keeping.putAll_append,
      ← Database.sessions_absorbAll hdb.sessionTable, h.rows]
    refine Session.keeping.putAll_recorded htells.sessions h.keyed (fun t ht k hk => ?_) ?_
    · change k.id ≠ t.id
      rw [ht.2.1]
      exact hnext ht.2.2 k hk
    · intro old hold new hchanged
      obtain ⟨hyears, hpast⟩ := h.times old hold
      rw [Session.keeping_settle, Session.keeping_row]
      exact settle_changedSession hchanged hyears hpast hclock
  · exact TransferRegister.get?_eq_none_iff.2 (hnext hlt)
  · exact ⟨⟨ht.1.createdAt.year hclock, ht.1.updatedAt.year hclock⟩, ht.1.updatedAt.le_end hclock⟩
  · intro old hold new hchanged _
    obtain ⟨hyears, -⟩ := h.times old hold
    exact ⟨⟨hchanged.createdAt ▸ hyears.createdAt, hchanged.updatedAt.year hclock⟩,
      hchanged.updatedAt.le_end hclock⟩
  · obtain ⟨p, hp, m, hm, hid⟩ := h.made t ht
    exact ⟨p, hp, m, Nat.lt_of_lt_of_le hm htells.transfersMade, hid⟩
  · obtain ⟨op, hop⟩ := hs
    exact ⟨(s, op), hop, d.made.transfers, ht.2.2, ht.2.1⟩
  · intro old hold new _ hid
    obtain ⟨p, hp, m, hm, hid'⟩ := h.made old hold
    exact ⟨p, hp, m, Nat.lt_of_lt_of_le hm htells.transfersMade, hid.trans hid'⟩
  · have hlength := h.length
    have hmade := htells.transfersMade
    have hrecorded := htells.sessions
    generalize d'.transfers.sessions = ts at hrecorded ⊢
    cases hrecorded with
    | same => omega
    | added t ht =>
      have hfilter := List.length_filter_le (fun x : Session => decide (x.id ≠ t.id))
        d.transfers.sessions
      have hlt := ht.2.2
      rw [List.length_cons]
      omega
    | changed old new there follows same =>
      rw [List.length_map]
      omega

/-! ## Escalations -/

theorem KeepsEscalations.turn (h : KeepsEscalations db ops d) (hdb : db.Blank)
    (hstamps : ∀ n, (s.stamp n).time.FourDigitYear) (hs : ∃ op, (s, op) ∈ ops)
    (hfresh : FreshRecords ops) (hlimit : d'.made.escalations ≤ EscalationLog.capacity)
    (htells : Tells s True d d' job session escalation policy) : KeepsEscalations db ops d' := by
  have hwrites : d'.writes.filterMap Write.escalation? =
      d.writes.filterMap Write.escalation? ++ escalation.toList := by
    rw [htells.filterMap_writes (fun _ => rfl) (fun _ => rfl)]
    cases job <;> cases session <;> cases escalation <;> rfl
  have hrows : (db.absorbAll d'.writes).escalations =
      Escalation.keeping.putAll escalation.toList (db.absorbAll d.writes).escalations := by
    rw [Database.escalations_absorbAll hdb.escalationTable, hwrites, Keeping.putAll_append,
      ← Database.escalations_absorbAll hdb.escalationTable]
  have hlog := htells.log
  have hmade := htells.escalationsMade
  cases escalation with
  | none =>
    change d'.gate.escalations = d.gate.escalations at hlog
    change d'.made.escalations = d.made.escalations at hmade
    have hrows' : (db.absorbAll d'.writes).escalations =
        (db.absorbAll d.writes).escalations := hrows
    constructor
    · rw [hrows', hlog]
      exact h.rows
    · rw [hlog]
      exact h.ids
    · rw [hlog]
      exact h.times
    · rw [hlog, hmade]
      exact h.made
    · rw [hlog, hmade]
      exact h.length
  | some e =>
    change d'.made.escalations = d.made.escalations + 1 at hmade
    have hstamp := htells.stamped e rfl
    have hid : e.id = (s.stamp d.made.escalations).id := congrArg Stamp.id hstamp
    have htime : e.createdAt = (s.stamp d.made.escalations).time := congrArg Stamp.time hstamp
    obtain ⟨op, hop⟩ := hs
    -- there is room for one more, and its identifier is new
    have hnew : ∀ k ∈ d.gate.escalations, k.id ≠ e.id := by
      intro k hk
      obtain ⟨p, hp, m, hm, hkid⟩ := h.made k hk
      rw [hkid, hid]
      exact hfresh.escalations p hp (s, op) hop m _ hm (by omega)
    have hroom : d'.gate.escalations = e :: d.gate.escalations := by
      have hlength := h.length
      rw [hlog]
      exact List.take_of_length_le (by rw [List.length_cons]; omega)
    have hput : (db.absorbAll d'.writes).escalations =
        (db.absorbAll d.writes).escalations ++ [EscalationRow.ofEscalation e] := by
      refine hrows.trans (Table.put_of_forall_ne fun r hr hkey => ?_)
      obtain ⟨k, hk, rfl⟩ := List.mem_map.1 (h.rows.mem_iff.1 hr)
      exact hnew k hk (Escalation.keeping.key_row_eq_iff.1 hkey)
    constructor
    · rw [hput, hroom, List.map_cons]
      exact (h.rows.append_right _).trans (List.perm_append_singleton ..)
    · rw [hroom, List.map_cons, List.nodup_cons]
      refine ⟨fun hmem => ?_, h.ids⟩
      obtain ⟨k, hk, hkid⟩ := List.mem_map.1 hmem
      exact hnew k hk hkid
    · rw [hroom]
      intro k hk
      rcases List.mem_cons.1 hk with rfl | hk
      · exact htime ▸ hstamps _
      · exact h.times k hk
    · rw [hroom, hmade]
      intro k hk
      rcases List.mem_cons.1 hk with rfl | hk
      · exact ⟨(s, op), hop, _, Nat.lt_succ_self _, hid⟩
      · obtain ⟨p, hp, m, hm, hkid⟩ := h.made k hk
        exact ⟨p, hp, m, Nat.lt_succ_of_lt hm, hkid⟩
    · rw [hroom, hmade, List.length_cons, h.length]

/-! ## Everything -/

/-- Every table follows what is in memory, and the block list what was written about its numbers. -/
structure Keeps (c : SafetyConfig) (db : Database) (ops : List (Surroundings × Operation))
    (now : Instant) (d : Desk) : Prop where
  jobs : KeepsJobs db now d
  sessions : KeepsSessions db ops now d
  escalations : KeepsEscalations db ops d
  blocked : Records (.ofRaw c.blockedNumbers) d

variable {c : SafetyConfig}

theorem keeps_ofConfig (hdb : db.Blank) (now : Instant) : Keeps c db ops now (ofConfig c) where
  jobs := ⟨hdb.jobs, List.nodup_nil, fun _ hj => absurd hj List.not_mem_nil⟩
  sessions := ⟨hdb.sessions, TransferRegister.keyed_empty, TransferRegister.coherent_empty,
    fun _ ht => absurd ht List.not_mem_nil, fun _ ht => absurd ht List.not_mem_nil, Nat.le_refl _⟩
  escalations := ⟨.of_eq hdb.escalations, List.nodup_nil, fun _ he => absurd he List.not_mem_nil,
    fun _ he => absurd he List.not_mem_nil, rfl⟩
  blocked := records_ofConfig c

theorem Keeps.mono {now' : Instant} (h : Keeps c db ops now d) (hle : now ≤ now') :
    Keeps c db ops now' d where
  jobs := ⟨h.jobs.rows, h.jobs.ids, fun j hj =>
    ⟨(h.jobs.times j hj).1, Instant.le_trans (h.jobs.times j hj).2 hle⟩⟩
  sessions := ⟨h.sessions.rows, h.sessions.keyed, h.sessions.coherent, fun t ht =>
    ⟨(h.sessions.times t ht).1, Instant.le_trans (h.sessions.times t ht).2 hle⟩, h.sessions.made,
    h.sessions.length⟩
  escalations := h.escalations
  blocked := h.blocked

/-- **Every turn keeps the tables up to date.** -/
theorem Turn.keeps (h : Turn s True d d') (hdb : db.Blank) (hclock : Clocked ops)
    (hfresh : FreshRecords ops) (hs : ∃ op, (s, op) ∈ ops)
    (htransfers : d'.made.transfers ≤ Database.startLimit)
    (hescalations : d'.made.escalations ≤ EscalationLog.capacity)
    (hd : Keeps c db ops (s.now d.readings) d) : Keeps c db ops (s.now d'.readings) d' := by
  obtain ⟨op, hop⟩ := hs
  have hruns : s.now.Runs := hclock.runs (s, op) hop
  obtain ⟨job, session, escalation, policy, htells⟩ := h.tells hd.jobs.ids hd.sessions.keyed
  exact ⟨hd.jobs.tells hdb hruns htells,
    hd.sessions.turn hdb hruns ⟨op, hop⟩ hfresh htransfers h htells,
    hd.escalations.turn hdb (hclock.stamps (s, op) hop) ⟨op, hop⟩ hfresh hescalations htells,
    h.changes.keeps (fun _ _ hstep => hstep.records) hd.blocked⟩

theorem Turns.keeps (h : Turns s True d d') (hdb : db.Blank) (hclock : Clocked ops)
    (hfresh : FreshRecords ops) (hs : ∃ op, (s, op) ∈ ops)
    (htransfers : d'.made.transfers ≤ Database.startLimit)
    (hescalations : d'.made.escalations ≤ EscalationLog.capacity)
    (hd : Keeps c db ops (s.now d.readings) d) : Keeps c db ops (s.now d'.readings) d' := by
  induction h with
  | refl => exact hd
  | tail _ hlast ih =>
    obtain ⟨hle, hle'⟩ := hlast.made_le
    exact hlast.keeps hdb hclock hfresh hs htransfers hescalations
      (ih (Nat.le_trans hle htransfers) (Nat.le_trans hle' hescalations))

/-! ## What a start loads -/

/-- Rows that read back as records are loaded as these, in some order. -/
theorem newest_filterMap_perm {σ ρ : Type} {row : σ → ρ} {read? : ρ → Option σ} {cut : σ → σ}
    {text : ρ → String} {limit : Nat} {xs : List σ} {rows : List ρ} (hrows : rows.Perm (xs.map row))
    (hread : ∀ x ∈ xs, read? (row x) = some (cut x)) (hlimit : xs.length ≤ limit) :
    ((Table.newest text limit rows).filterMap read?).Perm (xs.map cut) := by
  have hlength : rows.length ≤ limit := by
    rw [hrows.length_eq, List.length_map]
    exact hlimit
  refine (((Table.newest_perm hlength).trans hrows).filterMap read?).trans (.of_eq ?_)
  rw [List.filterMap_map, ← List.filterMap_eq_map]
  exact List.filterMap_congr hread

theorem stored_eq {es : List Escalation} {numbers : List String} {js : List Job} {ts : List Session}
    (hescalations : db.loadEscalations EscalationLog.capacity = .ok es)
    (hblocked : db.loadBlocked = .ok numbers) (hjobs : db.loadJobs Database.startLimit = .ok js)
    (hsessions : db.loadSessions Database.startLimit = .ok ts) :
    db.stored = .ok ⟨es, numbers, js, ts⟩ := by
  unfold Database.stored Database.load
  rw [hescalations, hblocked, hjobs, hsessions]
  rfl

/-- **A start loads what is in memory**, with times cut to microseconds. -/
theorem Keeps.stored (h : Keeps c db ops now d) (hdb : db.Blank) (hwithin : Within d) :
    ∃ stored, (db.absorbAll d.writes).stored = .ok stored ∧
      stored.jobs.Perm (d.jobs.jobs.map Job.toMicros) ∧
      stored.sessions.Perm (d.transfers.sessions.map Session.toMicros) ∧
      stored.escalations.Perm (d.gate.escalations.map Escalation.toMicros) ∧
      ∀ n, n ∈ stored.blocked ↔ Write.lastWord? n d.writes = some true := by
  have htable : ∀ {table}, db.hasTable table → (db.absorbAll d.writes).hasTable table :=
    fun h => (Database.hasTable_absorbAll d.writes _).trans h
  obtain ⟨loaded, hload, -, hmem⟩ := Database.loadBlocked_spec (htable hdb.blockedTable)
    (Database.nodup_blocked_absorbAll (hdb.blocked ▸ List.nodup_nil) d.writes)
  have hjobs := Database.loadJobs_eq (htable hdb.jobTable) Database.startLimit
  have hsessions := Database.loadSessions_eq (htable hdb.sessionTable) Database.startLimit
  have hescalations : (db.absorbAll d.writes).loadEscalations EscalationLog.capacity = .ok _ :=
    if_pos (htable hdb.escalationTable)
  refine ⟨_, stored_eq hescalations hload hjobs hsessions, ?_, ?_, ?_, fun n => ?_⟩
  · refine newest_filterMap_perm ((List.Perm.of_eq h.jobs.rows).trans (List.reverse_perm _))
      (fun j hj => ?_) hwithin.jobs
    exact JobRow.toJob?_ofJob (h.jobs.times j hj).1
  · refine newest_filterMap_perm ((List.Perm.of_eq h.sessions.rows).trans
      (List.reverse_perm _))
      (fun t ht => ?_) (Nat.le_trans h.sessions.length hwithin.transfers)
    exact SessionRow.toSession?_ofSession (h.sessions.times t ht).1
  · refine newest_filterMap_perm h.escalations.rows (fun e he => ?_)
      (h.escalations.length ▸ hwithin.escalations)
    exact EscalationRow.toEscalation?_ofEscalation (h.escalations.times e he)
  · rw [hmem, Database.mem_blocked_absorbAll hdb.blockedTable, hdb.blocked]
    cases Write.lastWord? n d.writes <;> simp

end Desk

end ShelterLine

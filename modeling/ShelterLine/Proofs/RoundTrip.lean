import ShelterLine.Proofs.Kept

/-!
# What is put into a table is loaded from it

Jobs, sessions and escalations are put into tables of their own and loaded in the same way: the rows
with the greatest text of a time are read, one by one, and a row that does not read is passed over.
An `Archive` is what the three have in common. From it follows that a new record is loaded with the
others, whole but for its times, which are cut to microseconds; that no row of a record is passed
over; and that a limit leaves out the oldest.
-/

namespace ShelterLine

open Database Schema

/-! ## Queries and rows that are put -/

namespace Table

variable {ρ : Type} {key : ρ → Option String} {settle : ρ → ρ → ρ} {rows : List ρ} {new : ρ}

theorem length_newest (text : ρ → String) (limit : Nat) (rows : List ρ) :
    (newest text limit rows).length = min limit rows.length := by
  unfold newest
  rw [List.length_take, List.length_mergeSort]

/-- What a query leaves out comes after all that it gives. -/
theorem exists_newest_append (text : ρ → String) (limit : Nat) (rows : List ρ) :
    ∃ older, (newest text limit rows ++ older).Perm rows ∧
      (newest text limit rows ++ older).Pairwise fun a b => text b ≤ text a := by
  have htrans : ∀ a b c : ρ, decide (text b ≤ text a) → decide (text c ≤ text b) →
      decide (text c ≤ text a) := by
    intro a b c hab hbc
    exact decide_eq_true (String.le_trans (of_decide_eq_true hbc) (of_decide_eq_true hab))
  have htotal : ∀ a b : ρ, decide (text b ≤ text a) || decide (text a ≤ text b) := by
    intro a b
    simpa using String.le_total (text b) (text a)
  refine ⟨(rows.mergeSort fun a b => text b ≤ text a).drop limit, ?_⟩
  unfold newest
  rw [List.take_append_drop]
  exact ⟨List.mergeSort_perm rows _,
    (List.pairwise_mergeSort htrans htotal rows).imp of_decide_eq_true⟩

/-- A row that gives way to the row with its key changes nothing. -/
theorem put_of_taken {k : String} (hkey : key new = some k) (hsettle : ∀ old, settle old new = old)
    (h : ∃ r ∈ rows, key r = some k) : put key settle new rows = rows := by
  induction rows with
  | nil =>
    obtain ⟨r, hr, -⟩ := h
    exact absurd hr List.not_mem_nil
  | cons r rows ih =>
    by_cases hr : key r = some k
    · rw [put_of_key_eq hkey hr, hsettle]
    · obtain ⟨r', hr', hk⟩ := h
      have hlater : r' ∈ rows := by
        rcases List.mem_cons.1 hr' with heq | hmem
        · exact absurd (heq ▸ hk) hr
        · exact hmem
      rw [put_of_key_ne fun hsame => hr (hsame.2.trans hkey), ih ⟨r', hlater, hk⟩]

end Table

/-! ## Archives -/

/-- How records of one kind are put into a database and loaded from it: which of them a row can
keep, what it keeps of one, and the time by which they are loaded. -/
structure Archive (σ ρ : Type) extends Keeping σ ρ where
  Sound : σ → Prop
  cut : σ → σ
  stamp : σ → Instant
  text : ρ → String
  table : String
  rows : Database → List ρ
  put : Database → σ → Except DatabaseError Database
  load : Database → Nat → Except DatabaseError (List σ)
  read_row : ∀ {s}, Sound s → read? (row s) = some (cut s)
  text_le_iff : ∀ {a b}, Sound a → Sound b →
    (text (row a) ≤ text (row b) ↔ stamp (cut a) ≤ stamp (cut b))
  settle_row : ∀ {a b}, Sound a → Sound b → ∃ c, Sound c ∧ settle (row a) (row b) = row c
  put_eq : ∀ {db}, db.hasTable table → ∀ s, ∃ db', put db s = .ok db' ∧ db'.hasTable table ∧
    rows db' = Table.put key settle (row s) (rows db)
  load_eq : ∀ {db}, db.hasTable table → ∀ limit,
    load db limit = .ok ((Table.newest text limit (rows db)).filterMap read?)

namespace Archive

variable {σ ρ : Type} (A : Archive σ ρ) {db : Database} {s : σ} {records : List σ}

/-- The rows of a database are those of the records. -/
structure Holds (db : Database) (records : List σ) : Prop where
  sound : ∀ s ∈ records, A.Sound s
  rows : A.rows db = records.map A.row

/-- What comes back of the records that are put into a database. -/
structure RoundTrips (db : Database) : Prop where
  /-- A record with a new identifier is loaded with the others. -/
  returned : ∀ s, A.Sound s → (∀ r ∈ A.rows db, A.key r ≠ some (A.id s).toString) →
    ∃ db', A.put db s = .ok db' ∧ ∀ limit, (A.rows db).length < limit →
      ∃ old new, A.load db limit = .ok old ∧ A.load db' limit = .ok new ∧ new.Perm (A.cut s :: old)
  /-- No row of a record is passed over, whatever the other rows are. -/
  noneSkipped : ∀ limit, ∃ loaded, A.load db limit = .ok loaded ∧
    ∀ s, A.Sound s → A.row s ∈ Table.newest A.text limit (A.rows db) → A.cut s ∈ loaded
  /-- The newest records are loaded, as many as the limit allows, from the newest to the oldest. -/
  newest : ∀ records, A.Holds db records → ∀ limit, ∃ loaded left, A.load db limit = .ok loaded ∧
    loaded.length = min limit records.length ∧ (loaded ++ left).Perm (records.map A.cut) ∧
    (loaded.Pairwise fun a b => A.stamp b ≤ A.stamp a) ∧
    ∀ a ∈ loaded, ∀ b ∈ left, A.stamp b ≤ A.stamp a
  /-- Records that are put into a database of records leave a database of records. -/
  kept : ∀ records, A.Holds db records → ∀ written : List σ, (∀ s ∈ written, A.Sound s) →
    ∃ db' records', written.foldlM A.put db = .ok db' ∧ A.Holds db' records'

theorem returned (h : db.hasTable A.table) (hs : A.Sound s)
    (hnew : ∀ r ∈ A.rows db, A.key r ≠ some (A.id s).toString) :
    ∃ db', A.put db s = .ok db' ∧ ∀ limit, (A.rows db).length < limit →
      ∃ old new, A.load db limit = .ok old ∧ A.load db' limit = .ok new ∧
        new.Perm (A.cut s :: old) := by
  obtain ⟨db', hput, htable, hrows⟩ := A.put_eq h s
  rw [Table.put_of_forall_ne fun r hr => by rw [A.key_row]; exact hnew r hr] at hrows
  refine ⟨db', hput, fun limit hlimit => ⟨_, _, A.load_eq h limit, A.load_eq htable limit, ?_⟩⟩
  have hlength : (A.rows db').length ≤ limit := by
    rw [hrows, List.length_append, List.length_singleton]
    omega
  have hread : [A.row s].filterMap A.read? = [A.cut s] := List.filterMap_cons_some (A.read_row hs)
  have hload : ∀ d : Database, (A.rows d).length ≤ limit →
      ((Table.newest A.text limit (A.rows d)).filterMap A.read?).Perm
      ((A.rows d).filterMap A.read?) :=
    fun _ hd => (Table.newest_perm hd).filterMap A.read?
  have happend : (A.rows db').filterMap A.read? = (A.rows db).filterMap A.read? ++ [A.cut s] := by
    rw [hrows, List.filterMap_append, hread]
  have hafter := hload db' hlength
  rw [happend] at hafter
  exact hafter.trans ((List.perm_append_singleton ..).trans
    ((hload db (Nat.le_of_lt hlimit)).symm.cons _))

/-- Rows of records read back one by one, in the order of their times. -/
theorem pairwise_stamp {rs : List ρ} (hrs : ∀ r ∈ rs, ∃ s, A.Sound s ∧ A.row s = r)
    (hsorted : rs.Pairwise fun a b => A.text b ≤ A.text a) :
    (rs.filterMap A.read?).Pairwise fun a b => A.stamp b ≤ A.stamp a := by
  rw [List.pairwise_filterMap]
  refine hsorted.imp_of_mem fun {r r'} hr hr' hle a ha b hb => ?_
  obtain ⟨s, hs, rfl⟩ := hrs r hr
  obtain ⟨s', hs', rfl⟩ := hrs r' hr'
  rw [A.read_row hs] at ha
  rw [A.read_row hs'] at hb
  rw [← Option.some.inj ha, ← Option.some.inj hb]
  exact (A.text_le_iff hs' hs).1 hle

theorem newest (h : db.hasTable A.table) (hdb : A.Holds db records) (limit : Nat) :
    ∃ loaded left, A.load db limit = .ok loaded ∧ loaded.length = min limit records.length ∧
      (loaded ++ left).Perm (records.map A.cut) ∧
      (loaded.Pairwise fun a b => A.stamp b ≤ A.stamp a) ∧
      ∀ a ∈ loaded, ∀ b ∈ left, A.stamp b ≤ A.stamp a := by
  obtain ⟨older, hperm, hsorted⟩ := Table.exists_newest_append A.text limit (A.rows db)
  have hrow : ∀ r ∈ A.rows db, ∃ s, A.Sound s ∧ A.row s = r := by
    intro r hr
    rw [hdb.rows] at hr
    obtain ⟨s, hs, heq⟩ := List.mem_map.1 hr
    exact ⟨s, hdb.sound s hs, heq⟩
  have hread : (A.rows db).filterMap A.read? = records.map A.cut := by
    rw [hdb.rows, List.filterMap_map, ← List.filterMap_eq_map]
    exact List.filterMap_congr fun s hs => A.read_row (hdb.sound s hs)
  have horder := A.pairwise_stamp (fun r hr => hrow r (hperm.mem_iff.1 hr)) hsorted
  rw [List.filterMap_append, List.pairwise_append] at horder
  refine ⟨_, older.filterMap A.read?, A.load_eq h limit, ?_, ?_, horder.1, horder.2.2⟩
  · have hall : ∀ r ∈ Table.newest A.text limit (A.rows db), (A.read? r).isSome := by
      intro r hr
      obtain ⟨s, hs, rfl⟩ := hrow r (hperm.mem_iff.1 (List.mem_append_left older hr))
      rw [A.read_row hs]
      rfl
    rw [List.filterMap_length_eq_length.2 hall, Table.length_newest, hdb.rows, List.length_map]
  · rw [← List.filterMap_append, ← hread]
    exact hperm.filterMap A.read?

/-- Of a new record and the records of a table a row each is left, or the row of what
two of them settle on. -/
theorem exists_put_map (hs : A.Sound s) (hrecords : ∀ t ∈ records, A.Sound t) :
    ∃ records' : List σ, (∀ t ∈ records', A.Sound t) ∧
      Table.put A.key A.settle (A.row s) (records.map A.row) = records'.map A.row := by
  induction records with
  | nil => exact ⟨[s], fun t ht => List.mem_singleton.1 ht ▸ hs, rfl⟩
  | cons t records ih =>
    obtain ⟨ht, hrest⟩ := List.forall_mem_cons.1 hrecords
    rw [List.map_cons]
    by_cases hid : A.id t = A.id s
    · obtain ⟨c, hc, hsettle⟩ := A.settle_row ht hs
      refine ⟨c :: records, List.forall_mem_cons.2 ⟨hc, hrest⟩, ?_⟩
      rw [Table.put_of_key_eq (A.key_row s) (hid ▸ A.key_row t), hsettle, List.map_cons]
    · obtain ⟨records', hsound, hput⟩ := ih hrest
      refine ⟨t :: records', List.forall_mem_cons.2 ⟨ht, hsound⟩, ?_⟩
      rw [Table.put_of_key_ne fun hkey => hid (A.key_row_eq_iff.1 hkey.2), hput, List.map_cons]

theorem exists_holds_put (h : db.hasTable A.table) (hdb : A.Holds db records) (hs : A.Sound s) :
    ∃ db' records', A.put db s = .ok db' ∧ db'.hasTable A.table ∧ A.Holds db' records' := by
  obtain ⟨db', hput, htable, hrows⟩ := A.put_eq h s
  obtain ⟨records', hsound, hmap⟩ := A.exists_put_map hs hdb.sound
  rw [hdb.rows, hmap] at hrows
  exact ⟨db', records', hput, htable, hsound, hrows⟩

theorem kept {written : List σ} (h : db.hasTable A.table) (hdb : A.Holds db records)
    (hwritten : ∀ s ∈ written, A.Sound s) :
    ∃ db' records', written.foldlM A.put db = .ok db' ∧ A.Holds db' records' := by
  induction written generalizing db records with
  | nil => exact ⟨db, records, rfl, hdb⟩
  | cons s written ih =>
    obtain ⟨hs, hrest⟩ := List.forall_mem_cons.1 hwritten
    obtain ⟨db₁, records₁, hput, htable, hheld⟩ := A.exists_holds_put h hdb hs
    rw [List.foldlM_cons, hput]
    exact ih htable hheld hrest

theorem roundTrips (h : db.hasTable A.table) : A.RoundTrips db where
  returned _ hs hnew := A.returned h hs hnew
  noneSkipped limit :=
    ⟨_, A.load_eq h limit, fun s hs hrow => List.mem_filterMap.2 ⟨A.row s, hrow, A.read_row hs⟩⟩
  newest _ hdb limit := A.newest h hdb limit
  kept _ hdb _ hwritten := A.kept h hdb hwritten

end Archive

/-! ## The three kinds of records -/

/-- How jobs are put and loaded. -/
def Job.archive : Archive Job JobRow where
  toKeeping := Job.keeping
  Sound := Job.FourDigitYears
  cut := Job.toMicros
  stamp := Job.updatedAt
  text := JobRow.updatedAt
  table := jobTable
  rows := Database.jobs
  put := Database.putJob
  load := Database.loadJobs
  read_row h := JobRow.toJob?_ofJob h
  text_le_iff ha hb := Instant.toStored_le_iff ha.updatedAt hb.updatedAt
  settle_row := by
    intro a b ha hb
    rw [Job.keeping_settle, Job.keeping_row]
    unfold JobRow.settle
    split
    · exact ⟨{ b with createdAt := a.createdAt }, ⟨ha.createdAt, hb.updatedAt, hb.attempts⟩, rfl⟩
    · exact ⟨a, ha, rfl⟩
  put_eq h _ := ⟨_, if_pos h, h, rfl⟩
  load_eq h := loadJobs_eq h

/-- How sessions are put and loaded. -/
def Session.archive : Archive Session SessionRow where
  toKeeping := Session.keeping
  Sound := Session.FourDigitYears
  cut := Session.toMicros
  stamp := Session.updatedAt
  text := SessionRow.updatedAt
  table := sessionTable
  rows := Database.sessions
  put := Database.putSession
  load := Database.loadSessions
  read_row h := SessionRow.toSession?_ofSession h
  text_le_iff ha hb := Instant.toStored_le_iff ha.updatedAt hb.updatedAt
  settle_row := by
    intro a b ha hb
    rw [Session.keeping_settle, Session.keeping_row]
    unfold SessionRow.settle
    split
    · exact ⟨{ b with createdAt := a.createdAt, jobId := a.jobId, attemptId := a.attemptId },
        ⟨ha.createdAt, hb.updatedAt⟩, rfl⟩
    · exact ⟨a, ha, rfl⟩
  put_eq h _ := ⟨_, if_pos h, h, rfl⟩
  load_eq h := loadSessions_eq h

/-- How escalations are put and loaded. -/
def Escalation.archive : Archive Escalation EscalationRow where
  toKeeping := Escalation.keeping
  Sound e := e.createdAt.FourDigitYear
  cut := Escalation.toMicros
  stamp := Escalation.createdAt
  text := EscalationRow.createdAt
  table := escalationTable
  rows := Database.escalations
  put := Database.putEscalation
  load := Database.loadEscalations
  read_row h := EscalationRow.toEscalation?_ofEscalation h
  text_le_iff ha hb := Instant.toStored_le_iff ha hb
  settle_row ha _ := ⟨_, ha, rfl⟩
  put_eq h _ := ⟨_, if_pos h, h, rfl⟩
  load_eq h _ := if_pos h

namespace Database

variable {db : Database}

/-- An escalation whose identifier is taken leaves the database as it is. -/
theorem putEscalation_of_taken (h : db.hasTable escalationTable) {e : Escalation}
    (htaken : ∃ r ∈ db.escalations, r.id = some e.id.toString) : db.putEscalation e = .ok db := by
  have hput : Table.put (·.id) EscalationRow.settle (.ofEscalation e) db.escalations =
      db.escalations :=
    Table.put_of_taken rfl (fun _ => rfl) htaken
  unfold putEscalation need
  rw [if_pos h, hput]

/-- **Records come back from the rows that they are put into.** In a database that has the tables, a
record that is new is loaded with the others, equal in everything but its own times, which are cut
to microseconds; no row of a record is passed over; a limit leaves out the oldest; and a table of
records is one still when more are put. An escalation is never changed once it is there. -/
theorem records_round_trip (hjobs : db.hasTable jobTable) (hsessions : db.hasTable sessionTable)
    (hescalations : db.hasTable escalationTable) :
    Job.archive.RoundTrips db ∧ Session.archive.RoundTrips db ∧ Escalation.archive.RoundTrips db ∧
      ∀ e : Escalation, (∃ r ∈ db.escalations, r.id = some e.id.toString) →
        db.putEscalation e = .ok db :=
  ⟨Job.archive.roundTrips hjobs, Session.archive.roundTrips hsessions,
    Escalation.archive.roundTrips hescalations, fun _ => putEscalation_of_taken hescalations⟩

/-- An escalation of two and a half microseconds after the start of 1970. -/
def earlyEscalation : Escalation :=
  ⟨⟨5⟩, shortlyAfter, .transcript, "attempt", "Harbor House call needs human follow-up", none⟩

/-- A database with a job and an escalation in it. -/
def begunDatabase : Database :=
  { fresh with jobs := [.ofJob otherJob], escalations := [.ofEscalation earlyEscalation] }

/-- A job and a session lose half a microsecond of their own times on the way, the job's attempt
nothing, and another escalation under the same identifier is not taken in. -/
theorem records_round_trip_dialed :
    (∃ db' old new, begunDatabase.putJob dialedJob = .ok db' ∧ begunDatabase.loadJobs 2 = .ok old ∧
      db'.loadJobs 2 = .ok new ∧ new.Perm (dialedJob.toMicros :: old)) ∧
    (dialedJob.toMicros.updatedAt ≠ dialedJob.updatedAt ∧
      dialedJob.toMicros.attempts.map (·.updatedAt) = [shortlyAfter]) ∧
    (∃ db' old new, begunDatabase.putSession dialedSession = .ok db' ∧
      begunDatabase.loadSessions 1 = .ok old ∧ db'.loadSessions 1 = .ok new ∧
      new.Perm (dialedSession.toMicros :: old)) ∧
    begunDatabase.putEscalation { earlyEscalation with reason := "Other" } = .ok begunDatabase := by
  have htable : begunDatabase.hasTable jobTable := rfl
  obtain ⟨hjobs, hsessions, -, htaken⟩ := records_round_trip htable rfl rfl
  refine ⟨?_, by decide, ?_, htaken _ ⟨_, List.mem_singleton_self _, rfl⟩⟩
  · have hnew : ∀ r ∈ begunDatabase.jobs, r.id ≠ some dialedJob.id.toString := by
      intro r hr hid
      rw [List.mem_singleton.1 hr] at hid
      exact absurd (Uuid.some_toString_inj.1 hid) (by decide)
    obtain ⟨db', hput, hload⟩ := hjobs.returned dialedJob
      (snapshots_dialedJob.years dialedJob (by decide)) hnew
    obtain ⟨old, new, hold, hnew, hperm⟩ := hload 2 (by decide)
    exact ⟨db', old, new, hput, hold, hnew, hperm⟩
  · obtain ⟨db', hput, hload⟩ := hsessions.returned dialedSession
      (snapshots_dialedSession.years dialedSession (by decide)) fun r hr =>
      absurd hr List.not_mem_nil
    obtain ⟨old, new, hold, hnew, hperm⟩ := hload 1 (by decide)
    exact ⟨db', old, new, hput, hold, hnew, hperm⟩

end Database

end ShelterLine

import ShelterLine.Proofs.RoundTrip

/-!
# Stored times are in the order of the instants

A database knows times as texts and compares them as texts: to tell whether a write comes too late,
and to give what is newest. Texts of stored instants are compared as the instants are, once these
are cut to microseconds, over the ends of days, months and years and over leap seconds. All times in
the tables are such texts if those of the records are that are written. So the tables are in the
order of time, and the same rows are kept and given as if the instants themselves had been compared.
-/

namespace ShelterLine

/-! ## Instants -/

namespace Instant

variable {a b : Instant} {s t : String}

/-- Earlier by the day, on one day by the second, and in one second by the nanosecond. -/
instance : LT Instant := ⟨fun a b =>
  a.day < b.day ∨ a.day = b.day ∧ (a.second < b.second ∨ a.second = b.second ∧ a.nano < b.nano)⟩

instance (a b : Instant) : Decidable (a < b) := inferInstanceAs (Decidable (_ ∨ _))

theorem lt_iff_not_le : a < b ↔ ¬ b ≤ a := not_le.symm

theorem toStored_lt_iff (ha : a.FourDigitYear) (hb : b.FourDigitYear) :
    a.toStored < b.toStored ↔ a.toMicros < b.toMicros := by
  rw [lt_iff_not_le, ← toStored_le_iff hb ha, String.not_le]

theorem toStored_eq_iff (ha : a.FourDigitYear) (hb : b.FourDigitYear) :
    a.toStored = b.toStored ↔ a.toMicros = b.toMicros := by
  constructor
  · intro h
    rw [← ofStored_toStored ha, h, ofStored_toStored hb]
  · intro h
    rw [← toStored_toMicros a, h, toStored_toMicros]

/-- The text of an instant, in the years 0 to 9999, as it is stored. -/
def IsStored (s : String) : Prop := ∃ t : Instant, t.FourDigitYear ∧ s = t.toStored

theorem FourDigitYear.isStored (h : a.FourDigitYear) : IsStored a.toStored := ⟨a, h, rfl⟩

theorem ofStored_le_iff (hs : IsStored s) (ht : IsStored t) : ofStored s ≤ ofStored t ↔ s ≤ t := by
  obtain ⟨a, ha, rfl⟩ := hs
  obtain ⟨b, hb, rfl⟩ := ht
  rw [ofStored_toStored ha, ofStored_toStored hb, toStored_le_iff ha hb]

theorem le_toStored_iff (hs : IsStored s) (ha : a.FourDigitYear) :
    s ≤ a.toStored ↔ ofStored s ≤ a.toMicros := by
  rw [← ofStored_toStored ha]
  exact (ofStored_le_iff hs ha.isStored).symm

end Instant

open Instant

/-! ## Tables -/

/-- The rows that a query by time gives: as many as the limit lets through, from the latest to the
earliest, and none is later that is left out. -/
structure Table.LatestFirst {ρ : Type} (time : ρ → Instant) (limit : Nat) (rows given : List ρ) :
    Prop where
  length : given.length = min limit rows.length
  ordered : given.Pairwise fun a b => time b ≤ time a
  left : ∃ left, (given ++ left).Perm rows ∧ ∀ a ∈ given, ∀ b ∈ left, time b ≤ time a

/-- The rows with the greatest texts are the latest. -/
theorem Table.latestFirst_newest {ρ : Type} {text : ρ → String} {rows : List ρ}
    (htext : ∀ r ∈ rows, IsStored (text r)) (limit : Nat) :
    LatestFirst (fun r => ofStored (text r)) limit rows (newest text limit rows) := by
  obtain ⟨left, hperm, hsorted⟩ := exists_newest_append text limit rows
  have htimes : (newest text limit rows ++ left).Pairwise fun a b =>
      ofStored (text b) ≤ ofStored (text a) := by
    refine hsorted.imp_of_mem fun {a b} ha hb hle => ?_
    exact (ofStored_le_iff (htext b (hperm.mem_iff.1 hb)) (htext a (hperm.mem_iff.1 ha))).2 hle
  rw [List.pairwise_append] at htimes
  exact ⟨length_newest text limit rows, htimes.1, left, hperm, htimes.2.2⟩

/-- The times in a table are stored instants still once a row with such a time is put into it. -/
theorem Table.isStored_put {ρ : Type} {key : ρ → Option String} {settle : ρ → ρ → ρ}
    {text : ρ → String} {new : ρ} {rows : List ρ} (hrows : ∀ r ∈ rows, IsStored (text r))
    (hnew : IsStored (text new))
    (hsettle : ∀ old, text (settle old new) = text old ∨ text (settle old new) = text new) :
    ∀ r ∈ put key settle new rows, IsStored (text r) := by
  intro r hr
  -- a row that is neither old nor new was settled, and has the time of the old or of the new one
  rcases mem_put hr with rfl | hold | ⟨old, hold, -, rfl⟩
  · exact hnew
  · exact hrows r hold
  · rcases hsettle old with htext | htext
    · rw [htext]
      exact hrows old hold
    · rw [htext]
      exact hnew

/-! ## Rows -/

/-- When the job that a row keeps was changed. -/
def JobRow.time (r : JobRow) : Instant := ofStored r.updatedAt

/-- When the session that a row keeps was changed. -/
def SessionRow.time (r : SessionRow) : Instant := ofStored r.updatedAt

/-- When the escalation that a row keeps was made. -/
def EscalationRow.time (r : EscalationRow) : Instant := ofStored r.createdAt

theorem JobRow.updatedAt_settle (old new : JobRow) :
    (settle old new).updatedAt = old.updatedAt ∨ (settle old new).updatedAt = new.updatedAt := by
  unfold settle
  split
  · exact Or.inr rfl
  · exact Or.inl rfl

theorem SessionRow.updatedAt_settle (old new : SessionRow) :
    (settle old new).updatedAt = old.updatedAt ∨ (settle old new).updatedAt = new.updatedAt := by
  unfold settle
  split
  · exact Or.inr rfl
  · exact Or.inl rfl

/-- A row is replaced unless what is written was changed before it. -/
theorem JobRow.settle_ofJob_of_isStored {r : JobRow} {j : Job} (hr : IsStored r.updatedAt)
    (hj : j.updatedAt.FourDigitYear) : settle r (ofJob j) =
      if r.time ≤ j.updatedAt.toMicros then { ofJob j with createdAt := r.createdAt } else r :=
  if_congr (le_toStored_iff hr hj) rfl rfl

theorem SessionRow.settle_ofSession_of_isStored {r : SessionRow} {s : Session}
    (hr : IsStored r.updatedAt) (hs : s.updatedAt.FourDigitYear) : settle r (ofSession s) =
      if r.time ≤ s.updatedAt.toMicros then
        { ofSession s with createdAt := r.createdAt, jobId := r.jobId, attemptId := r.attemptId }
      else r :=
  if_congr (le_toStored_iff hr hs) rfl rfl

/-! ## Databases -/

/-- Writes a record at a time in the years 0 to 9999. -/
def Write.Dated : Write → Prop
  | job j => j.updatedAt.FourDigitYear
  | session s => s.updatedAt.FourDigitYear
  | escalation e => e.createdAt.FourDigitYear
  | block _ | unblock _ => True

instance : DecidablePred Write.Dated
  | .job j => inferInstanceAs (Decidable j.updatedAt.FourDigitYear)
  | .session s => inferInstanceAs (Decidable s.updatedAt.FourDigitYear)
  | .escalation e => inferInstanceAs (Decidable e.createdAt.FourDigitYear)
  | .block _ | .unblock _ => inferInstanceAs (Decidable True)

namespace Database

open Schema

variable {db : Database}

/-- Every time by which rows are compared is the text of an instant. -/
structure Dated (db : Database) : Prop where
  jobs : ∀ r ∈ db.jobs, IsStored r.updatedAt
  sessions : ∀ r ∈ db.sessions, IsStored r.updatedAt
  escalations : ∀ r ∈ db.escalations, IsStored r.createdAt

theorem Dated.absorb (h : db.Dated) {w : Write} (hw : w.Dated) : (db.absorb w).Dated := by
  cases w with
  | job j =>
    have hnew : IsStored j.updatedAt.toStored := FourDigitYear.isStored hw
    rw [absorb_eq rfl]
    split
    · exact ⟨Table.isStored_put h.jobs hnew fun old => JobRow.updatedAt_settle old (.ofJob j),
        h.sessions, h.escalations⟩
    · exact h
  | session s =>
    have hnew : IsStored s.updatedAt.toStored := FourDigitYear.isStored hw
    rw [absorb_eq rfl]
    split
    · exact ⟨h.jobs, Table.isStored_put h.sessions hnew fun old =>
        SessionRow.updatedAt_settle old (.ofSession s), h.escalations⟩
    · exact h
  | escalation e =>
    have hnew : IsStored e.createdAt.toStored := FourDigitYear.isStored hw
    rw [absorb_eq rfl]
    split
    · exact ⟨h.jobs, h.sessions, Table.isStored_put h.escalations hnew fun _ => Or.inl rfl⟩
    · exact h
  | block | unblock =>
    rw [absorb_eq rfl]
    split
    · exact ⟨h.jobs, h.sessions, h.escalations⟩
    · exact h

theorem Dated.absorbAll (h : db.Dated) {ws : List Write} (hws : ∀ w ∈ ws, w.Dated) :
    (db.absorbAll ws).Dated := by
  induction ws generalizing db with
  | nil => exact h
  | cons w ws ih =>
    obtain ⟨hw, hrest⟩ := List.forall_mem_cons.1 hws
    exact ih (h.absorb hw) hrest

/-- Rows are kept and given by instants: a row stays if the record that is written was changed
before it, and those that are given are the latest. -/
structure ByTime (db : Database) : Prop where
  putJob : ∀ j, j.updatedAt.FourDigitYear → db.putJob j = db.need jobTable
    { db with
      jobs := Table.put (·.id) (fun old new =>
        if old.time ≤ j.updatedAt.toMicros then { new with createdAt := old.createdAt } else old)
        (.ofJob j) db.jobs }
  putSession : ∀ s, s.updatedAt.FourDigitYear → db.putSession s = db.need sessionTable
    { db with
      sessions := Table.put (·.id) (fun old new =>
        if old.time ≤ s.updatedAt.toMicros then
          { new with createdAt := old.createdAt, jobId := old.jobId, attemptId := old.attemptId }
        else old)
        (.ofSession s) db.sessions }
  loadJobs : ∀ limit, ∃ given, Table.LatestFirst JobRow.time limit db.jobs given ∧
    db.loadJobs limit = db.need jobTable (given.filterMap JobRow.toJob?)
  loadSessions : ∀ limit, ∃ given, Table.LatestFirst SessionRow.time limit db.sessions given ∧
    db.loadSessions limit = db.need sessionTable (given.filterMap SessionRow.toSession?)
  loadEscalations : ∀ limit, ∃ given,
    Table.LatestFirst EscalationRow.time limit db.escalations given ∧
    db.loadEscalations limit = db.need escalationTable (given.filterMap EscalationRow.toEscalation?)

theorem Dated.byTime (h : db.Dated) : db.ByTime where
  putJob j hj := by
    unfold Database.putJob
    refine congrArg (fun rows => db.need jobTable { db with jobs := rows }) (Table.put_congr ?_)
    intro old hold _
    exact JobRow.settle_ofJob_of_isStored (h.jobs old hold) hj
  putSession s hs := by
    unfold Database.putSession
    refine congrArg (fun rows => db.need sessionTable { db with sessions := rows })
      (Table.put_congr ?_)
    intro old hold _
    exact SessionRow.settle_ofSession_of_isStored (h.sessions old hold) hs
  loadJobs limit := ⟨_, Table.latestFirst_newest h.jobs limit, rfl⟩
  loadSessions limit := ⟨_, Table.latestFirst_newest h.sessions limit, rfl⟩
  loadEscalations limit := ⟨_, Table.latestFirst_newest h.escalations limit, rfl⟩

/-- **Stored times are compared as instants.** Of two instants in the years 0 to 9999, leap seconds
among them, the earlier to the microsecond has the lesser text, and only instants of one microsecond
have one text; the text is read back as the instant to the microsecond, of which it is the text
again. In a database whose times are such texts, whatever is written at such times, rows are
therefore kept and given by instants. -/
theorem stored_times_in_order {a b : Instant} (ha : a.FourDigitYear) (hb : b.FourDigitYear) :
    (a.toStored < b.toStored ↔ a.toMicros < b.toMicros) ∧
    (a.toStored = b.toStored ↔ a.toMicros = b.toMicros) ∧
    ofStored a.toStored = a.toMicros ∧ a.toMicros.toStored = a.toStored ∧
    ∀ db : Database, db.Dated → ∀ ws : List Write, (∀ w ∈ ws, w.Dated) → (db.absorbAll ws).ByTime :=
  ⟨toStored_lt_iff ha hb, toStored_eq_iff ha hb, ofStored_toStored ha, toStored_toMicros a,
    fun _ hdb _ hws => (hdb.absorbAll hws).byTime⟩

/-- The middle of the leap second at the end of 2016, and a little more. -/
def leapSecond : Instant := (Instant.of? (Calendar.epoch + 17166) 86399 1500000999).getD default

/-- The start of 2017. -/
def newYear : Instant := .midnight (Calendar.epoch + 17167)

/-- What is written at the start of the year comes before what was written in the leap second. -/
def newYearWrites : List Write :=
  [.job { plannedJob with updatedAt := newYear, status := .completed },
    .job { plannedJob with updatedAt := leapSecond },
    .job { otherJob with updatedAt := leapSecond }]

/-- The leap second is before the new year, so the job stays completed and is the
first to be given. -/
theorem stored_times_in_order_leap : leapSecond.FourDigitYear ∧ newYear.FourDigitYear ∧
    leapSecond.toStored = "2016-12-31T23:59:60.500000Z" ∧
    newYear.toStored = "2017-01-01T00:00:00.000000Z" ∧
    leapSecond.toStored < newYear.toStored ∧ leapSecond.toStored ≠ newYear.toStored ∧
    ofStored leapSecond.toStored = leapSecond.toMicros ∧ leapSecond.toMicros ≠ leapSecond ∧
    freshTables.Dated ∧ (∀ w ∈ newYearWrites, w.Dated) ∧
      (freshTables.absorbAll newYearWrites).ByTime ∧
    (freshTables.absorbAll newYearWrites).jobs.map (fun r => (r.status, r.time)) =
      [("completed", newYear), ("queued", leapSecond.toMicros)] := by
  have ha : leapSecond.FourDigitYear := by decide
  have hb : newYear.FourDigitYear := by decide
  have hdb : freshTables.Dated := ⟨nofun, nofun, nofun⟩
  have hws : ∀ w ∈ newYearWrites, w.Dated := by decide
  obtain ⟨hlt, heq, hread, -, htables⟩ := stored_times_in_order ha hb
  refine ⟨ha, hb, by decide +kernel, by decide +kernel, hlt.2 (by decide), fun h => ?_,
    hread, by decide, hdb, hws, htables freshTables hdb newYearWrites hws, by decide +kernel⟩
  exact absurd (heq.1 h) (by decide)

end Database

end ShelterLine

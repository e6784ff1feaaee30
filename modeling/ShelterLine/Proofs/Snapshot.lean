import ShelterLine.Proofs.Row
import ShelterLine.Proofs.Table
import ShelterLine.Store.Write

/-!
# The newest snapshot is kept

A record that changes is written whole each time, and the writes of its snapshots may arrive in any
order and more than once. The database prefers the greater text of two times, which is the later
time, and takes the other columns from one row: so in the end a load gives the snapshot that was
changed last, whole, and the rows of all other records are what they would be without these writes.
-/

namespace ShelterLine

open Database Schema

/-! ## How jobs and sessions are kept -/

theorem JobRow.bind_id_of_toJob? {r : JobRow} {j : Job} (h : r.toJob? = some j) :
    r.id.bind Uuid.ofString? = some j.id := by
  unfold toJob? at h
  simp only [Option.bind_eq_bind, Option.bind_eq_some_iff] at h
  obtain ⟨text, htext, id, hid, _, -, _, -, _, -, _, -, _, -, _, -, hj⟩ := h
  rw [htext, Option.bind_some, hid, ← Option.some.inj hj]

theorem SessionRow.bind_id_of_toSession? {r : SessionRow} {s : Session}
    (h : r.toSession? = some s) :
    r.id.bind Uuid.ofString? = some s.id := by
  unfold toSession? at h
  simp only [Option.bind_eq_bind, Option.bind_eq_some_iff] at h
  obtain ⟨text, htext, id, hid, _, -, _, -, _, -, _, -, _, -, hs⟩ := h
  rw [htext, Option.bind_some, hid, ← Option.some.inj hs]

theorem JobRow.keepsKey_settle : Table.KeepsKey (·.id) JobRow.settle := by
  intro old new heq
  unfold settle
  split
  · rfl
  · exact heq

theorem SessionRow.keepsKey_settle : Table.KeepsKey (·.id) SessionRow.settle := by
  intro old new heq
  unfold settle
  split
  · rfl
  · exact heq

/-- How jobs are kept. -/
def Job.keeping : Keeping Job JobRow where
  id := (·.id)
  row := .ofJob
  read? := JobRow.toJob?
  key := (·.id)
  settle := JobRow.settle
  key_row _ := rfl
  key_settle := JobRow.keepsKey_settle
  key_read := JobRow.bind_id_of_toJob?

/-- How sessions are kept. -/
def Session.keeping : Keeping Session SessionRow where
  id := (·.id)
  row := .ofSession
  read? := SessionRow.toSession?
  key := (·.id)
  settle := SessionRow.settle
  key_row _ := rfl
  key_settle := SessionRow.keepsKey_settle
  key_read := SessionRow.bind_id_of_toSession?

@[simp] theorem Job.keeping_row : Job.keeping.row = JobRow.ofJob := rfl

@[simp] theorem Job.keeping_settle : Job.keeping.settle = JobRow.settle := rfl

@[simp] theorem Session.keeping_row : Session.keeping.row = SessionRow.ofSession := rfl

@[simp] theorem Session.keeping_settle : Session.keeping.settle = SessionRow.settle := rfl

/-! ## Snapshots -/

/-- Snapshots of one job, made at one time and last changed at different ones, also where times
are cut to microseconds. -/
structure Job.Snapshots (u : Uuid) (snapshots : List Job) : Prop where
  nonempty : snapshots ≠ []
  id : ∀ j ∈ snapshots, j.id = u
  createdAt : ∀ j ∈ snapshots, ∀ j' ∈ snapshots, j.createdAt = j'.createdAt
  years : ∀ j ∈ snapshots, j.FourDigitYears
  distinct : ∀ j ∈ snapshots, ∀ j' ∈ snapshots,
    j.updatedAt.toMicros = j'.updatedAt.toMicros → j = j'

/-- Snapshots of one session, made at one time for one attempt and last changed at different times,
also where times are cut to microseconds. -/
structure Session.Snapshots (u : Uuid) (snapshots : List Session) : Prop where
  nonempty : snapshots ≠ []
  id : ∀ s ∈ snapshots, s.id = u
  createdAt : ∀ s ∈ snapshots, ∀ s' ∈ snapshots, s.createdAt = s'.createdAt
  jobId : ∀ s ∈ snapshots, ∀ s' ∈ snapshots, s.jobId = s'.jobId
  attemptId : ∀ s ∈ snapshots, ∀ s' ∈ snapshots, s.attemptId = s'.attemptId
  years : ∀ s ∈ snapshots, s.FourDigitYears
  distinct : ∀ s ∈ snapshots, ∀ s' ∈ snapshots,
    s.updatedAt.toMicros = s'.updatedAt.toMicros → s = s'

/-- Where two snapshots of a job meet the later one stays whole. -/
theorem JobRow.settle_ofJob {a b : Job} (ha : a.updatedAt.FourDigitYear)
    (hb : b.updatedAt.FourDigitYear) (hcreated : a.createdAt = b.createdAt) :
    settle (ofJob a) (ofJob b) = ofJob (later (·.updatedAt.toMicros) a b) := by
  have horder : (ofJob a).updatedAt ≤ (ofJob b).updatedAt ↔
      a.updatedAt.toMicros ≤ b.updatedAt.toMicros := Instant.toStored_le_iff ha hb
  unfold settle later
  by_cases hle : a.updatedAt.toMicros ≤ b.updatedAt.toMicros
  · have hcolumn : (ofJob a).createdAt = (ofJob b).createdAt := congrArg Instant.toStored hcreated
    rw [if_pos hle, if_pos (horder.mpr hle), hcolumn]
  · rw [if_neg hle, if_neg fun h => hle (horder.mp h)]

/-- Where two snapshots of a session meet the later one stays whole. -/
theorem SessionRow.settle_ofSession {a b : Session} (ha : a.updatedAt.FourDigitYear)
    (hb : b.updatedAt.FourDigitYear) (hcreated : a.createdAt = b.createdAt)
    (hjob : a.jobId = b.jobId) (hattempt : a.attemptId = b.attemptId) :
    settle (ofSession a) (ofSession b) = ofSession (later (·.updatedAt.toMicros) a b) := by
  have horder : (ofSession a).updatedAt ≤ (ofSession b).updatedAt ↔
      a.updatedAt.toMicros ≤ b.updatedAt.toMicros := Instant.toStored_le_iff ha hb
  unfold settle later
  by_cases hle : a.updatedAt.toMicros ≤ b.updatedAt.toMicros
  · have hcreated' : (ofSession a).createdAt = (ofSession b).createdAt :=
      congrArg Instant.toStored hcreated
    have hjob' : (ofSession a).jobId = (ofSession b).jobId := congrArg Uuid.toString hjob
    have hattempt' : (ofSession a).attemptId = (ofSession b).attemptId :=
      congrArg Uuid.toString hattempt
    rw [if_pos hle, if_pos (horder.mpr hle), hcreated', hjob', hattempt']
  · rw [if_neg hle, if_neg fun h => hle (horder.mp h)]

theorem Job.Snapshots.keeping {u : Uuid} {snapshots : List Job} (h : Snapshots u snapshots) :
    Job.keeping.Snapshots (·.updatedAt.toMicros) u snapshots := by
  refine ⟨h.nonempty, h.id, fun a ha b hb => ?_⟩
  rw [Job.keeping_settle, Job.keeping_row]
  exact JobRow.settle_ofJob (h.years a ha).updatedAt (h.years b hb).updatedAt
    (h.createdAt a ha b hb)

theorem Session.Snapshots.keeping {u : Uuid} {snapshots : List Session}
    (h : Snapshots u snapshots) :
    Session.keeping.Snapshots (·.updatedAt.toMicros) u snapshots := by
  refine ⟨h.nonempty, h.id, fun a ha b hb => ?_⟩
  rw [Session.keeping_settle, Session.keeping_row]
  exact SessionRow.settle_ofSession (h.years a ha).updatedAt (h.years b hb).updatedAt
    (h.createdAt a ha b hb) (h.jobId a ha b hb) (h.attemptId a ha b hb)

/-! ## Writes -/

/-- The job that is written. -/
def Write.job? : Write → Option Job
  | job j => some j
  | _ => none

/-- The session that is written. -/
def Write.session? : Write → Option Session
  | session s => some s
  | _ => none

/-- Whether the job under an identifier is written. -/
def Write.isJob (u : Uuid) : Write → Bool
  | job j => j.id = u
  | _ => false

/-- Whether the session under an identifier is written. -/
def Write.isSession (u : Uuid) : Write → Bool
  | session s => s.id = u
  | _ => false

namespace Database

variable {db : Database} {u : Uuid}

/-- The database without the job under an identifier. -/
def withoutJob (db : Database) (u : Uuid) : Database :=
  { db with jobs := db.jobs.filter (·.id ≠ some u.toString) }

/-- The database without the session under an identifier. -/
def withoutSession (db : Database) (u : Uuid) : Database :=
  { db with sessions := db.sessions.filter (·.id ≠ some u.toString) }

/-- A write is carried out if its table is there, and otherwise lost. -/
theorem absorb_eq {w : Write} {table : String} {result : Database}
    (h : db.perform w = db.need table result) :
    db.absorb w = if db.hasTable table then result else db := by
  unfold absorb
  rw [h]
  unfold need
  split <;> rename_i hneed <;> split at hneed
  · rw [if_pos ‹_›]
    exact (Except.ok.inj hneed).symm
  · cases hneed
  · cases hneed
  · rw [if_neg ‹_›]

theorem objects_absorb (w : Write) : (db.absorb w).objects = db.objects := by
  cases w with
  | job | session | escalation | block | unblock =>
    rw [absorb_eq rfl]
    split <;> rfl

theorem hasTable_absorb (w : Write) (table : String) :
    (db.absorb w).hasTable table = db.hasTable table := by
  unfold hasTable
  rw [objects_absorb]

/-! ## What writes do to a table -/

theorem jobs_absorb (h : db.hasTable jobTable) (w : Write) :
    (db.absorb w).jobs = Job.keeping.putAll w.job?.toList db.jobs := by
  cases w with
  | job j =>
    rw [absorb_eq rfl, if_pos h]
    rfl
  | session | escalation | block | unblock =>
    rw [absorb_eq rfl]
    split <;> rfl

theorem sessions_absorb (h : db.hasTable sessionTable) (w : Write) :
    (db.absorb w).sessions = Session.keeping.putAll w.session?.toList db.sessions := by
  cases w with
  | session s =>
    rw [absorb_eq rfl, if_pos h]
    rfl
  | job | escalation | block | unblock =>
    rw [absorb_eq rfl]
    split <;> rfl

theorem hasTable_absorbAll (ws : List Write) (table : String) :
    (db.absorbAll ws).hasTable table = db.hasTable table := by
  induction ws generalizing db with
  | nil => rfl
  | cons w ws ih => exact ih.trans (hasTable_absorb w table)

/-- What one write puts into a table a run of writes puts into it, in order. -/
theorem rows_absorbAll {σ ρ : Type} (k : Keeping σ ρ) (rows : Database → List ρ)
    (written? : Write → Option σ) {table : String}
    (hstep : ∀ {db : Database}, db.hasTable table → ∀ w : Write,
      rows (db.absorb w) = k.putAll (written? w).toList (rows db))
    (h : db.hasTable table) (ws : List Write) :
    rows (db.absorbAll ws) = k.putAll (ws.filterMap written?) (rows db) := by
  induction ws generalizing db with
  | nil => rfl
  | cons w ws ih =>
    have hrest := ih ((hasTable_absorb w table).trans h)
    rw [hstep h] at hrest
    refine hrest.trans ?_
    rw [List.filterMap_cons]
    cases written? w <;> rfl

/-- The jobs that are written are put into their table, in order. -/
theorem jobs_absorbAll (h : db.hasTable jobTable) (ws : List Write) :
    (db.absorbAll ws).jobs = Job.keeping.putAll (ws.filterMap Write.job?) db.jobs :=
  rows_absorbAll Job.keeping Database.jobs Write.job? jobs_absorb h ws

/-- The sessions that are written are put into their table, in order. -/
theorem sessions_absorbAll (h : db.hasTable sessionTable) (ws : List Write) :
    (db.absorbAll ws).sessions = Session.keeping.putAll (ws.filterMap Write.session?) db.sessions :=
  rows_absorbAll Session.keeping Database.sessions Write.session? sessions_absorb h ws

/-! ## What writes do to everything else -/

/-- Apart from the job itself nothing notices that it is written. -/
theorem withoutJob_absorb (w : Write) : (db.absorb w).withoutJob u =
    if w.isJob u then db.withoutJob u else (db.withoutJob u).absorb w := by
  have htables : ∀ table, (db.withoutJob u).hasTable table = db.hasTable table := fun _ => rfl
  cases w with
  | job j =>
    have hput : (Table.put (·.id) JobRow.settle (.ofJob j) db.jobs).filter
        (·.id ≠ some u.toString) =
        if j.id = u then (db.withoutJob u).jobs
        else Table.put (·.id) JobRow.settle (.ofJob j) (db.withoutJob u).jobs :=
      Job.keeping.filter_ne_put j
    have hmine : (Write.job j).isJob u = decide (j.id = u) := rfl
    rw [absorb_eq rfl, absorb_eq rfl, htables, hmine]
    split
    · change { db with jobs := List.filter _ _ } = _
      rw [hput]
      by_cases hid : j.id = u
      · rw [if_pos hid, if_pos (decide_eq_true hid)]
        rfl
      · rw [if_neg hid, if_neg fun h => hid (of_decide_eq_true h)]
        rfl
    · rw [ite_self]
  | session | escalation | block | unblock =>
    change _ = (db.withoutJob u).absorb _
    rw [absorb_eq rfl, absorb_eq rfl, htables]
    split <;> rfl

/-- Apart from the session itself nothing notices that it is written. -/
theorem withoutSession_absorb (w : Write) : (db.absorb w).withoutSession u =
    if w.isSession u then db.withoutSession u else (db.withoutSession u).absorb w := by
  have htables : ∀ table, (db.withoutSession u).hasTable table = db.hasTable table := fun _ => rfl
  cases w with
  | session s =>
    have hput : (Table.put (·.id) SessionRow.settle (.ofSession s) db.sessions).filter
          (·.id ≠ some u.toString) =
        if s.id = u then (db.withoutSession u).sessions
        else Table.put (·.id) SessionRow.settle (.ofSession s) (db.withoutSession u).sessions :=
      Session.keeping.filter_ne_put s
    have hmine : (Write.session s).isSession u = decide (s.id = u) := rfl
    rw [absorb_eq rfl, absorb_eq rfl, htables, hmine]
    split
    · change { db with sessions := List.filter _ _ } = _
      rw [hput]
      by_cases hid : s.id = u
      · rw [if_pos hid, if_pos (decide_eq_true hid)]
        rfl
      · rw [if_neg hid, if_neg fun h => hid (of_decide_eq_true h)]
        rfl
    · rw [ite_self]
  | job | escalation | block | unblock =>
    change _ = (db.withoutSession u).absorb _
    rw [absorb_eq rfl, absorb_eq rfl, htables]
    split <;> rfl

/-- What notices some writes as if they were none notices a run of writes as if it
were without them. -/
theorem view_absorbAll (view : Database → Database) (p : Write → Bool)
    (hview : ∀ db w, view (absorb db w) = if p w then view db else (view db).absorb w)
    (ws : List Write) (db : Database) :
    view (db.absorbAll ws) = (view db).absorbAll (ws.filter (!p ·)) := by
  induction ws generalizing db with
  | nil => rfl
  | cons w ws ih =>
    have hrest := ih (db.absorb w)
    rw [hview] at hrest
    refine hrest.trans ?_
    rw [List.filter_cons]
    cases p w <;> rfl

/-- Apart from a job that was not there nothing notices that it is written. -/
theorem withoutJob_absorbAll (habsent : ∀ r ∈ db.jobs, r.id ≠ some u.toString) (ws : List Write) :
    (db.absorbAll ws).withoutJob u = db.absorbAll (ws.filter (!·.isJob u)) := by
  have hnone : db.withoutJob u = db := by
    unfold withoutJob
    rw [List.filter_eq_self.mpr fun r hr => decide_eq_true (habsent r hr)]
  rw [view_absorbAll (·.withoutJob u) (·.isJob u) (fun _ => withoutJob_absorb), hnone]

/-- Apart from a session that was not there nothing notices that it is written. -/
theorem withoutSession_absorbAll (habsent : ∀ r ∈ db.sessions, r.id ≠ some u.toString)
    (ws : List Write) :
    (db.absorbAll ws).withoutSession u = db.absorbAll (ws.filter (!·.isSession u)) := by
  have hnone : db.withoutSession u = db := by
    unfold withoutSession
    rw [List.filter_eq_self.mpr fun r hr => decide_eq_true (habsent r hr)]
  rw [view_absorbAll (·.withoutSession u) (·.isSession u) (fun _ => withoutSession_absorb), hnone]

/-! ## The newest snapshot -/

theorem loadJobs_eq (h : db.hasTable jobTable) (limit : Nat) : db.loadJobs limit =
    .ok ((Table.newest (·.updatedAt) limit db.jobs).filterMap JobRow.toJob?) := if_pos h

theorem loadSessions_eq (h : db.hasTable sessionTable) (limit : Nat) : db.loadSessions limit =
    .ok ((Table.newest (·.updatedAt) limit db.sessions).filterMap SessionRow.toSession?) := if_pos h

/-- A row that reads as nothing of an identifier has not its text for a key. -/
theorem ne_of_bind_ne {key : Option String} (h : key.bind Uuid.ofString? ≠ some u) :
    key ≠ some u.toString := by
  rintro rfl
  rw [Option.bind_some, Uuid.ofString?_toString] at h
  exact h rfl

theorem mem_filterMap_job? {ws : List Write} {j : Job} :
    j ∈ ws.filterMap Write.job? ↔ .job j ∈ ws := by
  rw [List.mem_filterMap]
  constructor
  · rintro ⟨w, hw, heq⟩
    cases w with
    | job j' =>
      rw [← Option.some.inj heq]
      exact hw
    | session | escalation | block | unblock => cases heq
  · exact fun h => ⟨.job j, h, rfl⟩

theorem mem_filterMap_session? {ws : List Write} {s : Session} :
    s ∈ ws.filterMap Write.session? ↔ .session s ∈ ws := by
  rw [List.mem_filterMap]
  constructor
  · rintro ⟨w, hw, heq⟩
    cases w with
    | session s' =>
      rw [← Option.some.inj heq]
      exact hw
    | job | escalation | block | unblock => cases heq
  · exact fun h => ⟨.session s, h, rfl⟩

/-- **The newest snapshot is kept, in whatever order the snapshots of a record are written.** If
those and no others are written under an identifier that was free, each at least once, an unlimited
load gives for it the one that was changed last, all of it from that one snapshot, with its times
cut to microseconds. Everything else in the database is as if they had not been written. -/
theorem newest_snapshot_kept (db : Database) (ws : List Write) (u : Uuid) (limit : Nat) :
    (∀ snapshots : List Job, Job.Snapshots u snapshots → db.hasTable jobTable →
      (∀ r ∈ db.jobs, r.id.bind Uuid.ofString? ≠ some u) →
      (∀ j : Job, j.id = u → (.job j ∈ ws ↔ j ∈ snapshots)) →
      (db.absorbAll ws).jobs.length ≤ limit →
      ∃ newest ∈ snapshots, (∀ j ∈ snapshots, j.updatedAt ≤ newest.updatedAt) ∧
        (∃ loaded, (db.absorbAll ws).loadJobs limit = .ok loaded ∧
          loaded.filter (·.id = u) = [newest.toMicros]) ∧
        (db.absorbAll ws).withoutJob u = db.absorbAll (ws.filter (!·.isJob u))) ∧
    (∀ snapshots : List Session, Session.Snapshots u snapshots → db.hasTable sessionTable →
      (∀ r ∈ db.sessions, r.id.bind Uuid.ofString? ≠ some u) →
      (∀ s : Session, s.id = u → (.session s ∈ ws ↔ s ∈ snapshots)) →
      (db.absorbAll ws).sessions.length ≤ limit →
      ∃ newest ∈ snapshots, (∀ s ∈ snapshots, s.updatedAt ≤ newest.updatedAt) ∧
        (∃ loaded, (db.absorbAll ws).loadSessions limit = .ok loaded ∧
          loaded.filter (·.id = u) = [newest.toMicros]) ∧
        (db.absorbAll ws).withoutSession u = db.absorbAll (ws.filter (!·.isSession u))) := by
  refine ⟨fun snapshots hs htable habsent hwritten hlimit => ?_,
    fun snapshots hs htable habsent hwritten hlimit => ?_⟩
  · have hjobs := jobs_absorbAll htable ws
    rw [hjobs] at hlimit
    obtain ⟨newest, hmem, hmax, hload⟩ := Keeping.exists_newest (·.updatedAt) hs.keeping
      habsent (fun j hj => mem_filterMap_job?.trans (hwritten j hj))
      (fun j hj => JobRow.toJob?_ofJob (hs.years j hj)) hlimit
    refine ⟨newest, hmem, fun j hj => ?_, ⟨_, loadJobs_eq ?_ limit, ?_⟩,
      withoutJob_absorbAll (fun r hr => ne_of_bind_ne (habsent r hr)) ws⟩
    · exact Instant.le_of_toMicros_le (hmax j hj) fun h =>
        congrArg Job.updatedAt (hs.distinct j hj newest hmem h)
    · rwa [hasTable_absorbAll]
    · rw [hjobs]
      exact hload
  · have hsessions := sessions_absorbAll htable ws
    rw [hsessions] at hlimit
    obtain ⟨newest, hmem, hmax, hload⟩ := Keeping.exists_newest (·.updatedAt) hs.keeping
      habsent (fun s hs' => mem_filterMap_session?.trans (hwritten s hs'))
      (fun s hs' => SessionRow.toSession?_ofSession (hs.years s hs')) hlimit
    refine ⟨newest, hmem, fun s hs' => ?_, ⟨_, loadSessions_eq ?_ limit, ?_⟩,
      withoutSession_absorbAll (fun r hr => ne_of_bind_ne (habsent r hr)) ws⟩
    · exact Instant.le_of_toMicros_le (hmax s hs') fun h =>
        congrArg Session.updatedAt (hs.distinct s hs' newest hmem h)
    · rwa [hasTable_absorbAll]
    · rw [hsessions]
      exact hload

/-- A job for one shelter that has not been dialed. -/
def plannedJob : Job :=
  .create default ⟨1⟩ (fun _ => ⟨2⟩) .dryRun ⟨"Needs a bed tonight.", none, false, false⟩
    [⟨1, "Harbor House", some "555-010-0100", none, none⟩]

/-- Two and a half microseconds after the start of 1970. -/
def shortlyAfter : Instant := (Instant.of? Calendar.epoch 0 2500).getD default

/-- The job once the shelter has been dialed. -/
def dialedJob : Job :=
  plannedJob.patch shortlyAfter ⟨2⟩ { status := some .initiated, sid := some "CA0" }

/-- A session whose parties have not been dialed. -/
def plannedSession : Session :=
  .create default ⟨3⟩ .dryRun
    ⟨⟨1⟩, ⟨2⟩, "Harbor House", "555-010-0100", "555-010-0101", some "Ada", none⟩

/-- The session once its parties have been dialed. -/
def dialedSession : Session :=
  { plannedSession with
    status := .connecting, updatedAt := shortlyAfter, sids := ⟨some "CA1", some "CA2"⟩ }

/-- A job that is like the planned one, and another. -/
def otherJob : Job := { plannedJob with id := ⟨4⟩ }

/-- The writes of both snapshots of each come late and in the wrong order, and one comes twice. -/
def lateWrites : List Write :=
  [.job dialedJob, .session dialedSession, .block "+15550100102", .job plannedJob,
    .job otherJob, .session plannedSession, .job dialedJob]

/-- The tables of jobs and sessions, without a row. -/
def freshTables : Database := { objects := [⟨.table, jobTable⟩, ⟨.table, sessionTable⟩] }

theorem snapshots_dialedJob : Job.Snapshots ⟨1⟩ [plannedJob, dialedJob] where
  nonempty := by decide
  id := by decide
  createdAt := by decide
  years := by
    intro j hj
    rcases List.mem_cons.mp hj with rfl | hj
    · exact ⟨by decide, by decide, by decide⟩
    · rw [List.mem_singleton.mp hj]
      exact ⟨by decide, by decide, by decide⟩
  distinct := by decide

theorem snapshots_dialedSession : Session.Snapshots ⟨3⟩ [plannedSession, dialedSession] where
  nonempty := by decide
  id := by decide
  createdAt := by decide
  jobId := by decide
  attemptId := by decide
  years := by
    intro s hs
    rcases List.mem_cons.mp hs with rfl | hs
    · exact ⟨by decide, by decide⟩
    · rw [List.mem_singleton.mp hs]
      exact ⟨by decide, by decide⟩
  distinct := by decide

/-- What came first does not undo what came later. -/
theorem newest_snapshot_kept_reversed :
    (∃ loaded, (freshTables.absorbAll lateWrites).loadJobs 10 = .ok loaded ∧
      loaded.filter (·.id = ⟨1⟩) = [dialedJob.toMicros]) ∧
    ∃ loaded, (freshTables.absorbAll lateWrites).loadSessions 10 = .ok loaded ∧
      loaded.filter (·.id = ⟨3⟩) = [dialedSession.toMicros] := by
  constructor
  · have hwritten : ∀ j : Job, j.id = ⟨1⟩ →
        (.job j ∈ lateWrites ↔ j ∈ [plannedJob, dialedJob]) := by
      intro j hj
      have hother : j ≠ otherJob := by
        rintro rfl
        exact absurd hj (by decide)
      simp only [lateWrites, List.mem_cons, Write.job.injEq, reduceCtorEq, hother, List.not_mem_nil,
        or_false, false_or]
      tauto
    obtain ⟨newest, hmem, hmax, hload, -⟩ := (newest_snapshot_kept freshTables lateWrites ⟨1⟩ 10).1
      [plannedJob, dialedJob] snapshots_dialedJob rfl (fun r hr => absurd hr List.not_mem_nil)
      hwritten (by decide +kernel)
    rcases List.mem_cons.mp hmem with rfl | hlast
    · exact absurd (hmax dialedJob (by decide)) (by decide)
    · rw [← List.mem_singleton.mp hlast]
      exact hload
  · have hwritten : ∀ s : Session, s.id = ⟨3⟩ →
        (.session s ∈ lateWrites ↔ s ∈ [plannedSession, dialedSession]) := by
      intro s _
      simp only [lateWrites, List.mem_cons, Write.session.injEq, reduceCtorEq, List.not_mem_nil,
        or_false, false_or]
      tauto
    obtain ⟨newest, hmem, hmax, hload, -⟩ := (newest_snapshot_kept freshTables lateWrites ⟨3⟩ 10).2
      [plannedSession, dialedSession] snapshots_dialedSession rfl
      (fun r hr => absurd hr List.not_mem_nil) hwritten (by decide +kernel)
    rcases List.mem_cons.mp hmem with rfl | hlast
    · exact absurd (hmax dialedSession (by decide)) (by decide)
    · rw [← List.mem_singleton.mp hlast]
      exact hload

end Database

end ShelterLine

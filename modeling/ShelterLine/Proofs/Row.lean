import ShelterLine.Proofs.Codec
import ShelterLine.Store.Row

/-!
# Rows read back as records

The row of a job reads back as that job, the row of a session as that session, with the record's own
times cut to microseconds. The times that attempts have are kept in JSON, and whole. A time is
written for years of four digits only, so this is said of records whose times lie in such years.
-/

namespace ShelterLine

open Json Json.Codec Json.Members

/-! ## Names -/

theorem Mode.naming_faithful : Mode.naming.Faithful := fun m => by cases m <;> rfl

theorem JobStatus.naming_faithful : JobStatus.naming.Faithful := fun s => by cases s <;> rfl

theorem AttemptStatus.naming_faithful : AttemptStatus.naming.Faithful := fun s => by cases s <;> rfl

theorem ScriptSource.naming_faithful : ScriptSource.naming.Faithful := fun s => by cases s <;> rfl

theorem Availability.naming_faithful : Availability.naming.Faithful := fun a => by cases a <;> rfl

theorem TransferStatus.naming_faithful : TransferStatus.naming.Faithful :=
  fun s => by cases s <;> rfl

theorem EscalationSource.naming_faithful : EscalationSource.naming.Faithful :=
  fun s => by cases s <;> rfl

/-! ## Columns of JSON -/

theorem IntakeReport.keeps_codec {depth : Nat} (r : IntakeReport) :
    IntakeReport.members.codec.Keeps (depth + 2) r := by
  have hmembers : IntakeReport.members.Keeps (depth + 1) r r :=
    keeps_required (keeps_name Availability.naming_faithful _) |>.map IntakeReport.mk
      |>.seq (keeps_optional keeps_uint32 nofun)
      |>.seq (keeps_withDefault (keeps_list fun s _ => keeps_string s))
      |>.seq (keeps_withDefault (keeps_bool _))
      |>.seq (keeps_required (keeps_string _))
  exact hmembers.codec (by decide)

theorem Attempt.keeps_codec {depth : Nat} {a : Attempt} (h : a.updatedAt.FourDigitYear) :
    Attempt.members.codec.Keeps (depth + 3) a := by
  have hmembers : Attempt.members.Keeps (depth + 2) a a :=
    keeps_required (keeps_uuid _) |>.map Attempt.mk
      |>.seq (keeps_required (keeps_uuid _))
      |>.seq (keeps_required (keeps_int64 _))
      |>.seq (keeps_required (keeps_string _))
      |>.seq (keeps_nullable (keeps_option keeps_string nofun _))
      |>.seq (keeps_required (keeps_name AttemptStatus.naming_faithful _))
      |>.seq (keeps_optional keeps_string nofun)
      |>.seq (keeps_optional keeps_string nofun)
      |>.seq (keeps_optional (keeps_name ScriptSource.naming_faithful) nofun)
      |>.seq (keeps_optional keeps_string nofun)
      |>.seq (keeps_optional keeps_string nofun)
      |>.seq (keeps_optional keeps_string nofun)
      |>.seq (keeps_optional IntakeReport.keeps_codec nofun)
      |>.seq (keeps_required (keeps_instant h))
  exact hmembers.codec (by decide)

theorem LegSids.keeps_codec {depth : Nat} (s : LegSids) :
    LegSids.members.codec.Keeps (depth + 1) s := by
  have hmembers : LegSids.members.Keeps depth s s :=
    keeps_optional keeps_string nofun |>.map LegSids.mk
      |>.seq (keeps_optional keeps_string nofun)
  exact hmembers.codec (by decide)

theorem keptValue?_print {α : Type} {c : Codec α} {depth : Nat} {a : α} (h : c.Keeps depth a)
    (hdepth : depth ≤ maxDepth) : keptValue? c (c.print a) = some a := by
  unfold keptValue?
  rw [h.read_print hdepth]
  rfl

theorem flagNumber_ne_zero (b : Bool) : decide (flagNumber b ≠ 0) = b := by cases b <;> rfl

/-! ## Jobs -/

/-- The job with its own times cut to microseconds. -/
def Job.toMicros (j : Job) : Job :=
  { j with createdAt := j.createdAt.toMicros, updatedAt := j.updatedAt.toMicros }

/-- A job all of whose times lie in years of four digits. -/
structure Job.FourDigitYears (j : Job) : Prop where
  createdAt : j.createdAt.FourDigitYear
  updatedAt : j.updatedAt.FourDigitYear
  attempts : ∀ a ∈ j.attempts, a.updatedAt.FourDigitYear

/-- **The row of a job reads back as the job.** -/
theorem JobRow.toJob?_ofJob {j : Job} (h : j.FourDigitYears) :
    (JobRow.ofJob j).toJob? = some j.toMicros := by
  have hshelters : shelterIdsCodec.Keeps 1 j.request.shelterIds :=
    keeps_list fun n _ => keeps_int64 n
  have hattempts : attemptsCodec.Keeps 4 j.attempts :=
    keeps_list fun a ha => Attempt.keeps_codec (h.attempts a ha)
  unfold toJob? ofJob Job.toMicros
  simp only [Option.bind_eq_bind, Option.bind_some, Option.pure_def, Uuid.ofString?_toString,
    Mode.naming_faithful j.mode, JobStatus.naming_faithful j.status,
    keptValue?_print hshelters (by decide), keptValue?_print hattempts (by decide),
    Instant.ofStored_toStored h.createdAt, Instant.ofStored_toStored h.updatedAt,
    flagNumber_ne_zero]

/-! ## Sessions -/

/-- The session with its times cut to microseconds. -/
def Session.toMicros (s : Session) : Session :=
  { s with createdAt := s.createdAt.toMicros, updatedAt := s.updatedAt.toMicros }

/-- A session whose times lie in years of four digits. -/
structure Session.FourDigitYears (s : Session) : Prop where
  createdAt : s.createdAt.FourDigitYear
  updatedAt : s.updatedAt.FourDigitYear

/-- **The row of a session reads back as the session.** -/
theorem SessionRow.toSession?_ofSession {s : Session} (h : s.FourDigitYears) :
    (SessionRow.ofSession s).toSession? = some s.toMicros := by
  have hsids : LegSids.members.codec.Keeps 1 s.sids := LegSids.keeps_codec s.sids
  unfold toSession? ofSession Session.toMicros
  simp only [Option.bind_eq_bind, Option.bind_some, Option.pure_def, Uuid.ofString?_toString,
    Mode.naming_faithful s.mode, TransferStatus.naming_faithful s.status,
    keptValue?_print hsids (by decide),
    Instant.ofStored_toStored h.createdAt, Instant.ofStored_toStored h.updatedAt]

end ShelterLine

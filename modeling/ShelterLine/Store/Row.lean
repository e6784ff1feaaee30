import ShelterLine.Call.Codec
import ShelterLine.Safety.Codec
import ShelterLine.Transfer.Codec

/-!
# Rows

A record is kept as one row of a table. Identifiers, names and times are texts, flags are numbers,
and lists are JSON in a text. Times are written with six digits after the point, so that the order
of the texts is the order of the times.

A row that does not read back as a record belongs to nobody: it is passed over when records are
loaded. What may be missing in a record is missing whenever its column cannot be read.
-/

namespace ShelterLine

/-- The number that a flag is kept as. -/
def flagNumber (b : Bool) : Int := if b then 1 else 0

/-- The value that a JSON text keeps. -/
def keptValue? {α : Type} (c : Json.Codec α) (text : String) : Option α := (c.read text).toOption

/-- A job as a row. A flag that is no whole number is missing. -/
structure JobRow where
  id : Option String
  mode : String
  status : String
  createdAt : String
  updatedAt : String
  survivorContext : String
  callbackNumber : Option String
  anonymous : Option Int
  approved : Option Int
  shelterIds : String
  attempts : String
deriving DecidableEq

namespace JobRow

/-- The JSON of shelter identifiers. -/
def shelterIdsCodec : Json.Codec (List Int64) := .list .int64

/-- The JSON of attempts. -/
def attemptsCodec : Json.Codec (List Attempt) := .list Attempt.members.codec

/-- The row of a job. -/
def ofJob (j : Job) : JobRow where
  id := some j.id.toString
  mode := Mode.naming.name j.mode
  status := JobStatus.naming.name j.status
  createdAt := j.createdAt.toStored
  updatedAt := j.updatedAt.toStored
  survivorContext := j.request.survivorContext
  callbackNumber := j.request.callbackNumber
  anonymous := some (flagNumber j.request.anonymous)
  approved := some (flagNumber j.request.approved)
  shelterIds := shelterIdsCodec.print j.request.shelterIds
  attempts := attemptsCodec.print j.attempts

/-- The job that a row keeps. -/
def toJob? (r : JobRow) : Option Job := do
  let id ← Uuid.ofString? (← r.id)
  let mode ← Mode.naming.find? r.mode
  let status ← JobStatus.naming.find? r.status
  let shelterIds ← keptValue? shelterIdsCodec r.shelterIds
  let attempts ← keptValue? attemptsCodec r.attempts
  let anonymous ← r.anonymous
  let approved ← r.approved
  pure {
    id, mode, status, attempts
    createdAt := .ofStored r.createdAt
    updatedAt := .ofStored r.updatedAt
    request := {
      survivorContext := r.survivorContext
      callbackNumber := r.callbackNumber
      anonymous := anonymous ≠ 0
      approved := approved ≠ 0
      shelterIds } }

/-- Of two rows of one job the one that was changed last stays. Even then the job keeps the time at
which it was first kept as made. -/
def settle (old new : JobRow) : JobRow :=
  if old.updatedAt ≤ new.updatedAt then { new with createdAt := old.createdAt } else old

end JobRow

/-- A session as a row. -/
structure SessionRow where
  id : Option String
  mode : String
  status : String
  createdAt : String
  updatedAt : String
  conference : String
  jobId : String
  attemptId : String
  shelterName : String
  shelterPhone : String
  survivorPhone : String
  survivorName : Option String
  notes : Option String
  sids : String
deriving DecidableEq

namespace SessionRow

/-- The row of a session. -/
def ofSession (s : Session) : SessionRow where
  id := some s.id.toString
  mode := Mode.naming.name s.mode
  status := TransferStatus.naming.name s.status
  createdAt := s.createdAt.toStored
  updatedAt := s.updatedAt.toStored
  conference := s.conference
  jobId := s.jobId.toString
  attemptId := s.attemptId.toString
  shelterName := s.shelterName
  shelterPhone := s.shelterPhone
  survivorPhone := s.survivorPhone
  survivorName := s.survivorName
  notes := s.notes
  sids := LegSids.members.codec.print s.sids

/-- The session that a row keeps. -/
def toSession? (r : SessionRow) : Option Session := do
  let id ← Uuid.ofString? (← r.id)
  let mode ← Mode.naming.find? r.mode
  let status ← TransferStatus.naming.find? r.status
  let jobId ← Uuid.ofString? r.jobId
  let attemptId ← Uuid.ofString? r.attemptId
  let sids ← keptValue? LegSids.members.codec r.sids
  pure {
    id, mode, status, jobId, attemptId, sids
    createdAt := .ofStored r.createdAt
    updatedAt := .ofStored r.updatedAt
    conference := r.conference
    shelterName := r.shelterName
    shelterPhone := r.shelterPhone
    survivorPhone := r.survivorPhone
    survivorName := r.survivorName
    notes := r.notes }

/-- Of two rows of one session the one that was changed last stays. Even then the session keeps the
time at which it was first kept as made, and the attempt that it belongs to. -/
def settle (old new : SessionRow) : SessionRow :=
  if old.updatedAt ≤ new.updatedAt then
    { new with
      createdAt := old.createdAt, jobId := old.jobId, attemptId := old.attemptId }
  else old

end SessionRow

/-- An escalation as a row. -/
structure EscalationRow where
  id : Option String
  createdAt : String
  source : String
  referenceId : String
  reason : String
  details : Option String
deriving DecidableEq

namespace EscalationRow

/-- The row of an escalation. -/
def ofEscalation (e : Escalation) : EscalationRow where
  id := some e.id.toString
  createdAt := e.createdAt.toStored
  source := EscalationSource.naming.name e.source
  referenceId := e.referenceId
  reason := e.reason
  details := e.details

/-- The escalation that a row keeps. -/
def toEscalation? (r : EscalationRow) : Option Escalation := do
  let id ← Uuid.ofString? (← r.id)
  let source ← EscalationSource.naming.find? r.source
  pure {
    id, source
    createdAt := .ofStored r.createdAt
    referenceId := r.referenceId
    reason := r.reason
    details := r.details }

/-- An escalation that was kept once is never changed. -/
def settle (old _new : EscalationRow) : EscalationRow := old

end EscalationRow

end ShelterLine

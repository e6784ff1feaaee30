import ShelterLine.Call.Codec
import ShelterLine.Safety.Codec
import ShelterLine.Transfer.Codec

/-!
# Events

Whoever watches gets one event for every change of a job or a transfer and for every escalation,
each with the whole record as it is then, and a snapshot of everything at the start and after a gap.

As JSON an event is an object whose field `type` says which kind it is, next to the fields of that
kind. The reader takes in the whole text before it looks at the fields, so of several problems one
in the text comes before one in the fields, except in `type` itself.
-/

namespace ShelterLine

/-- A message to those who watch. -/
inductive Event where
  | snapshot (jobs : List Job) (transfers : List Session) (escalations : List Escalation)
  | jobUpdated (job : Job)
  | transferUpdated (transfer : Session)
  | escalationRecorded (escalation : Escalation)
deriving DecidableEq

namespace Event

open Json Json.Members

/-- The kinds of events. -/
inductive Kind where
  | snapshot
  | jobUpdated
  | transferUpdated
  | escalationRecorded
deriving DecidableEq

/-- The names of the kinds. -/
def Kind.naming : Naming Kind where
  kind := "event type"
  values := [.snapshot, .jobUpdated, .transferUpdated, .escalationRecorded]
  name
    | .snapshot => "snapshot"
    | .jobUpdated => "job_updated"
    | .transferUpdated => "transfer_updated"
    | .escalationRecorded => "escalation_recorded"

/-- The kind of an event. -/
def kind : Event → Kind
  | .snapshot .. => .snapshot
  | .jobUpdated _ => .jobUpdated
  | .transferUpdated _ => .transferUpdated
  | .escalationRecorded _ => .escalationRecorded

/-- The records that a snapshot shows. -/
def jobs : Event → List Job
  | .snapshot js _ _ => js
  | .jobUpdated j => [j]
  | _ => []

/-- The transfers that an event shows. -/
def transfers : Event → List Session
  | .snapshot _ ts _ => ts
  | .transferUpdated t => [t]
  | _ => []

/-- The escalations that an event shows. -/
def escalations : Event → List Escalation
  | .snapshot _ _ es => es
  | .escalationRecorded e => [e]
  | _ => []

/-- The fields of snapshots. -/
def snapshotMembers : Members Event Event :=
  Event.snapshot
    <$> required "jobs" (.list Job.members.codec) jobs
    <*> required "transfers" (.list Session.members.codec) transfers
    <*> required "escalations" (.list Escalation.members.codec) escalations

/-- The field of a changed job. -/
def jobMembers : Members Job Event :=
  Event.jobUpdated <$> required "job" Job.members.codec id

/-- The field of a changed transfer. -/
def transferMembers : Members Session Event :=
  Event.transferUpdated <$> required "transfer" Session.members.codec id

/-- The field of a new escalation. -/
def escalationMembers : Members Escalation Event :=
  Event.escalationRecorded <$> required "escalation" Escalation.members.codec id

/-- The fields of an event apart from its kind. -/
def encodeBody : Event → List (String × Json)
  | .snapshot js ts es => snapshotMembers.write (.snapshot js ts es)
  | .jobUpdated j => jobMembers.write j
  | .transferUpdated t => transferMembers.write t
  | .escalationRecorded e => escalationMembers.write e

/-- Reads the body of an event of a known kind from a draft without flaws. -/
def decodeBody (k : Kind) (d : Draft) : Except Problem Event :=
  let read : Except Problem Event := match k with
    | .snapshot => body snapshotMembers
    | .jobUpdated => body jobMembers
    | .transferUpdated => body transferMembers
    | .escalationRecorded => body escalationMembers
  read.mapError fun _ => .mismatch
where
  body {σ : Type} (m : Members σ Event) : Except Problem Event :=
    match d with
    | .obj fields stop => m.decodeFields (fieldsTakenIn fields) stop
    | .arr items stop => m.decodeItems (itemsTakenIn items) stop
    | _ => .error .mismatch

/-- Reads the name of a kind. -/
def decodeKind (d : Draft) : Except Problem Kind := do
  match Kind.naming.find? (← Codec.string.decode d) with
  | some k => .ok k
  | none => .error .mismatch

/-- The problem of the text of a draft. -/
def checkText (d : Draft) : Except Problem Unit :=
  match d.value with
  | .ok _ => .ok ()
  | .error f => .error f.problem

/-- Looks for the kind among fields, and checks the text of the others. -/
def findKind (kind : Option Kind) : List (Option String × Draft) → Except Problem (Option Kind)
  | [] => .ok kind
  | (none, _) :: _ => .error .malformed
  | (some "type", d) :: rest =>
    if kind.isSome then .error .mismatch
    else do findKind (some (← decodeKind d)) rest
  | (some _, d) :: rest => do
    checkText d
    findKind kind rest

/-- Checks the texts of the items of a list. -/
def checkItems : List Draft → Except Problem Unit
  | [] => .ok ()
  | d :: ds => do
    checkText d
    checkItems ds

/-- Where a list stops early, its problem. -/
def checkStop : Option Break → Except Problem Unit
  | none => .ok ()
  | some b => .error b.onRead.problem

/-- Events as JSON. -/
def codec : Codec Event where
  encode e := .obj (("type", .str (Kind.naming.name e.kind)) :: e.encodeBody)
  decode
    | .obj fields stop => do
      let kind ← findKind none fields
      checkStop stop
      match kind with
      | none => .error .mismatch
      | some k => decodeBody k (.obj (fields.filter fun f => f.1 ≠ some "type") none)
    | .arr [] stop => do
      checkStop stop
      .error .mismatch
    | .arr (d :: items) stop => do
      let k ← decodeKind d
      checkItems items
      checkStop stop
      decodeBody k (.arr items none)
    | .buried _ => .error .malformed
    | d => Codec.unwanted d

/-- What an event is about, in brief. -/
def brief : Event → Json
  | .snapshot js ts es => .obj [
    ("jobs", .nat js.length), ("transfers", .nat ts.length), ("escalations", .nat es.length)]
  | .jobUpdated j => .obj [
    ("id", Codec.uuid.encode j.id), ("status", .str (JobStatus.naming.name j.status)),
    ("attempts", .arr (j.attempts.map fun a => .str (AttemptStatus.naming.name a.status)))]
  | .transferUpdated t => .obj [
    ("id", Codec.uuid.encode t.id), ("status", .str (TransferStatus.naming.name t.status)),
    ("call_sids", LegSids.members.codec.encode t.sids)]
  | .escalationRecorded e => .obj [
    ("id", Codec.uuid.encode e.id), ("source", .str (EscalationSource.naming.name e.source))]

/-- The kind of an event and what it is about. -/
def summary (e : Event) : Json :=
  .obj [("type", .str (Kind.naming.name e.kind)), ("of", e.brief)]

end Event

end ShelterLine

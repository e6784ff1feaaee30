import ShelterLine.Call.Status
import ShelterLine.Time.Instant
import ShelterLine.Uuid

/-!
# Warm transfers

A warm transfer brings a survivor and a shelter together in one conference. Each of the two is a leg
with a call of its own; the conference is named for the transfer.
-/

namespace ShelterLine

/-- How far a transfer has come. -/
inductive TransferStatus where
  | queued
  | connecting
  | bridged
  | completed
  | failed
deriving DecidableEq, Repr

/-- The names of transfer statuses. -/
def TransferStatus.naming : Naming TransferStatus where
  kind := "transfer status"
  values := [.queued, .connecting, .bridged, .completed, .failed]
  name
    | .queued => "queued"
    | .connecting => "connecting"
    | .bridged => "bridged"
    | .completed => "completed"
    | .failed => "failed"

/-- One of the two parties. -/
inductive Leg where
  | survivor
  | shelter
deriving DecidableEq, Repr

/-- The names of legs. -/
def Leg.naming : Naming Leg where
  kind := "transfer leg"
  values := [.survivor, .shelter]
  name
    | .survivor => "survivor"
    | .shelter => "shelter"

/-- The SID of each leg's call, once it has been placed. -/
structure LegSids where
  survivor : Option String := none
  shelter : Option String := none
deriving DecidableEq

/-- The SID of a leg. -/
def LegSids.get (s : LegSids) : Leg → Option String
  | .survivor => s.survivor
  | .shelter => s.shelter

/-- Sets the SID of a leg. -/
def LegSids.set (s : LegSids) (leg : Leg) (sid : Option String) : LegSids :=
  match leg with
  | .survivor => { s with survivor := sid }
  | .shelter => { s with shelter := sid }

/-- A bridge between a survivor and a shelter. -/
structure Session where
  id : Uuid
  mode : Mode
  status : TransferStatus
  createdAt : Instant
  updatedAt : Instant
  conference : String
  jobId : Uuid
  attemptId : Uuid
  shelterName : String
  shelterPhone : String
  survivorPhone : String
  survivorName : Option String
  notes : Option String
  sids : LegSids
deriving DecidableEq

/-- What a session is made from. -/
structure NewTransfer where
  jobId : Uuid
  attemptId : Uuid
  shelterName : String
  shelterPhone : String
  survivorPhone : String
  survivorName : Option String
  notes : Option String
deriving DecidableEq

/-- The name of a transfer's conference. -/
def conferenceName (id : Uuid) : String := "outreach-transfer-" ++ id.toSimpleString

/-- A session whose parties have not been dialed yet. -/
def Session.create (now : Instant) (id : Uuid) (mode : Mode) (t : NewTransfer) : Session where
  id := id
  mode := mode
  status := .queued
  createdAt := now
  updatedAt := now
  conference := conferenceName id
  jobId := t.jobId
  attemptId := t.attemptId
  shelterName := t.shelterName
  shelterPhone := t.shelterPhone
  survivorPhone := t.survivorPhone
  survivorName := t.survivorName
  notes := t.notes
  sids := {}

end ShelterLine

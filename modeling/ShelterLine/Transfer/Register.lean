import ShelterLine.SidIndex
import ShelterLine.Transfer.Session

/-!
# The register of transfers

The register owns the sessions and the index from SIDs to legs. The last status counts, whatever the
one before: when one leg fails after the other was bridged, the session has failed.
-/

namespace ShelterLine

/-- Points at a leg of a session. -/
structure LegRef where
  transferId : Uuid
  leg : Leg
deriving DecidableEq, Repr

/-- The sessions and the SIDs of their legs. -/
structure TransferRegister where
  sessions : List Session := []
  sids : SidIndex LegRef := {}
deriving DecidableEq

namespace TransferRegister

/-- The session with an identifier. -/
def get? (r : TransferRegister) (id : Uuid) : Option Session := r.sessions.find? (·.id = id)

/-- Takes a session in. -/
def insert (r : TransferRegister) (s : Session) : TransferRegister :=
  { r with sessions := s :: r.sessions.filter (·.id ≠ s.id) }

/-- Newer sessions come first; of sessions made at the same time the one with the smaller
identifier. -/
def comesFirst (a b : Session) : Bool :=
  if a.createdAt = b.createdAt then a.id ≤ b.id else b.createdAt ≤ a.createdAt

/-- All sessions, newest first. -/
def toList (r : TransferRegister) : List Session := r.sessions.mergeSort comesFirst

/-- The number of sessions. -/
def size (r : TransferRegister) : Nat := r.sessions.length

/-- Changes the session with an identifier. -/
def modify (r : TransferRegister) (id : Uuid) (f : Session → Session) : TransferRegister :=
  { r with sessions := r.sessions.map fun s => if s.id = id then f s else s }

/-- Changes a session and hands out the changed one. -/
def update (r : TransferRegister) (id : Uuid) (f : Session → Session) :
    Option (Session × TransferRegister) := do
  let s ← r.get? id
  pure (f s, r.modify id f)

/-- Sets the status of a session. -/
def setStatus (r : TransferRegister) (now : Instant) (id : Uuid) (status : TransferStatus) :
    Option (Session × TransferRegister) :=
  r.update id fun s => { s with status, updatedAt := now }

/-- Gives a leg a SID. A leg that had the SID before loses it. -/
def bindSid (r : TransferRegister) (now : Instant) (ref : LegRef) (sid : String) :
    Option (Session × TransferRegister) := do
  let _ ← r.get? ref.transferId
  let r' := { r with sids := r.sids.bind sid ref }
  let r' := match r.sids.rebind sid ref with
    | .movedFrom old => r'.modify old.transferId fun s => { s with sids := s.sids.set old.leg none }
    | _ => r'
  r'.update ref.transferId fun s =>
    { s with sids := s.sids.set ref.leg (some sid), updatedAt := now }

/-- The session and the leg that a SID belongs to. -/
def findSid? (r : TransferRegister) (sid : String) : Option (Session × Leg) := do
  let ref ← r.sids.owner? sid
  let s ← r.get? ref.transferId
  pure (s, ref.leg)

/-- Indexes the SIDs of a session's legs, the survivor's first. -/
def indexLegs (sids : SidIndex LegRef) (s : Session) : SidIndex LegRef :=
  [Leg.survivor, .shelter].foldl (fun ix leg => match s.sids.get leg with
    | some sid => ix.bind sid ⟨s.id, leg⟩
    | none => ix) sids

/-- Takes in a session that was kept elsewhere, unless one with its identifier is there. -/
def restore (r : TransferRegister) (s : Session) : Bool × TransferRegister :=
  if (r.get? s.id).isSome then (false, r)
  else (true, { r with sids := indexLegs r.sids s }.insert s)

end TransferRegister

end ShelterLine

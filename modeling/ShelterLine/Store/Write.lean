import ShelterLine.Store.Database

/-!
# Writes

Whatever changes in memory is written to the database afterwards, one write per change. Memory
counts: a write that fails is lost and nobody waits for it.
-/

namespace ShelterLine

/-- A change to be kept. -/
inductive Write where
  | job (j : Job)
  | session (s : Session)
  | escalation (e : Escalation)
  | block (number : String)
  | unblock (number : String)
deriving DecidableEq

namespace Database

/-- Carries out a write. -/
def perform (db : Database) : Write → Except DatabaseError Database
  | .job j => db.putJob j
  | .session s => db.putSession s
  | .escalation e => db.putEscalation e
  | .block n => db.block n
  | .unblock n => db.unblock n

/-- Carries out a write, which is lost if it fails. -/
def absorb (db : Database) (w : Write) : Database :=
  match db.perform w with
  | .ok db' => db'
  | .error _ => db

/-- Carries out writes in order. -/
def absorbAll (db : Database) (ws : List Write) : Database := ws.foldl absorb db

/-- How many jobs, and how many sessions, are loaded at a start. -/
def startLimit : Nat := 500

end Database

/-- Where writes go: nowhere, or to a database, which may refuse them all. -/
structure Sink where
  database : Option Database := none
  refuses : Bool := false
deriving DecidableEq

/-- Whether writes go anywhere. -/
def Sink.isEnabled (k : Sink) : Bool := k.database.isSome

/-- Hands a write on. -/
def Sink.write (k : Sink) (w : Write) : Sink :=
  if k.refuses then k else { k with database := k.database.map (·.absorb w) }

/-- The records that are loaded at a start. -/
structure Stored where
  escalations : List Escalation := []
  blocked : List String := []
  jobs : List Job := []
  sessions : List Session := []
deriving DecidableEq

/-- Loads so many escalations, so many jobs and sessions, and all blocked numbers. -/
def Database.load (db : Database) (escalationLimit recordLimit : Nat) :
    Except DatabaseError Stored := do
  let escalations ← db.loadEscalations escalationLimit
  let blocked ← db.loadBlocked
  let jobs ← db.loadJobs recordLimit
  let sessions ← db.loadSessions recordLimit
  pure { escalations, blocked, jobs, sessions }

/-- Loads what a start needs. -/
def Database.stored (db : Database) : Except DatabaseError Stored :=
  db.load EscalationLog.capacity Database.startLimit

/-- Records as JSON. -/
def Stored.toJson (s : Stored) : Json := .obj [
  ("jobs", .arr (s.jobs.map Job.members.codec.encode)),
  ("transfers", .arr (s.sessions.map Session.members.codec.encode)),
  ("escalations", .arr (s.escalations.map Escalation.members.codec.encode)),
  ("blocked", .arr (s.blocked.map .str))]

end ShelterLine

import ShelterLine.Store.Migration

/-!
# Reading and writing records

Records are written whole and loaded newest first. Without its table an operation fails. Writing the
same record again changes nothing, and an older state of a record never replaces a newer one, so
writes may arrive in any order.
-/

namespace ShelterLine.Database

open Schema

/-- Goes on only if a table is there. -/
def need {α : Type} (db : Database) (table : String) (result : α) : Except DatabaseError α :=
  if db.hasTable table then .ok result else .error (.query s!"no such table: {table}")

/-- The limit that lets everything through. -/
def unlimited : Nat := Int64.maxValue.toInt.toNat

/-- Keeps a job. -/
def putJob (db : Database) (j : Job) : Except DatabaseError Database :=
  db.need jobTable { db with jobs := Table.put (·.id) JobRow.settle (.ofJob j) db.jobs }

/-- The jobs that were changed last. -/
def loadJobs (db : Database) (limit : Nat) : Except DatabaseError (List Job) :=
  db.need jobTable ((Table.newest (·.updatedAt) limit db.jobs).filterMap JobRow.toJob?)

/-- Keeps a session. -/
def putSession (db : Database) (s : Session) : Except DatabaseError Database :=
  db.need sessionTable
    { db with sessions := Table.put (·.id) SessionRow.settle (.ofSession s) db.sessions }

/-- The sessions that were changed last. -/
def loadSessions (db : Database) (limit : Nat) : Except DatabaseError (List Session) :=
  db.need sessionTable
    ((Table.newest (·.updatedAt) limit db.sessions).filterMap SessionRow.toSession?)

/-- Keeps an escalation, unless it was kept before. -/
def putEscalation (db : Database) (e : Escalation) : Except DatabaseError Database :=
  db.need escalationTable
    { db with
      escalations := Table.put (·.id) EscalationRow.settle (.ofEscalation e) db.escalations }

/-- The newest escalations. -/
def loadEscalations (db : Database) (limit : Nat) : Except DatabaseError (List Escalation) :=
  db.need escalationTable
    ((Table.newest (·.createdAt) limit db.escalations).filterMap EscalationRow.toEscalation?)

/-- Keeps a blocked number, unless it was kept before. -/
def block (db : Database) (number : String) : Except DatabaseError Database :=
  db.need blockedTable
    { db with blocked := Table.put id (fun old _ => old) (some number) db.blocked }

/-- Removes a blocked number. -/
def unblock (db : Database) (number : String) : Except DatabaseError Database :=
  db.need blockedTable { db with blocked := db.blocked.filter (· ≠ some number) }

/-- The blocked numbers, sorted. -/
def loadBlocked (db : Database) : Except DatabaseError (List String) :=
  db.need blockedTable ((db.blocked.filterMap id).mergeSort fun a b => a ≤ b)

end ShelterLine.Database

import ShelterLine.Store.Row
import ShelterLine.Store.Table

/-!
# The database and its schema

A database has named tables and indexes, a ledger of the migrations that were applied to it, and
rows. A statement either changes the schema or the ledger, or it is refused and changes nothing.
Making what is there already, and recording what is recorded already, changes nothing either.
-/

namespace ShelterLine

/-- What a name in a schema stands for. -/
inductive ObjectKind where
  | table
  | index
deriving DecidableEq, Repr

/-- A table or an index. -/
structure SchemaObject where
  kind : ObjectKind
  name : String
deriving DecidableEq, Repr

/-- The migrations that were applied, by version. A ledger that was made by others may lack the
column of versions, or refuse new rows. -/
structure Ledger where
  rows : List (Int × String) := []
  hasVersions : Bool := true
  takesRows : Bool := true
deriving DecidableEq, Repr

/-- The schema and the rows. Of a blocked number only the number is kept here. -/
structure Database where
  objects : List SchemaObject := []
  ledger : Ledger := {}
  jobs : List JobRow := []
  sessions : List SessionRow := []
  escalations : List EscalationRow := []
  blocked : List (Option String) := []
deriving DecidableEq

namespace Schema

/-- The table of migrations. -/
def ledgerTable : String := "_migrations"

/-- The table of jobs. -/
def jobTable : String := "call_jobs"

/-- The table of transfers. -/
def sessionTable : String := "warm_transfers"

/-- The table of escalations. -/
def escalationTable : String := "escalation_events"

/-- The table of blocked numbers. -/
def blockedTable : String := "blocked_numbers"

/-- A statement that changes the schema or the ledger. -/
inductive Statement where
  | createTable (name : String)
  | createIndex (name table : String)
  | record (version : Int) (name : String)
deriving DecidableEq, Repr

end Schema

namespace Database

open Schema

/-- Whether a table is there. -/
def hasTable (db : Database) (name : String) : Bool := db.objects.contains ⟨.table, name⟩

/-- Whether an index is there. -/
def hasIndex (db : Database) (name : String) : Bool := db.objects.contains ⟨.index, name⟩

/-- Puts a version where the order of versions wants it, unless it is there. -/
def insertVersion (v : Int) (name : String) : List (Int × String) → List (Int × String)
  | [] => [(v, name)]
  | (w, n) :: rest =>
    if v = w then (w, n) :: rest
    else if v < w then (v, name) :: (w, n) :: rest
    else (w, n) :: insertVersion v name rest

/-- Executes a statement. A name that stands for something of the other kind is refused, and so is
an index on a table that is not there. -/
def execute (db : Database) : Statement → Option Database
  | .createTable name =>
    if db.hasTable name then some db
    else if db.hasIndex name then none
    else some { db with objects := db.objects ++ [⟨.table, name⟩] }
  | .createIndex name table =>
    if !db.hasTable table || db.hasTable name then none
    else if db.hasIndex name then some db
    else some { db with objects := db.objects ++ [⟨.index, name⟩] }
  | .record v name =>
    if db.hasTable ledgerTable && db.ledger.takesRows then
      some { db with ledger.rows := insertVersion v name db.ledger.rows }
    else none

/-- The greatest version in the ledger, or zero if it is empty. -/
def version? (db : Database) : Option Int :=
  if db.hasTable ledgerTable && db.ledger.hasVersions then
    match db.ledger.rows with
    | [] => some 0
    | (v, _) :: rest => some (rest.foldl (fun m r => max m r.1) v)
  else none

end Database

end ShelterLine

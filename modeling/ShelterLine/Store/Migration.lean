import ShelterLine.Error
import ShelterLine.Store.Schema

/-!
# Migrations

A database is brought up to date by the migrations with a greater version than any in its ledger, in
order. Each makes what it adds and is recorded afterwards, statement by statement: where this was
cut off, it is simply done again, since every statement may be repeated.
-/

namespace ShelterLine

open Schema

/-- A version of the schema: what it adds to the one before. -/
structure Migration where
  version : Int
  name : String
  batch : List Statement
deriving DecidableEq, Repr

namespace Migration

/-- The tables. -/
def initial : Migration where
  version := 1
  name := "initial_schema"
  batch := [.createTable jobTable, .createTable sessionTable, .createTable escalationTable,
    .createTable blockedTable]

/-- The indexes for loading the newest rows. -/
def recency : Migration where
  version := 2
  name := "recency_indexes"
  batch := [.createIndex "idx_call_jobs_updated_at" jobTable,
    .createIndex "idx_warm_transfers_updated_at" sessionTable,
    .createIndex "idx_escalation_events_created_at" escalationTable]

/-- All migrations, in order. -/
def all : List Migration := [initial, recency]

/-- A statement and what is reported when it is refused. -/
structure Step where
  statement : Statement
  onRefusal : String
deriving DecidableEq, Repr

/-- The statements of a migration, its record last. -/
def steps (m : Migration) : List Step :=
  m.batch.map (⟨·, s!"Migration V{m.version} ({m.name}) failed"⟩)
    ++ [⟨.record m.version m.name, s!"Failed to record migration V{m.version}"⟩]

/-- The statements that a database of a version lacks. -/
def pending (version : Int) : List Step :=
  (all.filter fun m => version < m.version).flatMap steps

/-- The first statement of all. -/
def makeLedger : Step := ⟨.createTable ledgerTable, "Failed to create _migrations table"⟩

end Migration

namespace Database

/-- Executes a statement, or reports its refusal. -/
def step (db : Database) (s : Migration.Step) : Except DatabaseError Database :=
  match db.execute s.statement with
  | some db' => .ok db'
  | none => .error (.migration s.onRefusal)

/-- Executes statements in order. -/
def run (db : Database) : List Migration.Step → Except DatabaseError Database
  | [] => .ok db
  | s :: ss => do (← db.step s).run ss

/-- Brings a database up to date. -/
def migrate (db : Database) : Except DatabaseError Database := do
  let db ← db.step Migration.makeLedger
  match db.version? with
  | none => .error (.migration "Failed to query migration version")
  | some v => db.run (Migration.pending v)

end Database

end ShelterLine

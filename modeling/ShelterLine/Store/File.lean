import ShelterLine.Store.Database

/-!
# Database files

A database lives in a file. When it is opened the directory of the file is made, the file is made if
it is not there, and the database in it is brought up to date. A file that is no database refuses
the first statement already.
-/

namespace ShelterLine

/-- What is found where a database should be. -/
inductive DatabaseFile where
  /-- Nothing yet. -/
  | missing
  /-- Something that is no directory where the directory should be. -/
  | underFile
  /-- A directory. -/
  | directory
  /-- A file with something else in it. -/
  | garbage
  /-- A database. -/
  | holds (db : Database)

/-- Opens the database of a file. -/
def DatabaseFile.open : DatabaseFile → Except DatabaseError Database
  | missing => ({} : Database).migrate
  | underFile => .error (.pool "Failed to create database directory")
  | directory => .error (.pool "Failed to create connection")
  | garbage => .error (.migration Migration.makeLedger.onRefusal)
  | holds db => db.migrate

end ShelterLine

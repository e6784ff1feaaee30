import ShelterLine.Desk.Policy
import ShelterLine.Store.File

/-!
# Starting up

At a start the service tells what it is set up with, opens the database and takes in what is there.
Without persistence it starts empty. A database that cannot be opened or read ends the start.
-/

namespace ShelterLine

/-- What was told at a start, and the desk, or what went wrong. -/
structure Startup where
  lines : List String
  desk : Except String Desk

namespace Startup

/-- The version of the service. -/
def version : String := "0.1.0"

/-- What the service is set up with. -/
def banner (s : Settings) : List String :=
  let live := if s.twilio.isSome then "twilio" else "disabled (dry-run only)"
  let scripting := match s.model with
    | some m => m.model
    | none => "fallback templates"
  [s!"📞 Shelter Outreach v{version}",
    s!"   API: http://0.0.0.0:{s.port.toNat}/api/call-jobs",
    s!"   Events WS: ws://0.0.0.0:{s.port.toNat}/ws",
    s!"   Live telephony: {live}",
    s!"   Scripting: {scripting}"]

/-- What was taken in from a database. -/
def restoredLine (r : Restored) (path : String) : String :=
  s!"   Restored {r.jobs} jobs, {r.transfers} transfers, {r.escalations} escalations from {path}"

/-- What is told about a failure. -/
def failureLine (text : String) : String := s!"Error: {text}"

/-- What goes wrong when the port is taken. -/
def portTaken (s : Settings) : String := s!"binding port {s.port.toNat}"

/-- Starts with what is found where the database should be. -/
def ofSettings (s : Settings) (file : DatabaseFile) : Startup :=
  let desk := Desk.ofConfig s.safety
  if !s.persistence then ⟨banner s ++ ["   Persistence: disabled"], .ok desk⟩
  else match file.open with
    | .error _ => ⟨banner s, .error s!"opening database at {s.dbPath}"⟩
    | .ok db => match db.stored with
      | .error _ => ⟨banner s, .error "rehydrating state from database"⟩
      | .ok stored =>
        let (counts, desk) := desk.restore stored
        ⟨banner s ++ [restoredLine counts s.dbPath], .ok desk⟩

end Startup

end ShelterLine

import ShelterLine.Desk.Operation
import ShelterLine.Feed

/-!
# The service

The desk, the bus that its events go to, and the sink that its records go to. After an operation the
effects are handed on in the order in which they happened.
-/

namespace ShelterLine

/-- The desk with what its effects go to. -/
structure Service where
  desk : Desk
  bus : Bus Event := {}
  sink : Sink := {}

namespace Service

/-- Hands one effect on. -/
def handOn (s : Service) : Effect → Service
  | .keep w => { s with sink := s.sink.write w }
  | .publish e => { s with bus := s.bus.publish e }
  | .call .. | .message _ | .question _ => s

/-- Hands all effects on and hands them out, in order. -/
def settle (s : Service) : List Effect × Service :=
  let effects := s.desk.trace.reverse
  (effects, effects.foldl handOn { s with desk.trace := [] })

/-- Starts over with an empty desk that nobody watches, and takes in what the database has.
Identifiers go on where they were, and so does the clock. -/
def restart (config : SafetyConfig) (s : Service) : Except DatabaseError (Restored × Service) := do
  let desk : Desk := { Desk.ofConfig config with
    made := s.desk.made, readings := s.desk.readings }
  match s.sink.database with
  | none => pure ({}, { s with desk, bus := {} })
  | some db =>
    let (counts, desk) := desk.restore (← db.stored)
    pure (counts, { s with desk, bus := {} })

end Service

end ShelterLine

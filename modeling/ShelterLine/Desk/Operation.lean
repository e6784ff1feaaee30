import ShelterLine.Desk.Bridging

/-!
# Operations

Everything that can be asked of the desk, and what it replies. A run is a list of operations, each
in surroundings of its own.
-/

namespace ShelterLine

/-- Something that is asked of the desk. -/
inductive Operation where
  | startJob (request : StartJob)
  | startTransfer (request : StartTransfer)
  | status (report : StatusReport)
  | recording (sid url : String)
  | transcript (sid text : String)
  | gather (ref : AttemptRef) (speech : Option String)
  | block (raw : String)
  | unblock (raw : String)
  | reset
  | restore (stored : Stored)

/-- What the desk replies. -/
inductive Reply where
  | job (result : Except Refusal Job)
  | session (result : Except Refusal Session)
  | outcome (o : WebhookOutcome)
  | document (m : Markup)
  | change (c : BlockChange)
  | restored (r : Restored)
  | done

namespace Desk

/-- Carries out an operation. -/
def perform (s : Surroundings) (d : Desk) : Operation → Reply × Desk
  | .startJob r => let (a, d) := d.startJob s r; (.job a, d)
  | .startTransfer r => let (a, d) := d.startTransfer s r; (.session a, d)
  | .status r => let (a, d) := d.status s r; (.outcome a, d)
  | .recording sid url => let (a, d) := d.recording s sid url; (.outcome a, d)
  | .transcript sid text => let (a, d) := d.transcript s sid text; (.outcome a, d)
  | .gather ref speech => let (a, d) := d.gather s ref speech; (.document a, d)
  | .block raw => let (a, d) := d.block raw; (.change a, d)
  | .unblock raw => let (a, d) := d.unblock raw; (.change a, d)
  | .reset => (.done, d.reset)
  | .restore stored => let (a, d) := d.restore stored; (.restored a, d)

/-- Carries out operations in order. -/
def run (d : Desk) (ops : List (Surroundings × Operation)) : Desk :=
  ops.foldl (fun d (s, op) => (d.perform s op).2) d

end Desk

end ShelterLine

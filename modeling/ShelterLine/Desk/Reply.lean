import ShelterLine.Desk.Operation

/-!
# Replies as JSON

A refusal has the name of its kind and what is said about it; a denial by policy has the escalation
that a human has to approve as well.
-/

namespace ShelterLine

/-- A denial as JSON, with what is said about it. -/
def Denial.toJson (message : String) (d : Denial) : Json :=
  let matched := d.matched?.map fun ks => ("matched_keywords", Json.arr (ks.map .str))
  .obj ([("error", .str d.kind), ("message", .str message),
    ("escalation_id", Json.strOrNull (d.escalationId?.map Uuid.toString))] ++ matched.toList)

/-- A refusal as JSON. -/
def Refusal.toJson (r : Refusal) : Json :=
  match r with
  | .policyDenied d => d.toJson r.message
  | _ => .obj [("error", .str r.kind), ("message", .str r.message)]

/-- What the desk replies, as JSON. -/
def Reply.toJson : Reply → Json
  | job (.ok j) => Job.members.codec.encode j
  | session (.ok s) => Session.members.codec.encode s
  | job (.error r) | session (.error r) => r.toJson
  | outcome o => .str (WebhookOutcome.naming.name o)
  | document m => .str m.toString
  | change c => BlockChange.members.codec.encode c
  | restored r => r.toJson
  | done => .null

end ShelterLine

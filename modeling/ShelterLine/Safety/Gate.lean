import ShelterLine.Risk
import ShelterLine.Safety.BlockList
import ShelterLine.Safety.Escalation

/-!
# The safety gate

The gate knows the blocked numbers and the escalations, and decides whether a live action may go
ahead. High risk always leaves an escalation; it stops the action only if the action is live, the
policy asks for approval, and nobody has given it.
-/

namespace ShelterLine

/-- What the policy is made from. -/
structure SafetyConfig where
  requireEscalation : Bool := true
  blockedNumbers : List String := []
deriving DecidableEq

/-- The policy with its block list and its log of escalations, newest first. -/
structure Gate where
  requireEscalation : Bool
  blocked : BlockList
  escalations : List Escalation
deriving DecidableEq

/-- Why the policy refuses an action. -/
inductive Denial where
  | blockedDestination (number : String)
  | blockedCallback (number : String)
  | escalationRequired (id : Uuid) (matched : List String)
deriving DecidableEq

/-- The policy as it is shown. -/
structure PolicySummary where
  requireEscalation : Bool
  blockedCount : Nat
  keywords : List String
deriving DecidableEq

/-- An identifier and a time for the next escalation. -/
structure Stamp where
  id : Uuid
  time : Instant
deriving DecidableEq

namespace Gate

/-- The gate of a configuration, with an empty log. -/
def ofConfig (c : SafetyConfig) : Gate := ⟨c.requireEscalation, .ofRaw c.blockedNumbers, []⟩

/-- Whether the policy stops a live action. -/
def stops (g : Gate) (risk : RiskAssessment) (approved : Bool) : Bool :=
  g.requireEscalation && risk.isHigh && !approved

/-- Puts an escalation in front of the log. -/
def record (g : Gate) (e : Escalation) : Gate :=
  { g with escalations := EscalationLog.record g.escalations e }

/-- Merges stored escalations into the log. -/
def seed (g : Gate) (stored : List Escalation) : Gate :=
  { g with escalations := EscalationLog.seed g.escalations stored }

/-- The escalation of a risky action. -/
def escalation (stamp : Stamp) (risk : RiskAssessment) (stopped : Bool)
    (source : EscalationSource) (referenceId : String) : Escalation where
  id := stamp.id
  createdAt := stamp.time
  source := source
  referenceId := referenceId
  reason := if stopped then "High-risk content; live action blocked pending human approval"
    else "High-risk content detected"
  details := some ("matched: " ++ ", ".intercalate risk.matchedKeywords)

/-- Decides on an action. The result is the escalation that was recorded, if any, or the denial. -/
def decide (g : Gate) (stamp : Stamp) (risk : RiskAssessment) (approved live : Bool)
    (source : EscalationSource) (referenceId : String) :
    Except Denial (Option Escalation) × Gate :=
  if !risk.isHigh then (.ok none, g)
  else
    let stopped := live && g.stops risk approved
    let e := escalation stamp risk stopped source referenceId
    let g' := g.record e
    if stopped then (.error (.escalationRequired e.id risk.matchedKeywords), g')
    else (.ok (some e), g')

/-- The escalation with an identifier, if the log has it. -/
def escalation? (g : Gate) (id : Uuid) : Option Escalation := g.escalations.find? (·.id = id)

/-- The policy as it is shown. -/
def summary (g : Gate) : PolicySummary :=
  ⟨g.requireEscalation, g.blocked.numbers.length, Risk.keywords⟩

end Gate

end ShelterLine

import ShelterLine.Json.Codec
import ShelterLine.Safety.Gate

/-!
# Risk, policy and escalations as JSON
-/

namespace ShelterLine

open Json Json.Members

/-- The names of risk levels. -/
def RiskLevel.naming : Naming RiskLevel where
  kind := "risk level"
  values := [.low, .high]
  name
    | .low => "low"
    | .high => "high"

/-- Judgements as JSON. -/
def RiskAssessment.members : Members RiskAssessment RiskAssessment :=
  RiskAssessment.mk
    <$> required "level" (.name RiskLevel.naming) (·.level)
    <*> required "matched_keywords" (.list .string) (·.matchedKeywords)
    <*> required "summary" .string (·.summary)

/-- Escalations as JSON. -/
def Escalation.members : Members Escalation Escalation :=
  Escalation.mk
    <$> required "escalation_id" .uuid (·.id)
    <*> required "created_at" .instant (·.createdAt)
    <*> required "source" (.name EscalationSource.naming) (·.source)
    <*> required "reference_id" .string (·.referenceId)
    <*> required "reason" .string (·.reason)
    <*> optional "details" .string (·.details)

/-- Changes of the block list as JSON. -/
def BlockChange.members : Members BlockChange BlockChange :=
  BlockChange.mk
    <$> required "changed" .bool (·.changed)
    <*> nullable "normalized" .string (·.number)

/-- The policy as JSON. -/
def PolicySummary.toJson (p : PolicySummary) : Json := .obj [
  ("require_escalation_for_live", .bool p.requireEscalation),
  ("blocked_numbers_count", .nat p.blockedCount),
  ("risk_keywords", .arr (p.keywords.map .str))]

end ShelterLine

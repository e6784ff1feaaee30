import ShelterLine.Text.Lower
import ShelterLine.Text.Search

/-!
# Risk

A text is high risk when its lower case contains one of seven phrases. False alarms are acceptable;
a phrase inside a longer word counts.
-/

namespace ShelterLine

/-- How dangerous the content of an action is. -/
inductive RiskLevel where
  | low
  | high
deriving DecidableEq, Repr

namespace Risk

/-- The phrases that make a text high risk. -/
def keywords : List String :=
  ["immediate danger", "weapon", "homicide", "suicide", "life threatening", "child in danger",
    "trafficking"]

/-- The phrases that a text contains, in the order of `keywords`. -/
def matchedKeywords (text : String) : List String :=
  let lowered := Text.lower text.toList
  keywords.filter fun k => Text.occurs k.toList lowered

end Risk

/-- A judgement on a text, with the phrases that led to it. -/
structure RiskAssessment where
  level : RiskLevel
  matchedKeywords : List String
  summary : String
deriving DecidableEq

/-- Whether the judgement is high. -/
def RiskAssessment.isHigh (r : RiskAssessment) : Bool := r.level = .high

/-- Judges a text by the phrases it contains. -/
def Risk.assess (text : String) : RiskAssessment :=
  match matchedKeywords text with
  | [] => ⟨.low, [], "No high-risk terms detected."⟩
  | found => ⟨.high, found, "High-risk language detected. Human escalation recommended."⟩

end ShelterLine

import ShelterLine.Call.Job
import ShelterLine.Json.Printer
import ShelterLine.Text.Blank
import ShelterLine.Text.Digit
import ShelterLine.Text.Lower
import ShelterLine.Text.Numeral
import ShelterLine.Text.Search
import ShelterLine.Text.Word

/-!
# Reading a transcript

What intake staff said is put into a report in one of two ways: from a model's JSON, in which
anything out of shape gets a default, or by looking for phrases.
-/

namespace ShelterLine.Script

open Text

/-! ## From a model's JSON -/

/-- How long a summary may be, in characters. -/
def maxSummary : Nat := 500

/-- How many requirements are kept. -/
def maxRequirements : Nat := 10

/-- The first characters of a text. -/
def takeChars (n : Nat) (s : String) : String := String.ofList (s.toList.take n)

/-- Whether a number is zero, whatever its sign. -/
def isZero : Json.Number → Bool
  | .int n => n = 0
  | .float x => x.significand = 0

/-- What a model may mean by yes: everything but null, false, zero and the empty text. -/
def isTruthy : Json → Bool
  | .null => false
  | .bool b => b
  | .num n => !isZero n
  | .str s => s ≠ ""
  | .arr _ | .obj _ => true

/-- A number of beds: at least zero, at most the greatest of 32 bits, and without its fraction. -/
def bedCount? : Json.Number → Option UInt32
  | .int n => if 0 ≤ n ∧ n < UInt32.size then some (UInt32.ofNat n.toNat) else none
  | .float x =>
    if x.significand = 0 then some 0
    else if x.negative then none
    else if x.wholePart < UInt32.size - 1 ∨ x.wholePart = UInt32.size - 1 ∧ x.isWhole then
      some (UInt32.ofNat x.wholePart)
    else none

/-- A requirement as text: itself, or the compact form of what is no text. -/
def requirementText : Json → String
  | .str s => s
  | v => v.compress

/-- The report that a model's answer makes, with a default for whatever is out of shape. -/
def normalizeReport (v : Json) : IntakeReport where
  availability := match (v.field? "availability_status").bind Json.text? with
    | some "available" => .available
    | some "waitlist" => .waitlist
    | _ => .unknown
  beds := match v.field? "reported_available_beds" with
    | some (.num n) => bedCount? n
    | _ => none
  requirements := match (v.field? "intake_requirements").bind Json.items? with
    | some items => (items.take maxRequirements).map requirementText
    | none => []
  needsFollowUp := (v.field? "needs_human_followup").any isTruthy
  summary := match (v.field? "summary").bind Json.text? with
    | some s => if s = "" then noSummary else takeChars maxSummary s
    | none => noSummary
where
  noSummary := "No structured summary available."

/-! ## By phrases -/

/-- Phrases that say there is room. -/
def availablePhrases : List String :=
  ["bed available", "beds available", "have availability", "can take today", "can accept today"]

/-- Phrases that say there is none. -/
def waitlistPhrases : List String := ["waitlist", "no beds", "full capacity", "check back"]

/-- Phrases that ask for a human. -/
def urgentPhrases : List String :=
  ["immediate danger", "urgent", "crisis", "supervisor", "manager", "law enforcement"]

/-- Whether a word stands somewhere in the text with a word edge on both sides; `before` is the
character before the text. -/
def hasWord (word : List Char) (before : Option Char) : List Char → Bool
  | [] => false
  | c :: cs =>
    let here := wordEdge before (some c) && match after? word (c :: cs) with
      | some rest => wordEdge word.getLast? rest.head?
      | none => false
    here || hasWord word (some c) cs

/-- What follows one or more blanks. -/
def afterBlanks? : List Char → Option (List Char)
  | c :: cs => if isBlank c then some (trimStart cs) else none
  | [] => none

/-- What follows the first of several words that stands at the start of a text. -/
def afterAny? (words : List String) (cs : List Char) : Option (List Char) :=
  words.findSome? fun w => after? w.toList cs

/-- The digits of the first number that "beds" or "slots" and "available" or "open" follow. -/
def bedDigits? : List Char → Option (List Char)
  | [] => none
  | c :: cs =>
    let digits := (c :: cs).takeWhile isDigit
    let found : Option (List Char) := do
      if digits = [] then none
      let rest ← afterBlanks? ((c :: cs).drop digits.length)
      -- "beds" before "bed": a blank has to follow
      let rest ← ["beds", "bed", "slots", "slot"].findSome? fun w =>
        (after? w.toList rest).bind afterBlanks?
      let _ ← afterAny? ["available", "open"] rest
      some digits
    match found with
    | some ds => some ds
    | none => bedDigits? cs

/-- The value of ASCII digits, if it fits 32 bits. -/
def uint32OfDigits? (ds : List Char) : Option UInt32 :=
  if ds.all Char.isDigit && digitsValue ds < UInt32.size then
    some (UInt32.ofNat (digitsValue ds))
  else none

/-- What staff may ask for, with the test that finds it. -/
def requirementRules : List ((List Char → Bool) × String) := [
  (fun t => hasWord "id".toList none t || hasWord "identification".toList none t, "ID required"),
  (mentions ["intake form", "paperwork"], "Intake paperwork required"),
  (mentions ["call back", "callback"], "Requested callback"),
  (mentions ["children"], "Discussed child placement")]

/-- The summary of a report that was made by phrases. -/
def phraseSummary : Availability → String
  | .available => "Shelter indicated availability; confirm requirements and transport."
  | .waitlist => "Shelter reported no immediate beds; follow-up required."
  | .unknown => "Availability unclear from transcript; human review recommended."

/-- The availability that phrases in a lower-case text speak of. -/
def phraseAvailability (lowered : List Char) : Availability :=
  if mentions availablePhrases lowered then .available
  else if mentions waitlistPhrases lowered then .waitlist
  else .unknown

/-- The report that the phrases of a transcript make. -/
def phraseReport (transcript : String) : IntakeReport :=
  let t := lower transcript.toList
  let availability := phraseAvailability t
  { availability
    beds := (bedDigits? t).bind uint32OfDigits?
    requirements := (requirementRules.filter fun r => r.1 t).map (·.2)
    needsFollowUp := mentions urgentPhrases t || availability = .waitlist
    summary := phraseSummary availability }

end ShelterLine.Script

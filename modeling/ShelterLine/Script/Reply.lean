import ShelterLine.Script.Fallback
import ShelterLine.Text.Digit
import ShelterLine.Text.Lower
import ShelterLine.Text.Search

/-!
# Answering intake staff

The answer that is given when no model gives one. The first row of a table whose phrases were heard
decides; silence and very short speech have rows of their own.
-/

namespace ShelterLine

/-- What to say next, and whether the call ends with it. -/
structure SpokenReply where
  text : String
  endCall : Bool
deriving DecidableEq

namespace Script

open Text

/-- What is reported when nobody spoke. -/
def noSpeech : String := "(no speech detected)"

/-- How long a reply may be, in characters. -/
def maxReply : Nat := 500

/-- Phrases of a shelter that is full. -/
def fullPhrases : List String :=
  ["full capacity", "no beds", "no availability", "nothing available", "all full", "we're full",
    "at capacity", "no room"]

/-- Phrases of a shelter with a waitlist. -/
def replyWaitlistPhrases : List String := ["waitlist", "wait list", "wait-list"]

/-- Phrases of a shelter that has room. -/
def roomPhrases : List String :=
  ["available", "have beds", "can take", "yes we have", "couple of beds"]

/-- Phrases that ask to wait. -/
def holdPhrases : List String := ["hold on", "one moment", "let me check", "give me a sec"]

/-- Words that a greeting ends in. -/
def greetings : List String := ["who is this", "who are you", "hello", "hi", "yes", "yeah"]

/-- Whether a text has room for a number: "we have" and a digit. -/
def saysWeHave (t : List Char) : Bool :=
  occursThen "we have ".toList (fun rest => rest.head?.any isDigit) t

/-- Whether a text ends in a greeting, with blanks and one full stop after it if need be. -/
def endsInGreeting (t : List Char) : Bool :=
  let body := trimEnd (if t.getLast? = some '.' then t.dropLast else t)
  greetings.any fun g => g.toList.isSuffixOf body

/-- The answer to what was heard. -/
def contextualReply (speech : String) : SpokenReply :=
  let t := lower (trim speech.toList)
  if t = [] ∨ t = noSpeech.toList then
    ⟨"I didn't quite catch that. Could you repeat? Do you have any beds available tonight?", false⟩
  else if mentions fullPhrases t then
    ⟨"I understand you're at full capacity. Thank you for letting us know. We'll look for other " ++
      "options. Goodbye.", true⟩
  else if mentions replyWaitlistPhrases t then
    ⟨"Thanks, I'll note the waitlist. We'll follow up on next steps. Goodbye.", true⟩
  else if mentions roomPhrases t || saysWeHave t then
    ⟨"Great, thank you. What are the intake requirements we should prepare? I'll share that " ++
      "with the caller.", false⟩
  else if mentions holdPhrases t then ⟨"Sure, take your time. I'll hold.", false⟩
  else if endsInGreeting t || t.length < 5 then
    ⟨s!"This is {agentName} calling on behalf of someone who needs shelter. I'm reaching out to " ++
      "see if you have any beds available tonight. Could you let me know?", false⟩
  else
    ⟨"Got it. Could you tell me more about availability or intake requirements? Or if you're " ++
      "full, I can look elsewhere.", false⟩

end Script

end ShelterLine

import ShelterLine.Markup.Node
import ShelterLine.Markup.Speech

/-!
# What is said on the phone

Three documents: the first call to a shelter's intake staff, each further turn of the conversation,
and joining a conference. Names, contexts, scripts and replies come from callers, operators and the
model; the characters that have a meaning in markup are taken out of them before they are spoken.
-/

namespace ShelterLine

/-- The content of a first call. With an address for the answer the caller listens
after speaking. -/
structure IntakeCall where
  shelterName : String
  survivorContext : String
  callbackNumber : Option String := none
  script : Option String := none
  gatherUrl : Option String := none
deriving DecidableEq

namespace Markup

/-- The root of every document. -/
def response (children : List Markup) : Markup := element "Response" [] children

/-- A sentence to speak. -/
def say (text : List Char) : Markup := element "Say" [] [.text text]

/-- The words that the provider should expect to hear. -/
def speechHints : String := "bed,beds,available,waitlist,intake,requirements,callback,full,capacity"

/-- An address without the characters that could end an attribute or an element; ampersands stay. -/
def attributeUrl (url : String) : List Char := url.toList.filter fun c => c = '&' || !isSpecial c

/-- Listening for speech after speaking, with the address that gets what was heard. -/
def gather (url : String) (children : List Markup) : Markup :=
  element "Gather" [("input", "speech".toList), ("action", attributeUrl url),
    ("method", "POST".toList), ("timeout", "15".toList), ("speechTimeout", "auto".toList),
    ("hints", speechHints.toList)] children

/-- What is said without a script. -/
def defaultLines (c : IntakeCall) : List (List Char) :=
  let callback := match c.callbackNumber with
    | some n => " Please call back ".toList ++ strip n.toList ++ " if disconnected.".toList
    | none => []
  ["Hello. This is Eden calling about urgent shelter intake availability.".toList,
    "Is this intake staff for ".toList ++ strip c.shelterName.toList ++ ['?'],
    "Context: ".toList ++ strip c.survivorContext.toList ++ '.' :: callback,
    ("Please connect us with intake staff, or share voicemail instructions for immediate " ++
      "placement follow-up.").toList]

/-- What is said in a first call: the script in blocks, or the default when there is none or it is
blank. -/
def intakeLines (c : IntakeCall) : List (List Char) :=
  match c.script.map fun s => strip s.toList with
  | some s => if Text.isBlankText s then defaultLines c else Speech.blocks s
  | none => defaultLines c

/-- The document of a first call. -/
def intake (c : IntakeCall) : Markup :=
  let spoken := (intakeLines c).map say
  match c.gatherUrl with
  | some url => response [gather url spoken,
      say ("We did not receive a response. We will follow up through our usual channels. " ++
        "Goodbye.").toList]
  | none => response spoken

/-- The document of a further turn: speak, then listen again or hang up. -/
def followUp (reply : String) (gatherUrl : Option String) (endCall : Bool) : Markup :=
  let spoken := say (strip reply.toList)
  match gatherUrl, endCall with
  | some url, false =>
    response [gather url [spoken], say "We did not catch that. Goodbye.".toList]
  | _, _ => response [spoken, element "Hangup" [] []]

/-- The document for joining a conference that goes on when either party leaves. -/
def conferenceJoin (name : String) : Markup :=
  response [say "Connecting you to an Eden assisted transfer line.".toList,
    element "Dial" [] [element "Conference"
      [("startConferenceOnEnter", "true".toList), ("endConferenceOnExit", "false".toList)]
      [.text (strip name.toList)]]]

/-- A document as text. -/
def toString (m : Markup) : String := String.ofList m.render

end Markup

end ShelterLine

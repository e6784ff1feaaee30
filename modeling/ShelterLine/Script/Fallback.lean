import ShelterLine.Text.Blank
import ShelterLine.Text.Cut
import ShelterLine.Text.Fold
import ShelterLine.Text.Search

/-!
# Call scripts

The script that is spoken when no model gives one, and what is made of a model's script: the agent's
name goes where the model left a place for it, other placeholders go, runs of blanks shrink to one,
and the length is bounded.
-/

namespace ShelterLine.Script

open Text

/-- The name that the agent gives on calls. -/
def agentName : String := "Eden"

/-- What a script is written for. -/
structure Input where
  shelterName : String
  survivorContext : String
  callbackNumber : Option String
deriving DecidableEq

/-- The line that says how to call back. -/
def callbackLine : Option String → String
  | some number => s!"If disconnected, please return the call at {number}."
  | none => "If disconnected, we can call back through official shelter channels."

/-- The lines of the script that needs no model. -/
def fallbackLines (i : Input) : List String := [
  s!"Hi, I'm {agentName}. I'm calling on behalf of someone who needs emergency shelter. " ++
    s!"Is this the intake line for {i.shelterName}?",
  "I'm reaching out from a placement coordination service. We have a person seeking safe housing. "
    ++ s!"Brief context: {i.survivorContext}",
  "Can you tell me: do you have any beds available tonight?",
  "If not, is there a waitlist or a good time for us to call back?",
  "What intake requirements should we have ready before they arrive?",
  callbackLine i.callbackNumber,
  "Thank you. For immediate danger, people are directed to 911."]

/-- The script that needs no model. -/
def fallback (i : Input) : String := "\n".intercalate (fallbackLines i)

/-! ## Cleaning a model's script -/

/-- How long a script may be, in characters. -/
def maxLength : Nat := 1400

/-- The length of what was read, given what was left. -/
def lengthUpTo (text rest : List Char) : Nat := text.length - rest.length

/-- A place for the agent's name: "your" or "my", blanks and "name" in brackets, in any case. -/
def namePlace : Rule := fun _ cs => do
  let rest ← match cs with
    | '[' :: rest => some rest
    | _ => none
  let rest ← (afterFolded? "your".toList rest).or (afterFolded? "my".toList rest)
  let rest ← match rest with
    | c :: rest => if isBlank c then some (trimStart rest) else none
    | [] => none
  let rest ← afterFolded? "name".toList rest
  match rest with
  | ']' :: rest => some (lengthUpTo cs rest)
  | _ => none

/-- Anything in brackets, if there is anything. -/
def bracketPlace : Rule := fun _ cs =>
  match cs with
  | '[' :: rest =>
    let inner := rest.takeWhile (· ≠ ']')
    if inner ≠ [] && inner.length < rest.length then some (inner.length + 2) else none
  | _ => none

/-- Anything in double braces, if there is anything. -/
def bracePlace : Rule := fun _ cs =>
  match cs with
  | '\x7b' :: '\x7b' :: rest =>
    let inner := rest.takeWhile (· ≠ '\x7d')
    match inner, rest.drop inner.length with
    | _ :: _, '\x7d' :: '\x7d' :: _ => some (inner.length + 4)
    | _, _ => none
  | _ => none

/-- Two or more blanks. -/
def blankRun : Rule := fun _ cs =>
  let n := (cs.takeWhile isBlank).length
  if n ≥ 2 then some n else none

/-- A model's script made fit to speak; nothing may be left of it. -/
def sanitizeChars (raw : List Char) : List Char :=
  let cs := replaceAll namePlace agentName.toList raw
  let cs := replaceAll bracketPlace [] cs
  let cs := replaceAll bracePlace [] cs
  let cs := replaceAll blankRun [' '] cs
  (trim cs).take maxLength

/-- A model's script made fit to speak, as text. -/
def sanitize (raw : String) : String := String.ofList (sanitizeChars raw.toList)

/-! ## Fenced answers -/

/-- Takes away the fence at the start of a text, with the tag "json" and the blanks after it. -/
def dropFenceStart (cs : List Char) : List Char :=
  match after? "```".toList cs with
  | some rest => trimStart ((afterFolded? "json".toList rest).getD rest)
  | none => cs

/-- Takes away the fence at the end of a text, with the blanks before it. -/
def dropFenceEnd (cs : List Char) : List Char :=
  if "```".toList.isSuffixOf cs then trimEnd (cs.take (cs.length - 3)) else cs

/-- The text without a fence of backquotes around it. -/
def stripFenceChars (raw : List Char) : List Char :=
  trim (dropFenceEnd (dropFenceStart (trim raw)))

/-- The text without a fence of backquotes around it. -/
def stripFence (raw : String) : String := String.ofList (stripFenceChars raw.toList)

end ShelterLine.Script

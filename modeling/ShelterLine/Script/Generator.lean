import ShelterLine.Chat.Basic
import ShelterLine.Script.Fallback
import ShelterLine.Script.Reply
import ShelterLine.Script.Transcript

/-!
# Scripts, reports and replies with a model

Each of the three has a request to ask a model with, and a function from the answer, if there
was one, to the result. Every answer that cannot be used gives what no answer gives, and the
result says where it came from.
-/

namespace ShelterLine.Script

open Json Json.Members

/-- Replies as JSON, as a model is told to write them. -/
def replyMembers : Members SpokenReply SpokenReply :=
  SpokenReply.mk
    <$> required "reply" .string (·.text)
    <*> withDefault "shouldEndCall" .bool false (·.endCall)

/-- A result and where it came from. -/
structure Sourced (α : Type) where
  value : α
  source : ScriptSource
deriving DecidableEq

/-! ## Scripts -/

/-- What a model is told about scripts. -/
def scriptPrompt : String :=
  "Eden is a placement coordinator calling shelters on behalf of a survivor seeking housing. " ++
  "The person answering is the shelter's intake staff; Eden does not work at the shelter. " ++
  "Draft a brief outbound call script: Eden introduces herself as calling on behalf of someone " ++
  "who needs shelter, asks whether this is the intake line, shares brief context, and asks " ++
  "about availability and requirements. Write natural spoken language in 5-8 short lines with " ++
  "no placeholders or brackets. Output plain script text only."

/-- How a model is told the number to call back. -/
def callbackText (i : Input) : String := i.callbackNumber.getD "none"

/-- The request for a script. -/
def scriptRequest (i : Input) : ChatRequest where
  messages := [
    ⟨.system, scriptPrompt⟩,
    ⟨.user, s!"Draft a script for {agentName} calling {i.shelterName} on behalf of a survivor. " ++
      s!"Survivor context: {i.survivorContext}. Callback: {callbackText i}. " ++
      "Ask about bed availability, waitlist, and intake requirements. " ++
      "Include a brief safety line."⟩]
  temperature := ChatRequest.scriptTemperature

/-- The script that an answer gives. -/
def scriptFrom (i : Input) (answer : Option String) : Sourced String :=
  match answer.map sanitize with
  | some text => if text = "" then ⟨fallback i, .fallback⟩ else ⟨text, .ai⟩
  | none => ⟨fallback i, .fallback⟩

/-! ## Reports -/

/-- What a model is told about transcripts. -/
def transcriptPrompt : String :=
  "Extract structured shelter intake outcomes from a call transcript. " ++
  "Return JSON only with keys: availability_status (available|waitlist|unknown), " ++
  "reported_available_beds (number or null), intake_requirements (array of strings), " ++
  "needs_human_followup (boolean), summary (string)."

/-- The request for a report. -/
def reportRequest (transcript : String) : ChatRequest where
  messages := [⟨.system, transcriptPrompt⟩, ⟨.user, transcript⟩]
  temperature := ChatRequest.scriptTemperature
  jsonMode := true

/-- The report that an answer gives. -/
def reportFrom (transcript : String) (answer : Option String) : Sourced IntakeReport :=
  match answer.bind fun a => Json.parse? (stripFence a) with
  | some (.obj fields) => ⟨normalizeReport (.obj fields), .ai⟩
  | _ => ⟨phraseReport transcript, .fallback⟩

/-! ## Replies -/

/-- What a reply is asked for with. -/
structure Conversation where
  input : Input
  history : List ChatMessage

/-- What a model is told about replies. -/
def replyPrompt (i : Input) : String :=
  s!"You are {agentName}, a placement coordinator. You called {i.shelterName} (not the " ++
  "survivor) to ask about availability on behalf of someone seeking housing. The person on the " ++
  s!"phone is shelter intake staff. Survivor context: {i.survivorContext}. " ++
  s!"Callback: {callbackText i}. Reply in 1-3 short conversational sentences that " ++
  "acknowledge specifically what they said. Goal: confirm bed availability, intake " ++
  "requirements, waitlist information, or next steps. Output JSON only with keys: reply " ++
  "(string), shouldEndCall (boolean)."

/-- The request for a reply. -/
def replyRequest (c : Conversation) : ChatRequest where
  messages := ⟨.system, replyPrompt c.input⟩ :: c.history
  temperature := ChatRequest.scriptTemperature
  jsonMode := true

/-- What intake staff said last. -/
def lastSpeech (history : List ChatMessage) : String :=
  match history.reverse.find? (·.role = .user) with
  | some turn => turn.content
  | none => noSpeech

/-- The reply that an answer gives. -/
def replyFrom (c : Conversation) (answer : Option String) : Sourced SpokenReply :=
  let contextual := ⟨contextualReply (lastSpeech c.history), .fallback⟩
  match answer.map fun a => replyMembers.codec.read (stripFence a) with
  | some (.ok r) =>
    let text := Text.trim r.text.toList
    if text = [] then contextual else ⟨⟨String.ofList (text.take maxReply), r.endCall⟩, .ai⟩
  | _ => contextual

end ShelterLine.Script

import ShelterLine.Chat.Basic
import ShelterLine.Error

/-!
# Putting a request to a model

Models take the system texts as one preamble and the last turn as the prompt, with the
turns before it as history. An answer comes in parts, of which only the texts count. Token
counts are cut to 32 bits.
-/

namespace ShelterLine

/-- A request in the form that a model takes it; the prompt is the last of the turns. -/
structure ModelCall where
  preamble : Option String
  turns : List ChatMessage
  temperature : Option BinaryFraction
  maxTokens : Option UInt32
deriving DecidableEq

/-- A part of a model's answer. -/
inductive AnswerPart where
  | text (s : String)
  | other
deriving DecidableEq

/-- A model's answer in parts. -/
structure ModelAnswer where
  parts : List AnswerPart
  inputTokens : Nat
  outputTokens : Nat
deriving DecidableEq

/-- The text of an answer, with what it cost. -/
structure Completion where
  content : String
  inputTokens : UInt32
  outputTokens : UInt32
deriving DecidableEq

namespace ModelCall

/-- What a model is told when the answer must be JSON. -/
def jsonOnly : String := "Respond with a single JSON object and nothing else."

/-- The texts of the preamble. -/
def preambleTexts (r : ChatRequest) : List String :=
  (r.messages.filter (·.role = .system)).map (·.content) ++ if r.jsonMode then [jsonOnly] else []

/-- The form of a request that a model takes; there has to be a turn to answer. -/
def ofRequest (r : ChatRequest) : Except ModelError ModelCall :=
  let turns := r.messages.filter (·.role ≠ .system)
  let texts := preambleTexts r
  if turns = [] then .error (.requestFailed "rig" "completion request has no user turn")
  else .ok {
    preamble := if texts = [] then none else some ("\n\n".intercalate texts)
    turns
    temperature := r.temperature.bind BinaryFormat.double.ofFraction
    maxTokens := r.maxTokens }

/-- A call as JSON, each turn with the list of its texts. -/
def toJson (c : ModelCall) : Json := .obj [
  ("preamble", Json.strOrNull c.preamble),
  ("turns", .arr (c.turns.map fun t => .obj [
    ("role", .str (Role.naming.name t.role)), ("text", .arr [.str t.content])])),
  ("temperature", match c.temperature with
    | some x => .num (.float x)
    | none => .null),
  ("max_tokens", match c.maxTokens with
    | some n => .nat n.toNat
    | none => .null)]

end ModelCall

/-- A number cut to 32 bits. -/
def clampUInt32 (n : Nat) : UInt32 := UInt32.ofNat (min n (UInt32.size - 1))

/-- What a part adds to the text. -/
def AnswerPart.content : AnswerPart → String
  | text s => s
  | other => ""

/-- The text of an answer. -/
def Completion.ofAnswer (a : ModelAnswer) : Completion where
  content := String.join (a.parts.map AnswerPart.content)
  inputTokens := clampUInt32 a.inputTokens
  outputTokens := clampUInt32 a.outputTokens

/-- A completion as JSON. -/
def Completion.toJson (c : Completion) : Json := .obj [
  ("content", .str c.content), ("input_tokens", .nat c.inputTokens.toNat),
  ("output_tokens", .nat c.outputTokens.toNat)]

/-- The result of asking a model: its text, or why there is none. -/
def Completion.ofReply (model : String) : Except String ModelAnswer → Except ModelError Completion
  | .ok a => .ok (ofAnswer a)
  | .error reason => .error (.requestFailed model reason)

end ShelterLine

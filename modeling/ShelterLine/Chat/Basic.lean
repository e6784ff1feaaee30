import ShelterLine.Decimal.Shortest
import ShelterLine.Json.Codec

/-!
# Asking a language model

A request is a conversation so far with a few settings. A model answers with a text or fails.
-/

namespace ShelterLine

/-- Who speaks in a conversation. -/
inductive Role where
  | system
  | user
  | assistant
deriving DecidableEq, Repr

/-- The names of roles. -/
def Role.naming : Naming Role where
  kind := "role"
  values := [.system, .user, .assistant]
  name
    | .system => "system"
    | .user => "user"
    | .assistant => "assistant"

/-- One turn of a conversation. -/
structure ChatMessage where
  role : Role
  content : String
deriving DecidableEq

open Json Json.Members in
/-- Turns as JSON. -/
def ChatMessage.members : Members ChatMessage ChatMessage :=
  ChatMessage.mk
    <$> required "role" (.name Role.naming) (·.role)
    <*> required "content" .string (·.content)

/-- What is asked of a model. The temperature is a number of single precision. In JSON mode the
answer must be a single JSON object. -/
structure ChatRequest where
  messages : List ChatMessage
  temperature : Option BinaryFraction := none
  maxTokens : Option UInt32 := none
  jsonMode : Bool := false
deriving DecidableEq

/-- The text of a temperature: its shortest decimal, without a point if it is whole. -/
def temperatureText (x : BinaryFraction) : String :=
  let text := Decimal.render .single Json.numberLayout x
  String.ofList (if ".0".toList.isSuffixOf text then text.take (text.length - 2) else text)

/-- A request as JSON, its temperature as text. -/
def ChatRequest.toJson (r : ChatRequest) : Json := .obj [
  ("messages", .arr (r.messages.map ChatMessage.members.codec.encode)),
  ("temperature", Json.strOrNull (r.temperature.map temperatureText)),
  ("max_tokens", match r.maxTokens with
    | some n => .nat n.toNat
    | none => .null),
  ("json_mode", .bool r.jsonMode)]

/-- The temperature that scripts are asked for with: a fifth. -/
def ChatRequest.scriptTemperature : Option BinaryFraction :=
  BinaryFormat.single.ofDecimal false 2 (-1)

end ShelterLine

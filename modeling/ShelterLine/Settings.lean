import ShelterLine.Json.Basic
import ShelterLine.Safety.Gate
import ShelterLine.Text.Numeral

/-!
# Settings

Everything is set by environment variables and everything has a default. Flags are on
unless they say "false"; credentials count only when they are complete; texts are taken
without the blanks around them.
-/

namespace ShelterLine

/-- Credentials for the telephone provider. -/
structure TwilioCredentials where
  accountSid : String
  authToken : String
  fromNumber : String
deriving DecidableEq

/-- Access to a language model. -/
structure ModelAccess where
  apiKey : String
  model : String
deriving DecidableEq

/-- The settings of the service. -/
structure Settings where
  port : UInt16 := 3000
  dbPath : String := "./data/outreach.db"
  persistence : Bool := false
  publicBaseUrl : Option String := none
  safety : SafetyConfig := {}
  twilio : Option TwilioCredentials := none
  model : Option ModelAccess := none
deriving DecidableEq

namespace Settings

/-- The variables that are set, by name. -/
abbrev Environment := List (String × String)

/-- The variables that settings are read from. -/
def names : List String := [
  "OUTREACH_PORT", "OUTREACH_DB_PATH", "OUTREACH_PERSISTENCE_ENABLED", "OUTREACH_PUBLIC_BASE_URL",
  "OUTREACH_REQUIRE_ESCALATION_FOR_LIVE", "OUTREACH_NO_CALLBACK_NUMBERS", "TWILIO_ACCOUNT_SID",
  "TWILIO_AUTH_TOKEN", "TWILIO_FROM_NUMBER", "OPENAI_API_KEY", "OPENAI_MODEL"]

/-- The language model that is asked when none is named. -/
def defaultModel : String := "gpt-4o-mini"

/-- A text without the blanks around it. -/
def trimmed (s : String) : String := String.ofList (Text.trim s.toList)

/-- A variable without the blanks around it, if anything is left. -/
def filled? (env : Environment) (name : String) : Option String :=
  (env.lookup name).map trimmed |>.filter (· ≠ "")

/-- A flag, which only the word "false" turns off. -/
def flag (env : Environment) (name : String) : Bool :=
  match env.lookup name with
  | some v => (Text.trim v.toList).map Char.toLower ≠ "false".toList
  | none => true

/-- A port number, which is below 65536. -/
def readPort (s : String) : Option UInt16 := (Text.readBelow 65536 s.toList).map UInt16.ofNat

/-- An address without the slashes at its end. -/
def dropSlashes (s : String) : String :=
  String.ofList (s.toList.reverse.dropWhile (· = '/')).reverse

/-- The pieces of a text between commas. -/
def splitCommas : List Char → List (List Char)
  | [] => [[]]
  | c :: cs => match splitCommas cs with
    | [] => [[c]]
    | p :: ps => if c = ',' then [] :: p :: ps else (c :: p) :: ps

/-- The numbers of a list with commas. -/
def numberList (s : String) : List String :=
  ((splitCommas s.toList).map Text.trim).filter (· ≠ []) |>.map String.ofList

/-- The credentials, if all three are set. -/
def readTwilio (env : Environment) : Option TwilioCredentials := do
  let accountSid ← filled? env "TWILIO_ACCOUNT_SID"
  let authToken ← filled? env "TWILIO_AUTH_TOKEN"
  let fromNumber ← filled? env "TWILIO_FROM_NUMBER"
  pure { accountSid, authToken, fromNumber }

/-- Access to a model, if there is a key. -/
def readModel (env : Environment) : Option ModelAccess := do
  let apiKey ← filled? env "OPENAI_API_KEY"
  pure { apiKey, model := (filled? env "OPENAI_MODEL").getD defaultModel }

/-- The settings that an environment makes. -/
def ofEnvironment (env : Environment) : Settings where
  port := ((env.lookup "OUTREACH_PORT").bind readPort).getD 3000
  dbPath := (env.lookup "OUTREACH_DB_PATH").getD "./data/outreach.db"
  persistence := flag env "OUTREACH_PERSISTENCE_ENABLED"
  publicBaseUrl := (env.lookup "OUTREACH_PUBLIC_BASE_URL").map (dropSlashes ∘ trimmed)
    |>.filter (· ≠ "")
  safety := {
    requireEscalation := flag env "OUTREACH_REQUIRE_ESCALATION_FOR_LIVE"
    blockedNumbers := numberList ((env.lookup "OUTREACH_NO_CALLBACK_NUMBERS").getD "") }
  twilio := readTwilio env
  model := readModel env

/-- The address that the provider calls back on, if there is a public one. -/
def callbackUrl (s : Settings) (path : String) : Option String :=
  s.publicBaseUrl.map (· ++ path)

/-- The settings as JSON, the numbers that are blocked by them included. -/
def toFields (s : Settings) : List (String × Json) := [
  ("port", .nat s.port.toNat), ("db_path", .str s.dbPath),
  ("persistence_enabled", .bool s.persistence), ("public_base_url", Json.strOrNull s.publicBaseUrl),
  ("require_escalation_for_live", .bool s.safety.requireEscalation),
  ("blocked_numbers", .arr (s.safety.blockedNumbers.map .str)),
  ("blocked_normalized", .arr ((Gate.ofConfig s.safety).blocked.numbers.map .str)),
  ("twilio", match s.twilio with
    | some t => .obj [("account_sid", .str t.accountSid), ("auth_token", .str t.authToken),
      ("from_number", .str t.fromNumber)]
    | none => .null),
  ("llm", match s.model with
    | some m => .obj [("api_key", .str m.apiKey), ("model", .str m.model)]
    | none => .null)]

end Settings

namespace ModelAccess

/-- Whether a byte may stand in a header of a request. -/
def isHeaderChar (c : Char) : Bool := c = '\t' || (c.toNat ≥ 32 && c.toNat ≠ 127)

/-- The name of the model, if the key can be sent in a header. -/
def open? (a : ModelAccess) : Option String :=
  if a.apiKey.toList.all isHeaderChar then some a.model else none

end ModelAccess

end ShelterLine

import ShelterLine.Error
import ShelterLine.Json.Codec
import ShelterLine.Settings
import ShelterLine.Web.Url

/-!
# Telephone calls

A call is ordered with the number to dial, the document that is executed when somebody answers, and
the addresses that hear about its progress and its recording. A live order goes to the provider over
the web; a rehearsed one gets a made-up SID and goes nowhere.
-/

namespace ShelterLine

/-- An order for a call. -/
structure CallOrder where
  number : String
  document : String
  statusUrl : Option String
  record : Bool
  recordingUrl : Option String
deriving DecidableEq

/-- An order for a text message. -/
structure MessageOrder where
  number : String
  body : String
deriving DecidableEq

open Json Json.Members in
/-- Orders for calls as JSON. -/
def CallOrder.members : Members CallOrder CallOrder :=
  CallOrder.mk
    <$> required "to" .string (·.number)
    <*> required "twiml" .string (·.document)
    <*> nullable "status_callback_url" .string (·.statusUrl)
    <*> required "record" .bool (·.record)
    <*> nullable "recording_callback_url" .string (·.recordingUrl)

open Json Json.Members in
/-- Orders for messages as JSON. -/
def MessageOrder.members : Members MessageOrder MessageOrder :=
  MessageOrder.mk
    <$> required "to" .string (·.number)
    <*> required "body" .string (·.body)

/-! ## Rehearsal -/

namespace Rehearsal

/-- The name of the transport that rehearses. -/
def name : String := "dry_run"

/-- The SID of a rehearsed call. -/
def callSid (id : Uuid) : String := "DRYCA" ++ id.toSimpleString

/-- The SID of a rehearsed message. -/
def messageSid (id : Uuid) : String := "DRYSM" ++ id.toSimpleString

/-- How many calls and messages have been rehearsed. -/
structure Count where
  calls : Nat := 0
  messages : Nat := 0
deriving DecidableEq

/-- Rehearses a call. -/
def placeCall (n : Count) (id : Uuid) : String × Count :=
  (callSid id, { n with calls := n.calls + 1 })

/-- Rehearses a message. -/
def sendMessage (n : Count) (id : Uuid) : String × Count :=
  (messageSid id, { n with messages := n.messages + 1 })

end Rehearsal

/-! ## The provider -/

namespace Twilio

/-- The name of the provider. -/
def name : String := "twilio"

/-- Where the provider is reached unless something else is said. -/
def apiBase : String := "https://api.twilio.com/2010-04-01"

/-- What can be made at the provider. -/
inductive Resource where
  | calls
  | messages
deriving DecidableEq

/-- The name of a resource in an address. -/
def Resource.name : Resource → String
  | calls => "Calls"
  | messages => "Messages"

/-- The address that a resource of an account is made at. -/
def resourceUrl (base accountSid : String) (r : Resource) : String :=
  s!"{Settings.dropSlashes base}/Accounts/{accountSid}/{r.name}.json"

/-- What is reported when the provider cannot be reached, or its address cannot be used. -/
def unreachable (base accountSid : String) (r : Resource) : TelephonyError :=
  .requestFailed name <| match Url.parse? (resourceUrl base accountSid r) with
    | some address =>
      let address := address.withoutUser
      let problem := if address.canBeAsked then "error sending request" else "builder error"
      s!"{problem} for url ({address.toString})"
    | none => "builder error"

end Twilio

end ShelterLine

import ShelterLine.Safety.Gate

/-!
# Errors and what is said about them

Each part of the service has its own causes of failure; the wording of each stands here, once.
-/

namespace ShelterLine

/-- What can be wrong with the settings. -/
inductive ConfigError where
  | missingVariable (name : String)
  | invalidValue (key message : String)
  | liveUnavailable (hint : String)
deriving DecidableEq

/-- What is said about a fault in the settings. -/
def ConfigError.message : ConfigError → String
  | missingVariable name => s!"Missing required environment variable: {name}"
  | invalidValue key message => s!"Invalid configuration value for {key}: {message}"
  | liveUnavailable hint => s!"Live telephony is not configured: {hint}"

/-- What can go wrong with the database. -/
inductive DatabaseError where
  | pool (text : String)
  | query (text : String)
  | migration (text : String)
  | serialization (text : String)
deriving DecidableEq

/-- What is said about a fault of the database. -/
def DatabaseError.message : DatabaseError → String
  | pool text => s!"Connection pool error: {text}"
  | query text => s!"Query failed: {text}"
  | migration text => s!"Migration failed: {text}"
  | serialization text => s!"Serialization error: {text}"

/-- The name of a kind of fault of the database. -/
def DatabaseError.kind : DatabaseError → String
  | pool _ => "pool"
  | query _ => "query"
  | migration _ => "migration"
  | serialization _ => "serialization"

/-- What can go wrong with the telephone provider. -/
inductive TelephonyError where
  | requestFailed (provider reason : String)
  | rejected (provider : String) (status : UInt16) (body : String)
  | invalidResponse (provider reason : String)
deriving DecidableEq

/-- What is said about a fault of the provider. -/
def TelephonyError.message : TelephonyError → String
  | requestFailed provider reason => s!"Provider {provider} request failed: {reason}"
  | rejected provider status body => s!"Provider {provider} rejected the request ({status}): {body}"
  | invalidResponse provider reason => s!"Invalid response from {provider}: {reason}"

/-- What can go wrong with the language model. -/
inductive ModelError where
  | requestFailed (provider reason : String)
  | invalidResponse (provider reason : String)
deriving DecidableEq

/-- What is said about a fault of the model. -/
def ModelError.message : ModelError → String
  | requestFailed provider reason => s!"Provider {provider} request failed: {reason}"
  | invalidResponse provider reason => s!"Invalid response from {provider}: {reason}"

/-- What is said about a denial. -/
def Denial.message : Denial → String
  | blockedDestination number => s!"Destination number is blocked: {number}"
  | blockedCallback number => s!"Callback number is blocked: {number}"
  | escalationRequired id _ =>
    "High-risk content requires approved escalation before live action " ++ s!"(escalation {id})"

/-- The escalation that goes with a denial. -/
def Denial.escalationId? : Denial → Option Uuid
  | escalationRequired id _ => some id
  | _ => none

/-- The name of a kind of denial. -/
def Denial.kind : Denial → String
  | blockedDestination _ => "blocked_destination"
  | blockedCallback _ => "blocked_callback"
  | escalationRequired .. => "escalation_required"

/-- The keywords that a denial rests on. -/
def Denial.matched? : Denial → Option (List String)
  | escalationRequired _ matched => some matched
  | _ => none

/-- Why a request to start something is refused. -/
inductive Refusal where
  | invalidRequest (text : String)
  | jobNotFound (id : Uuid)
  | attemptNotFound (jobId attemptId : Uuid)
  | policyDenied (denial : Denial)
  | config (error : ConfigError)
deriving DecidableEq

/-- What is said about a refusal. -/
def Refusal.message : Refusal → String
  | invalidRequest text => s!"Invalid request: {text}"
  | jobNotFound id => s!"Call job {id} not found"
  | attemptNotFound jobId attemptId => s!"Attempt {attemptId} not found in job {jobId}"
  | policyDenied denial => s!"Policy denied: {denial.message}"
  | config error => s!"Configuration error: {error.message}"

/-- The name of a kind of refusal. -/
def Refusal.kind : Refusal → String
  | invalidRequest _ => "invalid_request"
  | jobNotFound _ => "job_not_found"
  | attemptNotFound .. => "attempt_not_found"
  | policyDenied denial => denial.kind
  | config _ => "config"

/-- Anything that can go wrong. -/
inductive ServiceError where
  | config (error : ConfigError)
  | database (error : DatabaseError)
  | telephony (error : TelephonyError)
  | model (error : ModelError)
  | safety (denial : Denial)
  | refusal (refusal : Refusal)
deriving DecidableEq

/-- What the part says in which something goes wrong. -/
def ServiceError.cause : ServiceError → String
  | config error => error.message
  | database error => error.message
  | telephony error => error.message
  | model error => error.message
  | safety denial => denial.message
  | refusal r => r.message

/-- The part in which something goes wrong. -/
def ServiceError.part : ServiceError → String
  | config _ => "Configuration"
  | database _ => "Database"
  | telephony _ => "Telephony"
  | model _ => "LLM"
  | safety _ => "Safety"
  | refusal _ => "Orchestrator"

/-- What is said about anything that goes wrong. -/
def ServiceError.message (e : ServiceError) : String := s!"{e.part} error: {e.cause}"

end ShelterLine

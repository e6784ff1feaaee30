import ShelterLine.Call.Codec

/-!
# What callers ask for

Two requests start something: one dials shelters, the other brings a survivor and a shelter
together. Three callbacks of the provider report on calls that were placed.
-/

namespace ShelterLine

/-- A request to dial shelters for a survivor. -/
structure StartJob where
  mode : Mode
  survivorContext : String
  callbackNumber : Option String
  anonymous : Bool
  approved : Bool
  targets : List Target
deriving DecidableEq

/-- A request to bring the survivor together with the shelter that an attempt dialed. -/
structure StartTransfer where
  mode : Mode
  jobId : Uuid
  attemptId : Uuid
  survivorPhone : String
  survivorName : Option String
  notes : Option String
  approved : Bool
deriving DecidableEq

/-- The provider's report on the state of a call. -/
structure StatusReport where
  sid : String
  status : String
  recordingUrl : Option String
deriving DecidableEq

/-- Whether a callback changed anything. -/
inductive WebhookOutcome where
  | applied
  | ignored
deriving DecidableEq

/-- The names of outcomes. -/
def WebhookOutcome.naming : Naming WebhookOutcome where
  kind := "webhook outcome"
  values := [.applied, .ignored]
  name
    | .applied => "applied"
    | .ignored => "ignored"

/-- How many records of each kind came back from storage. -/
structure Restored where
  jobs : Nat := 0
  transfers : Nat := 0
  escalations : Nat := 0
  blocked : Nat := 0
deriving DecidableEq

/-- Restored counts as JSON. -/
def Restored.toJson (r : Restored) : Json := .obj [
  ("jobs", .nat r.jobs), ("transfers", .nat r.transfers),
  ("escalations", .nat r.escalations), ("blocked_numbers", .nat r.blocked)]

open Json Json.Members

/-- Requests to dial as JSON. -/
def StartJob.members : Members StartJob StartJob :=
  StartJob.mk
    <$> withDefault "mode" (.name Mode.naming) .dryRun (·.mode)
    <*> required "survivor_context" .string (·.survivorContext)
    <*> withDefault "callback_number" (.option .string) none (·.callbackNumber)
    <*> withDefault "anonymous_mode" .bool false (·.anonymous)
    <*> withDefault "escalation_approved" .bool false (·.approved)
    <*> required "targets" (.list Target.members.codec) (·.targets)

/-- Requests for a transfer as JSON. -/
def StartTransfer.members : Members StartTransfer StartTransfer :=
  StartTransfer.mk
    <$> withDefault "mode" (.name Mode.naming) .dryRun (·.mode)
    <*> required "job_id" .uuid (·.jobId)
    <*> required "attempt_id" .uuid (·.attemptId)
    <*> required "survivor_phone" .string (·.survivorPhone)
    <*> withDefault "survivor_name" (.option .string) none (·.survivorName)
    <*> withDefault "notes" (.option .string) none (·.notes)
    <*> withDefault "escalation_approved" .bool false (·.approved)

end ShelterLine

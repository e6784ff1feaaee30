import ShelterLine.Desk.Request
import ShelterLine.Event
import ShelterLine.Script.Generator

/-!
# The catalogue of JSON types

Everything that has a form in JSON, by the name of its type. A text can be checked against a name:
it is read as a value of that type and written again.
-/

namespace ShelterLine.Catalogue

open Json

/-- Reads a text as a value of a type and writes the value in canonical form. -/
def readAs {α : Type} (c : Codec α) (text : String) : Except Problem Json :=
  (c.read text).map c.encode

/-- How texts of each type are checked. -/
def entries : List (String × (String → Except Problem Json)) := [
  ("call_mode", readAs (.name Mode.naming)),
  ("attempt_status", readAs (.name AttemptStatus.naming)),
  ("job_status", readAs (.name JobStatus.naming)),
  ("script_source", readAs (.name ScriptSource.naming)),
  ("availability", readAs (.name Availability.naming)),
  ("parsed_transcript", readAs IntakeReport.members.codec),
  ("call_target", readAs Target.members.codec),
  ("call_request", readAs JobRequest.members.codec),
  ("call_attempt", readAs Attempt.members.codec),
  ("call_job", readAs Job.members.codec),
  ("transfer_status", readAs (.name TransferStatus.naming)),
  ("transfer_leg", readAs (.name Leg.naming)),
  ("leg_call_sids", readAs LegSids.members.codec),
  ("warm_transfer", readAs Session.members.codec),
  ("risk_level", readAs (.name RiskLevel.naming)),
  ("risk_assessment", readAs RiskAssessment.members.codec),
  ("escalation_source", readAs (.name EscalationSource.naming)),
  ("escalation_event", readAs Escalation.members.codec),
  ("blocked_number_update", readAs BlockChange.members.codec),
  ("start_call_job", readAs StartJob.members.codec),
  ("start_warm_transfer", readAs StartTransfer.members.codec),
  ("event", readAs Event.codec),
  ("role", readAs (.name Role.naming)),
  ("chat_message", readAs ChatMessage.members.codec),
  ("conversational_reply", readAs Script.replyMembers.codec)]

/-- Checks a text against the name of a type, if there is one of that name. -/
def check? (name text : String) : Option (Except Problem Json) :=
  (entries.lookup name).map (· text)

end ShelterLine.Catalogue

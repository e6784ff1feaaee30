import ShelterLine.Call.Job
import ShelterLine.Json.Codec

/-!
# Jobs as JSON

Texts and flags that a caller may leave out have a default; what a record does not have is left out
when it is written, except the number that an attempt dials, which is written as null.
-/

namespace ShelterLine

open Json Json.Members

/-- Reports as JSON. -/
def IntakeReport.members : Members IntakeReport IntakeReport :=
  IntakeReport.mk
    <$> required "availability_status" (.name Availability.naming) (·.availability)
    <*> optional "reported_available_beds" .uint32 (·.beds)
    <*> withDefault "intake_requirements" (.list .string) [] (·.requirements)
    <*> withDefault "needs_human_followup" .bool false (·.needsFollowUp)
    <*> required "summary" .string (·.summary)

/-- Targets as JSON. -/
def Target.members : Members Target Target :=
  Target.mk
    <$> required "shelter_id" .int64 (·.shelterId)
    <*> required "shelter_name" .string (·.shelterName)
    <*> withDefault "intake_phone" (.option .string) none (·.intakePhone)
    <*> optional "city" .string (·.city)
    <*> optional "state" .string (·.state)

/-- Requests as JSON. -/
def JobRequest.members : Members JobRequest JobRequest :=
  JobRequest.mk
    <$> required "survivor_context" .string (·.survivorContext)
    <*> optional "callback_number" .string (·.callbackNumber)
    <*> withDefault "anonymous_mode" .bool false (·.anonymous)
    <*> withDefault "escalation_approved" .bool false (·.approved)
    <*> required "shelter_ids" (.list .int64) (·.shelterIds)

/-- Attempts as JSON. -/
def Attempt.members : Members Attempt Attempt :=
  Attempt.mk
    <$> required "attempt_id" .uuid (·.id)
    <*> required "job_id" .uuid (·.jobId)
    <*> required "shelter_id" .int64 (·.shelterId)
    <*> required "shelter_name" .string (·.shelterName)
    <*> nullable "to_phone" .string (·.toPhone)
    <*> required "status" (.name AttemptStatus.naming) (·.status)
    <*> optional "provider_call_sid" .string (·.sid)
    <*> optional "generated_script" .string (·.script)
    <*> optional "script_source" (.name ScriptSource.naming) (·.scriptSource)
    <*> optional "recording_url" .string (·.recordingUrl)
    <*> optional "error" .string (·.error)
    <*> optional "transcript_excerpt" .string (·.excerpt)
    <*> optional "parsed_transcript" IntakeReport.members.codec (·.report)
    <*> required "updated_at" .instant (·.updatedAt)

/-- Patches as JSON. -/
def Attempt.Patch.members : Members Attempt.Patch Attempt.Patch :=
  Attempt.Patch.mk
    <$> optional "status" (.name AttemptStatus.naming) (·.status)
    <*> optional "provider_call_sid" .string (·.sid)
    <*> optional "generated_script" .string (·.script)
    <*> optional "script_source" (.name ScriptSource.naming) (·.scriptSource)
    <*> optional "recording_url" .string (·.recordingUrl)
    <*> optional "error" .string (·.error)
    <*> optional "transcript_excerpt" .string (·.excerpt)
    <*> optional "parsed_transcript" IntakeReport.members.codec (·.report)

/-- Jobs as JSON. -/
def Job.members : Members Job Job :=
  Job.mk
    <$> required "job_id" .uuid (·.id)
    <*> required "mode" (.name Mode.naming) (·.mode)
    <*> required "status" (.name JobStatus.naming) (·.status)
    <*> required "created_at" .instant (·.createdAt)
    <*> required "updated_at" .instant (·.updatedAt)
    <*> required "request" JobRequest.members.codec (·.request)
    <*> required "attempts" (.list Attempt.members.codec) (·.attempts)

end ShelterLine

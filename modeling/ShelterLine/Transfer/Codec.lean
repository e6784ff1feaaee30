import ShelterLine.Json.Codec
import ShelterLine.Transfer.Session

/-!
# Transfers as JSON
-/

namespace ShelterLine

open Json Json.Members

/-- The SIDs of legs as JSON. -/
def LegSids.members : Members LegSids LegSids :=
  LegSids.mk
    <$> optional "survivor" .string (·.survivor)
    <*> optional "shelter" .string (·.shelter)

/-- Sessions as JSON. -/
def Session.members : Members Session Session :=
  Session.mk
    <$> required "transfer_id" .uuid (·.id)
    <*> required "mode" (.name Mode.naming) (·.mode)
    <*> required "status" (.name TransferStatus.naming) (·.status)
    <*> required "created_at" .instant (·.createdAt)
    <*> required "updated_at" .instant (·.updatedAt)
    <*> required "conference_name" .string (·.conference)
    <*> required "job_id" .uuid (·.jobId)
    <*> required "attempt_id" .uuid (·.attemptId)
    <*> required "shelter_name" .string (·.shelterName)
    <*> required "shelter_phone" .string (·.shelterPhone)
    <*> required "survivor_phone" .string (·.survivorPhone)
    <*> optional "survivor_name" .string (·.survivorName)
    <*> optional "notes" .string (·.notes)
    <*> withDefault "call_sids" LegSids.members.codec {} (·.sids)

end ShelterLine

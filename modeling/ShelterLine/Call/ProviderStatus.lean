import ShelterLine.Call.Status
import ShelterLine.Text.Blank
import ShelterLine.Transfer.Session

/-!
# What the provider calls a status

The provider reports the state of a call by a word of its own, in any letter case and with blanks
around it. The same word means one thing for an attempt and another for a leg of a transfer; unknown
words mean nothing and change nothing.
-/

namespace ShelterLine

/-- A provider's word without blanks around it and in lower case. -/
def providerWord (raw : String) : String :=
  String.ofList ((Text.trim raw.toList).map Char.toLower)

/-- The words for a call that could not be completed. -/
def failureWords : List String := ["busy", "failed", "no-answer", "canceled"]

/-- What a provider's word means for an attempt. -/
def AttemptStatus.ofProvider? (raw : String) : Option AttemptStatus :=
  let w := providerWord raw
  if ["queued", "initiated", "ringing", "in-progress", "answered"].contains w then some .initiated
  else if w = "completed" then some .completed
  else if failureWords.contains w then some .failed
  else none

/-- What a provider's word on one leg means for a transfer. -/
def TransferStatus.ofProvider? (raw : String) : Option TransferStatus :=
  let w := providerWord raw
  if ["answered", "in-progress"].contains w then some .bridged
  else if w = "completed" then some .completed
  else if failureWords.contains w then some .failed
  else none

end ShelterLine

import ShelterLine.Naming
import ShelterLine.Time.Instant
import ShelterLine.Uuid

/-!
# Escalations

An escalation says that a human must look at something. The log keeps the newest thousand, newest
first. A fresh escalation goes in front; older ones that come back from storage are merged in by
time, and of two with one identifier the newer stays.
-/

namespace ShelterLine

/-- What gave rise to an escalation. -/
inductive EscalationSource where
  | callJob
  | warmTransfer
  | transcript
deriving DecidableEq, Repr

/-- The names of sources. -/
def EscalationSource.naming : Naming EscalationSource where
  kind := "escalation source"
  values := [.callJob, .warmTransfer, .transcript]
  name
    | .callJob => "call_job"
    | .warmTransfer => "warm_transfer"
    | .transcript => "transcript"

/-- A note that a human must review or approve something. -/
structure Escalation where
  id : Uuid
  createdAt : Instant
  source : EscalationSource
  referenceId : String
  reason : String
  details : Option String
deriving DecidableEq

namespace EscalationLog

/-- How many escalations are kept. -/
def capacity : Nat := 1000

/-- How many escalations are shown when nothing else is asked for. -/
def pageSize : Nat := 100

/-- Puts a new escalation in front. -/
def record (log : List Escalation) (e : Escalation) : List Escalation :=
  (e :: log).take capacity

/-- Drops every escalation whose identifier came before. -/
def dropRepeated (seen : List Uuid) : List Escalation → List Escalation
  | [] => []
  | e :: es => if e.id ∈ seen then dropRepeated seen es else e :: dropRepeated (e.id :: seen) es

/-- Merges stored escalations into the log. -/
def seed (log stored : List Escalation) : List Escalation :=
  let merged := (stored ++ log).mergeSort fun a b => b.createdAt ≤ a.createdAt
  (dropRepeated [] merged).take capacity

end EscalationLog

end ShelterLine

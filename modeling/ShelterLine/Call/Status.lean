import ShelterLine.Naming

/-!
# Modes and statuses of calls

A job dials several shelters, one attempt each. The status of a job is read off the statuses of its
attempts; work that goes on hides failures that have happened.
-/

namespace ShelterLine

/-- Whether actions are rehearsed or carried out. -/
inductive Mode where
  | dryRun
  | live
deriving DecidableEq, Repr, Inhabited

/-- The names of modes. -/
def Mode.naming : Naming Mode where
  kind := "call mode"
  values := [.dryRun, .live]
  name
    | .dryRun => "dry_run"
    | .live => "live"

/-- Whether actions are carried out. -/
def Mode.isLive : Mode → Bool
  | .live => true
  | .dryRun => false

/-- How far an attempt has come. -/
inductive AttemptStatus where
  | queued
  | initiated
  | completed
  | failed
deriving DecidableEq, Repr

/-- The names of attempt statuses. -/
def AttemptStatus.naming : Naming AttemptStatus where
  kind := "attempt status"
  values := [.queued, .initiated, .completed, .failed]
  name
    | .queued => "queued"
    | .initiated => "initiated"
    | .completed => "completed"
    | .failed => "failed"

/-- Whether an attempt is over. -/
def AttemptStatus.isTerminal : AttemptStatus → Bool
  | .completed | .failed => true
  | .queued | .initiated => false

/-- How far a job has come. -/
inductive JobStatus where
  | queued
  | inProgress
  | completed
  | failed
deriving DecidableEq, Repr

/-- The names of job statuses. -/
def JobStatus.naming : Naming JobStatus where
  kind := "job status"
  values := [.queued, .inProgress, .completed, .failed]
  name
    | .queued => "queued"
    | .inProgress => "in_progress"
    | .completed => "completed"
    | .failed => "failed"

/-- Which statuses other than completed have been seen among attempts. -/
structure StatusTally where
  queued : Bool := false
  initiated : Bool := false
  failed : Bool := false

/-- Adds one attempt to a tally. -/
def StatusTally.add (t : StatusTally) : AttemptStatus → StatusTally
  | .queued => { t with queued := true }
  | .initiated => { t with initiated := true }
  | .failed => { t with failed := true }
  | .completed => t

/-- The job status that a tally amounts to. -/
def StatusTally.jobStatus (t : StatusTally) : JobStatus :=
  if !t.queued && !t.initiated && !t.failed then .completed
  else if t.initiated then .inProgress
  else if t.failed && !t.queued then .failed
  else .queued

/-- The status of a job whose attempts have these statuses, counted in one pass. -/
def JobStatus.ofAttempts (statuses : List AttemptStatus) : JobStatus :=
  (statuses.foldl StatusTally.add {}).jobStatus

/-- Where a text spoken on the phone came from. -/
inductive ScriptSource where
  | ai
  | fallback
deriving DecidableEq, Repr

/-- The names of script sources. -/
def ScriptSource.naming : Naming ScriptSource where
  kind := "script source"
  values := [.ai, .fallback]
  name
    | .ai => "ai"
    | .fallback => "fallback"

/-- Whether a shelter has room. -/
inductive Availability where
  | available
  | waitlist
  | unknown
deriving DecidableEq, Repr

/-- The names of availabilities. -/
def Availability.naming : Naming Availability where
  kind := "availability"
  values := [.available, .waitlist, .unknown]
  name
    | .available => "available"
    | .waitlist => "waitlist"
    | .unknown => "unknown"

end ShelterLine

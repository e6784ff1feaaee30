import ShelterLine.Call.Status
import ShelterLine.Time.Instant
import ShelterLine.Uuid

/-!
# Call jobs

A job is one request for outreach to a fixed list of shelters. It keeps what was asked and one
attempt per shelter. Attempts change by patches, which set some fields and leave the others; a job's
status is recomputed whenever one of its attempts is patched.
-/

namespace ShelterLine

/-- What a shelter's intake staff said, put into fields. -/
structure IntakeReport where
  availability : Availability
  beds : Option UInt32
  requirements : List String
  needsFollowUp : Bool
  summary : String
deriving DecidableEq

/-- A shelter to dial. Without a number it cannot be dialed. -/
structure Target where
  shelterId : Int64
  shelterName : String
  intakePhone : Option String
  city : Option String
  state : Option String
deriving DecidableEq

/-- What was asked for when a job was made. -/
structure JobRequest where
  survivorContext : String
  callbackNumber : Option String
  anonymous : Bool
  approved : Bool
  shelterIds : List Int64
deriving DecidableEq

/-- The call to one shelter within a job. -/
structure Attempt where
  id : Uuid
  jobId : Uuid
  shelterId : Int64
  shelterName : String
  toPhone : Option String
  status : AttemptStatus
  sid : Option String
  script : Option String
  scriptSource : Option ScriptSource
  recordingUrl : Option String
  error : Option String
  excerpt : Option String
  report : Option IntakeReport
  updatedAt : Instant
deriving DecidableEq

/-- New values for some fields of an attempt. -/
structure Attempt.Patch where
  status : Option AttemptStatus := none
  sid : Option String := none
  script : Option String := none
  scriptSource : Option ScriptSource := none
  recordingUrl : Option String := none
  error : Option String := none
  excerpt : Option String := none
  report : Option IntakeReport := none
deriving DecidableEq

namespace Attempt

/-- The attempt for a target that has not been dialed yet. -/
def queued (now : Instant) (jobId id : Uuid) (t : Target) : Attempt where
  id := id
  jobId := jobId
  shelterId := t.shelterId
  shelterName := t.shelterName
  toPhone := t.intakePhone
  status := .queued
  sid := none
  script := none
  scriptSource := none
  recordingUrl := none
  error := none
  excerpt := none
  report := none
  updatedAt := now

/-- Sets the fields that a patch has and notes the time. -/
def apply (now : Instant) (p : Patch) (a : Attempt) : Attempt :=
  { a with
    status := p.status.getD a.status
    sid := p.sid.or a.sid
    script := p.script.or a.script
    scriptSource := p.scriptSource.or a.scriptSource
    recordingUrl := p.recordingUrl.or a.recordingUrl
    error := p.error.or a.error
    excerpt := p.excerpt.or a.excerpt
    report := p.report.or a.report
    updatedAt := now }

/-- Failure, with the reason. -/
def Patch.failed (reason : String) : Patch := { status := some .failed, error := some reason }

end Attempt

/-- When an attempt is patched. The clock is read for the attempt and then for its job. -/
structure Moment where
  attempt : Instant
  job : Instant
deriving DecidableEq, Inhabited

/-- A moment in which no time passes. -/
instance : Coe Instant Moment := ⟨fun t => ⟨t, t⟩⟩

/-- A request for outreach, with one attempt per shelter. -/
structure Job where
  id : Uuid
  mode : Mode
  status : JobStatus
  createdAt : Instant
  updatedAt : Instant
  request : JobRequest
  attempts : List Attempt
deriving DecidableEq

/-- What a job is made from, apart from its targets. -/
structure NewJob where
  survivorContext : String
  callbackNumber : Option String
  anonymous : Bool
  approved : Bool
deriving DecidableEq

namespace Job

/-- A queued job with one queued attempt per target; attempt number `i` gets the identifier
`attemptId i`. -/
def create (now : Instant) (id : Uuid) (attemptId : Nat → Uuid) (mode : Mode) (input : NewJob)
    (targets : List Target) : Job where
  id := id
  mode := mode
  status := .queued
  createdAt := now
  updatedAt := now
  request := {
    survivorContext := input.survivorContext
    callbackNumber := input.callbackNumber
    anonymous := input.anonymous
    approved := input.approved
    shelterIds := targets.map (·.shelterId) }
  attempts := targets.mapIdx fun i t => .queued now id (attemptId i) t

/-- The attempt with an identifier. -/
def attempt? (j : Job) (id : Uuid) : Option Attempt := j.attempts.find? (·.id = id)

/-- Changes the first attempt with an identifier. -/
def modifyAttempt (id : Uuid) (f : Attempt → Attempt) : List Attempt → List Attempt
  | [] => []
  | a :: as => if a.id = id then f a :: as else a :: modifyAttempt id f as

/-- Patches an attempt, then recomputes the status; both times what changed notes the time. -/
def patch (now : Moment) (attemptId : Uuid) (p : Attempt.Patch) (j : Job) : Job :=
  let attempts := modifyAttempt attemptId (Attempt.apply now.attempt p) j.attempts
  { j with attempts, status := .ofAttempts (attempts.map (·.status)), updatedAt := now.job }

/-- Takes the provider's identifier away from an attempt, and changes nothing else. -/
def clearSid (attemptId : Uuid) (j : Job) : Job :=
  { j with attempts := modifyAttempt attemptId (fun a => { a with sid := none }) j.attempts }

end Job

end ShelterLine

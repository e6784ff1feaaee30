import ShelterLine.Call.Job
import ShelterLine.SidIndex

/-!
# The register of jobs

The register owns the jobs and the index from SIDs to attempts. Whatever refers to a job, an
attempt or a SID that it does not know changes nothing: the provider's callbacks come late, twice,
in any order and after a reset.
-/

namespace ShelterLine

/-- Points at an attempt of a job. -/
structure AttemptRef where
  jobId : Uuid
  attemptId : Uuid
deriving DecidableEq, Repr

/-- The jobs and the SIDs of their attempts. -/
structure JobRegister where
  jobs : List Job := []
  sids : SidIndex AttemptRef := {}
deriving DecidableEq

namespace JobRegister

/-- The job with an identifier. -/
def get? (r : JobRegister) (id : Uuid) : Option Job := r.jobs.find? (·.id = id)

/-- The job and the attempt with these identifiers. -/
def attempt? (r : JobRegister) (ref : AttemptRef) : Option (Job × Attempt) := do
  let j ← r.get? ref.jobId
  let a ← j.attempt? ref.attemptId
  pure (j, a)

/-- Takes a job in. -/
def insert (r : JobRegister) (j : Job) : JobRegister :=
  { r with jobs := j :: r.jobs.filter (·.id ≠ j.id) }

/-- Newer jobs come first; of jobs made at the same time the one with the smaller identifier. -/
def comesFirst (a b : Job) : Bool :=
  if a.createdAt = b.createdAt then a.id ≤ b.id else b.createdAt ≤ a.createdAt

/-- All jobs, newest first. -/
def toList (r : JobRegister) : List Job := r.jobs.mergeSort comesFirst

/-- The number of jobs. -/
def size (r : JobRegister) : Nat := r.jobs.length

/-- Changes the job with an identifier. -/
def modify (r : JobRegister) (id : Uuid) (f : Job → Job) : JobRegister :=
  { r with jobs := r.jobs.map fun j => if j.id = id then f j else j }

/-- Patches an attempt and recomputes its job's status. -/
def patch (r : JobRegister) (now : Moment) (ref : AttemptRef) (p : Attempt.Patch) :
    Option (Job × JobRegister) := do
  let (j, _) ← r.attempt? ref
  pure (j.patch now ref.attemptId p, r.modify ref.jobId (Job.patch now ref.attemptId p))

/-- Gives an attempt a SID. An attempt that had the SID before loses it. -/
def bindSid (r : JobRegister) (now : Moment) (ref : AttemptRef) (sid : String) :
    Option (Job × JobRegister) := do
  let _ ← r.attempt? ref
  let r' := { r with sids := r.sids.bind sid ref }
  let r' := match r.sids.rebind sid ref with
    | .movedFrom old => r'.modify old.jobId (Job.clearSid old.attemptId)
    | _ => r'
  r'.patch now ref { sid := some sid }

/-- The job and the attempt that a SID belongs to. -/
def findSid? (r : JobRegister) (sid : String) : Option (Job × Attempt) := do
  r.attempt? (← r.sids.owner? sid)

/-- Indexes the SIDs of a job's attempts. -/
def indexAttempts (sids : SidIndex AttemptRef) (j : Job) : SidIndex AttemptRef :=
  j.attempts.foldl (fun ix a => match a.sid with
    | some s => ix.bind s ⟨j.id, a.id⟩
    | none => ix) sids

/-- Takes in a job that was kept elsewhere, unless a job with its identifier is there. -/
def restore (r : JobRegister) (j : Job) : Bool × JobRegister :=
  if (r.get? j.id).isSome then (false, r)
  else (true, { r with sids := indexAttempts r.sids j }.insert j)

end JobRegister

end ShelterLine

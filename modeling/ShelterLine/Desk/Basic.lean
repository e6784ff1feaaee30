import ShelterLine.Call.Register
import ShelterLine.Chat.Basic
import ShelterLine.Desk.Request
import ShelterLine.Event
import ShelterLine.Redaction
import ShelterLine.Store.Write
import ShelterLine.Telephone.Basic
import ShelterLine.Transfer.Register

/-!
# The desk

The desk is where outreach is coordinated. It owns the safety gate and the registers of jobs and
transfers, and it acts by *effects*: it places calls, sends messages, asks the model, keeps records
and publishes events. Everything that is not the desk's own, such as the time, fresh identifiers and
the answers to calls and questions, comes from its *surroundings*. An operation of the desk is then
a function, and what it did can be read off its trace.
-/

namespace ShelterLine

/-- What a call is for. -/
inductive CallPurpose where
  | attempt (ref : AttemptRef)
  | leg (ref : LegRef)
deriving DecidableEq

/-- Something that the desk did to the world. Calls go out on one of two lines, the one that
rehearses and the live one; messages are always live. -/
inductive Effect where
  | call (line : Mode) (purpose : CallPurpose) (order : CallOrder)
  | message (order : MessageOrder)
  | question (request : ChatRequest)
  | keep (write : Write)
  | publish (event : Event)
deriving DecidableEq

/-- How much of each kind the desk has made. -/
structure Tally where
  jobs : Nat := 0
  transfers : Nat := 0
  escalations : Nat := 0
  calls : Nat := 0
  questions : Nat := 0
deriving DecidableEq

/-- Something that happens while a call is being placed. -/
inductive Interruption where
  | reset
  | block (raw : String)
  | status (report : StatusReport)
deriving DecidableEq

/-- What a clock shows whenever it is read. Readings are counted. -/
def Clock := Nat → Instant

/-- A clock that stands still. -/
instance : Coe Instant Clock := ⟨fun t _ => t⟩

/-- What the clock shows for an attempt that is patched, and then for its job. -/
def Clock.moment (c : Clock) (reading : Nat) : Moment := ⟨c reading, c (reading + 1)⟩

/-- What the desk does not decide. The clock is read whenever a record is made or changes. Fresh
identifiers are taken in order, and so are the answers to calls and to questions to the model;
failures count. Messages are delivered unless it is said otherwise. -/
structure Surroundings where
  baseUrl : Option String
  live : Bool
  now : Clock
  newJob : Nat → Uuid
  newAttempt : Nat → Nat → Uuid
  newTransfer : Nat → Uuid
  stamp : Nat → Stamp
  place : Nat → Mode → CallOrder → Except TelephonyError String
  meanwhile : Nat → Mode → List Interruption
  answer : Option (Nat → ChatRequest → Option String)
  send : MessageOrder → Except TelephonyError String := fun _ => .ok ""

/-- The state of the desk, with the number of its readings of the clock and a trace of its effects,
newest first. -/
structure Desk where
  gate : Gate
  jobs : JobRegister := {}
  transfers : TransferRegister := {}
  made : Tally := {}
  readings : Nat := 0
  trace : List Effect := []

/-- The address that the provider calls back on, if there is a public one. -/
def Surroundings.callbackUrl (s : Surroundings) (path : String) : Option String :=
  s.baseUrl.map (· ++ path)

namespace Desk

/-- An empty desk with the policy of a configuration. -/
def ofConfig (c : SafetyConfig) : Desk := { gate := .ofConfig c }

/-- Notes an effect. -/
def note (d : Desk) (e : Effect) : Desk := { d with trace := e :: d.trace }

/-- Keeps and publishes a job that changed. -/
def jobChanged (d : Desk) (j : Job) : Desk :=
  (d.note (.keep (.job j))).note (.publish (.jobUpdated j))

/-- Keeps and publishes a session that changed. -/
def sessionChanged (d : Desk) (s : Session) : Desk :=
  (d.note (.keep (.session s))).note (.publish (.transferUpdated s))

/-- Counts, keeps and publishes an escalation that was recorded. -/
def escalated (d : Desk) (e : Escalation) : Desk :=
  ({ d with made.escalations := d.made.escalations + 1 }.note (.keep (.escalation e))).note
    (.publish (.escalationRecorded e))

/-- Everything there is to see, the newest hundred escalations included. -/
def snapshot (d : Desk) : Event :=
  .snapshot d.jobs.toList d.transfers.toList (d.gate.escalations.take EscalationLog.pageSize)

/-- Patches an attempt. Unless its job is gone the job has changed. -/
def patchAttempt (s : Surroundings) (ref : AttemptRef) (p : Attempt.Patch) (d : Desk) :
    Option Job × Desk :=
  match d.jobs.patch (s.now.moment d.readings) ref p with
  | some (job, jobs) => (some job, { d with jobs, readings := d.readings + 2 }.jobChanged job)
  | none => (none, d)

/-- Records an escalation. -/
def escalate (s : Surroundings) (source : EscalationSource) (referenceId reason : String)
    (details : Option String) (d : Desk) : Desk :=
  let stamp := s.stamp d.made.escalations
  let e : Escalation := {
    id := stamp.id, createdAt := stamp.time, source, referenceId, reason, details }
  { d with gate := d.gate.record e }.escalated e

/-- Asks the gate about an action. The escalation that this leaves is kept and published,
whatever the answer is. -/
def consult (s : Surroundings) (risk : RiskAssessment) (approved live : Bool)
    (source : EscalationSource) (referenceId : String) (d : Desk) : Except Denial Unit × Desk :=
  let (verdict, gate) :=
    d.gate.decide (s.stamp d.made.escalations) risk approved live source referenceId
  let d := { d with gate }
  match verdict with
  | .ok none => (.ok (), d)
  | .ok (some e) => (.ok (), d.escalated e)
  | .error denial => match denial.escalationId?.bind gate.escalation? with
    | some e => (.error denial, d.escalated e)
    | none => (.error denial, d)

/-- Asks the model, if there is one. -/
def ask (s : Surroundings) (r : ChatRequest) (d : Desk) : Option String × Desk :=
  match s.answer with
  | none => (none, d)
  | some answer =>
    (answer d.made.questions r,
      { d with made.questions := d.made.questions + 1 }.note (.question r))

/-- What of a job's context may be spoken or shown to a model. -/
def spokenContext (j : Job) : String :=
  if j.request.anonymous then Redaction.redact j.request.survivorContext
  else j.request.survivorContext

/-- Whether actions of a mode can be carried out, and if not, why. -/
def checkLine (s : Surroundings) (mode : Mode) : Except Refusal Unit :=
  if mode.isLive && !s.live then
    .error (.config (.liveUnavailable <|
      "set TWILIO_ACCOUNT_SID, TWILIO_AUTH_TOKEN and TWILIO_FROM_NUMBER " ++
        "to enable live mode"))
  else .ok ()

end Desk

end ShelterLine

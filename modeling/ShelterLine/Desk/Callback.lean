import ShelterLine.Call.ProviderStatus
import ShelterLine.Desk.Policy
import ShelterLine.Markup.Call
import ShelterLine.Script.Generator

/-!
# What the provider reports

The provider reports how calls go on, where they were recorded, what was said, and what intake staff
say during a call. Reports name a call by its SID; those about calls that nobody knows are ignored.
Reports come late, twice and in any order, so a finished attempt never goes back.
-/

namespace ShelterLine.Desk

/-- How much of a transcript an attempt keeps, in characters. -/
def excerptLength : Nat := 500

/-- A report was applied if it found its record. -/
def outcome {α : Type} : Option α → WebhookOutcome
  | some _ => .applied
  | none => .ignored

/-! ## Status and recording -/

/-- What a status report changes about an attempt. A finished attempt is moved only to
another end. -/
def statusPatch (a : Attempt) (r : StatusReport) : Attempt.Patch where
  status := (AttemptStatus.ofProvider? r.status).filter fun status =>
    status.isTerminal || !a.status.isTerminal
  recordingUrl := r.recordingUrl.filter (· ≠ "")

/-- Applies a status report to the attempt or else to the transfer that its call belongs to. -/
def status (s : Surroundings) (r : StatusReport) (d : Desk) : WebhookOutcome × Desk :=
  match d.jobs.findSid? r.sid with
  | some (job, attempt) =>
    let patch := statusPatch attempt r
    if patch = {} then (.ignored, d)
    else
      let (changed, d) := d.patchAttempt s ⟨job.id, attempt.id⟩ patch
      (outcome changed, d)
  | none => match d.transfers.findSid? r.sid with
    | none => (.ignored, d)
    | some (session, _) => match TransferStatus.ofProvider? r.status with
      | none => (.ignored, d)
      | some status => match d.transfers.setStatus (s.now d.readings) session.id status with
        | some (session, transfers) =>
          (.applied, { d with transfers, readings := d.readings + 1 }.sessionChanged session)
        | none => (.ignored, d)

/-- Notes where a call was recorded. -/
def recording (s : Surroundings) (sid url : String) (d : Desk) : WebhookOutcome × Desk :=
  if Text.isBlankText url.toList then (.ignored, d)
  else match d.jobs.findSid? sid with
    | none => (.ignored, d)
    | some (job, attempt) =>
      let (changed, d) := d.patchAttempt s ⟨job.id, attempt.id⟩ { recordingUrl := some url }
      (outcome changed, d)

/-! ## Transcripts -/

/-- The beds of a report in brackets. -/
def bedsText : Option UInt32 → String
  | some n =>
    let noun := if n = 1 then "bed" else "beds"
    s!" ({n.toNat} {noun} reported)"
  | none => ""

/-- The message to a survivor that a shelter reported room. -/
def availabilityMessage (shelterName : String) (r : IntakeReport) : String :=
  let bring := if r.requirements = [] then ""
    else " Bring: " ++ ", ".intercalate r.requirements ++ "."
  let summary := if r.summary = "" then "" else " " ++ r.summary
  s!"Eden update: {shelterName} reports availability{bedsText r.beds}." ++ bring ++ summary

/-- Sends a message and waits for its SID. -/
def sendMessage (s : Surroundings) (order : MessageOrder) (d : Desk) :
    Except TelephonyError String × Desk := (s.send order, d.note (.message order))

/-- Tells the survivor of a live job that a shelter reported room, by a message to the
number to call back, unless that is blocked or the gate denies it. Whether the message was
delivered is not kept. -/
def notifySurvivor (s : Surroundings) (job : Job) (attempt : Attempt) (transcript : String)
    (report : IntakeReport) (d : Desk) : Desk :=
  if !job.mode.isLive then d
  else match job.request.callbackNumber with
    | none => d
    | some callback =>
      if d.gate.blocked.blocks callback then d
      else
        let (verdict, d) := d.consult s (Risk.assess transcript) job.request.approved true
          .transcript attempt.id.toString
        match verdict with
        | .error _ => d
        | .ok () =>
          if s.live then
            (d.sendMessage s ⟨callback, availabilityMessage attempt.shelterName report⟩).2
          else d

/-- Records an escalation if a report says that a human has to follow up. -/
def followUp (s : Surroundings) (attempt : Attempt) (report : IntakeReport) (d : Desk) : Desk :=
  if report.needsFollowUp then
    d.escalate s .transcript attempt.id.toString
      s!"{attempt.shelterName} call needs human follow-up" (some report.summary)
  else d

/-- Tells the survivor if a report says that there is room. -/
def announce (s : Surroundings) (job : Job) (attempt : Attempt) (transcript : String)
    (report : IntakeReport) (d : Desk) : Desk :=
  if report.availability = .available then d.notifySurvivor s job attempt transcript report else d

/-- Attaches a transcript and what it says to its attempt. If a human has to follow up, an
escalation says so; if there is room, the survivor is told. -/
def transcript (s : Surroundings) (sid text : String) (d : Desk) : WebhookOutcome × Desk :=
  match d.jobs.findSid? sid with
  | none => (.ignored, d)
  | some (job, attempt) =>
    let (answer, d) := d.ask s (Script.reportRequest text)
    let report := (Script.reportFrom text answer).value
    let (changed, d) := d.patchAttempt s ⟨job.id, attempt.id⟩ {
      excerpt := some (String.ofList (text.toList.take excerptLength))
      report := some report }
    match changed with
    | none => (.ignored, d)
    | some job => (.applied, (d.followUp s attempt report).announce s job attempt text report)

/-! ## Conversation -/

/-- The path that speech is reported to. -/
def gatherPath : String := "/webhooks/twilio/gather"

/-- The address that speech in the call of an attempt is reported to. -/
def gatherUrl (s : Surroundings) (ref : AttemptRef) : Option String :=
  s.callbackUrl s!"{gatherPath}?job_id={ref.jobId}&attempt_id={ref.attemptId}"

/-- What is said when it is not known whose call this is. -/
def farewell : Markup := .followUp "Thank you for your time. Goodbye." none true

/-- What has been said in the call of an attempt: the script, and what was just heard. -/
def history (a : Attempt) (speech : Option String) : List ChatMessage :=
  let script := a.script.toList.map fun text => (⟨.assistant, text⟩ : ChatMessage)
  let heard := (speech.map fun t => String.ofList (Text.trim t.toList)).filter (· ≠ "")
  script ++ heard.toList.map fun text => ⟨.user, text⟩

/-- The next turn in the call of an attempt. -/
def gather (s : Surroundings) (ref : AttemptRef) (speech : Option String) (d : Desk) :
    Markup × Desk :=
  match d.jobs.attempt? ref with
  | none => (farewell, d)
  | some (job, attempt) =>
    let conversation : Script.Conversation := {
      input := ⟨attempt.shelterName, spokenContext job, job.request.callbackNumber⟩
      history := history attempt speech }
    let (answer, d) := d.ask s (Script.replyRequest conversation)
    let reply := (Script.replyFrom conversation answer).value
    (.followUp reply.text (gatherUrl s ref) reply.endCall, d)

end ShelterLine.Desk

import ShelterLine.Desk.Callback

/-!
# Dialing shelters

A job dials its shelters one attempt each. Everything that could forbid the job as a whole
is checked before it is registered; what goes wrong with one shelter stays with its
attempt. An attempt is prepared, dialed and settled, and the world goes on while it is
dialed: the job may be gone by then.
-/

namespace ShelterLine.Desk

/-- What is noted about an attempt without a number. -/
def noNumber : String := "No intake phone number on file"

/-- What is noted about an attempt whose number is blocked. -/
def blockedNumber : String := "Destination number is blocked by safety policy"

/-- The path that the states of calls are reported to. -/
def statusPath : String := "/webhooks/twilio/status"

/-- The path that recordings are reported to. -/
def recordingPath : String := "/webhooks/twilio/recording"

/-- What happens while a call is being placed. -/
def interrupt (s : Surroundings) (d : Desk) : Interruption → Desk
  | .reset => d.reset
  | .block raw => (d.block raw).2
  | .status r => (d.status s r).2

/-- Places a call and waits for its SID. -/
def placeCall (s : Surroundings) (line : Mode) (purpose : CallPurpose) (order : CallOrder)
    (d : Desk) : Except TelephonyError String × Desk :=
  let n := d.made.calls
  let d := { d with made.calls := n + 1 }.note (.call line purpose order)
  (s.place n line order, (s.meanwhile n line).foldl (interrupt s) d)

/-- What an attempt comes to before it is dialed. -/
inductive Preparation where
  | refused (reason : String)
  | ready (script : Script.Sourced String) (order : CallOrder)

/-- Looks at an attempt's number and writes the script and the order for its call. A number without
a digit is dialed as it is. -/
def prepare (s : Surroundings) (job : Job) (a : Attempt) (d : Desk) : Preparation × Desk :=
  match a.toPhone with
  | none => (.refused noNumber, d)
  | some raw =>
    if d.gate.blocked.blocks raw then (.refused blockedNumber, d)
    else
      let context := spokenContext job
      let input : Script.Input := ⟨a.shelterName, context, job.request.callbackNumber⟩
      let (answer, d) := d.ask s (Script.scriptRequest input)
      let script := Script.scriptFrom input answer
      let document := Markup.intake {
        shelterName := a.shelterName
        survivorContext := context
        callbackNumber := job.request.callbackNumber
        script := some script.value
        gatherUrl := gatherUrl s ⟨job.id, a.id⟩ }
      let recordingUrl := s.callbackUrl recordingPath
      (.ready script {
        number := (Phone.canonical? raw).getD raw
        document := document.toString
        statusUrl := s.callbackUrl statusPath
        record := recordingUrl.isSome
        recordingUrl }, d)

/-- Notes what came of an attempt's call. -/
def settle (s : Surroundings) (ref : AttemptRef) (script : Script.Sourced String)
    (placed : Except TelephonyError String) (d : Desk) : Desk :=
  match placed with
  | .ok sid =>
    let patch : Attempt.Patch := {
      status := some .initiated, script := some script.value, scriptSource := some script.source }
    match d.jobs.patch (s.now.moment d.readings) ref patch with
    | none => d
    | some (_, jobs) => match jobs.bindSid (s.now.moment (d.readings + 2)) ref sid with
      | some (job, jobs) => { d with jobs, readings := d.readings + 4 }.jobChanged job
      | none => { d with jobs, readings := d.readings + 2 }
  | .error e => (d.patchAttempt s ref
      { Attempt.Patch.failed e.message with
        script := some script.value, scriptSource := some script.source }).2

/-- Prepares, dials and settles an attempt. -/
def dial (s : Surroundings) (job : Job) (d : Desk) (a : Attempt) : Desk :=
  let ref : AttemptRef := ⟨job.id, a.id⟩
  match d.prepare s job a with
  | (.refused reason, d) => (d.patchAttempt s ref (.failed reason)).2
  | (.ready script order, d) =>
    let (placed, d) := d.placeCall s job.mode (.attempt ref) order
    d.settle s ref script placed

/-- Counts a job, and the reading of the clock that it was made at. -/
def counted (d : Desk) : Desk :=
  { d with made.jobs := d.made.jobs + 1, readings := d.readings + 1 }

/-- Makes a job that is not registered yet. -/
def makeJob (s : Surroundings) (r : StartJob) (callback : Option String) (d : Desk) : Job × Desk :=
  let n := d.made.jobs
  let job := Job.create (s.now d.readings) (s.newJob n) (s.newAttempt n) r.mode
    ⟨r.survivorContext, callback, r.anonymous, r.approved⟩ r.targets
  (job, d.counted)

/-- Registers a job. -/
def registerJob (d : Desk) (job : Job) : Desk := { d with jobs := d.jobs.insert job }.jobChanged job

/-- What is wrong with a request as it stands. -/
def checkJob (s : Surroundings) (r : StartJob) : Except Refusal Unit :=
  if r.targets = [] then .error (.invalidRequest "At least one shelter target is required")
  else if Text.isBlankText r.survivorContext.toList then
    .error (.invalidRequest "survivor_context is required")
  else checkLine s r.mode

/-- Makes a job and dials its shelters in order. -/
def startJob (s : Surroundings) (r : StartJob) (d : Desk) : Except Refusal Job × Desk :=
  match checkJob s r with
  | .error refusal => (.error refusal, d)
  | .ok () =>
    let callback := r.callbackNumber.bind Phone.canonical?
    match callback.filter d.gate.blocked.blocks with
    | some number => (.error (.policyDenied (.blockedCallback number)), d)
    | none =>
      let (job, d) := d.makeJob s r callback
      let (verdict, d) := d.consult s (Risk.assess r.survivorContext) r.approved r.mode.isLive
        .callJob job.id.toString
      match verdict with
      | .error denial => (.error (.policyDenied denial), d)
      | .ok () =>
        let d := job.attempts.foldl (dial s job) (d.registerJob job)
        (.ok ((d.jobs.get? job.id).getD job), d)

end ShelterLine.Desk

import ShelterLine.Desk.Dialing

/-!
# Bridging a survivor and a shelter

A warm transfer dials the survivor and the shelter of an attempt into one conference.
Both are dialed before either is settled; one leg that cannot be placed makes the session
fail, whatever the other does.
-/

namespace ShelterLine.Desk

/-- The parties of a transfer, once the request has been looked at. -/
structure Parties where
  job : Job
  attempt : Attempt
  shelterPhone : String
  survivorPhone : String

/-- Finds the parties of a transfer, or what is wrong with the request. -/
def findParties (s : Surroundings) (r : StartTransfer) (d : Desk) : Except Refusal Parties := do
  let some job := d.jobs.get? r.jobId | .error (.jobNotFound r.jobId)
  let some attempt := job.attempt? r.attemptId | .error (.attemptNotFound r.jobId r.attemptId)
  let some shelterPhone := attempt.toPhone.bind Phone.canonical?
    | .error (.invalidRequest "Attempt has no shelter phone number")
  let some survivorPhone := Phone.canonical? r.survivorPhone
    | .error (.invalidRequest "survivor_phone is required")
  checkLine s r.mode
  if d.gate.blocked.blocks survivorPhone then
    .error (.policyDenied (.blockedCallback survivorPhone))
  if d.gate.blocked.blocks shelterPhone then
    .error (.policyDenied (.blockedDestination shelterPhone))
  pure { job, attempt, shelterPhone, survivorPhone }

/-- The text whose risk a transfer is judged by. -/
def riskText (job : Job) : Option String → String
  | some notes => s!"{job.request.survivorContext} {notes}"
  | none => job.request.survivorContext

/-- Registers a session, which then dials. -/
def openSession (s : Surroundings) (r : StartTransfer) (p : Parties) (d : Desk) : Session × Desk :=
  let n := d.made.transfers
  let session := Session.create (s.now d.readings) (s.newTransfer n) r.mode {
    jobId := p.job.id
    attemptId := p.attempt.id
    shelterName := p.attempt.shelterName
    shelterPhone := p.shelterPhone
    survivorPhone := p.survivorPhone
    survivorName := r.survivorName
    notes := r.notes }
  let d := { d with
    made.transfers := n + 1
    transfers := d.transfers.insert session
    readings := d.readings + 1 }.sessionChanged session
  match d.transfers.setStatus (s.now d.readings) session.id .connecting with
  | some (connecting, transfers) =>
    (session, { d with transfers, readings := d.readings + 1 }.sessionChanged connecting)
  | none => (session, d)

/-- Dials one leg. -/
def dialLeg (s : Surroundings) (session : Session) (leg : Leg) (d : Desk) :
    Except TelephonyError String × Desk :=
  d.placeCall s session.mode (.leg ⟨session.id, leg⟩) {
    number := match leg with
      | .survivor => session.survivorPhone
      | .shelter => session.shelterPhone
    document := (Markup.conferenceJoin session.conference).toString
    statusUrl := s.callbackUrl statusPath
    record := false
    recordingUrl := none }

/-- Notes what came of a leg's call. -/
def settleLeg (s : Surroundings) (ref : LegRef) (placed : Except TelephonyError String)
    (d : Desk) : Desk :=
  let changed := match placed with
    | .ok sid => d.transfers.bindSid (s.now d.readings) ref sid
    | .error _ => d.transfers.setStatus (s.now d.readings) ref.transferId .failed
  match changed with
  | some (session, transfers) =>
    { d with transfers, readings := d.readings + 1 }.sessionChanged session
  | none => d

/-- Brings the survivor and the shelter of an attempt together. -/
def startTransfer (s : Surroundings) (r : StartTransfer) (d : Desk) :
    Except Refusal Session × Desk :=
  match d.findParties s r with
  | .error refusal => (.error refusal, d)
  | .ok parties =>
    let job := parties.job
    let (verdict, d) := d.consult s (Risk.assess (riskText job r.notes))
      (r.approved || job.request.approved) r.mode.isLive .warmTransfer r.attemptId.toString
    match verdict with
    | .error denial => (.error (.policyDenied denial), d)
    | .ok () =>
      let (session, d) := d.openSession s r parties
      let (survivor, d) := d.dialLeg s session .survivor
      let (shelter, d) := d.dialLeg s session .shelter
      let d := d.settleLeg s ⟨session.id, .survivor⟩ survivor
      let d := d.settleLeg s ⟨session.id, .shelter⟩ shelter
      (.ok ((d.transfers.get? session.id).getD session), d)

end ShelterLine.Desk

import ShelterLine.Desk.Operation
import ShelterLine.Web.Form
import ShelterLine.Web.MediaType

/-!
# The web interface

Requests are answered in JSON, except that the provider gets markup. Callbacks of the provider are
always accepted, so that it never repeats one about a call that nobody knows. A request whose path,
query or body cannot be read is rejected before anything else happens.
-/

namespace ShelterLine.Web

/-- How something is asked for. -/
inductive Method where
  | get
  | head
  | post
  | delete
  | options
  | other
deriving DecidableEq

/-- The names of methods. -/
def Method.ofName : String → Method
  | "GET" => .get
  | "HEAD" => .head
  | "POST" => .post
  | "DELETE" => .delete
  | "OPTIONS" => .options
  | _ => .other

/-- A request. Its target is a path, perhaps with a query, or a whole address. -/
structure Request where
  method : Method
  target : String
  contentType : Option String
  body : String

/-- What a response carries. -/
inductive Payload where
  | json (value : Json)
  | markup (document : Markup)
  | explanation
  | nothing

/-- A response. The answer to a request for the head alone has no body. -/
structure Response where
  status : Nat
  payload : Payload := .nothing
  headOnly : Bool := false

/-- What a response says about its content. -/
def Response.contentType (r : Response) : String :=
  match r.payload with
  | .json _ => "application/json"
  | .markup _ => "text/xml"
  | .explanation => "text/plain; charset=utf-8"
  | .nothing => ""

/-- A response as JSON. -/
def Response.toJson (r : Response) : Json :=
  let body := match r.payload with
    | .json v => [("body", v)]
    | .markup m => [("body", .str m.toString)]
    | _ => []
  .obj ([("status", .nat r.status), ("content_type", .str r.contentType)]
    ++ if r.headOnly then [] else body)

/-- Why a request is rejected. -/
inductive Rejection where
  | malformed
  | tooLarge
  | unsupported
  | unprocessable
deriving DecidableEq

/-- The response to a rejected request. -/
def Rejection.response : Rejection → Response
  | malformed => { status := 400, payload := .explanation }
  | tooLarge => { status := 413, payload := .explanation }
  | unsupported => { status := 415, payload := .explanation }
  | unprocessable => { status := 422, payload := .explanation }

/-! ## Places -/

/-- The places that can be asked for. -/
inductive Route where
  | feed
  | health
  | jobs
  | job (id : String)
  | transfers
  | transfer (id : String)
  | status
  | recording
  | transcript
  | gather
  | blockedNumbers
  | blockedNumber (phone : String)
  | escalations
  | policy
  | reset
deriving DecidableEq

/-- The path of a target and what follows it. In a whole address that comes after the
scheme and the authority; a target without a slash in front and without a scheme is an
authority and nothing more. -/
def Request.place (r : Request) : List Char :=
  match r.target.toList with
  | '/' :: rest => '/' :: rest
  | cs => match cs.dropWhile fun c => c.isAlphanum || "+-.~".toList.contains c with
    | ':' :: '/' :: '/' :: rest =>
      let place := rest.dropWhile fun c => !"/?#".toList.contains c
      if place.head? = some '/' then place else '/' :: place
    | _ => []

/-- The path of a target. -/
def Request.path (r : Request) : List Char :=
  r.place.takeWhile fun c => c ≠ '?' && c ≠ '#'

/-- The query of a target, empty if there is none. -/
def Request.query (r : Request) : String :=
  String.ofList (((r.place.takeWhile (· ≠ '#')).dropWhile (· ≠ '?')).drop 1)

/-- The place that a path names. A name within a path must not be empty. -/
def Route.ofPath? (path : List Char) : Option Route :=
  match (Form.split '/' path).map String.ofList with
  | ["", "ws"] => some .feed
  | ["", "health"] => some .health
  | ["", "webhooks", "twilio", "status"] => some .status
  | ["", "webhooks", "twilio", "recording"] => some .recording
  | ["", "webhooks", "twilio", "transcript"] => some .transcript
  | ["", "webhooks", "twilio", "gather"] => some .gather
  | ["", "api", "call-jobs"] => some .jobs
  | ["", "api", "warm-transfers"] => some .transfers
  | ["", "api", "safety", "blocked-numbers"] => some .blockedNumbers
  | ["", "api", "safety", "escalations"] => some .escalations
  | ["", "api", "safety", "config"] => some .policy
  | ["", "api", "admin", "reset"] => some .reset
  | ["", "api", "call-jobs", id] => if id = "" then none else some (.job id)
  | ["", "api", "warm-transfers", id] => if id = "" then none else some (.transfer id)
  | ["", "api", "safety", "blocked-numbers", phone] =>
    if phone = "" then none else some (.blockedNumber phone)
  | _ => none

/-- How a place can be asked for. -/
def Route.methods : Route → List Method
  | feed | health | job _ | transfer _ | escalations | policy => [.get, .head]
  | jobs | transfers | blockedNumbers => [.get, .head, .post]
  | status | recording | transcript | gather | reset => [.post]
  | blockedNumber _ => [.delete]

/-! ## Reading requests -/

/-- A name within a path, decoded. -/
def pathText (raw : String) : Except Rejection String :=
  match Text.ofUtf8? (Percent.decodeBytes raw.toList) with
  | some cs => .ok (String.ofList cs)
  | none => .error .malformed

/-- The most bytes that a body may have. -/
def bodyLimit : Nat := 2097152

/-- Whether a body is too large to be read. -/
def Request.isTooLarge (r : Request) : Bool := bodyLimit < r.body.utf8ByteSize

/-- The value in a body of JSON. -/
def jsonBody {α : Type} (c : Json.Codec α) (r : Request) : Except Rejection α :=
  if !MediaType.isJson r.contentType then .error .unsupported
  else if r.isTooLarge then .error .tooLarge
  else match c.read r.body with
    | .ok a => .ok a
    | .error .mismatch => .error .unprocessable
    | .error _ => .error .malformed

/-- The known fields of a body that is a form. -/
def formBody (known : List String) (r : Request) : Except Rejection (List (String × String)) :=
  if !MediaType.isForm r.contentType then .error .unsupported
  else if r.isTooLarge then .error .tooLarge
  else match Form.read? known r.body with
    | some fields => .ok fields
    | none => .error .unprocessable

/-- The known fields of a query. -/
def queryFields (known : List String) (r : Request) : Except Rejection (List (String × String)) :=
  match Form.read? known r.query with
  | some fields => .ok fields
  | none => .error .malformed

/-- The number of escalations that is asked for, at least one and at most all. -/
def pageLimit (r : Request) : Except Rejection Nat := do
  match (← queryFields ["limit"] r).lookup "limit" with
  | none => pure EscalationLog.pageSize
  | some text => match Text.readBelow UInt64.size text.toList with
    | some n => pure (min (max n 1) EscalationLog.capacity)
    | none => .error .malformed

/-- A transcript as it is reported. -/
structure TranscriptReport where
  sid : String
  transcript : String

open Json Json.Members in
/-- Reported transcripts as JSON. -/
def TranscriptReport.members : Members TranscriptReport TranscriptReport :=
  TranscriptReport.mk
    <$> required "call_sid" .string (·.sid)
    <*> required "transcript" .string (·.transcript)

open Json Json.Members in
/-- A number to block as JSON. -/
def phoneMembers : Members String String := id <$> required "phone" .string id

/-! ## Responses -/

/-- A value. -/
def answer (v : Json) : Response := { status := 200, payload := .json v }

/-- A complaint. -/
def complaint (status : Nat) (text : String) : Response :=
  { status, payload := .json (.obj [("error", .str text)]) }

/-- The response to a request that was refused. -/
def refused : Refusal → Response
  | .invalidRequest text => complaint 400 text
  | .config error => complaint 400 error.message
  | .policyDenied denial => { status := 403, payload := .json (.obj [
      ("error", .str "policy_denied"), ("reason", .str denial.message),
      ("escalation_id", Json.strOrNull (denial.escalationId?.map Uuid.toString))]) }
  | refusal => complaint 404 refusal.message

/-- The response to a request that starts something. -/
def started {α : Type} (c : Json.Codec α) : Except Refusal α → Response
  | .ok a => { status := 201, payload := .json (c.encode a) }
  | .error refusal => refused refusal

/-- The record with an identifier, found in a register. -/
def found {α : Type} (what noun : String) (c : Json.Codec α) (find : Uuid → Option α)
    (raw : String) : Except Rejection Response := do
  let id ← pathText raw
  match Uuid.ofString? id with
  | none => pure (complaint 400 s!"Invalid {noun} ID")
  | some id => match find id with
    | some a => pure (answer (c.encode a))
    | none => pure (complaint 404 s!"{what} not found")

/-- The response to a callback. -/
def acknowledge (o : WebhookOutcome) : Response :=
  answer (.obj [("status", .str (WebhookOutcome.naming.name o))])

/-- The response to a change of the block list. -/
def blockChanged (c : BlockChange) : Response :=
  if c.number.isNone then complaint 400 "Phone number has no digits"
  else answer (BlockChange.members.codec.encode c)

/-- How the service is. -/
def health (s : Surroundings) (persistent : Bool) : Json := .obj [
  ("status", .str "ok"), ("service", .str "shelter-outreach"), ("live_telephony", .bool s.live),
  ("llm", .bool s.answer.isSome), ("persistence", .bool persistent)]

/-! ## Answering -/

/-- What a place shows. -/
def view (s : Surroundings) (persistent : Bool) (r : Request) (d : Desk) :
    Route → Except Rejection Response
  | .feed => if r.method = .get then .error .malformed
    else pure { status := 405, payload := .explanation }
  | .health => pure (answer (health s persistent))
  | .jobs => pure (answer (.arr (d.jobs.toList.map Job.members.codec.encode)))
  | .job id => found "Call job" "job" Job.members.codec d.jobs.get? id
  | .transfers => pure (answer (.arr (d.transfers.toList.map Session.members.codec.encode)))
  | .transfer id => found "Warm transfer" "transfer" Session.members.codec d.transfers.get? id
  | .blockedNumbers =>
    pure (answer (.obj [("blocked_numbers", .arr (d.gate.blocked.numbers.map .str))]))
  | .escalations => do
    let limit ← pageLimit r
    pure (answer (.arr ((d.gate.escalations.take limit).map Escalation.members.codec.encode)))
  | .policy => pure (answer d.gate.summary.toJson)
  | _ => pure { status := 405 }

/-- What is done at a place. -/
def act (s : Surroundings) (r : Request) (d : Desk) :
    Route → Except Rejection (Response × Desk)
  | .jobs => do
    let (result, d) := d.startJob s (← jsonBody StartJob.members.codec r)
    pure (started Job.members.codec result, d)
  | .transfers => do
    let (result, d) := d.startTransfer s (← jsonBody StartTransfer.members.codec r)
    pure (started Session.members.codec result, d)
  | .status => do
    let fields ← formBody ["CallSid", "CallStatus", "RecordingUrl"] r
    let sid := (fields.lookup "CallSid").getD ""
    if sid = "" then pure (acknowledge .ignored, d)
    else
      let (o, d) := d.status s
        ⟨sid, (fields.lookup "CallStatus").getD "", fields.lookup "RecordingUrl"⟩
      pure (acknowledge o, d)
  | .recording => do
    let fields ← formBody ["CallSid", "RecordingUrl"] r
    let (o, d) := d.recording s ((fields.lookup "CallSid").getD "")
      ((fields.lookup "RecordingUrl").getD "")
    pure (acknowledge o, d)
  | .transcript => do
    let report ← jsonBody TranscriptReport.members.codec r
    let (o, d) := d.transcript s report.sid report.transcript
    pure (acknowledge o, d)
  | .gather => do
    let query ← queryFields ["job_id", "attempt_id"] r
    let fields ← formBody ["SpeechResult"] r
    match (query.lookup "job_id").bind Uuid.ofString?,
        (query.lookup "attempt_id").bind Uuid.ofString? with
    | some jobId, some attemptId =>
      let (document, d) := d.gather s ⟨jobId, attemptId⟩ (fields.lookup "SpeechResult")
      pure ({ status := 200, payload := .markup document }, d)
    | _, _ => pure ({ status := 200, payload := .markup Desk.farewell }, d)
  | .blockedNumbers => do
    let (change, d) := d.block (← jsonBody phoneMembers.codec r)
    pure (blockChanged change, d)
  | .blockedNumber phone => do
    let (change, d) := d.unblock (← pathText phone)
    pure (blockChanged change, d)
  | .reset => pure (answer (.obj [("status", .str "reset")]), d.reset)
  | _ => pure ({ status := 405 }, d)

/-- Answers a request. Whether options exist may be asked anywhere. -/
def respond (s : Surroundings) (persistent : Bool) (r : Request) (d : Desk) : Response × Desk :=
  if r.method = .options then ({ status := 200 }, d)
  else match Route.ofPath? r.path with
    | none => ({ status := 404 }, d)
    | some route =>
      if !route.methods.contains r.method then ({ status := 405 }, d)
      else if r.method = .get || r.method = .head then
        let response := match view s persistent r d route with
          | .ok response => response
          | .error rejection => rejection.response
        ({ response with headOnly := r.method = .head }, d)
      else match act s r d route with
        | .ok result => result
        | .error rejection => (rejection.response, d)

end ShelterLine.Web

import ShelterLine.Proofs.OwnRecord

/-!
# What a transcript does, completely

A transcript is attached to its attempt with what was made of it, by the model or by phrases. Then
up to two escalations are recorded, one if a human has to follow up and one if the survivor might be
told and the transcript is high risk, and up to one message is sent. Which of these happen depends
on six conditions, in any combination; what each combination does is written out here as two lists,
and the desk afterwards is the desk before with the attempt patched and the lists carried out.
Nothing else changes, and whether the message is delivered makes no difference.
-/

namespace ShelterLine

/-! ## The two lists -/

/-- The note that a human has to follow up on a call. -/
def Escalation.followUp (stamp : Stamp) (a : Attempt) (report : IntakeReport) : Escalation where
  id := stamp.id
  createdAt := stamp.time
  source := .transcript
  referenceId := a.id.toString
  reason := s!"{a.shelterName} call needs human follow-up"
  details := some report.summary

namespace Desk

variable {s : Surroundings} {d : Desk} {j : Job} {a : Attempt} {text : String}
    {report : IntakeReport}

/-- The number at which the survivor might be told: there is room, the job is live, and the number
to call back is there and not blocked. -/
def survivorNumber? (g : Gate) (j : Job) (report : IntakeReport) : Option String :=
  if report.availability = .available ∧ j.mode = .live then
    j.request.callbackNumber.filter fun number => !g.blocked.blocks number
  else none

/-- The escalations about a transcript, of which `n` others have been made before. -/
def transcriptEscalations (s : Surroundings) (n : Nat) (g : Gate) (j : Job) (a : Attempt)
    (text : String) (report : IntakeReport) : List Escalation :=
  let followUps := if report.needsFollowUp then [.followUp (s.stamp n) a report] else []
  let risks := if (survivorNumber? g j report).isSome ∧ (Risk.assess text).isHigh then
      [Gate.escalation (s.stamp (n + followUps.length)) (Risk.assess text)
        (g.stops (Risk.assess text) j.request.approved) .transcript a.id.toString]
    else []
  followUps ++ risks

/-- The messages about a transcript. -/
def transcriptMessages (s : Surroundings) (g : Gate) (j : Job) (a : Attempt) (text : String)
    (report : IntakeReport) : List MessageOrder :=
  match survivorNumber? g j report with
  | some number =>
    if s.live ∧ ¬ (g.requireEscalation ∧ (Risk.assess text).isHigh ∧ ¬ j.request.approved) then
      [⟨number, availabilityMessage a.shelterName report⟩]
    else []
  | none => []

/-- How an escalation is told. -/
def toldOf (e : Escalation) : List Effect :=
  [.keep (.escalation e), .publish (.escalationRecorded e)]

theorem survivorNumber?_eq_some_iff {g : Gate} {number : String} :
    survivorNumber? g j report = some number ↔ report.availability = .available ∧ j.mode = .live ∧
      j.request.callbackNumber = some number ∧ g.blocked.blocks number = false := by
  unfold survivorNumber?
  split
  · rename_i h
    simp [h.1, h.2, Option.filter_eq_some_iff]
  · rename_i h
    constructor
    · exact fun hnone => by cases hnone
    · rintro ⟨havailable, hlive, -⟩
      exact absurd ⟨havailable, hlive⟩ h

/-! ## Recording and sending -/

/-- Records escalations one after the other. -/
def escalateAll (d : Desk) (es : List Escalation) : Desk :=
  es.foldl (fun d e => { d with gate := d.gate.record e }.escalated e) d

/-- Sends messages one after the other. -/
def messageAll (d : Desk) (ms : List MessageOrder) : Desk :=
  ms.foldl (fun d m => d.note (.message m)) d

theorem escalateAll_eq (d : Desk) (es : List Escalation) : d.escalateAll es = { d with
    gate := es.foldl Gate.record d.gate
    made.escalations := d.made.escalations + es.length
    trace := (es.flatMap toldOf).reverse ++ d.trace } := by
  induction es generalizing d with
  | nil => rfl
  | cons e es ih =>
    have hfirst : d.escalateAll (e :: es) =
        ({ d with gate := d.gate.record e }.escalated e).escalateAll es := rfl
    rw [hfirst, ih]
    simp [escalated, note, toldOf, Nat.add_assoc, Nat.add_comm 1]

theorem messageAll_eq (d : Desk) (ms : List MessageOrder) :
    d.messageAll ms = { d with trace := (ms.map Effect.message).reverse ++ d.trace } := by
  induction ms generalizing d with
  | nil => rfl
  | cons m ms ih =>
    have hfirst : d.messageAll (m :: ms) = (d.note (.message m)).messageAll ms := rfl
    rw [hfirst, ih]
    simp [note]

/-- Asking the gate escalates high risk, and what it stops is denied. -/
theorem consult_eq (s : Surroundings) (risk : RiskAssessment) (approved live : Bool)
    (source : EscalationSource) (reference : String) (d : Desk) :
    d.consult s risk approved live source reference =
      (if live && d.gate.stops risk approved then
          .error (.escalationRequired (s.stamp d.made.escalations).id risk.matchedKeywords)
        else .ok (),
        d.escalateAll (if risk.isHigh then [Gate.escalation (s.stamp d.made.escalations) risk
          (live && d.gate.stops risk approved) source reference] else [])) := by
  cases hhigh : risk.isHigh with
  | false =>
    have hpass : d.gate.stops risk approved = false := by simp [Gate.stops, hhigh]
    unfold consult Gate.decide
    rw [hhigh, hpass, Bool.and_false]
    rfl
  | true =>
    rcases consult_course s risk approved live source reference d with
      ⟨hlow, -⟩ | ⟨_, _, rfl, rfl, h⟩
    · rw [hhigh] at hlow
      cases hlow
    · rw [h]
      rfl

theorem followUp_eq (s : Surroundings) (a : Attempt) (report : IntakeReport) (d : Desk) :
    d.followUp s a report = d.escalateAll
      (if report.needsFollowUp then [.followUp (s.stamp d.made.escalations) a report] else []) := by
  unfold followUp
  split <;> rfl

/-- Nobody is told where nobody might be. -/
theorem announce_of_none (h : survivorNumber? d.gate j report = none) :
    d.announce s j a text report = d := by
  unfold announce
  split
  · rename_i havailable
    unfold notifySurvivor
    split
    · rfl
    · rename_i hlive
      have hmode : j.mode = .live := by cases hmode : j.mode <;> simp_all [Mode.isLive]
      split
      · rfl
      · rename_i number hnumber
        split
        · rfl
        · rename_i hfree
          -- all four conditions hold, so there was somebody to tell
          have hsome := survivorNumber?_eq_some_iff.2
            ⟨havailable, hmode, hnumber, Bool.eq_false_iff.2 hfree⟩
          rw [h] at hsome
          cases hsome
  · rfl

/-- Where somebody might be told the gate is asked, which escalates high risk, and says whether. -/
theorem announce_of_some {number : String} (h : survivorNumber? d.gate j report = some number) :
    d.announce s j a text report =
      (d.escalateAll (if (Risk.assess text).isHigh then
          [Gate.escalation (s.stamp d.made.escalations) (Risk.assess text)
            (d.gate.stops (Risk.assess text) j.request.approved) .transcript a.id.toString]
        else [])).messageAll
      (if s.live ∧ ¬ (d.gate.requireEscalation ∧ (Risk.assess text).isHigh ∧
        ¬ j.request.approved) then
          [⟨number, availabilityMessage a.shelterName report⟩]
        else []) := by
  obtain ⟨havailable, hmode, hnumber, hfree⟩ := survivorNumber?_eq_some_iff.1 h
  have hnotify : d.announce s j a text report =
      match d.consult s (Risk.assess text) j.request.approved true .transcript a.id.toString with
      | (.error _, d) => d
      | (.ok (), d) => if s.live then
          d.note (.message ⟨number, availabilityMessage a.shelterName report⟩)
        else d := by
    unfold announce notifySurvivor
    rw [if_pos havailable, hmode, hnumber]
    dsimp only
    rw [hfree]
    rcases d.consult s (Risk.assess text) j.request.approved true .transcript
      a.id.toString with ⟨v, d₁⟩
    cases v <;> rfl
  rw [hnotify, consult_eq, Bool.true_and]
  have hstops : d.gate.stops (Risk.assess text) j.request.approved = true ↔
      d.gate.requireEscalation ∧ (Risk.assess text).isHigh ∧ ¬ j.request.approved := by
    simp [Gate.stops, and_assoc]
  simp only [← hstops]
  cases d.gate.stops (Risk.assess text) j.request.approved with
  | true => simp [messageAll]
  | false => cases s.live <;> simp [messageAll]

/-- **Telling the survivor**, whether there is anybody to tell or not. -/
theorem announce_eq (s : Surroundings) (j : Job) (a : Attempt) (text : String)
    (report : IntakeReport) (d : Desk) : d.announce s j a text report =
      (d.escalateAll (if (survivorNumber? d.gate j report).isSome ∧ (Risk.assess text).isHigh then
          [Gate.escalation (s.stamp d.made.escalations) (Risk.assess text)
            (d.gate.stops (Risk.assess text) j.request.approved) .transcript a.id.toString]
        else [])).messageAll (transcriptMessages s d.gate j a text report) := by
  unfold transcriptMessages
  cases hnumber : survivorNumber? d.gate j report with
  | none =>
    rw [announce_of_none hnumber]
    simp [escalateAll, messageAll]
  | some number =>
    rw [announce_of_some hnumber]
    simp

/-! ## A transcript -/

/-- What is asked of the model, if there is one. -/
def asked (s : Surroundings) (r : ChatRequest) : List Effect :=
  if s.answer.isSome then [.question r] else []

theorem ask_eq (s : Surroundings) (r : ChatRequest) (d : Desk) : (d.ask s r).2 = { d with
    made.questions := d.made.questions + (asked s r).length
    trace := (asked s r).reverse ++ d.trace } := by
  unfold ask asked
  cases s.answer <;> rfl

/-- Escalations leave the policy and the block list as they are. -/
theorem foldl_record (g : Gate) (es : List Escalation) :
    (es.foldl Gate.record g).blocked = g.blocked ∧
    (es.foldl Gate.record g).requireEscalation = g.requireEscalation := by
  induction es generalizing g with
  | nil => exact ⟨rfl, rfl⟩
  | cons e es ih => exact ih (g.record e)

theorem escalateAll_append (d : Desk) (es es' : List Escalation) :
    (d.escalateAll es).escalateAll es' = d.escalateAll (es ++ es') := List.foldl_append.symm

/-- Following up and then telling the survivor. -/
theorem announce_followUp (s : Surroundings) (j : Job) (a : Attempt) (text : String)
    (report : IntakeReport) (d : Desk) :
    (d.followUp s a report).announce s j a text report =
      (d.escalateAll (transcriptEscalations s d.made.escalations d.gate j a text report)).messageAll
        (transcriptMessages s d.gate j a text report) := by
  rw [followUp_eq]
  generalize hfirst : (if report.needsFollowUp then
    [Escalation.followUp (s.stamp d.made.escalations) a report] else []) = followUps
  obtain ⟨hblocked, hrequire⟩ := foldl_record d.gate followUps
  have hgate : (d.escalateAll followUps).gate = followUps.foldl Gate.record d.gate := by
    rw [escalateAll_eq]
  have hcount : (d.escalateAll followUps).made.escalations =
      d.made.escalations + followUps.length := by
    rw [escalateAll_eq]
  have hnumber : survivorNumber? (followUps.foldl Gate.record d.gate) j report =
      survivorNumber? d.gate j report := by
    unfold survivorNumber?
    rw [hblocked]
  have hstops : (followUps.foldl Gate.record d.gate).stops (Risk.assess text) j.request.approved =
      d.gate.stops (Risk.assess text) j.request.approved := by
    unfold Gate.stops
    rw [hrequire]
  have hmessages : transcriptMessages s (followUps.foldl Gate.record d.gate) j a text report =
      transcriptMessages s d.gate j a text report := by
    unfold transcriptMessages
    rw [hnumber, hrequire]
  rw [announce_eq, hgate, hcount, hnumber, hstops, hmessages, escalateAll_append]
  unfold transcriptEscalations
  rw [hfirst]

/-- What is done about a transcript, in order: the model is asked, the job is kept and published,
then each escalation is, and then the messages are sent. -/
def transcriptEffects (s : Surroundings) (text : String) (j : Job) (es : List Escalation)
    (ms : List MessageOrder) : List Effect :=
  asked s (Script.reportRequest text) ++ [.keep (.job j), .publish (.jobUpdated j)] ++
    es.flatMap toldOf ++ ms.map Effect.message

/-- **What a transcript does, completely.** The transcript of a known call is applied: the attempt
gets its first 500 characters and what was made of it; a follow-up is escalated if the report asks
for one, and then the risk, if there is room and the survivor could be told and the transcript is
high risk; the survivor gets one message if there is room and there is a line and nothing forbids
it. Each escalation is recorded, kept and published. The clock is read for the attempt and for its
job. Nothing else changes, and it makes no difference whether the message is delivered. -/
theorem transcript_effect {sid : String} (hfind : d.jobs.findSid? sid = some (j, a)) :
    let P := (Script.reportFrom text (d.ask s (Script.reportRequest text)).1).value
    let escalations := transcriptEscalations s d.made.escalations d.gate j a text P
    let messages := transcriptMessages s d.gate j a text P
    let now := s.now.moment d.readings
    let jobs := d.jobs.modify j.id (Job.patch now a.id (transcriptPatch text P))
    d.transcript s sid text = (.applied, { d with
      gate := escalations.foldl Gate.record d.gate
      jobs
      made.questions := d.made.questions + (asked s (Script.reportRequest text)).length
      made.escalations := d.made.escalations + escalations.length
      readings := d.readings + 2
      trace := (transcriptEffects s text (j.patch now a.id (transcriptPatch text P)) escalations
        messages).reverse ++ d.trace }) ∧
    (∃ j', jobs.attempt? ⟨j.id, a.id⟩ = some (j', { a with
      excerpt := some (String.ofList (text.toList.take 500))
      report := some P
      updatedAt := now.attempt })) ∧
    (∀ ref, ref ≠ ⟨j.id, a.id⟩ → (jobs.attempt? ref).map (·.2) = (d.jobs.attempt? ref).map (·.2)) ∧
    (∀ id, id ≠ j.id → jobs.get? id = d.jobs.get? id) ∧
    ∀ send, d.transcript { s with send } sid text = d.transcript s sid text := by
  have hattempt := JobRegister.attempt?_of_findSid? hfind
  refine ⟨?_, ?_, fun ref href => ?_, fun id hid => ?_, fun send => rfl⟩
  · have hasked := ask_eq s (Script.reportRequest text) d
    unfold transcript
    rw [hfind]
    dsimp only
    generalize hP : (Script.reportFrom text (d.ask s (Script.reportRequest text)).1).value = P
    rw [hasked]
    have hpatched := patchAttempt_of_found (s := s) (d := { d with
      made.questions := d.made.questions + (asked s (Script.reportRequest text)).length
      trace := (asked s (Script.reportRequest text)).reverse ++ d.trace }) hattempt
        (transcriptPatch text P)
    unfold transcriptPatch at hpatched
    rw [hpatched]
    dsimp only
    rw [announce_followUp, escalateAll_eq, messageAll_eq]
    simp only [transcriptEffects, jobChanged, note, List.reverse_append, List.append_assoc]
    rfl
  · have hmodified := JobRegister.attempt?_modify
      (Job.touches_patch (s.now.moment d.readings) a.id (transcriptPatch text
        (Script.reportFrom text (d.ask s (Script.reportRequest text)).1).value)) d.jobs j.id
      ⟨j.id, a.id⟩
    rw [hattempt, Option.map_some, if_pos rfl, if_pos rfl] at hmodified
    exact ⟨_, hmodified⟩
  · rw [JobRegister.attempt?_modify (Job.touches_patch ..), Option.map_map]
    refine congrArg (Option.map · _) (funext fun found => ?_)
    exact if_neg href
  · rw [JobRegister.get?_modify (Job.touches_patch ..).id_eq]
    cases hget : d.jobs.get? id with
    | none => rfl
    | some k =>
      have hne : k.id ≠ j.id := by
        rw [JobRegister.get?_id hget]
        exact hid
      rw [Option.map_some, if_neg hne]

/-- An approved live job for a survivor who can be called back. -/
def reachableSurvivor : StartJob where
  mode := .live
  survivorContext := "Needs a bed tonight."
  callbackNumber := some "(555) 010-0188"
  anonymous := false
  approved := true
  targets := [⟨1, "Harbor House", some "555-010-0100", none, none⟩]

/-- A transcript that tells of room, of a weapon, and of somebody to ask. -/
def roomAndWeapon : String := "We have a bed available. He has a weapon, so ask for the manager."

/-- Approval lets the message out; the follow-up and the risk are both escalated. -/
theorem transcript_effect_roomAndWeapon :
    ∃ j a, ((ofConfig {}).run [(.calm, .startJob reachableSurvivor)]).jobs.findSid? "CA0" =
      some (j, a) ∧
      ((((ofConfig {}).run [(.calm, .startJob reachableSurvivor)]).transcript .calm "CA0"
        roomAndWeapon).2.gate.escalations.map (·.reason) =
          ["High-risk content detected", "Harbor House call needs human follow-up"]) ∧
      ∃ body, (((ofConfig {}).run [(.calm, .startJob reachableSurvivor)]).transcript .calm "CA0"
        roomAndWeapon).2.trace.head? = some (.message ⟨"+15550100188", body⟩) := by
  have hfind : ∃ j a, ((ofConfig {}).run [(.calm, .startJob reachableSurvivor)]).jobs.findSid?
      "CA0" = some (j, a) := ⟨_, _, rfl⟩
  obtain ⟨j, a, hfind⟩ := hfind
  have heffect := (@transcript_effect .calm _ j a roomAndWeapon "CA0" hfind).1
  have hescalations : (((ofConfig {}).run
      [(.calm, .startJob reachableSurvivor)]).jobs.findSid? "CA0").map (fun found =>
      (transcriptEscalations .calm 0 (.ofConfig {}) found.1 found.2 roomAndWeapon
        (Script.phraseReport roomAndWeapon)).map (·.reason)) =
      some ["Harbor House call needs human follow-up", "High-risk content detected"] := by
    decide +kernel
  have hmessages : (((ofConfig {}).run
      [(.calm, .startJob reachableSurvivor)]).jobs.findSid? "CA0").map (fun found =>
      (transcriptMessages .calm (.ofConfig {}) found.1 found.2 roomAndWeapon
        (Script.phraseReport roomAndWeapon)).map (·.number)) = some ["+15550100188"] := by
    decide +kernel
  rw [hfind, Option.map_some, Option.some_inj] at hescalations hmessages
  obtain ⟨followUp, rest, hes, hfollowUp, hrest⟩ := List.map_eq_cons_iff.1 hescalations
  obtain ⟨risk, hrisks, hrisk⟩ := List.map_eq_singleton_iff.1 hrest
  obtain ⟨⟨number, body⟩, hms, hnumber⟩ := List.map_eq_singleton_iff.1 hmessages
  rw [hrisks] at hes
  subst hnumber
  have heffects : (((ofConfig {}).run [(.calm, .startJob reachableSurvivor)]).transcript .calm "CA0"
      roomAndWeapon).2 = _ := congrArg Prod.snd heffect
  refine ⟨j, a, hfind, ?_, body, ?_⟩ <;> rw [heffects]
  · change ((transcriptEscalations .calm 0 (.ofConfig {}) j a roomAndWeapon
      (Script.phraseReport roomAndWeapon)).foldl Gate.record (.ofConfig {})).escalations.map _ = _
    rw [hes]
    change [risk.reason, followUp.reason] = _
    rw [hrisk, hfollowUp]
  · change ((transcriptEffects .calm roomAndWeapon _ _ (transcriptMessages .calm (.ofConfig {}) j a
      roomAndWeapon (Script.phraseReport roomAndWeapon))).reverse ++ _).head? = _
    rw [hms, transcriptEffects, List.reverse_append]
    rfl

end Desk

end ShelterLine

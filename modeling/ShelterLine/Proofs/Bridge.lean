import ShelterLine.Proofs.Document
import ShelterLine.Proofs.Identifier
import ShelterLine.Proofs.Newcomers
import ShelterLine.Proofs.OwnRecord
import ShelterLine.Proofs.Placed

/-!
# A warm transfer bridges its two parties

A transfer that is started dials the survivor and the shelter of the attempt, and nobody else, into
one conference. The conference is named for the transfer; the name has nothing in it that markup
would take out, and no other transfer has the same. What comes of the two calls is written into one
session, one after the other. The order does not matter: a leg that fails sets the status and no
slot, and a leg that is placed sets its slot and no status.
-/

namespace ShelterLine

/-! ## The conference -/

theorem simple_inj {start : String} {i j : Uuid}
    (h : start ++ i.toSimpleString = start ++ j.toSimpleString) : i = j := by
  have hchars : start.toList ++ i.simple = start.toList ++ j.simple := by
    have hlist := congrArg String.toList h
    unfold Uuid.toSimpleString at hlist
    rwa [String.toList_append, String.toList_append, String.toList_ofList,
      String.toList_ofList] at hlist
  have hread := congrArg Uuid.ofSimple? (List.append_cancel_left hchars)
  rw [Uuid.ofSimple?_simple, Uuid.ofSimple?_simple] at hread
  exact Option.some.inj hread

/-- **No two transfers share a conference.** -/
theorem conferenceName_inj {i j : Uuid} (h : conferenceName i = conferenceName j) : i = j :=
  simple_inj h

/-- What holds of digits, and of what stands before them, holds of all characters of such a name. -/
theorem all_simple {p : Char → Bool} {start : String} (hstart : start.toList.all p = true)
    (hdigits : ∀ k < 16, p (Nat.digitChar k) = true) (id : Uuid) :
    (start ++ id.toSimpleString).toList.all p = true := by
  refine List.all_eq_true.2 fun c hc => ?_
  unfold Uuid.toSimpleString at hc
  rw [String.toList_append, String.toList_ofList, List.mem_append] at hc
  rcases hc with hc | hc
  · exact List.all_eq_true.1 hstart c hc
  · obtain ⟨k, hk, rfl⟩ := Text.hexPadded_mem hc
    exact hdigits k hk

/-- Digits have no meaning in markup. -/
theorem strip_simple {start : String} (hstart : start.toList.all (!Markup.isSpecial ·) = true)
    (id : Uuid) :
    Markup.strip (start ++ id.toSimpleString).toList = (start ++ id.toSimpleString).toList :=
  List.filter_eq_self.2 (List.all_eq_true.1 (all_simple hstart (by decide +kernel) id))

theorem strip_conferenceName (id : Uuid) :
    Markup.strip (conferenceName id).toList = (conferenceName id).toList :=
  strip_simple (by decide +kernel) id

theorem simple_ne_nil (start : String) (id : Uuid) : (start ++ id.toSimpleString).toList ≠ [] := by
  intro hnil
  have hlength := congrArg List.length hnil
  unfold Uuid.toSimpleString at hlength
  rw [String.toList_append, String.toList_ofList, List.length_append, Uuid.length_simple] at hlength
  exact absurd hlength (Nat.succ_ne_zero _)

namespace Markup

/-- The document by which a party joins a conference. -/
def joining (room : List Char) : Markup :=
  element "Response" [] [heard "Connecting you to an Eden assisted transfer line.".toList,
    element "Dial" [] [element "Conference"
      [("startConferenceOnEnter", "true".toList), ("endConferenceOnExit", "false".toList)]
      [text room]]]

theorem isSettled_joining {room : List Char} (h : room.all (· ≠ '\r') = true) :
    (joining room).isSettled = true := by
  have hspoken :
      (heard "Connecting you to an Eden assisted transfer line.".toList).isSettled = true := by
    decide +kernel
  refine allChars_element "Response" rfl
    (List.forall_mem_cons.2 ⟨hspoken, List.forall_mem_singleton.2 ?_⟩)
  refine allChars_element "Dial" rfl (List.forall_mem_singleton.2 ?_)
  exact allChars_element "Conference" (by decide) (List.forall_mem_singleton.2 h)

/-- The name of a transfer's conference is read as it is. -/
theorem read?_conferenceJoin (id : Uuid) :
    read? (conferenceJoin (conferenceName id)).toString.toList =
      some (joining (conferenceName id).toList) := by
  have hparses := conferenceJoin_parsesAs (conferenceName id)
  have hheld : held (strip (conferenceName id).toList) = [text (conferenceName id).toList] := by
    rw [strip_conferenceName]
    exact if_neg (simple_ne_nil _ id)
  have hxml : (conferenceName id).toList.all isXmlChar = true :=
    all_simple (by decide +kernel) (by decide +kernel) id
  have hplain : (conferenceName id).toList.all (· ≠ '\r') = true :=
    all_simple (by decide +kernel) (by decide +kernel) id
  have hread := hparses.xml
  rw [if_pos (hparses.isXml (List.forall_mem_singleton.2 hxml)), hheld, ← joining,
    asXml_eq_self (isSettled_joining hplain)] at hread
  exact hread

end Markup

/-! ## The session -/

namespace Session

/-- What the outcome of a leg's call makes of a session. -/
def settled (now : Instant) (leg : Leg) (placed : Except TelephonyError String) (t : Session) :
    Session :=
  match placed with
  | .ok sid => { t with sids := t.sids.set leg (some sid), updatedAt := now }
  | .error _ => { t with status := .failed, updatedAt := now }

/-- A session both of whose legs have been dialed. -/
def dialed (now : Instant) (placed : Leg → Except TelephonyError String) (t : Session) : Session :=
  { t with
    status := match placed .survivor, placed .shelter with
      | .ok _, .ok _ => .connecting
      | _, _ => .failed
    sids := ⟨(placed .survivor).toOption, (placed .shelter).toOption⟩
    updatedAt := now }

/-- The outcomes of two calls, one after the other. The later one says when. -/
theorem settled_settled {t : Session} (ht : t.sids = {}) (opened now later : Instant)
    (placed : Leg → Except TelephonyError String) :
    ({ t with status := .connecting, updatedAt := opened }.settled now .survivor
      (placed .survivor)).settled later .shelter (placed .shelter) = t.dialed later placed := by
  unfold settled dialed
  cases placed .survivor <;> cases placed .shelter <;> simp [ht, LegSids.set, Except.toOption]

theorem dialed_failed_iff {t : Session} {now : Instant}
    {placed : Leg → Except TelephonyError String} :
    (t.dialed now placed).status = .failed ↔ ∃ leg e, placed leg = .error e := by
  unfold dialed
  dsimp only
  constructor
  · intro hfailed
    cases hsurvivor : placed .survivor with
    | error e => exact ⟨.survivor, e, hsurvivor⟩
    | ok sid =>
      cases hshelter : placed .shelter with
      | error e => exact ⟨.shelter, e, hshelter⟩
      | ok sid' =>
        rw [hsurvivor, hshelter] at hfailed
        cases hfailed
  · rintro ⟨leg, e, hleg⟩
    cases leg with
    | survivor => rw [hleg]
    | shelter =>
      rw [hleg]
      cases placed .survivor <;> rfl

theorem dialed_connecting {t : Session} {now : Instant}
    {placed : Leg → Except TelephonyError String} (h : (t.dialed now placed).status ≠ .failed) :
    (t.dialed now placed).status = .connecting := by
  unfold dialed at h ⊢
  dsimp only at h ⊢
  split
  · rfl
  · rename_i hfailed
    split at h
    · rename_i hsurvivor hshelter
      exact absurd hshelter (hfailed _ _ hsurvivor)
    · exact absurd rfl h

theorem dialed_sid_iff {t : Session} {now : Instant} {placed : Leg → Except TelephonyError String}
    {leg : Leg} {sid : String} :
    (t.dialed now placed).sids.get leg = some sid ↔ placed leg = .ok sid := by
  have hslot : (t.dialed now placed).sids.get leg = (placed leg).toOption := by cases leg <;> rfl
  rw [hslot]
  cases placed leg <;> simp [Except.toOption]

end Session

namespace TransferRegister

variable {r r' : TransferRegister} {id : Uuid}

/-- What can be found out about the session with an identifier is the same. -/
structure SameSession (id : Uuid) (r r' : TransferRegister) : Prop where
  get? : r'.get? id = r.get? id
  sids : r'.sids = r.sids

theorem SameSession.refl (r : TransferRegister) : SameSession id r r := ⟨rfl, rfl⟩

theorem SameSession.trans {r'' : TransferRegister} (h : SameSession id r r')
    (h' : SameSession id r' r'') :
    SameSession id r r'' := ⟨h'.get?.trans h.get?, h'.sids.trans h.sids⟩

/-- A session whose legs have no SIDs yet is not reported on. -/
theorem reported_same (hunbound : ∀ sid ref, r.sids.owner? sid = some ref → ref.transferId ≠ id)
    (now : Instant) (report : StatusReport) : SameSession id r (r.reported now report) := by
  unfold reported
  split
  · rename_i t leg status hfind _
    have hother : t.id ≠ id := by
      unfold findSid? at hfind
      obtain ⟨ref, howner, hfind⟩ := Option.bind_eq_some_iff.1 hfind
      obtain ⟨t', ht', hpair⟩ := Option.bind_eq_some_iff.1 hfind
      obtain ⟨rfl, -⟩ := Prod.mk.inj (Option.some.inj hpair)
      rw [get?_id ht']
      exact hunbound _ ref howner
    refine ⟨?_, rfl⟩
    rw [get?_modify (f := fun t => { t with status, updatedAt := now }) fun _ => rfl]
    cases hget : r.get? id with
    | none => rfl
    | some t' =>
      have hne : t'.id ≠ t.id := by
        rw [get?_id hget]
        exact Ne.symm hother
      rw [Option.map_some, if_neg hne]
  · exact .refl r

theorem findSid?_of_owner? {sid : String} {leg : Leg} {t : Session}
    (howner : r.sids.owner? sid = some ⟨id, leg⟩) (hget : r.get? id = some t) :
    r.findSid? sid = some (t, leg) := by
  unfold findSid?
  rw [howner]
  change (r.get? id).bind _ = _
  rw [hget]
  rfl

end TransferRegister

namespace Desk

variable {s : Surroundings} {r : StartTransfer} {p : Parties} {d d' : Desk} {t : Session}

/-- The session that a transfer opens. -/
def newSession (s : Surroundings) (r : StartTransfer) (p : Parties) (d : Desk) : Session :=
  Session.create (s.now d.readings) (s.newTransfer d.made.transfers) r.mode {
    jobId := p.job.id
    attemptId := p.attempt.id
    shelterName := p.attempt.shelterName
    shelterPhone := p.shelterPhone
    survivorPhone := p.survivorPhone
    survivorName := r.survivorName
    notes := r.notes }

theorem openSession_eq (s : Surroundings) (r : StartTransfer) (p : Parties) (d : Desk) :
    (d.openSession s r p).1 = newSession s r p d ∧
    (d.openSession s r p).2.made = { d.made with transfers := d.made.transfers + 1 } ∧
    (d.openSession s r p).2.transfers.sids = d.transfers.sids ∧
    (d.openSession s r p).2.transfers.get? (newSession s r p d).id =
      some { newSession s r p d with
        status := .connecting, updatedAt := s.now (d.readings + 1) } := by
  -- the session has just been registered, so its status can be set
  have hthere : (d.transfers.insert (newSession s r p d)).get? (newSession s r p d).id =
      some (newSession s r p d) := by
    rw [TransferRegister.get?_insert, if_pos rfl]
  have hset : (d.transfers.insert (newSession s r p d)).setStatus (s.now (d.readings + 1))
      (newSession s r p d).id .connecting =
      some ({ newSession s r p d with status := .connecting, updatedAt := s.now (d.readings + 1) },
        (d.transfers.insert (newSession s r p d)).modify (newSession s r p d).id
          fun t => { t with status := .connecting, updatedAt := s.now (d.readings + 1) }) := by
    unfold TransferRegister.setStatus
    rw [TransferRegister.update_eq, hthere]
    rfl
  have hopen : d.openSession s r p = (newSession s r p d,
      { ({ d with
          made.transfers := d.made.transfers + 1
          transfers := d.transfers.insert (newSession s r p d)
          readings := d.readings + 1 }.sessionChanged (newSession s r p d)) with
        transfers := (d.transfers.insert (newSession s r p d)).modify (newSession s r p d).id
          fun t => { t with status := .connecting, updatedAt := s.now (d.readings + 1) }
        readings := d.readings + 2 }.sessionChanged
          { newSession s r p d with
            status := .connecting, updatedAt := s.now (d.readings + 1) }) := by
    have hchanged : ({ d with
        made.transfers := d.made.transfers + 1
        transfers := d.transfers.insert (newSession s r p d)
        readings := d.readings + 1 }.sessionChanged (newSession s r p d)).transfers.setStatus
          (s.now (d.readings + 1)) (newSession s r p d).id .connecting = _ := hset
    unfold newSession at hchanged ⊢
    unfold openSession
    dsimp only
    rw [sessionChanged_readings, hchanged]
  rw [hopen]
  refine ⟨rfl, rfl, rfl, ?_⟩
  have hget := TransferRegister.get?_modify
    (f := fun t => { t with status := .connecting, updatedAt := s.now (d.readings + 1) })
    (fun _ => rfl) (d.transfers.insert (newSession s r p d)) (newSession s r p d).id
    (newSession s r p d).id
  rw [hthere, Option.map_some, if_pos rfl] at hget
  exact hget

/-- The order for the call of a leg. -/
def legOrder (s : Surroundings) (t : Session) (leg : Leg) : CallOrder where
  number := legNumber t leg
  document := (Markup.conferenceJoin t.conference).toString
  statusUrl := s.callbackUrl statusPath
  record := false
  recordingUrl := none

theorem dialLeg_eq (s : Surroundings) (t : Session) (leg : Leg) (d : Desk) :
    d.dialLeg s t leg = d.placeCall s t.mode (.leg ⟨t.id, leg⟩) (legOrder s t leg) := by
  cases leg <;> rfl

theorem consult_transfers (s : Surroundings) (risk : RiskAssessment) (approved live : Bool)
    (source : EscalationSource) (reference : String) (d : Desk) :
    (d.consult s risk approved live source reference).2.transfers = d.transfers ∧
    (d.consult s risk approved live source reference).2.made.transfers = d.made.transfers ∧
    (d.consult s risk approved live source reference).2.made.calls = d.made.calls ∧
    (d.consult s risk approved live source reference).2.readings = d.readings := by
  rcases consult_course s risk approved live source reference d with ⟨-, h⟩ | ⟨_, _, -, -, h⟩
  · rw [h]
    exact ⟨rfl, rfl, rfl, rfl⟩
  · rw [h]
    exact ⟨rfl, rfl, rfl, rfl⟩

/-- Nothing happens to the session while a leg is being dialed, as no report can name it yet. -/
theorem placeCall_same {id : Uuid} (hforget : ForgetsNothing s)
    (hunbound : ∀ sid ref, d.transfers.sids.owner? sid = some ref → ref.transferId ≠ id)
    (line : Mode) (purpose : CallPurpose) (order : CallOrder) :
    TransferRegister.SameSession id d.transfers (d.placeCall s line purpose order).2.transfers := by
  refine List.foldlRecOn (motive := fun d' : Desk =>
    TransferRegister.SameSession id d.transfers d'.transfers) (s.meanwhile d.made.calls line)
      (interrupt s) (TransferRegister.SameSession.refl _) fun d' hd' i hi => hd'.trans ?_
  cases i with
  | reset => exact absurd hi (hforget _ _)
  | block raw =>
    obtain ⟨_, _, h⟩ := block_eq raw d'
    change TransferRegister.SameSession id d'.transfers (d'.block raw).2.transfers
    rw [h]
    exact .refl _
  | status report =>
    change TransferRegister.SameSession id d'.transfers (d'.status s report).2.transfers
    rw [status_transfers]
    split
    · exact .refl _
    · exact TransferRegister.reported_same (hd'.sids ▸ hunbound) (s.now d'.readings) report

/-- The index once the call of one leg has been settled. -/
def settledSids (ix : SidIndex LegRef) (ref : LegRef) :
    Except TelephonyError String → SidIndex LegRef
  | .ok sid => ix.bind sid ref
  | .error _ => ix

theorem linked_settledSids {ix : SidIndex LegRef} (h : ix.Linked) (ref : LegRef)
    (placed : Except TelephonyError String) : (settledSids ix ref placed).Linked := by
  cases placed with
  | ok sid => exact SidIndex.linked_bind h sid ref
  | error e => exact h

/-- A SID that is placed is the leg's. -/
theorem owner?_settledSids {ix : SidIndex LegRef} (h : ix.Linked) (ref : LegRef) (sid : String) :
    (settledSids ix ref (.ok sid)).owner? sid = some ref := by
  unfold settledSids
  rw [SidIndex.owner?_bind h, if_pos rfl]

/-- The other SIDs stay with the other legs. -/
theorem owner?_settledSids_other {ix : SidIndex LegRef} (h : ix.Linked) {ref other : LegRef}
    {sid : String} {placed : Except TelephonyError String} (hplaced : placed ≠ .ok sid)
    (hother : other ≠ ref) (howner : ix.owner? sid = some other) :
    (settledSids ix ref placed).owner? sid = some other := by
  cases placed with
  | ok sid' => exact SidIndex.owner?_bind_other h (fun heq => hplaced (heq ▸ rfl)) hother howner
  | error e => exact howner

/-- A SID that is not placed stays free. -/
theorem owner?_settledSids_free {ix : SidIndex LegRef} (h : ix.Linked) {ref : LegRef} {sid : String}
    {placed : Except TelephonyError String} (hplaced : placed ≠ .ok sid)
    (hfree : ix.owner? sid = none) : (settledSids ix ref placed).owner? sid = none := by
  cases placed with
  | ok sid' =>
    have hne : sid ≠ sid' := fun heq => hplaced (heq ▸ rfl)
    unfold settledSids
    rw [SidIndex.owner?_bind h, if_neg hne, hfree, ite_self]
  | error e => exact hfree

/-- What is known of a session once the call of one leg has been settled. -/
theorem settleLeg_session (s : Surroundings) {id : Uuid} (leg : Leg)
    {placed : Except TelephonyError String} (hget : d.transfers.get? id = some t)
    (hnew : ∀ sid, placed = .ok sid → d.transfers.sids.owner? sid = none) :
    (d.settleLeg s ⟨id, leg⟩ placed).transfers.get? id =
      some (t.settled (s.now d.readings) leg placed) ∧
    (d.settleLeg s ⟨id, leg⟩ placed).transfers.sids =
      settledSids d.transfers.sids ⟨id, leg⟩ placed ∧
    (d.settleLeg s ⟨id, leg⟩ placed).readings = d.readings + 1 := by
  obtain rfl := TransferRegister.get?_id hget
  cases placed with
  | ok sid =>
    have hreleased : d.transfers.released ⟨t.id, leg⟩ sid = d.transfers := by
      unfold TransferRegister.released
      rw [hnew sid rfl]
    have hput := Session.setsSlot_put (s.now d.readings) leg sid
    have hbind : d.transfers.bindSid (s.now d.readings) ⟨t.id, leg⟩ sid =
        some (t.settled (s.now d.readings) leg (.ok sid),
          { d.transfers.modify t.id (fun t => { t with
              sids := t.sids.set leg (some sid), updatedAt := s.now d.readings }) with
            sids := d.transfers.sids.bind sid ⟨t.id, leg⟩ }) := by
      rw [TransferRegister.bindSid_eq, hreleased, hget, Option.bind_some,
        TransferRegister.update_eq]
      change (d.transfers.get? t.id).map _ = _
      rw [hget]
      rfl
    unfold settleLeg
    dsimp only
    rw [hbind]
    refine ⟨?_, rfl, rfl⟩
    have hmodified := TransferRegister.get?_modify hput.id_eq d.transfers t.id t.id
    rw [hget, Option.map_some, if_pos rfl] at hmodified
    exact hmodified
  | error e =>
    have hset : d.transfers.setStatus (s.now d.readings) t.id .failed =
        some (t.settled (s.now d.readings) leg (.error e), d.transfers.modify t.id fun t =>
          { t with status := .failed, updatedAt := s.now d.readings }) := by
      unfold TransferRegister.setStatus
      rw [TransferRegister.update_eq, hget]
      rfl
    unfold settleLeg
    dsimp only
    rw [hset]
    refine ⟨?_, rfl, rfl⟩
    have hmodified := TransferRegister.get?_modify
      (f := fun t => { t with status := .failed, updatedAt := s.now d.readings }) (fun _ => rfl)
      d.transfers t.id t.id
    rw [hget, Option.map_some, if_pos rfl] at hmodified
    exact hmodified

/-- What comes of the calls of a session's legs if they are the next two. -/
def legAnswer (s : Surroundings) (t : Session) (d : Desk) : Leg → Except TelephonyError String
  | .survivor => s.place d.made.calls t.mode (legOrder s t .survivor)
  | .shelter => s.place (d.made.calls + 1) t.mode (legOrder s t .shelter)

/-- A session that has been opened is in the end what both calls make of it, and both are known by
it. The clock was last read for the second one. -/
theorem dialLegs_session {d₁ d₂ : Desk} {opened : Instant}
    {survivor shelter : Except TelephonyError String} (hforget : ForgetsNothing s)
    (hlinked : d.transfers.sids.Linked)
    (hunbound : ∀ sid ref, d.transfers.sids.owner? sid = some ref → ref.transferId ≠ t.id)
    (hempty : t.sids = {})
    (hopen : d.transfers.get? t.id = some { t with status := .connecting, updatedAt := opened })
    (hsurvivor : d.dialLeg s t .survivor = (survivor, d₁))
    (hshelter : d₁.dialLeg s t .shelter = (shelter, d₂))
    (hnew : ∀ leg sid, legAnswer s t d leg = .ok sid → d.transfers.sids.owner? sid = none)
    (hdistinct : ∀ sid, legAnswer s t d .survivor = .ok sid → legAnswer s t d .shelter ≠ .ok sid) :
    ∃ n, ((d₂.settleLeg s ⟨t.id, .survivor⟩ survivor).settleLeg s
        ⟨t.id, .shelter⟩ shelter).readings = n + 1 ∧
      ((d₂.settleLeg s ⟨t.id, .survivor⟩ survivor).settleLeg s
        ⟨t.id, .shelter⟩ shelter).transfers.get? t.id =
          some (t.dialed (s.now n) (legAnswer s t d)) ∧
      ∀ leg sid, legAnswer s t d leg = .ok sid →
        ((d₂.settleLeg s ⟨t.id, .survivor⟩ survivor).settleLeg s
          ⟨t.id, .shelter⟩ shelter).transfers.findSid? sid =
            some (t.dialed (s.now n) (legAnswer s t d), leg) := by
  rw [dialLeg_eq] at hsurvivor hshelter
  have hsame : TransferRegister.SameSession t.id d.transfers d₂.transfers := by
    have hfirst := placeCall_same (d := d) hforget hunbound t.mode (.leg ⟨t.id, .survivor⟩)
      (legOrder s t .survivor)
    rw [hsurvivor] at hfirst
    have hsecond := placeCall_same (d := d₁) hforget (hfirst.sids ▸ hunbound) t.mode
      (.leg ⟨t.id, .shelter⟩) (legOrder s t .shelter)
    rw [hshelter] at hsecond
    exact hfirst.trans hsecond
  have hanswers : survivor = legAnswer s t d .survivor ∧ shelter = legAnswer s t d .shelter := by
    have hmade := placeCall_made s t.mode (.leg ⟨t.id, .survivor⟩) (legOrder s t .survivor) d
    rw [hsurvivor] at hmade
    refine ⟨(congrArg Prod.fst hsurvivor).symm, (congrArg Prod.fst hshelter).symm.trans ?_⟩
    change s.place d₁.made.calls _ _ = _
    rw [hmade]
    rfl
  obtain ⟨rfl, rfl⟩ := hanswers
  have hnew' : ∀ leg sid, legAnswer s t d leg = .ok sid → d₂.transfers.sids.owner? sid = none :=
    hsame.sids.symm ▸ hnew
  have hlinked₂ : d₂.transfers.sids.Linked := hsame.sids.symm ▸ hlinked
  obtain ⟨hget₃, hsids₃, -⟩ := settleLeg_session s .survivor (hsame.get?.trans hopen)
    (hnew' .survivor)
  have hlinked₃ := linked_settledSids hlinked₂ ⟨t.id, .survivor⟩ (legAnswer s t d .survivor)
  rw [← hsids₃] at hlinked₃
  -- what the first call bound is not what the second one got
  obtain ⟨hget₄, hsids₄, hreadings⟩ := settleLeg_session s .shelter hget₃ fun sid hsid => by
    rw [hsids₃]
    exact owner?_settledSids_free hlinked₂ (fun hsame => hdistinct sid hsame hsid)
      (hnew' .shelter sid hsid)
  rw [Session.settled_settled hempty] at hget₄
  refine ⟨_, hreadings, hget₄, fun leg sid hsid => TransferRegister.findSid?_of_owner? ?_ hget₄⟩
  rw [hsids₄]
  cases leg with
  | survivor =>
    have howner := owner?_settledSids hlinked₂ ⟨t.id, .survivor⟩ sid
    rw [← hsid, ← hsids₃] at howner
    exact owner?_settledSids_other hlinked₃ (hdistinct sid hsid) (by simp) howner
  | shelter =>
    rw [hsid]
    exact owner?_settledSids hlinked₃ ⟨t.id, .shelter⟩ sid

/-- The survivor is called and then the shelter; settling the calls calls nobody. -/
theorem dialLegs_calls_eq {d₁ d₂ : Desk} {survivor shelter : Except TelephonyError String}
    (hsurvivor : d.dialLeg s t .survivor = (survivor, d₁))
    (hshelter : d₁.dialLeg s t .shelter = (shelter, d₂)) :
    ((d₂.settleLeg s ⟨t.id, .survivor⟩ survivor).settleLeg s ⟨t.id, .shelter⟩ shelter).calls =
      d.calls ++ [(t.mode, .leg ⟨t.id, .survivor⟩, legOrder s t .survivor),
        (t.mode, .leg ⟨t.id, .shelter⟩, legOrder s t .shelter)] := by
  rw [dialLeg_eq] at hsurvivor hshelter
  have hfirst := placeCall_calls_eq s t.mode (.leg ⟨t.id, .survivor⟩) (legOrder s t .survivor) d
  have hsecond := placeCall_calls_eq s t.mode (.leg ⟨t.id, .shelter⟩) (legOrder s t .shelter) d₁
  rw [hsurvivor] at hfirst
  rw [hshelter, hfirst, List.append_assoc] at hsecond
  rw [(settleLeg_notes s _ shelter _).toGrows.calls_eq,
    (settleLeg_notes s _ survivor _).toGrows.calls_eq, hsecond]
  rfl

/-- Which answers the calls get depends on how many there were before. -/
theorem legAnswer_congr (s : Surroundings) (t : Session) (h : d'.made.calls = d.made.calls) :
    legAnswer s t d' = legAnswer s t d := by
  funext leg
  cases leg <;> unfold legAnswer <;> rw [h]

theorem newSession_congr (s : Surroundings) (r : StartTransfer) (p : Parties)
    (h : d'.made.transfers = d.made.transfers) (hreadings : d'.readings = d.readings) :
    newSession s r p d' = newSession s r p d := by
  unfold newSession
  rw [h, hreadings]

/-- **A warm transfer bridges its two parties.** A transfer that is started calls the survivor and
the shelter of the attempt, once each and nobody else, and both join the conference that is named
for it. If the SIDs of the two calls are new and differ, and nothing is forgotten meanwhile, then
the session that is handed out is registered; it has failed if and only if one of the calls could
not be placed and is connecting otherwise; and each call that was placed is known by its SID. No two
transfers share a conference. -/
theorem transfer_bridges_parties (hstart : d.startTransfer s r = (.ok t, d')) :
    (∃ p new, p.Found s r d ∧ new = newSession s r p d ∧
      d'.calls = d.calls ++ [(r.mode, .leg ⟨new.id, .survivor⟩, legOrder s new .survivor),
        (r.mode, .leg ⟨new.id, .shelter⟩, legOrder s new .shelter)] ∧
      (legOrder s new .survivor).number = p.survivorPhone ∧
      (legOrder s new .shelter).number = p.shelterPhone ∧
      (∀ leg, (legOrder s new leg).document =
          (Markup.conferenceJoin (conferenceName new.id)).toString ∧
        Markup.read? (legOrder s new leg).document.toList =
          some (Markup.joining (conferenceName new.id).toList)) ∧
      (ForgetsNothing s → d.transfers.Reached → d.transfers.get? new.id = none →
        (∀ leg sid, legAnswer s new d leg = .ok sid → d.transfers.sids.owner? sid = none) →
        (∀ sid, legAnswer s new d .survivor = .ok sid → legAnswer s new d .shelter ≠ .ok sid) →
        d'.transfers.get? new.id = some t ∧
        (∃ n, d'.readings = n + 1 ∧ t = new.dialed (s.now n) (legAnswer s new d)) ∧
        (t.status = .failed ↔ ∃ leg e, legAnswer s new d leg = .error e) ∧
        (t.status ≠ .failed → t.status = .connecting) ∧
        (∀ leg sid, t.sids.get leg = some sid ↔ legAnswer s new d leg = .ok sid) ∧
        ∀ leg sid, legAnswer s new d leg = .ok sid → d'.transfers.findSid? sid = some (t, leg))) ∧
    ∀ i j : Uuid, i ≠ j → conferenceName i ≠ conferenceName j := by
  refine ⟨?_, fun i j hne hname => hne (conferenceName_inj hname)⟩
  rcases startTransfer_course s r d with ⟨refusal, h, -⟩ | ⟨p, verdict, d₁, hfound, hask, hcourse⟩
  · rw [h] at hstart
    cases hstart
  · have hasked := consult_transfers s (Risk.assess (riskText p.job r.notes))
      (r.approved || p.job.request.approved) r.mode.isLive .warmTransfer r.attemptId.toString d
    have hquiet := (consult_quiet s (Risk.assess (riskText p.job r.notes))
      (r.approved || p.job.request.approved)
      r.mode.isLive .warmTransfer r.attemptId.toString d).calls_eq
    rw [hask] at hasked hquiet
    rcases hcourse with ⟨denial, -, h⟩ |
      ⟨-, session, d₂, survivor, d₃, shelter, d₄, d₅, hopen, hsurvivor, hshelter, hsettled, h⟩
    · rw [h] at hstart
      cases hstart
    · obtain ⟨hsession, hmade, hsids, hget⟩ := openSession_eq s r p d₁
      have hopened := (openSession_notes s r p d₁).toGrows.calls_eq
      rw [hopen] at hsession hmade hsids hget hopened
      rw [newSession_congr s r p hasked.2.1 hasked.2.2.2] at hsession hget
      dsimp only at hsession hmade hsids hget hopened
      have hcalls := dialLegs_calls_eq hsurvivor hshelter
      rw [← hsettled, hopened, hquiet] at hcalls
      have hanswer : legAnswer s session d₂ = legAnswer s session d :=
        legAnswer_congr s session (by rw [hmade]; exact hasked.2.2.1)
      obtain ⟨hresult, rfl⟩ := Prod.mk.inj (hstart.symm.trans h)
      rw [hasked.1] at hsids
      refine ⟨p, session, hfound, hsession, ?_, ?_, ?_, ?_, ?_⟩
      · rw [hcalls, hsession]
        rfl
      · rw [hsession]
        rfl
      · rw [hsession]
        rfl
      · intro leg
        have hdocument : (legOrder s session leg).document =
            (Markup.conferenceJoin (conferenceName session.id)).toString := by
          rw [hsession]
          rfl
        exact ⟨hdocument, hdocument ▸ Markup.read?_conferenceJoin session.id⟩
      · intro hforget hreached hfresh hnew hdistinct
        -- whoever has a SID is registered, and the session was not
        have hunbound : ∀ sid ref, d₂.transfers.sids.owner? sid = some ref →
            ref.transferId ≠ session.id := by
          intro sid ref howner heq
          rw [hsids] at howner
          have hthere := hreached.owned howner
          rw [heq, hfresh] at hthere
          cases hthere
        have hlinked : d₂.transfers.sids.Linked := hsids ▸ hreached.linked
        rw [← hsession] at hget
        rw [← hanswer] at hnew hdistinct ⊢
        rw [← hsids] at hnew
        obtain ⟨n, hreadings, hregistered, hfound⟩ := dialLegs_session hforget hlinked hunbound
          (by rw [hsession]; rfl) hget hsurvivor hshelter hnew hdistinct
        rw [← hsettled] at hreadings hregistered hfound
        have ht : t = session.dialed (s.now n) (legAnswer s session d₂) := by
          rw [hregistered] at hresult
          exact Except.ok.inj hresult
        subst ht
        exact ⟨hregistered, ⟨n, hreadings, rfl⟩, Session.dialed_failed_iff,
          Session.dialed_connecting, fun leg sid => Session.dialed_sid_iff, hfound⟩

/-- Surroundings in which the third call cannot be placed. -/
def thirdCallFails : Surroundings :=
  { Surroundings.calm with
    place := fun n _ _ => if n = 2 then .error (.requestFailed "stub" "no answer")
      else .ok s!"CA{n}" }

/-- A transfer to the shelter that the first call reached. -/
def firstTransfer : StartTransfer where
  mode := .dryRun
  jobId := .ofNat 0
  attemptId := .ofNat 0
  survivorPhone := "(555) 010-0199"
  survivorName := none
  notes := none
  approved := false

/-- If the shelter cannot be called the session has failed, and the survivor's call is
known by its SID. -/
theorem transfer_bridges_parties_thirdCallFails :
    ∃ t d', ((ofConfig {}).run (twoSheltersRun.take 1)).startTransfer thirdCallFails firstTransfer =
        (.ok t, d') ∧
      d'.calls.map (·.2.1) = [.attempt ⟨.ofNat 0, .ofNat 0⟩, .leg ⟨.ofNat 0, .survivor⟩,
        .leg ⟨.ofNat 0, .shelter⟩] ∧
      t.status = .failed ∧ t.sids.get .survivor = some "CA1" ∧
      d'.transfers.findSid? "CA1" = some (t, .survivor) := by
  have hstart : ∃ t d', ((ofConfig {}).run (twoSheltersRun.take 1)).startTransfer thirdCallFails
      firstTransfer = (.ok t, d') := ⟨_, _, rfl⟩
  obtain ⟨t, d', hstart⟩ := hstart
  obtain ⟨⟨p, new, -, hnew, hcalls, -, -, -, hsession⟩, -⟩ := transfer_bridges_parties hstart
  have hid : new.id = .ofNat 0 := by
    rw [hnew]
    rfl
  have hsurvivor : legAnswer thirdCallFails new
      ((ofConfig {}).run (twoSheltersRun.take 1)) .survivor = .ok "CA1" := rfl
  have hshelter : legAnswer thirdCallFails new
      ((ofConfig {}).run (twoSheltersRun.take 1)) .shelter =
      .error (.requestFailed "stub" "no answer") := rfl
  have hreached : ((ofConfig {}).run (twoSheltersRun.take 1)).Reached :=
    (show Reachable {} _ from ⟨twoSheltersRun.take 1, .calm, .refl⟩).reached
  obtain ⟨-, -, hfailed, -, hslots, hfound⟩ := hsession (fun n line h => absurd h List.not_mem_nil)
    hreached.transfers rfl (fun leg sid _ => rfl) fun sid _ h => by
      rw [hshelter] at h
      cases h
  refine ⟨t, d', hstart, ?_, hfailed.2 ⟨.shelter, _, hshelter⟩,
    (hslots .survivor "CA1").2 hsurvivor, hfound .survivor "CA1" hsurvivor⟩
  rw [hcalls, hid]
  rfl

end Desk

end ShelterLine

import Mathlib.Data.List.Nodup
import ShelterLine.Proofs.Correlation
import ShelterLine.Proofs.Lifecycle

/-!
# Callbacks touch only their own record

A callback names a call by its SID. It looks for the record of the call, first among attempts
and then, if it reports a status, among the legs of transfers; the change is made later, by
the identifiers of what was found. So there are three things that it can come to, and `Heard`
lists them: nothing at all, one patch of one attempt, or one status of one session. Where
identifiers are keys and the indices agree with the records, the record that is changed is the
only one that has the SID.
-/

namespace ShelterLine

/-! ## One record among many -/

section

variable {α β : Type} [DecidableEq α] {x : α} {xs : List α}

/-- `x` gave way to `x'` in its place, and everything else stayed. -/
def Replaced (x x' : α) (xs xs' : List α) : Prop :=
  x ∈ xs ∧ xs' = xs.map fun y => if y = x then x' else y

/-- Where keys are different, changing whatever has one of them changes one record. -/
theorem replaced_of_key [DecidableEq β] {key : α → β} (hn : (xs.map key).Nodup) (hx : x ∈ xs)
    (f : α → α) : Replaced x (f x) xs (xs.map fun y => if key y = key x then f y else y) := by
  refine ⟨hx, List.map_congr_left fun y hy => ?_⟩
  by_cases hyx : y = x
  · rw [if_pos hyx, if_pos (congrArg key hyx), hyx]
  · have hkey : key y ≠ key x := fun hkey => hyx (List.inj_on_of_nodup_map hn hy hx hkey)
    rw [if_neg hyx, if_neg hkey]

end

/-! ## What a callback may change -/

/-- What the provider reports about a call. -/
inductive Callback where
  | status (report : StatusReport)
  | recording (sid url : String)
  | transcript (sid text : String)

/-- The SID of the call that a callback is about. -/
def Callback.sid : Callback → String
  | status r => r.sid
  | recording sid _ | transcript sid _ => sid

/-- A patch that says nothing but what callbacks say. -/
structure Attempt.Patch.OfCallback (p : Attempt.Patch) : Prop where
  sid : p.sid = none
  script : p.script = none
  scriptSource : p.scriptSource = none
  error : p.error = none

/-- `a'` is `a` except for its status, its recording, what was said, and the time. -/
def Attempt.SameButReported (a a' : Attempt) : Prop :=
  a' = { a with
    status := a'.status
    recordingUrl := a'.recordingUrl
    excerpt := a'.excerpt
    report := a'.report
    updatedAt := a'.updatedAt }

theorem Attempt.sameButReported_apply {p : Attempt.Patch} (hp : p.OfCallback) (now : Instant)
    (a : Attempt) : a.SameButReported (a.apply now p) := by
  unfold SameButReported apply
  rw [hp.sid, hp.script, hp.scriptSource, hp.error]
  rfl

/-- One attempt of one job is another one now, and of the job only what follows from that. -/
structure JobRegister.ChangesOne (r r' : JobRegister) (j j' : Job) (a a' : Attempt) : Prop where
  sids : r'.sids = r.sids
  job : Replaced j j' r.jobs r'.jobs
  attempt : Replaced a a' j.attempts j'.attempts
  others : j' = { j with status := j'.status, updatedAt := j'.updatedAt, attempts := j'.attempts }

/-- Where identifiers are keys, a patch changes one attempt. -/
theorem JobRegister.Keyed.changesOne {r : JobRegister} (h : r.Keyed) {j : Job} {a : Attempt}
    (hj : j ∈ r.jobs) (ha : a ∈ j.attempts) (now : Moment) (p : Attempt.Patch) :
    ChangesOne r (r.modify j.id (Job.patch now a.id p)) j (j.patch now a.id p) a
      (a.apply now.attempt p) where
  sids := rfl
  job := replaced_of_key h.jobs hj (Job.patch now a.id p)
  attempt := by
    have hattempts : (j.patch now a.id p).attempts =
        j.attempts.map fun b => if b.id = a.id then b.apply now.attempt p else b :=
      Job.modifyAttempt_eq_map (h.attempts j hj)
    rw [hattempts]
    exact replaced_of_key (h.attempts j hj) ha (Attempt.apply now.attempt p)
  others := rfl

/-- One session has another status, since a certain time. -/
structure TransferRegister.MovesOne (r r' : TransferRegister) (t t' : Session) : Prop where
  sids : r'.sids = r.sids
  session : Replaced t t' r.sessions r'.sessions
  others : t' = { t with status := t'.status, updatedAt := t'.updatedAt }

theorem TransferRegister.Keyed.movesOne {r : TransferRegister} (h : r.Keyed) {t : Session}
    (ht : t ∈ r.sessions) (now : Instant) (status : TransferStatus) :
    MovesOne r (r.modify t.id fun t => { t with status, updatedAt := now }) t
      { t with status, updatedAt := now } where
  sids := rfl
  session := replaced_of_key h ht fun t => { t with status, updatedAt := now }
  others := rfl

/-- The session that a SID finds is registered. -/
theorem TransferRegister.get?_of_findSid? {r : TransferRegister} {sid : String} {t : Session}
    {leg : Leg} (h : r.findSid? sid = some (t, leg)) : r.get? t.id = some t := by
  unfold findSid? at h
  obtain ⟨ref, -, h⟩ := Option.bind_eq_some_iff.1 h
  obtain ⟨t', hfound, hpair⟩ := Option.bind_eq_some_iff.1 h
  obtain ⟨rfl, -⟩ := Prod.mk.inj (Option.some.inj hpair)
  rw [get?_id hfound]
  exact hfound

namespace Desk

variable {s : Surroundings} {d d' d'' : Desk}

/-! ## What leaves all records alone -/

/-- The registers and the policy are the same. -/
structure SameRecords (d d' : Desk) : Prop where
  jobs : d'.jobs = d.jobs
  transfers : d'.transfers = d.transfers
  blocked : d'.gate.blocked = d.gate.blocked
  policy : d'.gate.requireEscalation = d.gate.requireEscalation

theorem SameRecords.refl (d : Desk) : SameRecords d d := ⟨rfl, rfl, rfl, rfl⟩

theorem SameRecords.trans (h : SameRecords d d') (h' : SameRecords d' d'') : SameRecords d d'' :=
  ⟨h'.jobs.trans h.jobs, h'.transfers.trans h.transfers, h'.blocked.trans h.blocked,
    h'.policy.trans h.policy⟩

/-- The same change of the jobs leaves the same records. -/
theorem SameRecords.jobChanged (h : SameRecords d d') (f : JobRegister → JobRegister) (j : Job)
    (readings : Nat) :
    SameRecords { d with jobs := f d.jobs }
    ({ d' with jobs := f d'.jobs, readings }.jobChanged j) :=
  ⟨congrArg f h.jobs, h.transfers, h.blocked, h.policy⟩

theorem ask_sameRecords (s : Surroundings) (r : ChatRequest) (d : Desk) :
    SameRecords d (d.ask s r).2 := by
  unfold ask
  split <;> exact ⟨rfl, rfl, rfl, rfl⟩

theorem consult_sameRecords (s : Surroundings) (risk : RiskAssessment) (approved live : Bool)
    (source : EscalationSource) (reference : String) (d : Desk) :
    SameRecords d (d.consult s risk approved live source reference).2 := by
  rcases consult_course s risk approved live source reference d with
    ⟨-, h⟩ | ⟨stopped, e, -, -, h⟩
  · rw [h]
    exact .refl d
  · rw [h]
    exact ⟨rfl, rfl, rfl, rfl⟩

theorem followUp_sameRecords (s : Surroundings) (attempt : Attempt) (report : IntakeReport)
    (d : Desk) : SameRecords d (d.followUp s attempt report) := by
  unfold followUp
  split
  · exact ⟨rfl, rfl, rfl, rfl⟩
  · exact .refl d

theorem announce_sameRecords (s : Surroundings) (job : Job) (attempt : Attempt) (text : String)
    (report : IntakeReport) (d : Desk) :
    SameRecords d (d.announce s job attempt text report) := by
  unfold announce
  split
  · have hasked := consult_sameRecords s (Risk.assess text) job.request.approved true .transcript
      attempt.id.toString d
    rcases notifySurvivor_course s job attempt text report d with
      h | ⟨callback, verdict, d₁, -, -, -, hask, h | ⟨-, body, h⟩⟩
    · rw [h]
      exact .refl d
    · rw [hask] at hasked
      rw [h]
      exact hasked
    · rw [hask] at hasked
      rw [h]
      exact hasked.trans ⟨rfl, rfl, rfl, rfl⟩
  · exact .refl d

/-- A patch of an attempt that is there changes it, and this is told. -/
theorem patchAttempt_of_found {ref : AttemptRef} {j : Job} {a : Attempt}
    (h : d.jobs.attempt? ref = some (j, a)) (p : Attempt.Patch) :
    d.patchAttempt s ref p = (some (j.patch (s.now.moment d.readings) ref.attemptId p),
      { d with
        jobs := d.jobs.modify ref.jobId (Job.patch (s.now.moment d.readings) ref.attemptId p)
        readings := d.readings + 2 }.jobChanged
          (j.patch (s.now.moment d.readings) ref.attemptId p)) := by
  unfold patchAttempt
  rw [JobRegister.patch_eq, h]
  rfl

/-! ## Hearing a callback -/

/-- Hears a callback. -/
def hear (s : Surroundings) (c : Callback) (d : Desk) : WebhookOutcome × Desk :=
  match c with
  | .status r => d.status s r
  | .recording sid url => d.recording s sid url
  | .transcript sid text => d.transcript s sid text

/-- What hearing a callback can come to. -/
inductive Heard (s : Surroundings) (c : Callback) (d : Desk) : WebhookOutcome × Desk → Prop where
  /-- It is about nothing known, or it says nothing new. -/
  | ignored : Heard s c d (.ignored, d)
  /-- The attempt whose call it is about is patched. -/
  | attempt {j : Job} {a : Attempt} {p : Attempt.Patch} {d' : Desk}
    (found : d.jobs.findSid? c.sid = some (j, a)) (reports : p.OfCallback)
    (records : SameRecords
      { d with jobs := d.jobs.modify j.id (Job.patch (s.now.moment d.readings) a.id p) } d')
    (log : (∀ sid text, c ≠ .transcript sid text) → d'.gate = d.gate) : Heard s c d (.applied, d')
  /-- No attempt has the call, and the session of the leg that has it gets a status. -/
  | session {r : StatusReport} {t : Session} {leg : Leg} {status : TransferStatus} {d' : Desk}
    (isStatus : c = .status r) (nobody : d.jobs.findSid? c.sid = none)
    (found : d.transfers.findSid? c.sid = some (t, leg))
    (records : SameRecords { d with
      transfers := d.transfers.modify t.id fun t =>
        { t with status, updatedAt := s.now d.readings } } d')
    (log : d'.gate = d.gate) : Heard s c d (.applied, d')

theorem status_heard (s : Surroundings) (r : StatusReport) (d : Desk) :
    Heard s (.status r) d (d.status s r) := by
  unfold status
  cases hfind : d.jobs.findSid? r.sid with
  | some found =>
    obtain ⟨j, a⟩ := found
    dsimp only
    split
    · exact .ignored
    · rw [patchAttempt_of_found (JobRegister.attempt?_of_findSid? hfind)]
      exact .attempt hfind ⟨rfl, rfl, rfl, rfl⟩ ⟨rfl, rfl, rfl, rfl⟩ fun _ => rfl
  | none =>
    dsimp only
    cases hleg : d.transfers.findSid? r.sid with
    | none => exact .ignored
    | some found =>
      obtain ⟨t, leg⟩ := found
      dsimp only
      cases TransferStatus.ofProvider? r.status with
      | none => exact .ignored
      | some status =>
        have hset : d.transfers.setStatus (s.now d.readings) t.id status =
            some ({ t with status, updatedAt := (s.now d.readings) },
              d.transfers.modify t.id fun t =>
                { t with status, updatedAt := s.now d.readings }) := by
          unfold TransferRegister.setStatus
          rw [TransferRegister.update_eq, TransferRegister.get?_of_findSid? hleg]
          rfl
        dsimp only
        rw [hset]
        exact .session rfl hfind hleg ⟨rfl, rfl, rfl, rfl⟩ rfl

theorem recording_heard (s : Surroundings) (sid url : String) (d : Desk) :
    Heard s (.recording sid url) d (d.recording s sid url) := by
  unfold recording
  split
  · exact .ignored
  · cases hfind : d.jobs.findSid? sid with
    | none => exact .ignored
    | some found =>
      obtain ⟨j, a⟩ := found
      dsimp only
      rw [patchAttempt_of_found (JobRegister.attempt?_of_findSid? hfind)]
      exact .attempt hfind ⟨rfl, rfl, rfl, rfl⟩ ⟨rfl, rfl, rfl, rfl⟩ fun _ => rfl

theorem transcript_heard (s : Surroundings) (sid text : String) (d : Desk) :
    Heard s (.transcript sid text) d (d.transcript s sid text) := by
  rcases transcript_course s sid text d with
    h | ⟨j, a, answer, d₁, report, changed, d₂, hfind, hask, -, hpatch, hcourse⟩
  · rw [h]
    exact .ignored
  · have hasked := ask_sameRecords s (Script.reportRequest text) d
    have hread := ask_readings s (Script.reportRequest text) d
    rw [hask] at hasked hread
    -- asking the model leaves the jobs alone, so the patch finds its attempt
    have hfound : d₁.jobs.attempt? ⟨j.id, a.id⟩ = some (j, a) := by
      rw [hasked.jobs]
      exact JobRegister.attempt?_of_findSid? hfind
    rw [patchAttempt_of_found hfound, hread] at hpatch
    obtain ⟨rfl, rfl⟩ := Prod.mk.inj hpatch
    rcases hcourse with ⟨hnone, -⟩ | ⟨j', -, h⟩
    · cases hnone
    · rw [h]
      have hpatched := hasked.jobChanged
        (·.modify j.id (Job.patch (s.now.moment d.readings) a.id (transcriptPatch text report)))
        (j.patch (s.now.moment d.readings) a.id (transcriptPatch text report)) (d.readings + 2)
      exact .attempt hfind ⟨rfl, rfl, rfl, rfl⟩
        (hpatched.trans ((followUp_sameRecords ..).trans (announce_sameRecords ..)))
        fun hno => absurd rfl (hno sid text)

theorem hear_heard (s : Surroundings) (c : Callback) (d : Desk) : Heard s c d (d.hear s c) := by
  cases c with
  | status r => exact status_heard s r d
  | recording sid url => exact recording_heard s sid url d
  | transcript sid text => exact transcript_heard s sid text d

/-! ## Where SIDs are correlated -/

/-- Identifiers are keys, and the indices of SIDs agree with the records. -/
structure Correlated (d : Desk) : Prop where
  jobsKeyed : d.jobs.Keyed
  jobs : d.jobs.Coherent
  transfersKeyed : d.transfers.Keyed
  transfers : d.transfers.Coherent

/-- No attempt has a SID. -/
def NoAttemptHas (d : Desk) (sid : String) : Prop :=
  ∀ j ∈ d.jobs.jobs, ∀ a ∈ j.attempts, a.sid ≠ some sid

/-- No leg has a SID. -/
def NoLegHas (d : Desk) (sid : String) : Prop :=
  ∀ t ∈ d.transfers.sessions, ∀ leg, t.sids.get leg ≠ some sid

theorem Correlated.noAttemptHas_iff (h : d.Correlated) {sid : String} :
    d.NoAttemptHas sid ↔ d.jobs.findSid? sid = none := by
  constructor
  · intro hno
    rw [Option.eq_none_iff_forall_ne_some]
    rintro ⟨j, a⟩ hfind
    obtain ⟨hj, ha, hsid⟩ := (h.jobs.findSid?_eq_some_iff h.jobsKeyed).1 hfind
    exact hno j hj a ha hsid
  · intro hnone j hj a ha hsid
    rw [(h.jobs.findSid?_eq_some_iff h.jobsKeyed).2 ⟨hj, ha, hsid⟩] at hnone
    cases hnone

theorem Correlated.noLegHas_iff (h : d.Correlated) {sid : String} :
    d.NoLegHas sid ↔ d.transfers.findSid? sid = none := by
  constructor
  · intro hno
    rw [Option.eq_none_iff_forall_ne_some]
    rintro ⟨t, leg⟩ hfind
    obtain ⟨ht, hsid⟩ := (h.transfers.findSid?_eq_some_iff h.transfersKeyed).1 hfind
    exact hno t ht leg hsid
  · intro hnone t ht leg hsid
    rw [(h.transfers.findSid?_eq_some_iff h.transfersKeyed).2 ⟨ht, hsid⟩] at hnone
    cases hnone

/-- What a callback that was applied has changed: the attempt whose call it is about, or, if it
reports a status and no attempt has the call, the session of the leg that has it. -/
inductive Touched (c : Callback) (d d' : Desk) : Prop where
  | attempt {j j' : Job} {a a' : Attempt} (owner : a.sid = some c.sid)
    (reported : a.SameButReported a') (jobs : d.jobs.ChangesOne d'.jobs j j' a a')
    (transfers : d'.transfers = d.transfers)
  | session {r : StatusReport} {t t' : Session} {leg : Leg} (isStatus : c = .status r)
    (nobody : d.NoAttemptHas c.sid) (owner : t.sids.get leg = some c.sid)
    (transfers : d.transfers.MovesOne d'.transfers t t') (jobs : d'.jobs = d.jobs)

namespace Heard

variable {c : Callback} {heard : WebhookOutcome × Desk}

theorem eq_of_ignored (h : Heard s c d heard) (hignored : heard.1 = .ignored) : heard.2 = d := by
  cases h with
  | ignored => rfl
  | attempt => cases hignored
  | session => cases hignored

/-- What was found when the callback was heard is the record that has the SID. -/
theorem touched (h : Heard s c d heard) (hd : d.Correlated) (happlied : heard.1 = .applied) :
    Touched c d heard.2 := by
  cases h with
  | ignored => cases happlied
  | @attempt j a p d' found reports records log =>
    obtain ⟨hj, ha, hsid⟩ := (hd.jobs.findSid?_eq_some_iff hd.jobsKeyed).1 found
    have hone := hd.jobsKeyed.changesOne hj ha (s.now.moment d.readings) p
    have hjobs : d'.jobs = d.jobs.modify j.id (Job.patch (s.now.moment d.readings) a.id p) :=
      records.jobs
    rw [← hjobs] at hone
    exact .attempt hsid (a.sameButReported_apply reports (s.now d.readings)) hone records.transfers
  | @session r t leg status d' isStatus nobody found records log =>
    obtain ⟨ht, hsid⟩ := (hd.transfers.findSid?_eq_some_iff hd.transfersKeyed).1 found
    have hone := hd.transfersKeyed.movesOne ht (s.now d.readings) status
    have htransfers : d'.transfers =
        d.transfers.modify t.id fun t => { t with status, updatedAt := s.now d.readings } :=
      records.transfers
    rw [← htransfers] at hone
    exact .session isStatus (hd.noAttemptHas_iff.2 nobody) hsid hone records.jobs

theorem policy (h : Heard s c d heard) : heard.2.gate.blocked = d.gate.blocked ∧
    heard.2.gate.requireEscalation = d.gate.requireEscalation := by
  cases h with
  | ignored => exact ⟨rfl, rfl⟩
  | attempt found reports records log => exact ⟨records.blocked, records.policy⟩
  | session isStatus nobody found records log => exact ⟨records.blocked, records.policy⟩

theorem gate (h : Heard s c d heard) (hno : ∀ sid text, c ≠ .transcript sid text) :
    heard.2.gate = d.gate := by
  cases h with
  | ignored => rfl
  | attempt found reports records log => exact log hno
  | session isStatus nobody found records log => exact log

theorem ignored_of_unknown (h : Heard s c d heard) (hattempt : d.jobs.findSid? c.sid = none)
    (hleg : d.transfers.findSid? c.sid = none) : heard = (.ignored, d) := by
  cases h with
  | ignored => rfl
  | attempt found =>
    rw [hattempt] at found
    cases found
  | session isStatus nobody found =>
    rw [hleg] at found
    cases found

end Heard

/-- **Callbacks touch only their own record.** A callback that is ignored changes nothing and
reaches nobody. One that is applied changes the one record that has its SID, and of it only what
callbacks report. The policy and the blocked numbers stay, and the log of escalations too unless it
is a transcript; and a SID that no record has is ignored. -/
theorem callback_own_record (s : Surroundings) (c : Callback) (d : Desk) (hd : d.Correlated) :
    ((d.hear s c).1 = .ignored → (d.hear s c).2 = d) ∧
    ((d.hear s c).1 = .applied → Touched c d (d.hear s c).2) ∧
    (d.hear s c).2.gate.blocked = d.gate.blocked ∧
    (d.hear s c).2.gate.requireEscalation = d.gate.requireEscalation ∧
    ((∀ sid text, c ≠ .transcript sid text) → (d.hear s c).2.gate = d.gate) ∧
    (d.NoAttemptHas c.sid → d.NoLegHas c.sid → (d.hear s c).1 = .ignored) := by
  have hheard := hear_heard s c d
  refine ⟨hheard.eq_of_ignored, hheard.touched hd, hheard.policy.1, hheard.policy.2, hheard.gate,
    fun hattempt hleg => ?_⟩
  have hunknown := hheard.ignored_of_unknown (hd.noAttemptHas_iff.1 hattempt)
    (hd.noLegHas_iff.1 hleg)
  rw [hunknown]

/-- A desk at which both attempts of a job had one SID, one after the other, and both legs of
a session had another. -/
def repeatedSidsDesk : Desk :=
  { Desk.ofConfig {} with
    jobs := JobRegister.run repeatedSids, transfers := TransferRegister.run repeatedSids }

/-- The ends of both calls are applied, each to the record that has the SID now, and a recording of
the leg's call is ignored. -/
theorem callback_own_record_repeatedSids : repeatedSidsDesk.Correlated ∧
    Touched (.status ⟨"CA1", "completed", some "https://r.test/1"⟩) repeatedSidsDesk
      (repeatedSidsDesk.hear .calm (.status ⟨"CA1", "completed", some "https://r.test/1"⟩)).2 ∧
    Touched (.status ⟨"CA2", "busy", none⟩) repeatedSidsDesk
      (repeatedSidsDesk.hear .calm (.status ⟨"CA2", "busy", none⟩)).2 ∧
    (repeatedSidsDesk.hear .calm (.recording "CA2" "https://r.test/2")).2 = repeatedSidsDesk := by
  have hnew : (repeatedSids.flatMap RegisterAction.newIds).Nodup := by decide
  have hjobs := JobRegister.orderly_run hnew
  have htransfers := TransferRegister.orderly_run hnew
  have hd : repeatedSidsDesk.Correlated :=
    ⟨hjobs.keyed, hjobs.coherent, htransfers.keyed, htransfers.coherent⟩
  obtain ⟨-, hattempt, -⟩ := callback_own_record .calm
    (.status ⟨"CA1", "completed", some "https://r.test/1"⟩) repeatedSidsDesk hd
  obtain ⟨-, hleg, -⟩ :=
    callback_own_record .calm (.status ⟨"CA2", "busy", none⟩) repeatedSidsDesk hd
  obtain ⟨hignored, -⟩ := callback_own_record .calm (.recording "CA2" "https://r.test/2")
    repeatedSidsDesk hd
  exact ⟨hd, hattempt rfl, hleg rfl, hignored rfl⟩

end Desk

end ShelterLine

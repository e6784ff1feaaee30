import ShelterLine.Proofs.Progress
import ShelterLine.Proofs.Run

/-!
# The life of an attempt over whole runs

While a job is dialed, calls of its own and of other jobs are reported on, and all jobs may be
forgotten. The desk never touches an attempt that it has not dialed yet, so each is dialed exactly
once; what it comes to then is changed by reports alone. New jobs have new identifiers, which is
what `FreshIds` asks of the surroundings.
-/

namespace ShelterLine.Desk

open JobRegister (Sound Moves Allowed Awaiting Without)

variable {s : Surroundings} {d d' d'' : Desk} {pending : AttemptRef → Prop}

/-! ## What leaves the jobs alone -/

theorem consult_jobs (s : Surroundings) (risk : RiskAssessment) (approved live : Bool)
    (source : EscalationSource) (reference : String) (d : Desk) :
    (d.consult s risk approved live source reference).2.jobs = d.jobs := by
  unfold consult
  dsimp only
  split
  · rfl
  · rfl
  · split <;> rfl

theorem followUp_jobs (s : Surroundings) (attempt : Attempt) (report : IntakeReport) (d : Desk) :
    (d.followUp s attempt report).jobs = d.jobs := by
  unfold followUp
  split <;> rfl

theorem announce_jobs (s : Surroundings) (job : Job) (attempt : Attempt) (text : String)
    (report : IntakeReport) (d : Desk) :
    (d.announce s job attempt text report).jobs = d.jobs := by
  unfold announce
  split
  · have hasked := consult_jobs s (Risk.assess text) job.request.approved true .transcript
      attempt.id.toString d
    rcases notifySurvivor_course s job attempt text report d with
      h | ⟨callback, verdict, d₁, -, -, -, hask, h | ⟨-, body, h⟩⟩
    · rw [h]
    · rw [h, ← hasked, hask]
    · rw [h, ← hasked, hask]
      rfl
  · rfl

theorem gather_jobs (s : Surroundings) (ref : AttemptRef) (speech : Option String) (d : Desk) :
    (d.gather s ref speech).2.jobs = d.jobs := by
  unfold gather
  split
  · rfl
  · exact ask_jobs ..

theorem prepare_jobs (s : Surroundings) (job : Job) (a : Attempt) (d : Desk) :
    (d.prepare s job a).2.jobs = d.jobs := by
  unfold prepare
  split
  · rfl
  · split
    · rfl
    · exact ask_jobs ..

theorem block_jobs (raw : String) (d : Desk) : (d.block raw).2.jobs = d.jobs := by
  unfold block
  dsimp only
  split <;> rfl

theorem unblock_jobs (raw : String) (d : Desk) : (d.unblock raw).2.jobs = d.jobs := by
  unfold unblock
  dsimp only
  split <;> rfl

theorem openSession_jobs (s : Surroundings) (r : StartTransfer) (p : Parties) (d : Desk) :
    (d.openSession s r p).2.jobs = d.jobs := by
  unfold openSession
  dsimp only
  split <;> rfl

theorem settleLeg_jobs (s : Surroundings) (ref : LegRef) (placed : Except TelephonyError String)
    (d : Desk) : (d.settleLeg s ref placed).jobs = d.jobs := by
  unfold settleLeg
  dsimp only
  split <;> rfl

/-! ## Steps -/

/-- No job is forgotten while a call is placed. -/
def ForgetsNothing (s : Surroundings) : Prop := ∀ n line, .reset ∉ s.meanwhile n line

/-- What is still to be dialed is left alone, and all other attempts go on as reports say. -/
structure Steps (s : Surroundings) (pending : AttemptRef → Prop) (d d' : Desk) : Prop where
  sound : d.jobs.Sound pending → d'.jobs.Sound pending
  moves : d.jobs.Sound pending → Moves (fun _ => False) (ForgetsNothing s) d.jobs d'.jobs

theorem Steps.of_jobs (h : d'.jobs = d.jobs) : Steps s pending d d' :=
  ⟨fun hs => h ▸ hs, fun _ => .of_jobs (congrArg (·.jobs) h)⟩

theorem Steps.trans (h : Steps s pending d d') (h' : Steps s pending d' d'') :
    Steps s pending d d'' :=
  ⟨fun hs => h'.sound (h.sound hs), fun hs => (h.moves hs).trans (h'.moves (h.sound hs))⟩

theorem Steps.foldl {α : Type} {step : Desk → α → Desk} {as : List α}
    (hstep : ∀ d a, a ∈ as → Steps s pending d (step d a)) (d : Desk) :
    Steps s pending d (as.foldl step d) := by
  induction as generalizing d with
  | nil => exact .of_jobs rfl
  | cons a as ih =>
    exact (hstep d a (by simp)).trans (ih (fun d b hb => hstep d b (by simp [hb])) _)

/-- A report that finds its attempt moves it on. -/
theorem patchAttempt_steps {sid : String} {j : Job} {a : Attempt} {p : Attempt.Patch}
    (hfind : d.jobs.findSid? sid = some (j, a)) (hp : p.Reports a) :
    Steps s pending d (d.patchAttempt s ⟨j.id, a.id⟩ p).2 := by
  unfold patchAttempt
  cases hpatch : d.jobs.patch (s.now.moment d.readings) ⟨j.id, a.id⟩ p with
  | none => exact .of_jobs rfl
  | some found =>
    have hreport : d.jobs.Sound pending → found.2.Sound pending ∧
        Moves (fun _ => False) (ForgetsNothing s) d.jobs found.2 := fun hs =>
      hs.report hfind hp hpatch
    exact ⟨fun hs => (hreport hs).1, fun hs => (hreport hs).2⟩

theorem ofProvider?_ne_queued (raw : String) : AttemptStatus.ofProvider? raw ≠ some .queued := by
  unfold AttemptStatus.ofProvider?
  dsimp only
  split
  · simp
  · split
    · simp
    · split <;> simp

theorem statusPatch_reports (a : Attempt) (r : StatusReport) : (statusPatch a r).Reports a where
  sid := rfl
  error := rfl
  status status h := by
    obtain ⟨hstatus, hkeep⟩ := Option.filter_eq_some_iff.1 h
    refine ⟨fun hq => ofProvider?_ne_queued r.status (hq ▸ hstatus), fun hend => ?_⟩
    simpa [hend] using hkeep

theorem status_steps (s : Surroundings) (r : StatusReport) (d : Desk) :
    Steps s pending d (d.status s r).2 := by
  unfold status
  split
  · rename_i job attempt hfind
    dsimp only
    split
    · exact .of_jobs rfl
    · exact patchAttempt_steps hfind (statusPatch_reports ..)
  · split
    · exact .of_jobs rfl
    · split
      · exact .of_jobs rfl
      · split <;> exact .of_jobs rfl

theorem recording_steps (s : Surroundings) (sid url : String) (d : Desk) :
    Steps s pending d (d.recording s sid url).2 := by
  unfold recording
  split
  · exact .of_jobs rfl
  · split
    · exact .of_jobs rfl
    · rename_i job attempt hfind
      exact patchAttempt_steps hfind ⟨rfl, rfl, by simp⟩

theorem transcript_steps (s : Surroundings) (sid text : String) (d : Desk) :
    Steps s pending d (d.transcript s sid text).2 := by
  rcases transcript_course s sid text d with
    h | ⟨job, attempt, answer, d₁, report, changed, d₂, hfind, hask, -, hpatch, hcourse⟩
  · rw [h]
    exact .of_jobs rfl
  · have hasked := ask_jobs s (Script.reportRequest text) d
    rw [hask] at hasked
    -- asking the model leaves the jobs alone, so the SID still finds the attempt
    rw [← hasked] at hfind
    have hpatched : Steps s pending d₁
        (d₁.patchAttempt s ⟨job.id, attempt.id⟩ (transcriptPatch text report)).2 :=
      patchAttempt_steps hfind ⟨rfl, rfl, by simp [transcriptPatch]⟩
    rw [hpatch] at hpatched
    have hreported : Steps s pending d d₂ := (Steps.of_jobs hasked).trans hpatched
    rcases hcourse with ⟨-, h⟩ | ⟨job', -, h⟩
    · rw [h]
      exact hreported
    · rw [h]
      exact hreported.trans (.of_jobs ((announce_jobs ..).trans (followUp_jobs ..)))

/-! ## Calls -/

theorem interrupt_steps {n : Nat} {line : Mode} {i : Interruption} (hi : i ∈ s.meanwhile n line)
    (d : Desk) : Steps s pending d (interrupt s d i) := by
  cases i with
  | reset =>
    refine ⟨fun _ => JobRegister.sound_empty pending,
      fun _ => ⟨?_, fun hs => absurd hi (hs n line)⟩⟩
    intro j hj
    exact absurd hj List.not_mem_nil
  | block raw => exact .of_jobs (block_jobs raw d)
  | status r => exact status_steps s r d

theorem placeCall_steps (s : Surroundings) (line : Mode) (purpose : CallPurpose) (order : CallOrder)
    (d : Desk) : Steps s pending d (d.placeCall s line purpose order).2 := by
  have hcall : Steps s pending d
      ({ d with made.calls := d.made.calls + 1 }.note (.call line purpose order)) := .of_jobs rfl
  exact hcall.trans (Steps.foldl (fun d i hi => interrupt_steps hi d) _)

theorem startTransfer_steps (s : Surroundings) (r : StartTransfer) (d : Desk) :
    Steps s pending d (d.startTransfer s r).2 := by
  rcases startTransfer_course s r d with ⟨refusal, h, -⟩ | ⟨p, verdict, d₁, -, hask, hcourse⟩
  · rw [h]
    exact .of_jobs rfl
  · have hasked := consult_jobs s (Risk.assess (riskText p.job r.notes))
      (r.approved || p.job.request.approved) r.mode.isLive .warmTransfer r.attemptId.toString d
    rw [hask] at hasked
    rcases hcourse with ⟨denial, rfl, h⟩ |
      ⟨rfl, t, d₂, survivor, d₃, shelter, d₄, d₅, hopen, hsurvivor, hshelter, rfl, h⟩
    · rw [h]
      exact .of_jobs hasked
    · have hopened := openSession_jobs s r p d₁
      rw [hopen] at hopened
      have hleg₁ : Steps s pending d₂ (d₂.dialLeg s t .survivor).2 := placeCall_steps ..
      have hleg₂ : Steps s pending d₃ (d₃.dialLeg s t .shelter).2 := placeCall_steps ..
      rw [hsurvivor] at hleg₁
      rw [hshelter] at hleg₂
      rw [h]
      exact (Steps.of_jobs (hopened.trans hasked)).trans (hleg₁.trans (hleg₂.trans
        (.of_jobs ((settleLeg_jobs ..).trans (settleLeg_jobs ..)))))

/-- What settling an attempt does to the jobs. It is no longer to be dialed, and the others go on as
reports say. -/
structure Settles (s : Surroundings) (pending : AttemptRef → Prop)
    (ref : AttemptRef) (d d' : Desk) : Prop where
  sound : d'.jobs.Sound (Without pending ref)
  moves : Moves (· = ref) (ForgetsNothing s) d.jobs d'.jobs

theorem Settles.of_steps {ref : AttemptRef} (hs : d.jobs.Sound pending) (h : Steps s pending d d')
    (h' : Settles s pending ref d' d'') : Settles s pending ref d d'' :=
  ⟨h'.sound, ((h.moves hs).mono (fun _ hc => hc.elim) fun hr => hr).trans h'.moves⟩

/-- A patch that leaves an untouched attempt failed or dialed settles it, unless it is gone. -/
theorem patchAttempt_settles {ref : AttemptRef} (hs : d.jobs.Sound pending) (href : pending ref)
    {p : Attempt.Patch} (hsid : p.sid = none)
    (hp : ∀ a : Attempt, a.Untouched → (a.apply (s.now d.readings) p).LocallyFailed ∨
      (a.apply (s.now d.readings) p).Dialed) :
    Settles s pending ref d (d.patchAttempt s ref p).2 := by
  unfold patchAttempt
  cases hpatch : d.jobs.patch (s.now.moment d.readings) ref p with
  | none => exact ⟨hs.gone (JobRegister.patch_eq_none_iff.1 hpatch), .of_jobs rfl⟩
  | some found =>
    obtain ⟨hsound, hmoves⟩ := hs.settle href hsid hp hpatch
    exact ⟨hsound, hmoves⟩

theorem settle_settles {ref : AttemptRef} (hs : d.jobs.Sound pending) (href : pending ref)
    (script : Script.Sourced String) (placed : Except TelephonyError String) :
    Settles s pending ref d (d.settle s ref script placed) := by
  unfold settle
  cases placed with
  | error e =>
    exact patchAttempt_settles hs href rfl fun a ha => Or.inl (ha.failed ..)
  | ok sid =>
    dsimp only
    cases hpatch : d.jobs.patch (s.now.moment d.readings) ref {
        status := some .initiated, script := some script.value,
        scriptSource := some script.source } with
    | none => exact ⟨hs.gone (JobRegister.patch_eq_none_iff.1 hpatch), .of_jobs rfl⟩
    | some found =>
      obtain ⟨job, jobs⟩ := found
      have hsettled : jobs.Sound (Without pending ref) ∧
          Moves (· = ref) (ForgetsNothing s) d.jobs jobs :=
        hs.settle href rfl (fun a ha => Or.inr (ha.initiated ..)) hpatch
      obtain ⟨hsound, hmoves⟩ := hsettled
      dsimp only
      -- the patch comes first, so the binding finds the attempt dialed
      cases hbind : jobs.bindSid (s.now.moment (d.readings + 2)) ref sid with
      | none => exact ⟨hsound, hmoves⟩
      | some bound =>
        obtain ⟨job', jobs'⟩ := bound
        have hdialed : ∀ j a, jobs.attempt? ref = some (j, a) → a.Dialed := by
          intro j a hfound
          obtain ⟨j₀, a₀, hfound₀, rfl⟩ := JobRegister.attempt?_patch hpatch hfound
          exact ((hs.shape _ _ _ hfound₀).untouched href).initiated ..
        have hbound : jobs'.Sound (Without pending ref) ∧
            Moves (· = ref) (ForgetsNothing s) jobs jobs' :=
          hsound.bindSid hdialed (fun hc => hc.2 rfl) hbind
        exact ⟨hbound.1, hmoves.trans hbound.2⟩

/-- Dialing an attempt settles it. -/
theorem dial_settles {job : Job} {a : Attempt} (hs : d.jobs.Sound pending)
    (href : pending ⟨job.id, a.id⟩) : Settles s pending ⟨job.id, a.id⟩ d (d.dial s job a) := by
  unfold dial
  dsimp only
  have hprep := prepare_jobs s job a d
  split
  · rename_i reason d₁ h
    rw [h] at hprep
    have hs₁ : d₁.jobs.Sound pending := hprep ▸ hs
    exact .of_steps hs (.of_jobs hprep)
      (patchAttempt_settles hs₁ href rfl fun x hx => Or.inl (hx.failed _ reason none none))
  · rename_i script order d₁ h
    rw [h] at hprep
    have hcall : Steps s pending d (d₁.placeCall s job.mode (.attempt ⟨job.id, a.id⟩) order).2 :=
      (Steps.of_jobs hprep).trans (placeCall_steps ..)
    exact .of_steps hs hcall (settle_settles (hcall.sound hs) href script _)

/-- Dialing attempts one after the other settles all of them. -/
theorem dialAll_settles (s : Surroundings) (job : Job) : ∀ (as : List Attempt) (d : Desk),
    (as.map (·.id)).Nodup → d.jobs.Sound (Awaiting job.id as) →
    (as.foldl (dial s job) d).jobs.Sound (fun _ => False) ∧
      Moves (·.jobId = job.id) (ForgetsNothing s) d.jobs (as.foldl (dial s job) d).jobs
  | [], d, _, hs => by
    refine ⟨hs.congr fun ref => ?_, .of_jobs rfl⟩
    simp [Awaiting]
  | a :: as, d, hn, hs => by
    rw [List.map_cons, List.nodup_cons] at hn
    have hdial : Settles s (Awaiting job.id (a :: as)) ⟨job.id, a.id⟩ d (d.dial s job a) :=
      dial_settles hs ⟨a, by simp, rfl⟩
    -- without the first attempt the others are still to be dialed, as identifiers differ
    have hrest : (d.dial s job a).jobs.Sound (Awaiting job.id as) := by
      refine hdial.sound.congr fun ref => ⟨?_, ?_⟩
      · rintro ⟨⟨b, hb, rfl⟩, hne⟩
        rcases List.mem_cons.1 hb with rfl | hb
        · exact absurd rfl hne
        · exact ⟨b, hb, rfl⟩
      · rintro ⟨b, hb, rfl⟩
        refine ⟨⟨b, by simp [hb], rfl⟩, fun heq => hn.1 ?_⟩
        rw [← (AttemptRef.mk.inj heq).2]
        exact List.mem_map_of_mem hb
    obtain ⟨hsound, hmoves⟩ := dialAll_settles s job as (d.dial s job a) hn.2 hrest
    refine ⟨hsound, (hdial.moves.mono ?_ fun hr => hr).trans hmoves⟩
    rintro ref rfl
    rfl

/-! ## Operations -/

/-- The job that a request makes. -/
def newJob (s : Surroundings) (r : StartJob) (d : Desk) : Job :=
  (d.makeJob s r (r.callbackNumber.bind Phone.canonical?)).1

/-- An operation after which every job is still there. -/
def Remembers (s : Surroundings) (op : Operation) : Prop := op ≠ .reset ∧ ForgetsNothing s

/-- What an operation does to the jobs when none is being dialed: they go on as reports say, unless
they are forgotten, and a job may be new. -/
structure Progresses (s : Surroundings) (op : Operation) (d d' : Desk) : Prop where
  sound : d'.jobs.Sound fun _ => False
  origin : ∀ j' ∈ d'.jobs.jobs,
    (∃ j ∈ d.jobs.jobs, j.Becomes (fun _ => Attempt.Steady) j') ∨
    ∃ r, op = .startJob r ∧ d'.made.jobs = d.made.jobs + 1 ∧
      (newJob s r d).Becomes (fun _ => Attempt.SameTarget) j'
  kept : Remembers s op → ∀ j ∈ d.jobs.jobs, ∃ j' ∈ d'.jobs.jobs, j'.id = j.id

theorem Steps.progresses {op : Operation} (hs : d.jobs.Sound fun _ => False)
    (h : Steps s (fun _ => False) d d') : Progresses s op d d' := by
  refine ⟨h.sound hs, fun j' hj' => Or.inl ?_, fun hr => (h.moves hs).kept hr.2⟩
  obtain ⟨j, hj, hb⟩ := (h.moves hs).back j' hj'
  exact ⟨j, hj, hb.mono fun a a' ha => ha.steady fun hc => hc⟩

theorem newJob_untouched {r : StartJob} {a : Attempt} (ha : a ∈ (newJob s r d).attempts) :
    a.Untouched := by
  obtain ⟨i, hi, rfl⟩ := List.mem_mapIdx.1 ha
  exact ⟨rfl, rfl, rfl, rfl, rfl, rfl⟩

/-- A new job is taken in and dialed if its identifiers are new. -/
theorem startJob_progresses {r : StartJob} (hs : d.jobs.Sound fun _ => False)
    (hnew : d.jobs.get? (newJob s r d).id = none)
    (hids : ((newJob s r d).attempts.map (·.id)).Nodup) :
    Progresses s (.startJob r) d (d.startJob s r).2 := by
  rcases startJob_acts s r d with hsame | hacts
  · rw [hsame]
    exact Steps.progresses hs (.of_jobs rfl)
  rcases startJob_course s r d with
    ⟨refusal, h, -⟩ | ⟨job, d₁, verdict, d₂, -, -, hmake, hask, hcourse⟩
  · rw [h]
    exact Steps.progresses hs (.of_jobs rfl)
  · have hjob : newJob s r d = job := congrArg Prod.fst hmake
    have hd₁ : d₁.jobs = d.jobs := (congrArg (·.2.jobs) hmake).symm
    have hasked := consult_jobs s (Risk.assess r.survivorContext) r.approved r.mode.isLive .callJob
      job.id.toString d₁
    rw [hask, hd₁] at hasked
    rcases hcourse with ⟨denial, -, h⟩ | ⟨-, d₃, hd₃, h⟩
    · rw [h]
      exact Steps.progresses hs (.of_jobs hasked)
    · rw [h] at hacts ⊢
      rw [hjob] at hnew hids
      have hinserted : (d₂.registerJob job).jobs = d.jobs.insert job := by
        rw [← hasked]
        rfl
      have hawaiting : (d₂.registerJob job).jobs.Sound (Awaiting job.id job.attempts) := by
        rw [hinserted]
        exact hs.insert hnew hids fun a ha => newJob_untouched (hjob ▸ ha)
      obtain ⟨hsound, hmoves⟩ := dialAll_settles s job job.attempts _ hids hawaiting
      rw [← hd₃, hinserted] at hmoves
      rw [← hd₃] at hsound
      -- a job that is there now is the new one, or it was there before and was not dialed
      refine ⟨hsound, fun j' hj' => ?_, fun hr j hj => ?_⟩
      · obtain ⟨j, hj, hb⟩ := hmoves.back j' hj'
        rcases List.mem_cons.1 hj with rfl | hj
        · refine Or.inr ⟨r, rfl, hacts.jobsMade, ?_⟩
          rw [hjob]
          exact hb.mono fun a a' ha => ha.target
        · obtain ⟨hj, hne⟩ := List.mem_filter.1 hj
          refine Or.inl ⟨j, hj, hb.mono fun a a' ha => ha.steady ?_⟩
          simpa using hne
      · refine hmoves.kept hr.2 j (List.mem_cons_of_mem _ (List.mem_filter.2 ⟨hj, ?_⟩))
        simpa using JobRegister.get?_eq_none_iff.1 hnew j hj

/-- **An operation other than taking records in moves jobs on as reports say.** -/
theorem perform_progresses {op : Operation} (hs : d.jobs.Sound fun _ => False)
    (hmemory : ∀ stored, op ≠ .restore stored)
    (hnew : ∀ r, op = .startJob r → d.jobs.get? (newJob s r d).id = none ∧
      ((newJob s r d).attempts.map (·.id)).Nodup) :
    Progresses s op d (d.perform s op).2 := by
  cases op with
  | startJob r => exact startJob_progresses hs (hnew r rfl).1 (hnew r rfl).2
  | startTransfer r => exact Steps.progresses hs (startTransfer_steps s r d)
  | status r => exact Steps.progresses hs (status_steps s r d)
  | recording sid url => exact Steps.progresses hs (recording_steps s sid url d)
  | transcript sid text => exact Steps.progresses hs (transcript_steps s sid text d)
  | gather ref speech => exact Steps.progresses hs (.of_jobs (gather_jobs s ref speech d))
  | block raw => exact Steps.progresses hs (.of_jobs (block_jobs raw d))
  | unblock raw => exact Steps.progresses hs (.of_jobs (unblock_jobs raw d))
  | reset =>
    exact ⟨JobRegister.sound_empty _, fun j hj => absurd hj List.not_mem_nil, fun hr =>
      absurd rfl hr.1⟩
  | restore stored => exact absurd rfl (hmemory stored)

/-! ## Runs -/

/-- New identifiers are new: jobs of different numbers have different ones, and so have the attempts
of one job. A run makes no more jobs than it has operations. -/
structure FreshIds (ops : List (Surroundings × Operation)) : Prop where
  jobs : ∀ p ∈ ops, ∀ q ∈ ops, ∀ m n, m < n → n < ops.length → p.1.newJob m ≠ q.1.newJob n
  attempts : ∀ p ∈ ops, ∀ r, p.2 = .startJob r → ∀ n < ops.length,
    ((List.range r.targets.length).map (p.1.newAttempt n)).Nodup

theorem FreshIds.left {ops ops' : List (Surroundings × Operation)} (h : FreshIds (ops ++ ops')) :
    FreshIds ops := by
  have hlength : ops.length ≤ (ops ++ ops').length := by simp
  exact ⟨fun p hp q hq m n hmn hn => h.jobs p (by simp [hp]) q (by simp [hq]) m n hmn (by omega),
    fun p hp r hr n hn => h.attempts p (by simp [hp]) r hr n (by omega)⟩

/-- No records are taken in from storage. -/
def Unrestored (ops : List (Surroundings × Operation)) : Prop :=
  ∀ p ∈ ops, ∀ stored, p.2 ≠ .restore stored

theorem Unrestored.left {ops ops' : List (Surroundings × Operation)}
    (h : Unrestored (ops ++ ops')) :
    Unrestored ops := fun p hp => h p (List.mem_append_left _ hp)

/-- A job is what an operation of the run made, and only its attempts went on. -/
def Created (c : SafetyConfig) (ops : List (Surroundings × Operation)) (j : Job) : Prop :=
  ∃ before s r after, ops = before ++ (s, .startJob r) :: after ∧
    ((ofConfig c).run before).made.jobs < ((ofConfig c).run ops).made.jobs ∧
    (newJob s r ((ofConfig c).run before)).Becomes (fun _ => Attempt.SameTarget) j

/-- What holds between operations. -/
structure Grounded (c : SafetyConfig) (ops : List (Surroundings × Operation)) : Prop where
  sound : ((ofConfig c).run ops).jobs.Sound fun _ => False
  counted : ((ofConfig c).run ops).made.jobs ≤ ops.length
  created : ∀ j ∈ ((ofConfig c).run ops).jobs.jobs, Created c ops j

variable {c : SafetyConfig} {ops : List (Surroundings × Operation)}

/-- The next job is new. -/
theorem Grounded.next (h : Grounded c ops) {op : Operation} (hfresh : FreshIds (ops ++ [(s, op)]))
    (r : StartJob) (hop : op = .startJob r) :
    ((ofConfig c).run ops).jobs.get? (newJob s r ((ofConfig c).run ops)).id = none ∧
      ((newJob s r ((ofConfig c).run ops)).attempts.map (·.id)).Nodup := by
  have hcounted := h.counted
  refine ⟨JobRegister.get?_eq_none_iff.2 fun j hj => ?_, ?_⟩
  · -- every registered job has a smaller number
    obtain ⟨before, s₀, r₀, after, hops, hlt, hb⟩ := h.created j hj
    rw [hb.id]
    refine hfresh.jobs (s₀, .startJob r₀) (by simp [hops]) (s, op) (by simp) _ _ hlt ?_
    rw [List.length_append, List.length_singleton]
    omega
  · have hids := hfresh.attempts (s, op) (by simp) r hop ((ofConfig c).run ops).made.jobs
      (by rw [List.length_append, List.length_singleton]; omega)
    exact (Job.create_ids ..).symm ▸ hids

theorem run_concat (d : Desk) (ops : List (Surroundings × Operation)) (s : Surroundings)
    (op : Operation) : d.run (ops ++ [(s, op)]) = ((d.run ops).perform s op).2 := run_append ..

/-- What the next operation does to the jobs. -/
theorem Grounded.progresses (h : Grounded c ops) {op : Operation}
    (hfresh : FreshIds (ops ++ [(s, op)])) (hmemory : ∀ stored, op ≠ .restore stored) :
    Progresses s op ((ofConfig c).run ops) ((ofConfig c).run (ops ++ [(s, op)])) := by
  rw [run_concat]
  exact perform_progresses h.sound hmemory (h.next hfresh)

theorem run_jobsMade_le (d : Desk) (ops : List (Surroundings × Operation)) :
    d.made.jobs ≤ (d.run ops).made.jobs := by
  refine run_induction (I := fun d' => d.made.jobs ≤ d'.made.jobs) ?_ ops d (Nat.le_refl _)
  intro d' s op hle
  rcases perform_jobsMade s d' op with h | h <;> omega

/-- An operation moves on what the others left, and makes at most one job. -/
theorem Grounded.perform (h : Grounded c ops) {op : Operation}
    (hfresh : FreshIds (ops ++ [(s, op)])) (hmemory : ∀ stored, op ≠ .restore stored) :
    Grounded c (ops ++ [(s, op)]) := by
  have hstep := h.progresses hfresh hmemory
  have hcounted := h.counted
  have hmade := perform_jobsMade s ((ofConfig c).run ops) op
  rw [← run_concat] at hmade
  refine ⟨hstep.sound, ?_, fun j' hj' => ?_⟩
  · rw [List.length_append, List.length_singleton]
    omega
  · rcases hstep.origin j' hj' with ⟨j, hj, hb⟩ | ⟨r, rfl, hmade, hb⟩
    · obtain ⟨before, s₀, r₀, after, rfl, hlt, hb₀⟩ := h.created j hj
      refine ⟨before, s₀, r₀, after ++ [(s, op)], by simp, by omega, ?_⟩
      exact hb₀.trans hb (fun _ _ _ hab => hab.id) fun _ _ _ _ hab hbc => hab.trans hbc.target
    · exact ⟨ops, s, r, [], rfl, by omega, hb⟩

/-- **Between operations every job is one that was made, and its attempts are settled.** -/
theorem grounded (c : SafetyConfig) (hfresh : FreshIds ops) (hmemory : Unrestored ops) :
    Grounded c ops := by
  induction ops using List.reverseRecOn with
  | nil =>
    exact ⟨JobRegister.sound_empty _, Nat.le_refl _, fun j hj => absurd hj List.not_mem_nil⟩
  | append_singleton ops last ih =>
    exact (ih hfresh.left hmemory.left).perform hfresh (hmemory last (by simp))

/-- What the last operation of a run does to the jobs. -/
theorem run_progresses (c : SafetyConfig) {op : Operation} (hfresh : FreshIds (ops ++ [(s, op)]))
    (hmemory : Unrestored (ops ++ [(s, op)])) :
    Progresses s op ((ofConfig c).run ops) ((ofConfig c).run (ops ++ [(s, op)])) :=
  (grounded c hfresh.left hmemory.left).progresses hfresh (hmemory (s, op) (by simp))

/-- A job of a later state goes on from an earlier one, or its number is new. -/
theorem run_origin (c : SafetyConfig) {before after : List (Surroundings × Operation)}
    (hfresh : FreshIds (before ++ after)) (hmemory : Unrestored (before ++ after)) :
    ∀ j' ∈ ((ofConfig c).run (before ++ after)).jobs.jobs,
      (∃ j ∈ ((ofConfig c).run before).jobs.jobs, j.Becomes (fun _ => Attempt.Steady) j') ∨
      ∃ p ∈ before ++ after, ∃ m, ((ofConfig c).run before).made.jobs ≤ m ∧
        m < ((ofConfig c).run (before ++ after)).made.jobs ∧ j'.id = p.1.newJob m := by
  induction after using List.reverseRecOn with
  | nil =>
    intro j' hj'
    rw [List.append_nil] at hj'
    exact Or.inl ⟨j', hj', .refl (fun _ => Attempt.Steady.refl) j'⟩
  | append_singleton after last ih =>
    obtain ⟨s, op⟩ := last
    rw [← List.append_assoc] at hfresh hmemory ⊢
    have hstep := run_progresses c hfresh hmemory
    have hle : ((ofConfig c).run before).made.jobs ≤
        ((ofConfig c).run (before ++ after)).made.jobs := by
      rw [run_append]
      exact run_jobsMade_le ..
    have hmade := perform_jobsMade s ((ofConfig c).run (before ++ after)) op
    rw [← run_concat] at hmade
    intro j' hj'
    rcases hstep.origin j' hj' with ⟨k, hk, hb⟩ | ⟨r, rfl, hmade, hb⟩
    · rcases ih hfresh.left hmemory.left k hk with ⟨j, hj, hb₀⟩ | ⟨p, hp, m, hge, hlt, hid⟩
      · exact Or.inl ⟨j, hj, hb₀.trans hb (fun _ _ _ hab => hab.target.id)
          fun _ _ _ _ hab hbc => hab.trans hbc⟩
      · exact Or.inr ⟨p, List.mem_append_left _ hp, m, hge, by omega, hb.id.trans hid⟩
    · exact Or.inr ⟨_, List.mem_append_right _ (List.mem_singleton_self _), _, hle, by omega, hb.id⟩

/-- Jobs that have one identifier at two times are one job. -/
theorem run_becomes (c : SafetyConfig) {before after : List (Surroundings × Operation)}
    (hfresh : FreshIds (before ++ after)) (hmemory : Unrestored (before ++ after)) {j j' : Job}
    (hj : j ∈ ((ofConfig c).run before).jobs.jobs)
    (hj' : j' ∈ ((ofConfig c).run (before ++ after)).jobs.jobs) (hid : j'.id = j.id) :
    j.Becomes (fun _ => Attempt.Steady) j' := by
  have hbefore := grounded c hfresh.left hmemory.left
  rcases run_origin c hfresh hmemory j' hj' with ⟨k, hk, hb⟩ | ⟨p, hp, m, hge, hlt, hnew⟩
  · have hsame := hbefore.sound.keyed.get?_eq_some_iff.2 ⟨hk, hb.id.symm.trans hid⟩
    rw [hbefore.sound.keyed.get?_eq_some_iff.2 ⟨hj, rfl⟩] at hsame
    rw [Option.some.inj hsame]
    exact hb
  · -- the number of `j` came earlier than that of `j'`
    obtain ⟨earlier, s₀, r₀, between, hops, hlt₀, hb₀⟩ := hbefore.created j hj
    have hmade := (grounded c hfresh hmemory).counted
    have hne := hfresh.jobs (s₀, .startJob r₀) (by simp [hops]) p hp
      ((ofConfig c).run earlier).made.jobs m (by omega) (by omega)
    exact absurd (hb₀.id.symm.trans (hid.symm.trans hnew)) hne

/-- As long as nothing is forgotten every job stays. -/
theorem run_kept (c : SafetyConfig) {before after : List (Surroundings × Operation)}
    (hfresh : FreshIds (before ++ after)) (hmemory : Unrestored (before ++ after))
    (hkept : ∀ p ∈ after, Remembers p.1 p.2) :
    ∀ j ∈ ((ofConfig c).run before).jobs.jobs,
      ∃ j' ∈ ((ofConfig c).run (before ++ after)).jobs.jobs, j'.id = j.id := by
  induction after using List.reverseRecOn with
  | nil =>
    intro j hj
    rw [List.append_nil]
    exact ⟨j, hj, rfl⟩
  | append_singleton after last ih =>
    obtain ⟨s, op⟩ := last
    rw [← List.append_assoc] at hfresh hmemory ⊢
    have hstep := run_progresses c hfresh hmemory
    intro j hj
    obtain ⟨k, hk, hid⟩ := ih hfresh.left hmemory.left (fun p hp => hkept p (by simp [hp])) j hj
    obtain ⟨j', hj', hid'⟩ := hstep.kept (hkept (s, op) (by simp)) k hk
    exact ⟨j', hj', hid'.trans hid⟩

/-- What a job was made with stays with it. -/
theorem Created.shelterIds {j : Job} (h : Created c ops j) :
    j.request.shelterIds = j.attempts.map (·.shelterId) := by
  obtain ⟨before, s, r, after, -, -, hb⟩ := h
  have hmade : (newJob s r ((ofConfig c).run before)).request.shelterIds =
      (newJob s r ((ofConfig c).run before)).attempts.map (·.shelterId) := by
    apply List.ext_getElem
    · simp [newJob, makeJob, Job.create]
    · intro i h h'
      simp [newJob, makeJob, Job.create, Attempt.queued]
  have hsame : List.Forall₂ (· = ·)
      ((newJob s r ((ofConfig c).run before)).attempts.map (·.shelterId))
      (j.attempts.map (·.shelterId)) := by
    rw [List.forall₂_map_left_iff, List.forall₂_map_right_iff]
    exact hb.attempts.imp fun a a' hab => hab.shelterId.symm
  rw [List.forall₂_eq_eq_eq] at hsame
  rw [hb.request, hmade, hsame]

/-- **The life of an attempt.** At any time between operations, every attempt of every job has
either failed locally or been dialed, and its job is what a request made of its targets. What is
found later under the job's identifier is this job; its attempts that failed locally are
unchanged, and those that were dialed are dialed still and over if they were over. The job is
found as long as nothing is forgotten. -/
theorem attempt_lifecycle (c : SafetyConfig) (before after : List (Surroundings × Operation))
    (hfresh : FreshIds (before ++ after)) (hmemory : Unrestored (before ++ after)) :
    (∀ j ∈ ((ofConfig c).run before).jobs.jobs,
      Created c before j ∧ j.request.shelterIds = j.attempts.map (·.shelterId) ∧
      ∀ a ∈ j.attempts, (a.LocallyFailed ∨ a.Dialed) ∧ ¬ (a.LocallyFailed ∧ a.Dialed)) ∧
    (∀ j ∈ ((ofConfig c).run before).jobs.jobs,
      ∀ j' ∈ ((ofConfig c).run (before ++ after)).jobs.jobs, j'.id = j.id →
        j.Becomes (fun _ => Attempt.Follows) j') ∧
    ((∀ p ∈ after, Remembers p.1 p.2) → ∀ j ∈ ((ofConfig c).run before).jobs.jobs,
      ∃ j' ∈ ((ofConfig c).run (before ++ after)).jobs.jobs, j'.id = j.id) := by
  have hbefore := grounded c hfresh.left hmemory.left
  refine ⟨fun j hj => ⟨hbefore.created j hj, (hbefore.created j hj).shelterIds,
    fun a ha => ⟨?_, ?_⟩⟩, fun j hj j' hj' hid => ?_, run_kept c hfresh hmemory⟩
  · have hfound := hbefore.sound.keyed.attempt?_eq_some_iff.2 ⟨hj, ha⟩
    exact (hbefore.sound.shape _ _ _ hfound).settled fun hc => hc
  · exact fun hboth => Attempt.not_locallyFailed_of_dialed hboth.2 hboth.1
  · exact (run_becomes c hfresh hmemory hj hj' hid).mono fun _ _ hsteady => hsteady.follows

/-- A job for a shelter that can be called and one that cannot. -/
def twoShelters : StartJob where
  mode := .dryRun
  survivorContext := "Needs a bed tonight."
  callbackNumber := none
  anonymous := false
  approved := false
  targets := [⟨1, "Harbor House", some "555-010-0100", none, none⟩,
    ⟨2, "Elm House", none, none, none⟩]

/-- The calls of such a job and a report on the first of them. -/
def twoSheltersRun : List (Surroundings × Operation) :=
  [(.calm, .startJob twoShelters), (.calm, .status ⟨"CA0", "completed", none⟩)]

/-- The report completes the first attempt; the second has failed locally and stays as it is. -/
theorem attempt_lifecycle_twoShelters : FreshIds twoSheltersRun ∧ Unrestored twoSheltersRun ∧
    ∃ j ∈ ((ofConfig {}).run (twoSheltersRun.take 1)).jobs.jobs,
      ∃ j' ∈ ((ofConfig {}).run twoSheltersRun).jobs.jobs,
        j.attempts.map (·.status) = [.initiated, .failed] ∧
        j'.attempts.map (·.status) = [.completed, .failed] ∧
        j.Becomes (fun _ => Attempt.Follows) j' := by
  have hcalm : ∀ p ∈ twoSheltersRun, p.1 = .calm := by simp [twoSheltersRun]
  have hfresh : FreshIds twoSheltersRun := by
    refine ⟨fun p hp q hq m n hmn hn => ?_, fun p hp r hr n hn => ?_⟩
    · rw [hcalm p hp, hcalm q hq]
      have hlength : twoSheltersRun.length = 2 := rfl
      obtain ⟨rfl, rfl⟩ : m = 0 ∧ n = 1 := by omega
      decide
    · rw [hcalm p hp]
      have hr' : r = twoShelters := by
        rcases List.mem_cons.1 hp with rfl | hp
        · exact (Operation.startJob.inj hr).symm
        · simp [List.mem_singleton.1 hp] at hr
      rw [hr']
      change ((List.range 2).map Uuid.ofNat).Nodup
      decide
  have hmemory : Unrestored twoSheltersRun := by
    intro p hp stored
    rcases List.mem_cons.1 hp with rfl | hp
    · simp
    · simp [List.mem_singleton.1 hp]
  have hstart : ∃ j, ((ofConfig {}).run (twoSheltersRun.take 1)).jobs.jobs = [j] ∧
      j.attempts.map (·.status) = [.initiated, .failed] ∧ j.id = .ofNat 0 := ⟨_, rfl, rfl, rfl⟩
  have hend : ∃ j', ((ofConfig {}).run twoSheltersRun).jobs.jobs = [j'] ∧
      j'.attempts.map (·.status) = [.completed, .failed] ∧ j'.id = .ofNat 0 := ⟨_, rfl, rfl, rfl⟩
  obtain ⟨j, hj, hstatus, hid⟩ := hstart
  obtain ⟨j', hj', hstatus', hid'⟩ := hend
  obtain ⟨-, hfollows, -⟩ :=
    attempt_lifecycle {} (twoSheltersRun.take 1) (twoSheltersRun.drop 1) hfresh hmemory
  have hmem : j ∈ ((ofConfig {}).run (twoSheltersRun.take 1)).jobs.jobs := by simp [hj]
  have hmem' : j' ∈ ((ofConfig {}).run twoSheltersRun).jobs.jobs := by simp [hj']
  exact ⟨hfresh, hmemory, j, hmem, j', hmem', hstatus, hstatus',
    hfollows j hmem j' hmem' (hid'.trans hid.symm)⟩

end ShelterLine.Desk

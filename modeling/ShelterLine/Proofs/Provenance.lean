import ShelterLine.Proofs.Contact
import ShelterLine.Proofs.Lifecycle

/-!
# Where scripts come from

An attempt that was called says where its script came from, whatever became of the call: the source
is noted with the script when the call is settled, and no report touches it later. If all scripts
that are written come from one source, every attempt that was called names this source. Jobs that
were taken in from storage are set apart, since they say what was kept of them.
-/

namespace ShelterLine

/-! ## What a patch sets of a script -/

theorem Attempt.apply_script (now : Instant) (p : Patch) (a : Attempt) :
    (a.apply now p).script = p.script.or a.script := rfl

theorem Attempt.apply_scriptSource (now : Instant) (p : Patch) (a : Attempt) :
    (a.apply now p).scriptSource = p.scriptSource.or a.scriptSource := rfl

/-! ## What attempts say of their scripts -/

namespace JobRegister

variable {src : ScriptSource} {ref : AttemptRef} {r r' : JobRegister}

/-- The attempt has a script from this source, unless it is gone. -/
def Says (src : ScriptSource) (ref : AttemptRef) (r : JobRegister) : Prop :=
  ∀ j a, r.attempt? ref = some (j, a) → a.scriptSource = some src

/-- A patch that sets another source is what could change it. -/
theorem said_apply {p : Attempt.Patch} (hp : p.scriptSource = none ∨ p.scriptSource = some src)
    (now : Instant) {a : Attempt} (ha : a.scriptSource = some src) :
    (a.apply now p).scriptSource = some src := by
  rw [Attempt.apply_scriptSource]
  rcases hp with hp | hp
  · rw [hp, Option.none_or, ha]
  · rw [hp, Option.some_or]

theorem Says.modify (h : r.Says src ref) {b : Uuid} {g : Attempt → Attempt} {f : Job → Job}
    (hf : Job.Touches b g f)
    (hg : ∀ a : Attempt, a.scriptSource = some src → (g a).scriptSource = some src) (id : Uuid) :
    (r.modify id f).Says src ref := by
  intro j a ha
  rw [attempt?_modify hf, Option.map_eq_some_iff] at ha
  obtain ⟨⟨j₀, a₀⟩, hfound, heq⟩ := ha
  have hsaid := h j₀ a₀ hfound
  rw [← (Prod.mk.inj heq).2]
  split
  · exact hg a₀ hsaid
  · exact hsaid

theorem Says.patch (h : r.Says src ref) {p : Attempt.Patch}
    (hp : p.scriptSource = none ∨ p.scriptSource = some src) {now : Moment}
    {k : AttemptRef} {job : Job} (hpatch : r.patch now k p = some (job, r')) : r'.Says src ref := by
  obtain ⟨-, -, -, -, rfl⟩ := patch_eq_some_iff.1 hpatch
  exact h.modify (Job.touches_patch ..) (fun a => said_apply hp now.attempt) k.jobId

/-- An attempt that is gone says nothing. -/
theorem said_of_gone (h : r.attempt? ref = none) : r.Says src ref := by
  intro j a ha
  rw [h] at ha
  cases ha

/-- An attempt follows a patch that sets its source. -/
theorem said_of_patch {k : AttemptRef} (h : ref = k ∨ r.Says src ref) {p : Attempt.Patch}
    (hp : p.scriptSource = some src) {now : Moment} {job : Job}
    (hpatch : r.patch now k p = some (job, r')) : r'.Says src ref := by
  rcases h with rfl | h
  · intro j a ha
    obtain ⟨j₀, a₀, -, rfl⟩ := attempt?_patch hpatch ha
    rw [Attempt.apply_scriptSource, hp, Option.some_or]
  · exact h.patch (Or.inr hp) hpatch

theorem Says.bindSid (h : r.Says src ref) {now : Moment} {k : AttemptRef}
    {sid : String} {job : Job} (hbind : r.bindSid now k sid = some (job, r')) :
    r'.Says src ref := by
  obtain ⟨-, rfl⟩ := bindSid_eq_some hbind
  have hreleased : (r.released k sid).Says src ref := by
    rcases released_cases r k sid with hsame | ⟨old, hold⟩
    · rw [hsame]
      exact h
    · rw [hold]
      exact h.modify (Job.touches_clearSid _) (fun _ ha => ha) old.jobId
  have hbound := hreleased.modify (Job.touches_patch now k.attemptId { sid := some sid })
    (fun _ => said_apply (Or.inl rfl) now.attempt) k.jobId
  -- the index has no part in what is found under a reference
  exact hbound

theorem Says.insert (h : r.Says src ref) {job : Job} (hne : ref.jobId ≠ job.id) :
    (r.insert job).Says src ref := by
  intro j a ha
  refine h j a ?_
  rw [attempt?_eq_some_iff, get?_insert, if_neg (Ne.symm hne)] at ha
  exact attempt?_eq_some_iff.2 ha

theorem Says.restore (h : r.Says src ref) {j : Job} (hne : ref.jobId ≠ j.id) :
    (r.restore j).2.Says src ref := by
  unfold JobRegister.restore
  split
  · exact h
  · have hindexed : Says src ref { r with sids := indexAttempts r.sids j } := h
    exact hindexed.insert hne

theorem Says.takeIn (h : r.Says src ref) {js : List Job} (hne : ∀ j ∈ js, ref.jobId ≠ j.id) :
    (Desk.takeIn JobRegister.restore r js).2.Says src ref := by
  induction js generalizing r with
  | nil => exact h
  | cons j js ih =>
    exact ih (h.restore (hne j List.mem_cons_self)) fun k hk => hne k (List.mem_cons_of_mem j hk)

end JobRegister

/-- Calls for an attempt. -/
def Effect.Calls (ref : AttemptRef) (e : Effect) : Prop :=
  ∃ line order, e = .call line (.attempt ref) order

instance (ref : AttemptRef) : DecidablePred (Effect.Calls ref)
  | .call line (.attempt k) order =>
    decidable_of_iff (k = ref) ⟨fun h => ⟨line, order, h ▸ rfl⟩, by rintro ⟨_, _, ⟨⟩⟩; rfl⟩
  | .call _ (.leg _) _ | .message _ | .question _ | .keep _ | .publish _ =>
    .isFalse (by rintro ⟨_, _, ⟨⟩⟩)

/-- All scripts come from one source, whatever the model is asked. -/
def Surroundings.Writes (src : ScriptSource) (s : Surroundings) : Prop :=
  ∀ (d : Desk) (i : Script.Input),
    (Script.scriptFrom i (d.ask s (Script.scriptRequest i)).1).source = src

/-- The job comes back from storage with this operation. -/
def Operation.TakesIn (op : Operation) (id : Uuid) : Prop :=
  ∃ stored, op = .restore stored ∧ ∃ j ∈ stored.jobs, j.id = id

namespace Desk

open JobRegister (Says)

variable {src : ScriptSource} {ref : AttemptRef} {s : Surroundings} {d d' : Desk}

/-! ## What leaves the source alone -/

theorem patchAttempt_said (h : d.jobs.Says src ref) {p : Attempt.Patch}
    (hp : p.scriptSource = none ∨ p.scriptSource = some src) (k : AttemptRef) :
    (d.patchAttempt s k p).2.jobs.Says src ref := by
  unfold patchAttempt
  cases hpatch : d.jobs.patch (s.now.moment d.readings) k p with
  | none => exact h
  | some found => exact h.patch hp hpatch

theorem status_said (h : d.jobs.Says src ref) (r : StatusReport) :
    (d.status s r).2.jobs.Says src ref := by
  unfold status
  split
  · dsimp only
    split
    · exact h
    · exact patchAttempt_said h (Or.inl rfl) _
  · split
    · exact h
    · split
      · exact h
      · split <;> exact h

theorem recording_said (h : d.jobs.Says src ref) (sid url : String) :
    (d.recording s sid url).2.jobs.Says src ref := by
  unfold recording
  split
  · exact h
  · split
    · exact h
    · exact patchAttempt_said h (Or.inl rfl) _

theorem transcript_said (h : d.jobs.Says src ref) (sid text : String) :
    (d.transcript s sid text).2.jobs.Says src ref := by
  rcases transcript_course s sid text d with
    hcourse | ⟨job, attempt, answer, d₁, report, changed, d₂, -, hask, -, hpatch, hcourse⟩
  · rw [hcourse]
    exact h
  · have hasked := ask_jobs s (Script.reportRequest text) d
    rw [hask] at hasked
    rw [← hasked] at h
    have hpatched : (d₁.patchAttempt s ⟨job.id, attempt.id⟩
        (transcriptPatch text report)).2.jobs.Says src ref := patchAttempt_said h (Or.inl rfl) _
    rw [hpatch] at hpatched
    rcases hcourse with ⟨-, hcourse⟩ | ⟨job', -, hcourse⟩
    · rw [hcourse]
      exact hpatched
    · rw [hcourse, announce_jobs, followUp_jobs]
      exact hpatched

theorem interrupt_said (h : d.jobs.Says src ref) (i : Interruption) :
    (interrupt s d i).jobs.Says src ref := by
  cases i with
  | reset => exact JobRegister.said_of_gone rfl
  | block raw => exact (block_jobs raw d).symm ▸ h
  | status r => exact status_said h r

/-- What the parts of a chain keep the chain keeps. -/
theorem foldl_keeps {α : Type} {I : Desk → Prop} {step : Desk → α → Desk}
    (hstep : ∀ d a, I d → I (step d a)) : ∀ (as : List α) (d : Desk), I d → I (as.foldl step d)
  | [], _, hd => hd
  | a :: as, d, hd => foldl_keeps hstep as _ (hstep d a hd)

theorem placeCall_said (h : d.jobs.Says src ref) (line : Mode) (purpose : CallPurpose)
    (order : CallOrder) : (d.placeCall s line purpose order).2.jobs.Says src ref :=
  foldl_keeps (I := (·.jobs.Says src ref)) (fun _ i hd => interrupt_said hd i) _ _ h

theorem startTransfer_said (h : d.jobs.Says src ref) (r : StartTransfer) :
    (d.startTransfer s r).2.jobs.Says src ref := by
  rcases startTransfer_course s r d with ⟨refusal, hcourse, -⟩ | ⟨p, verdict, d₁, -, hask, hcourse⟩
  · rw [hcourse]
    exact h
  · have hasked := consult_jobs s (Risk.assess (riskText p.job r.notes))
      (r.approved || p.job.request.approved) r.mode.isLive .warmTransfer r.attemptId.toString d
    rw [hask] at hasked
    rcases hcourse with ⟨denial, rfl, hcourse⟩ |
      ⟨rfl, t, d₂, survivor, d₃, shelter, d₄, d₅, hopen, hsurvivor, hshelter, rfl, hcourse⟩
    · rw [hcourse, hasked]
      exact h
    · have hopened := openSession_jobs s r p d₁
      rw [hopen] at hopened
      rw [← hasked, ← hopened] at h
      have hleg₁ : (d₂.dialLeg s t .survivor).2.jobs.Says src ref := placeCall_said h _ _ _
      rw [hsurvivor] at hleg₁
      have hleg₂ : (d₃.dialLeg s t .shelter).2.jobs.Says src ref := placeCall_said hleg₁ _ _ _
      rw [hshelter] at hleg₂
      rw [hcourse, settleLeg_jobs, settleLeg_jobs]
      exact hleg₂

/-! ## Dialing -/

/-- A patch that sets the source is followed by its attempt, unless that is gone. -/
theorem patchAttempt_said_of_source {k : AttemptRef} (h : ref = k ∨ d.jobs.Says src ref)
    {p : Attempt.Patch} (hp : p.scriptSource = some src) :
    (d.patchAttempt s k p).2.jobs.Says src ref := by
  unfold patchAttempt
  cases hpatch : d.jobs.patch (s.now.moment d.readings) k p with
  | none =>
    rcases h with rfl | h
    · exact JobRegister.said_of_gone (JobRegister.patch_eq_none_iff.1 hpatch)
    · exact h
  | some found => exact JobRegister.said_of_patch h hp hpatch

/-- A settled attempt says where its script came from, whatever became of its call, and the
others say what they said. -/
theorem settle_said {k : AttemptRef} (h : ref = k ∨ d.jobs.Says src ref)
    {script : Script.Sourced String} (hscript : script.source = src)
    (placed : Except TelephonyError String) : (d.settle s k script placed).jobs.Says src ref := by
  have hsource : some script.source = some src := congrArg some hscript
  unfold settle
  cases placed with
  | error e => exact patchAttempt_said_of_source h hsource
  | ok sid =>
    dsimp only
    cases hpatch : d.jobs.patch (s.now.moment d.readings) k {
        status := some .initiated, script := some script.value,
        scriptSource := some script.source } with
    | none =>
      rcases h with rfl | h
      · exact JobRegister.said_of_gone (JobRegister.patch_eq_none_iff.1 hpatch)
      · exact h
    | some found =>
      have hpatched : found.2.Says src ref := JobRegister.said_of_patch h hsource hpatch
      dsimp only
      cases hbind : found.2.bindSid (s.now.moment (d.readings + 2)) k sid with
      | none => exact hpatched
      | some bound => exact hpatched.bindSid hbind

theorem prepare_source (hwrites : s.Writes src) {job : Job} {a : Attempt}
    {script : Script.Sourced String} {order : CallOrder}
    (h : d.prepare s job a = (.ready script order, d')) : script.source = src := by
  unfold prepare at h
  split at h
  · simp at h
  · split at h
    · simp at h
    · simp only [Prod.mk.injEq, Preparation.ready.injEq] at h
      rw [← h.1.1]
      exact hwrites d _

/-- The attempt has been called. -/
def Called (d : Desk) (ref : AttemptRef) : Prop := ∃ e ∈ d.trace, e.Calls ref

instance (d : Desk) (ref : AttemptRef) : Decidable (d.Called ref) :=
  inferInstanceAs (Decidable (∃ e ∈ d.trace, e.Calls ref))

/-- If the attempt has been called, it has a script from this source. -/
def Attributes (src : ScriptSource) (ref : AttemptRef) (d : Desk) : Prop :=
  d.Called ref → d.jobs.Says src ref

/-- What reaches nobody calls nobody. -/
theorem Grows.called (h : Grows Effect.Quiet d d') (hcalled : d'.Called ref) : d.Called ref := by
  obtain ⟨_, hcall, line, order, rfl⟩ := hcalled
  obtain ⟨own, htrace, hquiet⟩ := h.trace
  rw [htrace] at hcall
  refine ⟨_, (List.mem_append.1 hcall).resolve_left fun hown => ?_, line, order, rfl⟩
  cases hquiet _ hown

theorem placeCall_called {line : Mode} {k : AttemptRef} {order : CallOrder}
    (h : (d.placeCall s line (.attempt k) order).2.Called ref) : ref = k ∨ d.Called ref := by
  obtain ⟨_, hcall, line', order', rfl⟩ := h
  obtain ⟨own, htrace, hown⟩ := (placeCall_calls s line (.attempt k) order d).trace
  rw [htrace] at hcall
  rcases List.mem_append.1 hcall with hcall | hcall
  · rcases hown _ hcall with hquiet | heq
    · cases hquiet
    · simp only [Effect.call.injEq, CallPurpose.attempt.injEq] at heq
      exact Or.inl heq.2.1
  · exact Or.inr ⟨_, hcall, line', order', rfl⟩

/-- An attempt that is dialed says where its script came from, and the others say what they said. -/
theorem dial_attributes (hwrites : s.Writes src) (job : Job) (d : Desk) (a : Attempt)
    (h : d.Attributes src ref) : (d.dial s job a).Attributes src ref := by
  unfold dial
  dsimp only
  have hprep := prepare_notes s job a d
  have hjobs := prepare_jobs s job a d
  split
  · rename_i reason d₁ hprepare
    rw [hprepare] at hprep hjobs
    intro hcalled
    have hsaid := h (hprep.called ((patchAttempt_notes ..).called hcalled))
    rw [← hjobs] at hsaid
    exact patchAttempt_said hsaid (Or.inl rfl) _
  · rename_i script order d₁ hprepare
    rw [hprepare] at hprep hjobs
    have hscript := prepare_source hwrites hprepare
    intro hcalled
    rcases placeCall_called ((settle_notes ..).called hcalled) with rfl | hcalled
    · exact settle_said (Or.inl rfl) hscript _
    · have hsaid := h (hprep.called hcalled)
      rw [← hjobs] at hsaid
      exact settle_said (Or.inr (placeCall_said hsaid _ _ _)) hscript _

/-! ## Operations -/

/-- A call for an attempt is placed when its job is made. -/
theorem mem_perform_call {op : Operation} {line : Mode} {order : CallOrder}
    (h : .call line (.attempt ref) order ∈ (d.perform s op).2.trace) :
    .call line (.attempt ref) order ∈ d.trace ∨ ref.jobId = s.newJob d.made.jobs ∧
      (∃ r, op = .startJob r) ∧ (d.perform s op).2.made.jobs = d.made.jobs + 1 := by
  obtain ⟨later, earlier, htrace⟩ := List.append_of_mem h
  have he : .call line (.attempt ref) order :: earlier <:+ (d.perform s op).2.trace :=
    ⟨later, htrace.symm⟩
  by_cases hnew : .call line (.attempt ref) order :: earlier <:+ d.trace
  · exact Or.inl (hnew.subset List.mem_cons_self)
  · have hc : ¬ Effect.Quiet (.call line (.attempt ref) order) := by
      simp [Effect.Quiet, Effect.contact?]
    cases op with
    | startJob r =>
      obtain ⟨_, id, _, -, heq, -⟩ := startJob_contact he hnew hc
      simp only [Effect.call.injEq, CallPurpose.attempt.injEq] at heq
      refine Or.inr ⟨congrArg (·.jobId) heq.2.1, ⟨r, rfl⟩, ?_⟩
      rcases startJob_acts s r d with hsame | hacts
      · have hthere : .call line (.attempt ref) order :: earlier <:+ (d.startJob s r).2.trace := he
        rw [hsame] at hthere
        exact absurd hthere hnew
      · exact hacts.jobsMade
    | startTransfer r =>
      obtain ⟨_, _, _, _, -, -, heq, -⟩ := startTransfer_contact he hnew hc
      simp at heq
    | transcript sid text =>
      obtain ⟨_, _, _, _, -, -, -, heq, -⟩ := transcript_contact he hnew hc
      simp at heq
    | _ => exact absurd ((perform_quiet s d (by simp) (by simp) (by simp)).effect he hnew).1 hc

/-- Attempts are called when their job is made. -/
theorem perform_called {op : Operation} (h : (d.perform s op).2.Called ref) :
    d.Called ref ∨ ref.jobId = s.newJob d.made.jobs ∧ (∃ r, op = .startJob r) ∧
      (d.perform s op).2.made.jobs = d.made.jobs + 1 := by
  obtain ⟨_, hcall, line, order, rfl⟩ := h
  exact (mem_perform_call hcall).imp_left fun hbefore => ⟨_, hbefore, line, order, rfl⟩

theorem startJob_attributes (hwrites : s.Writes src) (h : d.Attributes src ref)
    (hnew : d.Called ref → ref.jobId ≠ s.newJob d.made.jobs) (r : StartJob) :
    (d.startJob s r).2.Attributes src ref := by
  rcases startJob_course s r d with
    ⟨refusal, hcourse, -⟩ | ⟨job, d₁, verdict, d₂, -, -, hmake, hask, hcourse⟩
  · rw [hcourse]
    exact h
  · have hquiet := consult_quiet s (Risk.assess r.survivorContext) r.approved r.mode.isLive .callJob
      job.id.toString d₁
    have hjobs := consult_jobs s (Risk.assess r.survivorContext) r.approved r.mode.isLive .callJob
      job.id.toString d₁
    rw [hask] at hquiet hjobs
    obtain ⟨rfl, rfl⟩ := Prod.mk.inj hmake
    -- making the job and asking the gate calls nobody
    have hcalled : d₂.Called ref → d.Called ref := hquiet.called
    rcases hcourse with ⟨denial, -, hcourse⟩ | ⟨-, d₃, rfl, hcourse⟩
    · rw [hcourse]
      intro hc
      rw [hjobs]
      exact h (hcalled hc)
    · rw [hcourse]
      refine foldl_keeps (fun d a hd => dial_attributes hwrites _ d a hd) _ _ ?_
      intro hc
      have hbefore := hcalled ((registerJob_notes _ d₂).called hc)
      have hsaid := h hbefore
      change (d₂.jobs.insert _).Says src ref
      rw [hjobs]
      exact hsaid.insert (hnew hbefore)

/-- **Whoever has been called says where the script came from, after each operation.** -/
theorem perform_attributes (hwrites : s.Writes src) (h : d.Attributes src ref) (op : Operation)
    (hnew : d.Called ref → ref.jobId ≠ s.newJob d.made.jobs) (hown : ¬ op.TakesIn ref.jobId) :
    (d.perform s op).2.Attributes src ref := by
  by_cases hjob : ∃ r, op = .startJob r
  · obtain ⟨r, rfl⟩ := hjob
    exact startJob_attributes hwrites h hnew r
  · intro hcalled
    have hsaid := h ((perform_called hcalled).resolve_right fun hc => hjob hc.2.1)
    cases op with
    | startJob r => exact absurd ⟨r, rfl⟩ hjob
    | startTransfer r => exact startTransfer_said hsaid r
    | status r => exact status_said hsaid r
    | recording sid url => exact recording_said hsaid sid url
    | transcript sid text => exact transcript_said hsaid sid text
    | gather k speech => exact (gather_jobs s k speech d).symm ▸ hsaid
    | block raw => exact (block_jobs raw d).symm ▸ hsaid
    | unblock raw => exact (unblock_jobs raw d).symm ▸ hsaid
    | reset => exact interrupt_said (s := s) hsaid .reset
    | restore stored =>
      exact hsaid.takeIn fun j hj heq => hown ⟨stored, rfl, j, hj, heq.symm⟩

/-! ## Runs -/

variable {c : SafetyConfig} {ops : List (Surroundings × Operation)}

theorem run_jobsMade (d : Desk) : ∀ ops : List (Surroundings × Operation),
    (d.run ops).made.jobs ≤ d.made.jobs + ops.length := by
  intro ops
  induction ops using List.reverseRecOn with
  | nil => exact Nat.le_refl _
  | append_singleton ops last ih =>
    have hmade := perform_jobsMade last.1 (d.run ops) last.2
    rw [run_concat, List.length_append, List.length_singleton]
    omega

/-- Whoever has been called belongs to a job that the run has made. -/
theorem run_called (h : ((ofConfig c).run ops).Called ref) :
    ∃ p ∈ ops, ∃ m < ((ofConfig c).run ops).made.jobs, ref.jobId = p.1.newJob m := by
  induction ops using List.reverseRecOn with
  | nil =>
    obtain ⟨_, hcall, -⟩ := h
    cases hcall
  | append_singleton ops last ih =>
    obtain ⟨s, op⟩ := last
    have hmade := perform_jobsMade s ((ofConfig c).run ops) op
    rw [run_concat] at h ⊢
    rcases perform_called h with hbefore | ⟨hid, -, hcount⟩
    · obtain ⟨p, hp, m, hm, hid⟩ := ih hbefore
      exact ⟨p, List.mem_append_left _ hp, m, by omega, hid⟩
    · exact ⟨(s, op), by simp, _, by omega, hid⟩

/-- **Every attempt that was called has a script from the one source that there is**, unless its job
was taken in from storage or is gone. -/
theorem run_attributes (hfresh : FreshIds ops) (hwrites : ∀ p ∈ ops, p.1.Writes src)
    (hown : ∀ p ∈ ops, ¬ p.2.TakesIn ref.jobId) : ((ofConfig c).run ops).Attributes src ref := by
  induction ops using List.reverseRecOn with
  | nil =>
    rintro ⟨_, hcall, -⟩
    cases hcall
  | append_singleton ops last ih =>
    obtain ⟨s, op⟩ := last
    have hbefore := ih hfresh.left (fun p hp => hwrites p (List.mem_append_left _ hp))
      fun p hp => hown p (List.mem_append_left _ hp)
    rw [run_concat]
    refine perform_attributes (hwrites (s, op) (by simp)) hbefore op (fun hcalled => ?_)
      (hown (s, op) (by simp))
    -- earlier jobs have smaller numbers
    obtain ⟨p, hp, m, hm, hid⟩ := run_called hcalled
    have hcount := run_jobsMade (ofConfig c) ops
    have hzero : (ofConfig c).made.jobs = 0 := rfl
    rw [hid]
    refine hfresh.jobs p (List.mem_append_left _ hp) (s, op) (by simp) m _ hm ?_
    rw [List.length_append, List.length_singleton]
    omega

end Desk

end ShelterLine

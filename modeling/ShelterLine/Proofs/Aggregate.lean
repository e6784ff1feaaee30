import ShelterLine.Proofs.Change
import ShelterLine.Proofs.Lifecycle

/-!
# The status of a job

A job's status is stored next to its attempts, and `JobStatus.rule` says what it has to be.
Counting the attempts in one pass computes it. Patches recompute the status; what changes a job
without doing so does not touch the statuses of its attempts; and a new job is queued, which is
right because a request without targets is refused. So the status is right in every state, and in
everything that is told about a job.
-/

namespace ShelterLine

/-! ## The rule -/

/-- Completed if all attempts are; otherwise in progress if one is initiated; otherwise failed if
one has failed and none is queued; otherwise queued. -/
def JobStatus.rule (statuses : List AttemptStatus) : JobStatus :=
  if ∀ status ∈ statuses, status = .completed then .completed
  else if .initiated ∈ statuses then .inProgress
  else if .failed ∈ statuses ∧ .queued ∉ statuses then .failed
  else .queued

namespace StatusTally

theorem foldl_queued (t : StatusTally) (statuses : List AttemptStatus) :
    (statuses.foldl add t).queued = (t.queued || decide (.queued ∈ statuses)) := by
  induction statuses generalizing t with
  | nil => simp
  | cons status statuses ih =>
    rw [List.foldl_cons, ih]
    cases status <;> simp [add]

theorem foldl_initiated (t : StatusTally) (statuses : List AttemptStatus) :
    (statuses.foldl add t).initiated = (t.initiated || decide (.initiated ∈ statuses)) := by
  induction statuses generalizing t with
  | nil => simp
  | cons status statuses ih =>
    rw [List.foldl_cons, ih]
    cases status <;> simp [add]

theorem foldl_failed (t : StatusTally) (statuses : List AttemptStatus) :
    (statuses.foldl add t).failed = (t.failed || decide (.failed ∈ statuses)) := by
  induction statuses generalizing t with
  | nil => simp
  | cons status statuses ih =>
    rw [List.foldl_cons, ih]
    cases status <;> simp [add]

end StatusTally

namespace JobStatus

/-- All attempts are completed when none has another status. -/
theorem all_completed_iff {statuses : List AttemptStatus} :
    (∀ status ∈ statuses, status = .completed) ↔
      .queued ∉ statuses ∧ .initiated ∉ statuses ∧ .failed ∉ statuses := by
  constructor
  · intro h
    exact ⟨fun hc => absurd (h _ hc) (by simp), fun hc => absurd (h _ hc) (by simp),
      fun hc => absurd (h _ hc) (by simp)⟩
  · rintro ⟨hqueued, hinitiated, hfailed⟩ status hmem
    cases status with
    | completed => rfl
    | queued => exact absurd hmem hqueued
    | initiated => exact absurd hmem hinitiated
    | failed => exact absurd hmem hfailed

/-- One pass over the attempts computes the rule. -/
theorem ofAttempts_eq_rule (statuses : List AttemptStatus) :
    ofAttempts statuses = rule statuses := by
  unfold ofAttempts StatusTally.jobStatus rule
  rw [StatusTally.foldl_queued, StatusTally.foldl_initiated, StatusTally.foldl_failed]
  simp only [all_completed_iff, Bool.false_or, Bool.and_eq_true, Bool.not_eq_true',
    decide_eq_false_iff_not, decide_eq_true_eq, and_assoc]

/-- The order of the attempts does not matter. -/
theorem rule_perm {statuses statuses' : List AttemptStatus} (h : statuses.Perm statuses') :
    rule statuses = rule statuses' := by
  unfold rule
  simp only [h.mem_iff]

/-- Attempts that were not dialed yet make a queued job, if there are any. -/
theorem rule_queued {statuses : List AttemptStatus} (hne : statuses ≠ [])
    (h : ∀ status ∈ statuses, status = .queued) : rule statuses = .queued := by
  have hnot : ∀ status, status ≠ .queued → status ∉ statuses := fun status hs hmem => hs (h _ hmem)
  obtain ⟨first, hfirst⟩ := List.exists_mem_of_ne_nil _ hne
  have hsome : ¬ ∀ status ∈ statuses, status = .completed := by
    intro hall
    have hboth := (hall first hfirst).symm.trans (h first hfirst)
    simp at hboth
  unfold rule
  rw [if_neg hsome, if_neg (hnot _ (by simp)), if_neg fun hc => hnot _ (by simp) hc.1]

end JobStatus

/-! ## Jobs -/

namespace Job

/-- The status is what the attempts amount to. -/
def Aggregated (j : Job) : Prop := j.status = .rule (j.attempts.map (·.status))

/-- A patch recomputes the status, whatever it was. -/
theorem aggregated_patch (now : Moment) (id : Uuid) (p : Attempt.Patch) (j : Job) :
    (j.patch now id p).Aggregated := JobStatus.ofAttempts_eq_rule _

/-- Losing a SID is not recomputed, and needs not be. -/
theorem Aggregated.clearSid {j : Job} (h : j.Aggregated) (id : Uuid) :
    (j.clearSid id).Aggregated := by
  have hsame : (j.clearSid id).attempts.map (·.status) = j.attempts.map (·.status) :=
    map_key_modifyAttempt (f := fun a => { a with sid := none }) (fun _ => rfl) id j.attempts
  unfold Aggregated
  rw [hsame]
  exact h

/-- A new job is not recomputed. It is right because there is something to do. -/
theorem aggregated_create (now : Instant) (id : Uuid) (attemptId : Nat → Uuid) (mode : Mode)
    (input : NewJob) {targets : List Target} (hne : targets ≠ []) :
    (create now id attemptId mode input targets).Aggregated := by
  refine (JobStatus.rule_queued ?_ ?_).symm
  · simpa [create] using hne
  · intro status hstatus
    obtain ⟨a, ha, rfl⟩ := List.mem_map.1 hstatus
    obtain ⟨i, hi, rfl⟩ := List.mem_mapIdx.1 ha
    rfl

end Job

/-! ## Registers -/

namespace JobRegister

variable {r r' : JobRegister}

/-- The statuses of all jobs are right. -/
def Aggregated (r : JobRegister) : Prop := ∀ j ∈ r.jobs, j.Aggregated

theorem Aggregated.insert (h : r.Aggregated) {j : Job} (hj : j.Aggregated) :
    (r.insert j).Aggregated := forall_insert h hj

theorem Aggregated.patch (h : r.Aggregated) {now : Moment} {ref : AttemptRef} {p : Attempt.Patch}
    {job : Job} (hpatch : r.patch now ref p = some (job, r')) : job.Aggregated ∧ r'.Aggregated :=
  forall_patch h (fun j _ _ => Job.aggregated_patch now ref.attemptId p j) hpatch

theorem Aggregated.bindSid (h : r.Aggregated) {now : Moment} {ref : AttemptRef} {sid : String}
    {job : Job} (hbind : r.bindSid now ref sid = some (job, r')) : job.Aggregated ∧ r'.Aggregated :=
  forall_bindSid h (fun id _ hj => hj.clearSid id)
    (fun j _ _ => Job.aggregated_patch now _ _ j) hbind

end JobRegister

/-! ## Desks -/

/-- The jobs that an effect shows. -/
def Effect.jobs : Effect → List Job
  | .keep (.job j) => [j]
  | .publish v => v.jobs
  | _ => []

namespace Desk

variable {s : Surroundings} {d d' : Desk}

/-- Every job that is registered, and every job that was ever kept or published, has the status that
its attempts amount to. -/
structure Aggregated (d : Desk) : Prop where
  registered : d.jobs.Aggregated
  told : ∀ e ∈ d.trace, ∀ j ∈ e.jobs, j.Aggregated

theorem aggregated_ofConfig (c : SafetyConfig) : (ofConfig c).Aggregated :=
  ⟨fun _ hj => absurd hj List.not_mem_nil, fun _ he => absurd he List.not_mem_nil⟩

theorem Aggregated.note (h : d.Aggregated) {e : Effect} (he : ∀ j ∈ e.jobs, j.Aggregated) :
    (d.note e).Aggregated := by
  refine ⟨h.registered, fun e' he' => ?_⟩
  rcases List.mem_cons.1 he' with rfl | he'
  · exact he
  · exact h.told e' he'

theorem Aggregated.jobChanged (h : d.Aggregated) {jobs : JobRegister} {job : Job}
    (hchanged : job.Aggregated ∧ jobs.Aggregated) :
    ({ d with jobs }.jobChanged job).Aggregated := by
  have hregistered : Aggregated { d with jobs } := ⟨hchanged.2, h.told⟩
  have hshown : ∀ j ∈ [job], j.Aggregated := by
    intro j hj
    rw [List.mem_singleton.1 hj]
    exact hchanged.1
  have hkept : Aggregated (({ d with jobs } : Desk).note (.keep (.job job))) :=
    hregistered.note hshown
  exact hkept.note hshown

theorem Aggregated.sessionChanged (h : d.Aggregated) (t : Session) :
    (d.sessionChanged t).Aggregated := by
  have hkept : (d.note (.keep (.session t))).Aggregated := h.note (by simp [Effect.jobs])
  exact hkept.note (by simp [Effect.jobs, Event.jobs])

theorem targets_of_checkJob {r : StartJob} (h : checkJob s r = .ok ()) : r.targets ≠ [] := by
  unfold checkJob at h
  split at h
  · simp at h
  · assumption

theorem Aggregated.escalated (h : d.Aggregated) (e : Escalation) : (d.escalated e).Aggregated := by
  have hcounted : Aggregated { d with made.escalations := d.made.escalations + 1 } :=
    ⟨h.registered, h.told⟩
  have hkept := hcounted.note (e := .keep (.escalation e)) (by simp [Effect.jobs])
  exact hkept.note (by simp [Effect.jobs, Event.jobs])

theorem Aggregated.block (h : d.Aggregated) (raw : String) : (d.block raw).2.Aggregated := by
  have hgate : ∀ gate, Aggregated { d with gate } := fun _ => ⟨h.registered, h.told⟩
  unfold Desk.block
  dsimp only
  split
  · exact (hgate _).note (by simp [Effect.jobs])
  · exact hgate _

theorem Aggregated.unblock (h : d.Aggregated) (raw : String) : (d.unblock raw).2.Aggregated := by
  have hgate : ∀ gate, Aggregated { d with gate } := fun _ => ⟨h.registered, h.told⟩
  unfold Desk.unblock
  dsimp only
  split
  · exact (hgate _).note (by simp [Effect.jobs])
  · exact hgate _

/-- **Every elementary change keeps the statuses right.** -/
theorem Aggregated.change (hchange : Change s d d') (h : d.Aggregated) : d'.Aggregated := by
  have htransfers : ∀ transfers, Aggregated { d with transfers } := fun _ => ⟨h.registered, h.told⟩
  have hgate : ∀ gate, Aggregated { d with gate } := fun _ => ⟨h.registered, h.told⟩
  cases hchange with
  | acted e outward =>
    refine h.note ?_
    cases e <;> simp_all [Effect.Outward, Effect.jobs]
  | counted => exact ⟨h.registered, h.told⟩
  | registered n now r callback accepted =>
    have hnew := Job.aggregated_create now (s.newJob n) (s.newAttempt n) r.mode
      ⟨r.survivorContext, callback, r.anonymous, r.approved⟩ (targets_of_checkJob accepted)
    exact h.jobChanged ⟨hnew, h.registered.insert hnew⟩
  | patched noSid hpatch => exact h.jobChanged (h.registered.patch hpatch)
  | marked noSid hpatch => exact ⟨(h.registered.patch hpatch).2, h.told⟩
  | bound hbind => exact h.jobChanged (h.registered.bindSid hbind)
  | opened n mode input made => exact (htransfers _).sessionChanged _
  | moved hset => exact (htransfers _).sessionChanged _
  | joined hbind => exact (htransfers _).sessionChanged _
  | escalated e => exact (hgate _).escalated e
  | blocked raw => exact h.block raw
  | unblocked raw => exact h.unblock raw
  | forgotten => exact ⟨fun _ hj => absurd hj List.not_mem_nil, h.told⟩

theorem Aggregated.run {ops : List (Surroundings × Operation)} (hmemory : Unrestored ops)
    (h : d.Aggregated) : (d.run ops).Aggregated := by
  induction ops generalizing d with
  | nil => exact h
  | cons p ops ih =>
    have hstep := perform_changes p.1 d (hmemory p (by simp))
    exact ih (fun q hq => hmemory q (by simp [hq])) (hstep.keeps (fun _ _ => Aggregated.change) h)

/-- **The status of a job is what its attempts amount to**: between operations, and in every
state that one can leave or pass through. One pass over the attempts computes it, and their
order does not matter. -/
theorem job_status_aggregate (c : SafetyConfig) {ops : List (Surroundings × Operation)}
    (hmemory : Unrestored ops) :
    (∀ statuses, JobStatus.ofAttempts statuses = .rule statuses) ∧
    (∀ statuses statuses' : List AttemptStatus, statuses.Perm statuses' →
      JobStatus.ofAttempts statuses = JobStatus.ofAttempts statuses') ∧
    ((ofConfig c).run ops).Aggregated ∧
    ∀ s d, Changes s ((ofConfig c).run ops) d → d.Aggregated := by
  have hrun : ((ofConfig c).run ops).Aggregated := (aggregated_ofConfig c).run hmemory
  refine ⟨JobStatus.ofAttempts_eq_rule, fun statuses statuses' hperm => ?_, hrun,
    fun s d hchanges => hchanges.keeps (fun _ _ => Aggregated.change) hrun⟩
  rw [JobStatus.ofAttempts_eq_rule, JobStatus.ofAttempts_eq_rule, JobStatus.rule_perm hperm]

/-- A job for two shelters. -/
def bothShelters : StartJob where
  mode := .dryRun
  survivorContext := "Needs a bed tonight."
  callbackNumber := none
  anonymous := false
  approved := false
  targets := [⟨1, "Harbor House", some "555-010-0100", none, none⟩,
    ⟨2, "Elm House", some "555-010-0101", none, none⟩]

/-- Both calls of such a job are given one SID, and then it is reported completed. -/
def sharedSidRun : List (Surroundings × Operation) :=
  [({ Surroundings.calm with place := fun _ _ _ => .ok "CA0" }, .startJob bothShelters),
    (.calm, .status ⟨"CA0", "completed", none⟩)]

/-- The second attempt takes the SID from the first, which stays initiated, and so the job stays in
progress. -/
theorem job_status_aggregate_sharedSid : Unrestored sharedSidRun ∧
    ((ofConfig {}).run sharedSidRun).Aggregated ∧
    ∃ j ∈ ((ofConfig {}).run sharedSidRun).jobs.jobs, j.status = .inProgress ∧
      j.attempts.map (·.sid) = [none, some "CA0"] ∧
      j.attempts.map (·.status) = [.initiated, .completed] := by
  have hmemory : Unrestored sharedSidRun := by
    intro p hp stored
    rcases List.mem_cons.1 hp with rfl | hp
    · simp
    · simp [List.mem_singleton.1 hp]
  have hend : ∃ j, ((ofConfig {}).run sharedSidRun).jobs.jobs = [j] ∧ j.status = .inProgress ∧
      j.attempts.map (·.sid) = [none, some "CA0"] ∧
      j.attempts.map (·.status) = [.initiated, .completed] := ⟨_, rfl, rfl, rfl, rfl⟩
  obtain ⟨j, hj, hstatuses⟩ := hend
  exact ⟨hmemory, (job_status_aggregate {} hmemory).2.2.1, j, by simp [hj], hstatuses⟩

end Desk

end ShelterLine

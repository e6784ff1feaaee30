import ShelterLine.Call.Register
import ShelterLine.Proofs.SidIndex

/-!
# Looking things up in the register of jobs

An attempt is found by the identifiers of its job and of itself, and both the patches and the
binding of a SID change one attempt in its place. What a change does is said here by what is found
afterwards, so that nothing later goes through the lists again. Each SID is stored in the index, in
both directions, and once more in its attempt; `Coherent` says that they agree. A binding may take
the SID from another attempt, a sibling even, and it keeps them in agreement.
-/

namespace ShelterLine

namespace Job

/-! ## One attempt of a job -/

theorem attempt?_id {j : Job} {id : Uuid} {a : Attempt} (h : j.attempt? id = some a) :
    a.id = id := by
  simpa using List.find?_some h

theorem attempt?_mem {j : Job} {id : Uuid} {a : Attempt} (h : j.attempt? id = some a) :
    a ∈ j.attempts := List.mem_of_find?_eq_some h

theorem find?_modifyAttempt {f : Attempt → Attempt} (hf : ∀ a, (f a).id = a.id) (id b : Uuid) :
    ∀ as : List Attempt, (modifyAttempt id f as).find? (·.id = b) =
      if b = id then (as.find? (·.id = b)).map f else as.find? (·.id = b)
  | [] => by simp [modifyAttempt]
  | a :: as => by
    have ih := find?_modifyAttempt hf id b as
    unfold modifyAttempt
    -- only the first attempt with the identifier changes, and it is the one that is found
    by_cases ha : a.id = id
    · by_cases hb : b = id
      · simp [ha, hb, hf]
      · simp [ha, hb, hf, Ne.symm hb]
    · by_cases hab : a.id = b
      · have hb : b ≠ id := fun h => ha (hab.trans h)
        simp [hab, hb]
      · simp [ha, hab, ih]

/-- What a change of an attempt leaves alone stays in its place. -/
theorem map_key_modifyAttempt {α : Type} {key : Attempt → α} {f : Attempt → Attempt}
    (hf : ∀ a, key (f a) = key a) (id : Uuid) :
    ∀ as : List Attempt, (modifyAttempt id f as).map key = as.map key
  | [] => rfl
  | a :: as => by
    unfold modifyAttempt
    split
    · simp [hf]
    · simp [map_key_modifyAttempt hf id as]

/-- `f` changes the attempt with an identifier by `g` in its place, and at most the times and the
status of the job besides. -/
structure Touches (id : Uuid) (g : Attempt → Attempt) (f : Job → Job) : Prop where
  id_eq : ∀ j, (f j).id = j.id
  mode_eq : ∀ j, (f j).mode = j.mode
  createdAt_eq : ∀ j, (f j).createdAt = j.createdAt
  request_eq : ∀ j, (f j).request = j.request
  attempts_eq : ∀ j, (f j).attempts = modifyAttempt id g j.attempts
  /-- The attempt goes by its identifier as before. -/
  attemptId_eq : ∀ a, (g a).id = a.id

theorem touches_patch (now : Moment) (id : Uuid) (p : Attempt.Patch) :
    Touches id (Attempt.apply now.attempt p) (Job.patch now id p) := by
  constructor <;> intros <;> rfl

theorem touches_clearSid (id : Uuid) :
    Touches id (fun a => { a with sid := none }) (clearSid id) := by
  constructor <;> intros <;> rfl

theorem Touches.attempt? {id : Uuid} {g : Attempt → Attempt} {f : Job → Job} (h : Touches id g f)
    (j : Job) (b : Uuid) :
    (f j).attempt? b = if b = id then (j.attempt? b).map g else j.attempt? b := by
  unfold Job.attempt?
  rw [h.attempts_eq]
  exact find?_modifyAttempt h.attemptId_eq id b j.attempts

/-! ## New jobs -/

theorem create_ids (now : Instant) (id : Uuid) (attemptId : Nat → Uuid) (mode : Mode)
    (input : NewJob) (targets : List Target) :
    (create now id attemptId mode input targets).attempts.map (·.id) =
      (List.range targets.length).map attemptId := by
  apply List.ext_getElem
  · simp [create]
  · intro i h h'
    simp [create, Attempt.queued]

theorem create_sid {now : Instant} {id : Uuid} {attemptId : Nat → Uuid} {mode : Mode}
    {input : NewJob} {targets : List Target} {a : Attempt}
    (ha : a ∈ (create now id attemptId mode input targets).attempts) : a.sid = none := by
  obtain ⟨i, hi, rfl⟩ := List.mem_mapIdx.1 ha
  rfl

end Job

namespace JobRegister

variable {r r' : JobRegister}

/-! ## Finding -/

theorem get?_id {id : Uuid} {j : Job} (h : r.get? id = some j) : j.id = id := by
  simpa using List.find?_some h

theorem get?_eq_none_iff {id : Uuid} : r.get? id = none ↔ ∀ j ∈ r.jobs, j.id ≠ id := by
  simp [get?]

theorem attempt?_eq_some_iff {ref : AttemptRef} {j : Job} {a : Attempt} :
    r.attempt? ref = some (j, a) ↔ r.get? ref.jobId = some j ∧
      j.attempt? ref.attemptId = some a := by
  unfold attempt?
  cases hj : r.get? ref.jobId with
  | none => simp
  | some j₀ =>
    cases ha : j₀.attempt? ref.attemptId with
    | none =>
      simp only [Option.bind_eq_bind, Option.bind_some, ha, Option.bind_none, reduceCtorEq,
        Option.some.injEq, false_iff, not_and]
      rintro rfl
      simp [ha]
    | some a₀ =>
      simp only [Option.bind_eq_bind, Option.bind_some, ha, Option.pure_def, Option.some.injEq,
        Prod.mk.injEq]
      constructor
      · rintro ⟨rfl, rfl⟩
        exact ⟨rfl, ha⟩
      · rintro ⟨rfl, ha'⟩
        rw [ha, Option.some.injEq] at ha'
        exact ⟨rfl, ha'⟩

/-- What is found under a reference goes by it. -/
theorem attempt?_ref {ref : AttemptRef} {j : Job} {a : Attempt} (h : r.attempt? ref = some (j, a)) :
    (⟨j.id, a.id⟩ : AttemptRef) = ref := by
  obtain ⟨hj, ha⟩ := attempt?_eq_some_iff.1 h
  rw [get?_id hj, Job.attempt?_id ha]

theorem findSid?_eq_some_iff {sid : String} {found : Job × Attempt} :
    r.findSid? sid = some found ↔ ∃ ref, r.sids.owner? sid = some ref ∧
      r.attempt? ref = some found := by
  unfold findSid?
  simp [Option.bind_eq_some_iff]

/-- What a SID finds is found under its own reference as well. -/
theorem attempt?_of_findSid? {sid : String} {j : Job} {a : Attempt}
    (h : r.findSid? sid = some (j, a)) : r.attempt? ⟨j.id, a.id⟩ = some (j, a) := by
  obtain ⟨ref, -, hfound⟩ := findSid?_eq_some_iff.1 h
  rw [attempt?_ref hfound]
  exact hfound

/-! ## What is found after a change -/

theorem get?_insert (r : JobRegister) (j : Job) (id : Uuid) :
    (r.insert j).get? id = if j.id = id then some j else r.get? id :=
  find?_key_cons_filter Job.id j r.jobs id

@[simp] theorem modify_sids (r : JobRegister) (id : Uuid) (f : Job → Job) :
    (r.modify id f).sids = r.sids := rfl

theorem get?_modify {f : Job → Job} (hf : ∀ j, (f j).id = j.id) (r : JobRegister) (id b : Uuid) :
    (r.modify id f).get? b = (r.get? b).map fun j => if j.id = id then f j else j :=
  find?_key_map (key_ite hf id) r.jobs b

/-- A change of one attempt is found under its reference and nowhere else. -/
theorem attempt?_modify {a : Uuid} {g : Attempt → Attempt} {f : Job → Job}
    (h : Job.Touches a g f) (r : JobRegister) (id : Uuid) (ref : AttemptRef) :
    (r.modify id f).attempt? ref = (r.attempt? ref).map fun found =>
      (if found.1.id = id then f found.1 else found.1,
        if ref = ⟨id, a⟩ then g found.2 else found.2) := by
  obtain ⟨jobId, attemptId⟩ := ref
  unfold JobRegister.attempt?
  rw [get?_modify h.id_eq]
  cases hj : r.get? jobId with
  | none => rfl
  | some j =>
    have hid : j.id = jobId := get?_id hj
    by_cases hjob : jobId = id
    · by_cases ha : attemptId = a
      · subst ha
        cases hx : j.attempt? attemptId <;> simp [hid, hjob, h.attempt?, hx]
      · cases hx : j.attempt? attemptId <;> simp [hid, hjob, ha, h.attempt?, hx]
    · cases hx : j.attempt? attemptId <;> simp [hid, hjob, hx]

/-! ## SIDs -/

/-- The SID that an attempt has. -/
def sidOf? (r : JobRegister) (ref : AttemptRef) : Option String := (r.attempt? ref).bind (·.2.sid)

theorem sidOf?_eq_some_iff {ref : AttemptRef} {sid : String} :
    r.sidOf? ref = some sid ↔ ∃ j a, r.attempt? ref = some (j, a) ∧ a.sid = some sid := by
  simp [sidOf?, Option.bind_eq_some_iff]

theorem sidOf?_modify {a : Uuid} {g : Attempt → Attempt} {f : Job → Job}
    (h : Job.Touches a g f) (r : JobRegister) (id : Uuid) (ref : AttemptRef) :
    (r.modify id f).sidOf? ref =
      if ref = ⟨id, a⟩ then (r.attempt? ref).bind fun found => (g found.2).sid
      else r.sidOf? ref := by
  unfold sidOf?
  rw [attempt?_modify h]
  split
  · cases r.attempt? ref <;> simp
  · cases r.attempt? ref <;> simp

/-! ## What a patch and a binding do -/

theorem patch_eq (r : JobRegister) (now : Moment) (ref : AttemptRef) (p : Attempt.Patch) :
    r.patch now ref p = (r.attempt? ref).map fun found =>
      (found.1.patch now ref.attemptId p, r.modify ref.jobId (Job.patch now ref.attemptId p)) := by
  unfold JobRegister.patch
  cases r.attempt? ref <;> rfl

/-- A patch fails only for want of the attempt. -/
theorem patch_eq_none_iff {now : Moment} {ref : AttemptRef} {p : Attempt.Patch} :
    r.patch now ref p = none ↔ r.attempt? ref = none := by
  rw [patch_eq, Option.map_eq_none_iff]

theorem patch_eq_some_iff {now : Moment} {ref : AttemptRef} {p : Attempt.Patch} {job : Job} :
    r.patch now ref p = some (job, r') ↔ ∃ j a, r.attempt? ref = some (j, a) ∧
      job = j.patch now ref.attemptId p ∧
      r' = r.modify ref.jobId (Job.patch now ref.attemptId p) := by
  rw [patch_eq]
  simp only [Option.map_eq_some_iff, Prod.exists, Prod.mk.injEq]
  constructor
  · rintro ⟨j, a, h, rfl, rfl⟩
    exact ⟨j, a, h, rfl, rfl⟩
  · rintro ⟨j, a, h, rfl, rfl⟩
    exact ⟨j, a, h, rfl, rfl⟩

/-- What is found where a patch was applied. -/
theorem attempt?_patch {now : Moment} {ref : AttemptRef} {p : Attempt.Patch} {job j : Job}
    {a : Attempt} (hpatch : r.patch now ref p = some (job, r'))
    (h : r'.attempt? ref = some (j, a)) :
    ∃ j₀ a₀, r.attempt? ref = some (j₀, a₀) ∧ a = a₀.apply now.attempt p := by
  obtain ⟨-, -, -, -, rfl⟩ := patch_eq_some_iff.1 hpatch
  rw [attempt?_modify (Job.touches_patch ..), Option.map_eq_some_iff] at h
  obtain ⟨⟨j₀, a₀⟩, hfound, heq⟩ := h
  refine ⟨j₀, a₀, hfound, ?_⟩
  simpa [eq_comm] using (Prod.mk.inj heq).2

theorem sidOf?_patch {now : Moment} {ref : AttemptRef} {p : Attempt.Patch} (hp : p.sid = none)
    (r : JobRegister) (id : Uuid) (k : AttemptRef) :
    (r.modify id (Job.patch now ref.attemptId p)).sidOf? k = r.sidOf? k := by
  rw [sidOf?_modify (Job.touches_patch ..)]
  split
  · simp [sidOf?, Attempt.apply, hp]
  · rfl

/-- The register in which whoever has a SID has lost it, unless that is the attempt to
bind it to. -/
def released (r : JobRegister) (ref : AttemptRef) (sid : String) : JobRegister :=
  match r.sids.owner? sid with
  | some old => if old = ref then r else r.modify old.jobId (Job.clearSid old.attemptId)
  | none => r

theorem sidOf?_released (r : JobRegister) (ref : AttemptRef) (sid : String) (k : AttemptRef) :
    (r.released ref sid).sidOf? k =
      if r.sids.owner? sid = some k ∧ k ≠ ref then none else r.sidOf? k := by
  unfold released
  split
  · rename_i old hold
    split
    · rename_i href
      -- the SID is with the attempt already, so nobody loses it
      rw [if_neg]
      rintro ⟨hk, hne⟩
      exact hne (Option.some.inj (hk.symm.trans (hold.trans (congrArg some href))))
    · rename_i href
      rw [sidOf?_modify (Job.touches_clearSid ..)]
      by_cases hk : k = old
      · subst hk
        simp [hold, href]
      · simp [hold, hk, Ne.symm hk]
  · rename_i hold
    simp [hold]

theorem released_cases (r : JobRegister) (ref : AttemptRef) (sid : String) :
    r.released ref sid = r ∨
    ∃ old : AttemptRef, r.released ref sid = r.modify old.jobId (Job.clearSid old.attemptId) := by
  unfold released
  split
  · split
    · exact Or.inl rfl
    · exact Or.inr ⟨_, rfl⟩
  · exact Or.inl rfl

/-- A binding takes the SID from whoever has it and gives it to the attempt. -/
theorem bindSid_eq (r : JobRegister) (now : Moment) (ref : AttemptRef) (sid : String) :
    r.bindSid now ref sid = (r.attempt? ref).bind fun _ =>
      { r.released ref sid with sids := r.sids.bind sid ref }.patch now ref
        { sid := some sid } := by
  unfold JobRegister.bindSid released SidIndex.rebind
  cases r.attempt? ref with
  | none => rfl
  | some found =>
    -- only a SID with another owner makes the binding touch a second attempt
    cases ho : r.sids.owner? sid with
    | none => cases hs : r.sids.sid? ref <;> rfl
    | some old =>
      by_cases h : old = ref
      · simp [h]
      · simp [h, modify]

/-- What a binding leaves, which needs the attempt to be there. -/
theorem bindSid_eq_some {now : Moment} {ref : AttemptRef} {sid : String} {job : Job}
    (h : r.bindSid now ref sid = some (job, r')) :
    (r.attempt? ref).isSome ∧
      r' = { (r.released ref sid).modify ref.jobId
        (Job.patch now ref.attemptId { sid := some sid }) with sids := r.sids.bind sid ref } := by
  rw [bindSid_eq] at h
  obtain ⟨found, hfound, h⟩ := Option.bind_eq_some_iff.1 h
  obtain ⟨j, a, -, -, rfl⟩ := patch_eq_some_iff.1 h
  exact ⟨by rw [hfound]; rfl, rfl⟩

theorem attempt?_released_isSome (r : JobRegister) (ref k : AttemptRef) (sid : String) :
    ((r.released ref sid).attempt? k).isSome = (r.attempt? k).isSome := by
  unfold released
  split
  · split
    · rfl
    · rw [attempt?_modify (Job.touches_clearSid ..), Option.isSome_map]
  · rfl

/-- A binding fails only for want of the attempt. -/
theorem bindSid_isSome (r : JobRegister) (now : Moment) (ref : AttemptRef) (sid : String) :
    (r.bindSid now ref sid).isSome = (r.attempt? ref).isSome := by
  rw [bindSid_eq]
  have hreleased := attempt?_released_isSome r ref ref sid
  cases hfound : r.attempt? ref with
  | none => rfl
  | some found =>
    rw [hfound] at hreleased
    rw [Option.bind_some, patch_eq, Option.isSome_map]
    exact hreleased

/-- What is written in the attempts after a binding. -/
theorem sidOf?_bindSid {now : Moment} {ref : AttemptRef} {sid : String} {job : Job}
    (h : r.bindSid now ref sid = some (job, r')) (k : AttemptRef) :
    r'.sidOf? k =
      if k = ref then some sid else if r.sids.owner? sid = some k then none else r.sidOf? k := by
  obtain ⟨hthere, rfl⟩ := bindSid_eq_some h
  have hpatched := sidOf?_modify (Job.touches_patch now ref.attemptId { sid := some sid })
    (r.released ref sid) ref.jobId k
  refine hpatched.trans ?_
  by_cases hk : k = ref
  · subst hk
    rw [if_pos rfl, if_pos rfl]
    -- losing a SID does not unregister anything, so the patch finds its attempt
    rw [← attempt?_released_isSome r k k sid] at hthere
    obtain ⟨found, hfound⟩ := Option.isSome_iff_exists.1 hthere
    rw [hfound]
    rfl
  · rw [if_neg hk, if_neg hk, sidOf?_released]
    simp [hk]

/-! ## Identifiers are keys -/

/-- Jobs have different identifiers, and so have the attempts of a job. -/
structure Keyed (r : JobRegister) : Prop where
  jobs : (r.jobs.map (·.id)).Nodup
  attempts : ∀ j ∈ r.jobs, (j.attempts.map (·.id)).Nodup

theorem keyed_empty : Keyed {} := ⟨List.nodup_nil, by simp⟩

theorem Keyed.insert (h : r.Keyed) {j : Job} (hj : (j.attempts.map (·.id)).Nodup) :
    (r.insert j).Keyed := by
  refine ⟨nodup_key_cons_filter Job.id j h.jobs, ?_⟩
  intro k hk
  rcases List.mem_cons.1 hk with rfl | hk
  · exact hj
  · exact h.attempts k (List.mem_filter.1 hk).1

theorem Keyed.modify (h : r.Keyed) {a : Uuid} {g : Attempt → Attempt} {f : Job → Job}
    (hf : Job.Touches a g f) (id : Uuid) : (r.modify id f).Keyed := by
  have hids : (r.modify id f).jobs.map Job.id = r.jobs.map Job.id :=
    map_key_map (key_ite hf.id_eq id) r.jobs
  refine ⟨hids ▸ h.jobs, ?_⟩
  intro k hk
  obtain ⟨j, hj, rfl⟩ := List.mem_map.1 hk
  split
  · rw [hf.attempts_eq, Job.map_key_modifyAttempt hf.attemptId_eq]
    exact h.attempts j hj
  · exact h.attempts j hj

/-- What holds of a register and is kept by changes of one attempt is kept by a binding. -/
theorem bindSid_induction {I : JobRegister → Prop}
    (hmodify : ∀ r a g f id, Job.Touches a g f → I r → I (r.modify id f))
    (hsids : ∀ r : JobRegister, ∀ sids, I r → I { r with sids })
    {r r' : JobRegister} (h : I r) {now : Moment} {ref : AttemptRef} {sid : String} {job : Job}
    (hbind : r.bindSid now ref sid = some (job, r')) : I r' := by
  obtain ⟨-, rfl⟩ := bindSid_eq_some hbind
  -- the former owner loses the SID, the new one gets it, and the index follows
  refine hsids _ _ (hmodify _ _ _ _ _ (Job.touches_patch ..) ?_)
  rcases released_cases r ref sid with hsame | ⟨old, hold⟩
  · rw [hsame]
    exact h
  · rw [hold]
    exact hmodify _ _ _ _ _ (Job.touches_clearSid _) h

theorem Keyed.bindSid (h : r.Keyed) {now : Moment} {ref : AttemptRef} {sid : String} {job : Job}
    (hbind : r.bindSid now ref sid = some (job, r')) : r'.Keyed :=
  bindSid_induction (I := Keyed) (fun _ _ _ _ id ht hk => hk.modify ht id)
    (fun _ _ hk => ⟨hk.jobs, hk.attempts⟩) h hbind

theorem Keyed.get?_eq_some_iff (h : r.Keyed) {id : Uuid} {j : Job} :
    r.get? id = some j ↔ j ∈ r.jobs ∧ j.id = id := find?_key_eq_some_iff h.jobs

/-- Whatever is registered is found. -/
theorem Keyed.attempt?_eq_some_iff (h : r.Keyed) {j : Job} {a : Attempt} :
    r.attempt? ⟨j.id, a.id⟩ = some (j, a) ↔ j ∈ r.jobs ∧ a ∈ j.attempts := by
  rw [JobRegister.attempt?_eq_some_iff, h.get?_eq_some_iff]
  constructor
  · rintro ⟨⟨hj, -⟩, ha⟩
    exact ⟨hj, Job.attempt?_mem ha⟩
  · rintro ⟨hj, ha⟩
    exact ⟨⟨hj, rfl⟩, (find?_key_eq_some_iff (h.attempts j hj)).2 ⟨ha, rfl⟩⟩

/-! ## What holds of all jobs -/

theorem forall_modify {P : Job → Prop} (h : ∀ j ∈ r.jobs, P j) {id : Uuid} {f : Job → Job}
    (hf : ∀ j, j.id = id → P j → P (f j)) : ∀ j ∈ (r.modify id f).jobs, P j := by
  intro k hk
  obtain ⟨j, hj, rfl⟩ := List.mem_map.1 hk
  split
  · rename_i hid
    exact hf j hid (h j hj)
  · exact h j hj

theorem forall_insert {P : Job → Prop} (h : ∀ j ∈ r.jobs, P j) {j : Job} (hj : P j) :
    ∀ k ∈ (r.insert j).jobs, P k := by
  intro k hk
  rcases List.mem_cons.1 hk with rfl | hk
  · exact hj
  · exact h k (List.mem_filter.1 hk).1

/-- What a patch keeps holds of the job that it hands out and of all others. -/
theorem forall_patch {P : Job → Prop} (h : ∀ j ∈ r.jobs, P j) {now : Moment} {ref : AttemptRef}
    {p : Attempt.Patch} (hp : ∀ j, j.id = ref.jobId → P j → P (j.patch now ref.attemptId p))
    {job : Job} (hpatch : r.patch now ref p = some (job, r')) : P job ∧ ∀ j ∈ r'.jobs, P j := by
  obtain ⟨j, a, hfound, rfl, rfl⟩ := patch_eq_some_iff.1 hpatch
  have hget := (attempt?_eq_some_iff.1 hfound).1
  exact ⟨hp j (get?_id hget) (h j (List.mem_of_find?_eq_some hget)), forall_modify h hp⟩

/-- The former owner of a SID may be a sibling, another job's attempt or nobody. -/
theorem forall_bindSid {P : Job → Prop} (h : ∀ j ∈ r.jobs, P j)
    (hclear : ∀ id j, P j → P (j.clearSid id)) {now : Moment} {ref : AttemptRef} {sid : String}
    (hp : ∀ j, j.id = ref.jobId → P j → P (j.patch now ref.attemptId { sid := some sid }))
    {job : Job} (hbind : r.bindSid now ref sid = some (job, r')) : P job ∧ ∀ j ∈ r'.jobs, P j := by
  rw [bindSid_eq] at hbind
  obtain ⟨found, -, hpatch⟩ := Option.bind_eq_some_iff.1 hbind
  have hreleased : ∀ j ∈ (r.released ref sid).jobs, P j := by
    rcases released_cases r ref sid with hsame | ⟨old, hold⟩
    · rw [hsame]
      exact h
    · rw [hold]
      exact forall_modify h fun j _ => hclear old.attemptId j
  have hindexed : ∀ j ∈ { r.released ref sid with sids := r.sids.bind sid ref }.jobs,
      P j := hreleased
  exact forall_patch hindexed hp hpatch

/-! ## Index and attempts agree -/

/-- The index says of every attempt the SID that it has. -/
def Coherent (r : JobRegister) : Prop := r.sids.Agrees r.sidOf?

theorem coherent_empty : Coherent {} := SidIndex.agrees_empty

/-- **A binding keeps index and attempts in agreement.** -/
theorem Coherent.bindSid (h : r.Coherent) {now : Moment} {ref : AttemptRef}
    {sid : String} {job : Job} (hbind : r.bindSid now ref sid = some (job, r')) : r'.Coherent := by
  have hsids : r'.sids = r.sids.bind sid ref := by
    obtain ⟨-, rfl⟩ := bindSid_eq_some hbind
    rfl
  unfold Coherent
  rw [hsids]
  exact SidIndex.Agrees.bind h (sidOf?_bindSid hbind)

theorem Coherent.patch (h : r.Coherent) {now : Moment} {ref : AttemptRef} {p : Attempt.Patch}
    {job : Job} (hp : p.sid = none) (hpatch : r.patch now ref p = some (job, r')) :
    r'.Coherent := by
  obtain ⟨j, a, -, -, rfl⟩ := patch_eq_some_iff.1 hpatch
  exact ⟨h.linked, fun k => (h.sid?_eq k).trans (sidOf?_patch hp r ref.jobId k).symm⟩

/-- A job that is not there yet and has no SIDs may be taken in. -/
theorem Coherent.insert (h : r.Coherent) {j : Job} (hnew : r.get? j.id = none)
    (hnone : ∀ a ∈ j.attempts, a.sid = none) : (r.insert j).Coherent := by
  refine ⟨h.linked, fun k => (h.sid?_eq k).trans ?_⟩
  unfold sidOf? JobRegister.attempt?
  rw [get?_insert]
  split
  · rename_i hk
    -- there was no such job before, and there is no SID in it now
    rw [← hk, hnew]
    cases ha : j.attempt? k.attemptId with
    | none => simp [ha]
    | some a => simp [ha, hnone a (Job.attempt?_mem ha)]
  · rfl

/-- **A SID finds exactly the attempt that has it.** -/
theorem Coherent.findSid?_eq_some_iff (h : r.Coherent) (hk : r.Keyed) {sid : String} {j : Job}
    {a : Attempt} :
    r.findSid? sid = some (j, a) ↔ j ∈ r.jobs ∧ a ∈ j.attempts ∧ a.sid = some sid := by
  rw [JobRegister.findSid?_eq_some_iff]
  constructor
  · rintro ⟨ref, howner, hfound⟩
    -- the owner in the index has the SID written down
    obtain ⟨j', a', hfound', hsid⟩ := sidOf?_eq_some_iff.1 (h.owner?_eq_some_iff.1 howner)
    rw [hfound, Option.some.injEq, Prod.mk.injEq] at hfound'
    obtain ⟨rfl, rfl⟩ := hfound'
    obtain ⟨hj, ha⟩ := hk.attempt?_eq_some_iff.1 ((attempt?_ref hfound).symm ▸ hfound)
    exact ⟨hj, ha, hsid⟩
  · rintro ⟨hj, ha, hsid⟩
    -- whoever has the SID written down is its owner in the index
    have hfound := hk.attempt?_eq_some_iff.2 ⟨hj, ha⟩
    exact ⟨_, h.owner?_eq_some_iff.2 (sidOf?_eq_some_iff.2 ⟨j, a, hfound, hsid⟩), hfound⟩

end JobRegister

end ShelterLine

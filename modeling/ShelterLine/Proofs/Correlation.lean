import ShelterLine.Proofs.JobRegister
import ShelterLine.Proofs.TransferRegister

/-!
# SIDs are correlated exactly

The registers are changed by a handful of actions, in any order. As long as new identifiers are new,
every action keeps identifiers unique and the indices in agreement with the records, so a SID finds
the one record that has it. A binding may displace up to two others, one for the SID and one for the
record; nothing but a later binding that works, or a reset, displaces it.
-/

namespace ShelterLine

/-- Something that is done to the registers. -/
inductive RegisterAction where
  | createJob (now : Instant) (id : Uuid) (attemptId : Nat → Uuid) (mode : Mode) (input : NewJob)
      (targets : List Target)
  | markAttempt (now : Moment) (ref : AttemptRef) (patch : Attempt.Patch)
    (noSid : patch.sid = none)
  | bindAttempt (now : Moment) (ref : AttemptRef) (sid : String)
  | resetJobs
  | createSession (now : Instant) (id : Uuid) (mode : Mode) (input : NewTransfer)
  | setStatus (now : Instant) (id : Uuid) (status : TransferStatus)
  | bindLeg (now : Instant) (ref : LegRef) (sid : String)
  | resetTransfers

/-- The identifiers that an action makes. -/
def RegisterAction.newIds : RegisterAction → List Uuid
  | createJob _ id attemptId _ _ targets => id :: (List.range targets.length).map attemptId
  | createSession _ id _ _ => [id]
  | _ => []

open RegisterAction (newIds)

section

variable {σ : Type} {step : σ → RegisterAction → σ} {I : List Uuid → σ → Prop} {made : List Uuid}
  {actions : List RegisterAction} {r : σ}

/-- What every action keeps that makes new identifiers, all of them keep together. -/
theorem foldl_newIds
    (hstep : ∀ made r x, I made r → (made ++ x.newIds).Nodup → I (made ++ x.newIds) (step r x))
    (h : I made r) (hnew : (made ++ actions.flatMap newIds).Nodup) :
    I (made ++ actions.flatMap newIds) (actions.foldl step r) := by
  induction actions generalizing r made with
  | nil => simpa using h
  | cons x xs ih =>
    -- what has been made grows by what the first action makes
    rw [List.flatMap_cons, ← List.append_assoc] at hnew ⊢
    exact ih (hstep made r x h (List.nodup_append.1 hnew).1) hnew

/-- No action is `bad` where it is done. -/
def Never (step : σ → RegisterAction → σ) (bad : σ → RegisterAction → Prop) :
    σ → List RegisterAction → Prop
  | _, [] => True
  | r, x :: xs => ¬ bad r x ∧ Never step bad (step r x) xs

/-- What all actions keep that are not `bad` holds to the end if none ever is. -/
theorem foldl_never {bad : σ → RegisterAction → Prop} {J : σ → Prop}
    (hstep : ∀ made r x, I made r → (made ++ x.newIds).Nodup → I (made ++ x.newIds) (step r x))
    (hkeep : ∀ made r x, I made r → J r → ¬ bad r x → J (step r x))
    (h : I made r) (hnew : (made ++ actions.flatMap newIds).Nodup) (hJ : J r)
    (hnever : Never step bad r actions) : J (actions.foldl step r) := by
  induction actions generalizing r made with
  | nil => exact hJ
  | cons x xs ih =>
    rw [List.flatMap_cons, ← List.append_assoc] at hnew
    exact ih (hstep made r x h (List.nodup_append.1 hnew).1) hnew
      (hkeep made r x h hJ hnever.1) hnever.2

end

/-! ## Jobs -/

namespace JobRegister

variable {r r' : JobRegister} {x : RegisterAction}

/-- What an action does to the jobs. -/
def step (r : JobRegister) : RegisterAction → JobRegister
  | .createJob now id attemptId mode input targets =>
    r.insert (.create now id attemptId mode input targets)
  | .markAttempt now ref p _ => ((r.patch now ref p).map (·.2)).getD r
  | .bindAttempt now ref sid => ((r.bindSid now ref sid).map (·.2)).getD r
  | .resetJobs => {}
  | _ => r

/-- The jobs after some actions. -/
def run (actions : List RegisterAction) : JobRegister := actions.foldl step {}

/-- Identifiers are keys that have been made before, and index and attempts agree. -/
structure Orderly (made : List Uuid) (r : JobRegister) : Prop where
  keyed : r.Keyed
  coherent : r.Coherent
  made : ∀ j ∈ r.jobs, j.id ∈ made

theorem orderly_empty : Orderly [] {} := ⟨keyed_empty, coherent_empty, by simp⟩

theorem Orderly.mono {made made' : List Uuid} (h : r.Orderly made) (hle : made ⊆ made') :
    r.Orderly made' := ⟨h.keyed, h.coherent, fun j hj => hle (h.made j hj)⟩

theorem made_modify {f : Job → Job} (hf : ∀ j, (f j).id = j.id) {made : List Uuid}
    (h : ∀ j ∈ r.jobs, j.id ∈ made) (id : Uuid) : ∀ j ∈ (r.modify id f).jobs, j.id ∈ made := by
  intro k hk
  obtain ⟨j, hj, rfl⟩ := List.mem_map.1 hk
  split
  · rw [hf]
    exact h j hj
  · exact h j hj

theorem Orderly.patch {made : List Uuid} (h : r.Orderly made) {now : Moment} {ref : AttemptRef}
    {p : Attempt.Patch} {job : Job} (hp : p.sid = none)
    (hpatch : r.patch now ref p = some (job, r')) : r'.Orderly made := by
  have hcoherent := h.coherent.patch hp hpatch
  obtain ⟨j, a, -, -, rfl⟩ := patch_eq_some_iff.1 hpatch
  have ht := Job.touches_patch now ref.attemptId p
  exact ⟨h.keyed.modify ht _, hcoherent, made_modify ht.id_eq h.made _⟩

theorem Orderly.bindSid {made : List Uuid} (h : r.Orderly made) {now : Moment} {ref : AttemptRef}
    {sid : String} {job : Job} (hbind : r.bindSid now ref sid = some (job, r')) :
    r'.Orderly made := by
  refine ⟨h.keyed.bindSid hbind, h.coherent.bindSid hbind, ?_⟩
  exact bindSid_induction (I := fun r => ∀ j ∈ r.jobs, j.id ∈ made)
    (fun r _ _ _ id ht hk => made_modify ht.id_eq hk id) (fun r sids hk => hk) h.made hbind

/-- **An action keeps the register orderly if the identifiers that it makes are new.** -/
theorem Orderly.step {made : List Uuid} (h : r.Orderly made) (hnew : (made ++ x.newIds).Nodup) :
    (r.step x).Orderly (made ++ x.newIds) := by
  have hstill := h.mono (List.subset_append_left made x.newIds)
  cases x with
  | createJob now id attemptId mode input targets =>
    obtain ⟨-, hids, hfresh⟩ := List.nodup_append.1 hnew
    have hattempts := (List.nodup_cons.1 hids).2
    rw [← Job.create_ids now id attemptId mode input targets] at hattempts
    -- whatever is registered has been made before, and the identifier is new
    have hnone : r.get? id = none := get?_eq_none_iff.2 fun j hj he =>
      hfresh j.id (h.made j hj) id (by simp [newIds]) he
    refine ⟨h.keyed.insert hattempts, h.coherent.insert hnone fun a => Job.create_sid, ?_⟩
    intro j hj
    rcases List.mem_cons.1 hj with rfl | hj
    · exact List.mem_append_right _ (by simp [newIds, Job.create])
    · exact hstill.made j (List.mem_filter.1 hj).1
  | markAttempt now ref p noSid =>
    cases hpatch : r.patch now ref p with
    | none => simpa [JobRegister.step, hpatch] using hstill
    | some found => simpa [JobRegister.step, hpatch] using hstill.patch noSid hpatch
  | bindAttempt now ref sid =>
    cases hbind : r.bindSid now ref sid with
    | none => simpa [JobRegister.step, hbind] using hstill
    | some found => simpa [JobRegister.step, hbind] using hstill.bindSid hbind
  | resetJobs => exact orderly_empty.mono (List.nil_subset _)
  | createSession | setStatus | bindLeg | resetTransfers => exact hstill

theorem orderly_run {actions : List RegisterAction} (hnew : (actions.flatMap newIds).Nodup) :
    (run actions).Orderly (actions.flatMap newIds) :=
  foldl_newIds (I := Orderly) (fun _ _ _ h hnew => h.step hnew) orderly_empty hnew

/-! ### The last binding -/

/-- The action displaces a SID or an attempt that it is bound to. -/
def Displaces (r : JobRegister) (ref : AttemptRef) (sid : String) : RegisterAction → Prop
  | .bindAttempt _ ref' sid' => (ref' = ref ∨ sid' = sid) ∧ (r.attempt? ref').isSome
  | .resetJobs => True
  | _ => False

/-- A binding that works makes the attempt the SID's owner. -/
theorem owner?_step_bind (hc : r.Coherent) (now : Moment) {ref : AttemptRef} (sid : String)
    (hthere : (r.attempt? ref).isSome) :
    (r.step (.bindAttempt now ref sid)).sids.owner? sid = some ref := by
  rw [← bindSid_isSome r now ref sid] at hthere
  obtain ⟨⟨job, r'⟩, hbind⟩ := Option.isSome_iff_exists.1 hthere
  obtain ⟨-, rfl⟩ := bindSid_eq_some hbind
  simp only [JobRegister.step, hbind, Option.map_some, Option.getD_some]
  rw [SidIndex.owner?_bind hc.linked, if_pos rfl]

/-- Whatever does not displace a SID leaves it with its owner. -/
theorem owner?_step (hc : r.Coherent) {ref : AttemptRef} {sid : String}
    (howner : r.sids.owner? sid = some ref) (hx : ¬ r.Displaces ref sid x) :
    (r.step x).sids.owner? sid = some ref := by
  cases x with
  | createJob | createSession | setStatus | bindLeg | resetTransfers => exact howner
  | markAttempt now ref' p noSid =>
    cases hpatch : r.patch now ref' p with
    | none => simpa [JobRegister.step, hpatch] using howner
    | some found =>
      obtain ⟨j, a, -, -, hr'⟩ := patch_eq_some_iff.1 hpatch
      simpa [JobRegister.step, hpatch, hr'] using howner
  | bindAttempt now ref' sid' =>
    cases hbind : r.bindSid now ref' sid' with
    | none => simpa [JobRegister.step, hbind] using howner
    | some found =>
      obtain ⟨hthere, hr'⟩ := bindSid_eq_some hbind
      -- the binding works, so it is of another SID to another owner
      have hother : ¬ (ref' = ref ∨ sid' = sid) := fun h => hx ⟨h, hthere⟩
      rw [not_or] at hother
      have hkept := SidIndex.owner?_bind_other hc.linked (Ne.symm hother.2)
        (Ne.symm hother.1) howner
      simpa [JobRegister.step, hbind, hr'] using hkept
  | resetJobs => exact absurd trivial hx

/-- **The last binding wins.** A binding that works holds as long as nothing displaces it. -/
theorem owner?_run {before after : List RegisterAction} {now : Moment} {ref : AttemptRef}
    {sid : String} (hnew : ((before ++ .bindAttempt now ref sid :: after).flatMap newIds).Nodup)
    (hthere : ((run before).attempt? ref).isSome)
    (hnever : Never step (Displaces · ref sid)
      ((run before).step (.bindAttempt now ref sid)) after) :
    (run (before ++ .bindAttempt now ref sid :: after)).sids.owner? sid = some ref := by
  rw [List.flatMap_append, List.flatMap_cons] at hnew
  have hbefore := orderly_run (List.nodup_append.1 hnew).1
  have hbound := owner?_step_bind hbefore.coherent now sid hthere
  rw [run, List.foldl_append, List.foldl_cons]
  -- from the binding on nothing takes the SID from its owner
  refine foldl_never (I := Orderly) (J := fun r => r.sids.owner? sid = some ref)
    (fun _ _ _ h hnew => h.step hnew) (fun _ _ _ h => owner?_step h.coherent) ?_ hnew hbound hnever
  have hstep := hbefore.step (x := .bindAttempt now ref sid)
    (by simpa [newIds] using (List.nodup_append.1 hnew).1)
  simpa [newIds, run] using hstep

/-! ### Exactness -/

/-- A SID finds whatever has it, one attempt has it at most, and a binding needs its attempt. -/
structure Exact (r : JobRegister) : Prop where
  found : ∀ sid j a,
    r.findSid? sid = some (j, a) ↔ j ∈ r.jobs ∧ a ∈ j.attempts ∧ a.sid = some sid
  single : ∀ sid, ∀ j ∈ r.jobs, ∀ a ∈ j.attempts, ∀ j' ∈ r.jobs, ∀ a' ∈ j'.attempts,
    a.sid = some sid → a'.sid = some sid → j = j' ∧ a = a'
  unknown : ∀ now ref sid, (∀ j ∈ r.jobs, ∀ a ∈ j.attempts, ⟨j.id, a.id⟩ ≠ ref) →
    r.bindSid now ref sid = none ∧ r.step (.bindAttempt now ref sid) = r

theorem Orderly.exact {made : List Uuid} (h : r.Orderly made) : r.Exact where
  found _ _ _ := h.coherent.findSid?_eq_some_iff h.keyed
  single sid j hj a ha j' hj' a' ha' hsid hsid' := by
    have hfound := (h.coherent.findSid?_eq_some_iff h.keyed).2 ⟨hj, ha, hsid⟩
    rw [(h.coherent.findSid?_eq_some_iff h.keyed).2 ⟨hj', ha', hsid'⟩] at hfound
    simpa [eq_comm] using hfound
  unknown now ref sid hunknown := by
    have hnone : r.bindSid now ref sid = none := by
      rw [← Option.not_isSome_iff_eq_none, bindSid_isSome]
      intro hthere
      obtain ⟨⟨j, a⟩, hfound⟩ := Option.isSome_iff_exists.1 hthere
      have href := attempt?_ref hfound
      rw [← href] at hfound
      obtain ⟨hj, ha⟩ := h.keyed.attempt?_eq_some_iff.1 hfound
      exact hunknown j hj a ha href
    exact ⟨hnone, by simp [JobRegister.step, hnone]⟩

/-- An owner in the index is found. -/
theorem Coherent.findSid?_of_owner? (h : r.Coherent) {sid : String} {ref : AttemptRef}
    (howner : r.sids.owner? sid = some ref) :
    ∃ j a, r.findSid? sid = some (j, a) ∧ (⟨j.id, a.id⟩ : AttemptRef) = ref := by
  obtain ⟨j, a, hfound, -⟩ := sidOf?_eq_some_iff.1 (h.owner?_eq_some_iff.1 howner)
  exact ⟨j, a, JobRegister.findSid?_eq_some_iff.2 ⟨ref, howner, hfound⟩, attempt?_ref hfound⟩

end JobRegister

/-! ## Transfers -/

namespace TransferRegister

variable {r r' : TransferRegister} {x : RegisterAction}

/-- What an action does to the transfers. -/
def step (r : TransferRegister) : RegisterAction → TransferRegister
  | .createSession now id mode input => r.insert (.create now id mode input)
  | .setStatus now id status => ((r.setStatus now id status).map (·.2)).getD r
  | .bindLeg now ref sid => ((r.bindSid now ref sid).map (·.2)).getD r
  | .resetTransfers => {}
  | _ => r

/-- The transfers after some actions. -/
def run (actions : List RegisterAction) : TransferRegister := actions.foldl step {}

/-- Identifiers are keys that have been made before, and index and slots agree. -/
structure Orderly (made : List Uuid) (r : TransferRegister) : Prop where
  keyed : r.Keyed
  coherent : r.Coherent
  made : ∀ id, (r.get? id).isSome → id ∈ made

theorem orderly_empty : Orderly [] {} := ⟨keyed_empty, coherent_empty, by simp [get?]⟩

theorem Orderly.mono {made made' : List Uuid} (h : r.Orderly made) (hle : made ⊆ made') :
    r.Orderly made' := ⟨h.keyed, h.coherent, fun id hid => hle (h.made id hid)⟩

theorem Orderly.setStatus {made : List Uuid} (h : r.Orderly made) {now : Instant} {id : Uuid}
    {status : TransferStatus} {t : Session} (hset : r.setStatus now id status = some (t, r')) :
    r'.Orderly made := by
  have hcoherent := h.coherent.setStatus hset
  obtain ⟨-, rfl⟩ := update_eq_some_iff.1 hset
  have hid : ∀ t : Session, { t with status, updatedAt := now }.id = t.id := fun _ => rfl
  refine ⟨h.keyed.modify hid id, hcoherent, fun k hk => h.made k ?_⟩
  rwa [get?_modify hid, Option.isSome_map] at hk

theorem Orderly.bindSid {made : List Uuid} (h : r.Orderly made) {now : Instant} {ref : LegRef}
    {sid : String} {t : Session} (hbind : r.bindSid now ref sid = some (t, r')) :
    r'.Orderly made := by
  refine ⟨h.keyed.bindSid hbind, h.coherent.bindSid hbind, fun k hk => h.made k ?_⟩
  obtain ⟨-, rfl⟩ := bindSid_eq_some hbind
  have hget := get?_modify (Session.setsSlot_put now ref.leg sid).id_eq (r.released ref sid)
    ref.transferId k
  rw [← get?_released_isSome r ref sid k, ← Option.isSome_map, ← hget]
  exact hk

/-- **An action keeps the register orderly if the identifiers that it makes are new.** -/
theorem Orderly.step {made : List Uuid} (h : r.Orderly made) (hnew : (made ++ x.newIds).Nodup) :
    (r.step x).Orderly (made ++ x.newIds) := by
  have hstill := h.mono (List.subset_append_left made x.newIds)
  cases x with
  | createSession now id mode input =>
    obtain ⟨-, -, hfresh⟩ := List.nodup_append.1 hnew
    -- whatever is registered has been made before, and the identifier is new
    have hnone : r.get? id = none := by
      rw [← Option.not_isSome_iff_eq_none]
      exact fun hid => hfresh id (h.made id hid) id (by simp [newIds]) rfl
    refine ⟨h.keyed.insert _, h.coherent.insert hnone rfl, fun k hk => ?_⟩
    simp only [TransferRegister.step, get?_insert] at hk
    split at hk
    · rename_i hid
      exact List.mem_append_right _ (by simp [newIds, ← hid, Session.create])
    · exact hstill.made k hk
  | setStatus now id status =>
    cases hset : r.setStatus now id status with
    | none => simpa [TransferRegister.step, hset] using hstill
    | some found => simpa [TransferRegister.step, hset] using hstill.setStatus hset
  | bindLeg now ref sid =>
    cases hbind : r.bindSid now ref sid with
    | none => simpa [TransferRegister.step, hbind] using hstill
    | some found => simpa [TransferRegister.step, hbind] using hstill.bindSid hbind
  | resetTransfers => exact orderly_empty.mono (List.nil_subset _)
  | createJob | markAttempt | bindAttempt | resetJobs => exact hstill

theorem orderly_run {actions : List RegisterAction} (hnew : (actions.flatMap newIds).Nodup) :
    (run actions).Orderly (actions.flatMap newIds) :=
  foldl_newIds (I := Orderly) (fun _ _ _ h hnew => h.step hnew) orderly_empty hnew

/-! ### The last binding -/

/-- The action displaces a SID or a leg that it is bound to. -/
def Displaces (r : TransferRegister) (ref : LegRef) (sid : String) : RegisterAction → Prop
  | .bindLeg _ ref' sid' => (ref' = ref ∨ sid' = sid) ∧ (r.get? ref'.transferId).isSome
  | .resetTransfers => True
  | _ => False

/-- A binding that works makes the leg the SID's owner. -/
theorem owner?_step_bind (hc : r.Coherent) (now : Instant) {ref : LegRef} (sid : String)
    (hthere : (r.get? ref.transferId).isSome) :
    (r.step (.bindLeg now ref sid)).sids.owner? sid = some ref := by
  rw [← bindSid_isSome r now ref sid] at hthere
  obtain ⟨⟨t, r'⟩, hbind⟩ := Option.isSome_iff_exists.1 hthere
  obtain ⟨-, rfl⟩ := bindSid_eq_some hbind
  simp only [TransferRegister.step, hbind, Option.map_some, Option.getD_some]
  rw [SidIndex.owner?_bind hc.linked, if_pos rfl]

/-- Whatever does not displace a SID leaves it with its owner. -/
theorem owner?_step (hc : r.Coherent) {ref : LegRef} {sid : String}
    (howner : r.sids.owner? sid = some ref) (hx : ¬ r.Displaces ref sid x) :
    (r.step x).sids.owner? sid = some ref := by
  cases x with
  | createSession | createJob | markAttempt | bindAttempt | resetJobs => exact howner
  | setStatus now id status =>
    cases hset : r.setStatus now id status with
    | none => simpa [TransferRegister.step, hset] using howner
    | some found =>
      obtain ⟨-, hr'⟩ := update_eq_some_iff.1 hset
      simpa [TransferRegister.step, hset, hr'] using howner
  | bindLeg now ref' sid' =>
    cases hbind : r.bindSid now ref' sid' with
    | none => simpa [TransferRegister.step, hbind] using howner
    | some found =>
      obtain ⟨hthere, hr'⟩ := bindSid_eq_some hbind
      -- the binding works, so it is of another SID to another owner
      have hother : ¬ (ref' = ref ∨ sid' = sid) := fun h => hx ⟨h, hthere⟩
      rw [not_or] at hother
      have hkept := SidIndex.owner?_bind_other hc.linked (Ne.symm hother.2)
        (Ne.symm hother.1) howner
      simpa [TransferRegister.step, hbind, hr'] using hkept
  | resetTransfers => exact absurd trivial hx

/-- **The last binding wins.** A binding that works holds as long as nothing displaces it. -/
theorem owner?_run {before after : List RegisterAction} {now : Instant} {ref : LegRef}
    {sid : String} (hnew : ((before ++ .bindLeg now ref sid :: after).flatMap newIds).Nodup)
    (hthere : ((run before).get? ref.transferId).isSome)
    (hnever : Never step (Displaces · ref sid) ((run before).step (.bindLeg now ref sid)) after) :
    (run (before ++ .bindLeg now ref sid :: after)).sids.owner? sid = some ref := by
  rw [List.flatMap_append, List.flatMap_cons] at hnew
  have hbefore := orderly_run (List.nodup_append.1 hnew).1
  have hbound := owner?_step_bind hbefore.coherent now sid hthere
  rw [run, List.foldl_append, List.foldl_cons]
  -- from the binding on nothing takes the SID from its owner
  refine foldl_never (I := Orderly) (J := fun r => r.sids.owner? sid = some ref)
    (fun _ _ _ h hnew => h.step hnew) (fun _ _ _ h => owner?_step h.coherent) ?_ hnew hbound hnever
  have hstep := hbefore.step (x := .bindLeg now ref sid)
    (by simpa [newIds] using (List.nodup_append.1 hnew).1)
  simpa [newIds, run] using hstep

/-! ### Exactness -/

/-- A SID finds whatever has it, one leg has it at most, and a binding needs its session. -/
structure Exact (r : TransferRegister) : Prop where
  found : ∀ sid t leg,
    r.findSid? sid = some (t, leg) ↔ t ∈ r.sessions ∧ t.sids.get leg = some sid
  single : ∀ sid, ∀ t ∈ r.sessions, ∀ t' ∈ r.sessions, ∀ leg leg',
    t.sids.get leg = some sid → t'.sids.get leg' = some sid → t = t' ∧ leg = leg'
  unknown : ∀ now ref sid, (∀ t ∈ r.sessions, t.id ≠ ref.transferId) →
    r.bindSid now ref sid = none ∧ r.step (.bindLeg now ref sid) = r

theorem Orderly.exact {made : List Uuid} (h : r.Orderly made) : r.Exact where
  found _ _ _ := h.coherent.findSid?_eq_some_iff h.keyed
  single sid t ht t' ht' leg leg' hsid hsid' := by
    have hfound := (h.coherent.findSid?_eq_some_iff h.keyed).2 ⟨ht, hsid⟩
    rw [(h.coherent.findSid?_eq_some_iff h.keyed).2 ⟨ht', hsid'⟩] at hfound
    simpa [eq_comm] using hfound
  unknown now ref sid hunknown := by
    have hnone : r.bindSid now ref sid = none := by
      rw [← Option.not_isSome_iff_eq_none, bindSid_isSome]
      intro hthere
      obtain ⟨t, hfound⟩ := Option.isSome_iff_exists.1 hthere
      obtain ⟨ht, hid⟩ := h.keyed.get?_eq_some_iff.1 hfound
      exact hunknown t ht hid
    exact ⟨hnone, by simp [TransferRegister.step, hnone]⟩

/-- An owner in the index is found. -/
theorem Coherent.findSid?_of_owner? (h : r.Coherent) {sid : String} {ref : LegRef}
    (howner : r.sids.owner? sid = some ref) :
    ∃ t, r.findSid? sid = some (t, ref.leg) ∧ t.id = ref.transferId := by
  obtain ⟨t, hfound, -⟩ := slot?_eq_some_iff.1 (h.owner?_eq_some_iff.1 howner)
  exact ⟨t, by simp [findSid?, howner, hfound], get?_id hfound⟩

end TransferRegister

/-! ## Both registers -/

/-- **SIDs are correlated exactly.** After any actions that make new identifiers, a SID finds a
record if and only if the record is registered and has the SID; one record has it at most, a binding
of what is not registered changes nothing, and the last binding that worked wins. -/
theorem sids_exact (actions : List RegisterAction) (hnew : (actions.flatMap newIds).Nodup) :
    (JobRegister.run actions).Exact ∧
    (TransferRegister.run actions).Exact ∧
    (∀ before now ref sid after, actions = before ++ .bindAttempt now ref sid :: after →
      ((JobRegister.run before).attempt? ref).isSome →
      Never JobRegister.step (JobRegister.Displaces · ref sid)
        ((JobRegister.run before).step (.bindAttempt now ref sid)) after →
      ∃ j a, (JobRegister.run actions).findSid? sid = some (j, a) ∧
        (⟨j.id, a.id⟩ : AttemptRef) = ref) ∧
    (∀ before now ref sid after, actions = before ++ .bindLeg now ref sid :: after →
      ((TransferRegister.run before).get? ref.transferId).isSome →
      Never TransferRegister.step (TransferRegister.Displaces · ref sid)
        ((TransferRegister.run before).step (.bindLeg now ref sid)) after →
      ∃ t, (TransferRegister.run actions).findSid? sid = some (t, ref.leg) ∧
        t.id = ref.transferId) := by
  have hjobs := JobRegister.orderly_run hnew
  have htransfers := TransferRegister.orderly_run hnew
  refine ⟨hjobs.exact, htransfers.exact, ?_, ?_⟩
  · rintro before now ref sid after rfl hthere hnever
    exact hjobs.coherent.findSid?_of_owner? (JobRegister.owner?_run hnew hthere hnever)
  · rintro before now ref sid after rfl hthere hnever
    exact htransfers.coherent.findSid?_of_owner? (TransferRegister.owner?_run hnew hthere hnever)

/-- One SID for both attempts of a job, one after the other, and for both legs of a session. -/
def repeatedSids : List RegisterAction :=
  [.createJob (.midnight 0) (.ofNat 0) (fun i => .ofNat (i + 1)) .dryRun
      ⟨"Needs a bed tonight.", none, false, false⟩
      [⟨1, "Harbor House", none, none, none⟩, ⟨2, "Elm House", none, none, none⟩],
    .createSession (.midnight 0) (.ofNat 3) .dryRun
      ⟨.ofNat 0, .ofNat 1, "Harbor House", "+15550100", "+15550199", none, none⟩,
    .bindAttempt (Instant.midnight 0) ⟨.ofNat 0, .ofNat 1⟩ "CA1",
    .bindLeg (.midnight 0) ⟨.ofNat 3, .survivor⟩ "CA2",
    .bindLeg (.midnight 0) ⟨.ofNat 3, .shelter⟩ "CA2",
    .bindAttempt (Instant.midnight 0) ⟨.ofNat 0, .ofNat 2⟩ "CA1"]

/-- Such a SID ends up with the second attempt. -/
theorem sids_exact_repeatedSids : (repeatedSids.flatMap newIds).Nodup ∧
    (TransferRegister.run repeatedSids).Exact ∧
    ∃ j a, (JobRegister.run repeatedSids).findSid? "CA1" = some (j, a) ∧
      (⟨j.id, a.id⟩ : AttemptRef) = ⟨.ofNat 0, .ofNat 2⟩ := by
  have hnew : (repeatedSids.flatMap newIds).Nodup := by decide
  obtain ⟨-, htransfers, hlast, -⟩ := sids_exact repeatedSids hnew
  exact ⟨hnew, htransfers, hlast (repeatedSids.take 5) _ _ _ [] rfl rfl trivial⟩

end ShelterLine

import ShelterLine.Proofs.Restore

/-!
# What records go by

Whatever refers to a record goes by a name: the identifier of a job, of an attempt or of a
session, or the SID of a call, which the index knows as well. What is not named is not found.
And no change of a register brings a name that it was not given; a binding brings its SID,
whatever else it displaces.
-/

namespace ShelterLine

/-! ## Names -/

/-- Something that records go by. -/
inductive Name where
  | id (id : Uuid)
  | sid (sid : String)
deriving DecidableEq

/-- The name that there is if there is a SID. -/
def Name.ofSid? (sid : Option String) : List Name := sid.toList.map .sid

theorem Name.mem_ofSid? {n : Name} {sid : Option String} :
    n ∈ ofSid? sid ↔ ∃ s, sid = some s ∧ n = .sid s := by
  cases sid <;> simp [ofSid?]

/-- The names of an attempt. -/
def Attempt.names (a : Attempt) : List Name := .id a.id :: Name.ofSid? a.sid

/-- The names of a job and of its attempts. -/
def Job.names (j : Job) : List Name := .id j.id :: j.attempts.flatMap Attempt.names

/-- The names of a session and of its calls. -/
def Session.names (t : Session) : List Name :=
  .id t.id :: (Name.ofSid? t.sids.survivor ++ Name.ofSid? t.sids.shelter)

/-- The SIDs that somebody owns. -/
def SidIndex.names {κ : Type} (ix : SidIndex κ) : List Name := ix.bySid.entries.map (.sid ·.1)

/-- The names of what is registered, and of what is indexed. -/
def JobRegister.names (r : JobRegister) : List Name := r.jobs.flatMap Job.names ++ r.sids.names

/-- The names of what is registered, and of what is indexed. -/
def TransferRegister.names (r : TransferRegister) : List Name :=
  r.sessions.flatMap Session.names ++ r.sids.names

/-- Everything that something at the desk goes by. -/
def Desk.names (d : Desk) : List Name := d.jobs.names ++ d.transfers.names

theorem Job.mem_names {n : Name} {j : Job} :
    n ∈ j.names ↔ n = .id j.id ∨ ∃ a ∈ j.attempts, n ∈ a.names := by
  unfold names
  rw [List.mem_cons, List.mem_flatMap]

theorem Session.mem_names {n : Name} {t : Session} :
    n ∈ t.names ↔ n = .id t.id ∨ ∃ leg, n ∈ Name.ofSid? (t.sids.get leg) := by
  unfold names
  rw [List.mem_cons, List.mem_append]
  refine or_congr_right ⟨?_, ?_⟩
  · rintro (hn | hn)
    · exact ⟨.survivor, hn⟩
    · exact ⟨.shelter, hn⟩
  · rintro ⟨leg, hn⟩
    cases leg
    · exact Or.inl hn
    · exact Or.inr hn

theorem JobRegister.mem_names {n : Name} {r : JobRegister} :
    n ∈ r.names ↔ (∃ j ∈ r.jobs, n ∈ j.names) ∨ n ∈ r.sids.names := by
  unfold names
  rw [List.mem_append, List.mem_flatMap]

theorem TransferRegister.mem_names {n : Name} {r : TransferRegister} :
    n ∈ r.names ↔ (∃ t ∈ r.sessions, n ∈ t.names) ∨ n ∈ r.sids.names := by
  unfold names
  rw [List.mem_append, List.mem_flatMap]

/-! ## What a change brings -/

/-- What both parts are given, the whole is given. -/
theorem append_subset_given {old old' new new' given : List Name} (h : new ⊆ old ++ given)
    (h' : new' ⊆ old' ++ given) : new ++ new' ⊆ old ++ old' ++ given := by
  intro n hn
  rcases List.mem_append.1 hn with hn | hn
  · rcases List.mem_append.1 (h hn) with hold | hgiven
    · exact List.mem_append_left _ (List.mem_append_left _ hold)
    · exact List.mem_append_right _ hgiven
  · rcases List.mem_append.1 (h' hn) with hold | hgiven
    · exact List.mem_append_left _ (List.mem_append_right _ hold)
    · exact List.mem_append_right _ hgiven

section

variable {γ : Type} {names : γ → List Name}

/-- A record that is put in place of others brings its own names. -/
theorem flatMap_cons_filter_subset (e : γ) (keep : γ → Bool) (es : List γ) :
    (e :: es.filter keep).flatMap names ⊆ es.flatMap names ++ names e := by
  intro n hn
  rw [List.flatMap_cons] at hn
  rcases List.mem_append.1 hn with hn | hn
  · exact List.mem_append_right _ hn
  · obtain ⟨e', he', hn⟩ := List.mem_flatMap.1 hn
    exact List.mem_append_left _ (List.mem_flatMap.2 ⟨e', (List.mem_filter.1 he').1, hn⟩)

/-- Records that are changed bring what the change is given. -/
theorem flatMap_map_subset {f : γ → γ} {given : List Name}
    (hf : ∀ e, names (f e) ⊆ names e ++ given) (es : List γ) :
    (es.map f).flatMap names ⊆ es.flatMap names ++ given := by
  intro n hn
  obtain ⟨_, hmem, hn⟩ := List.mem_flatMap.1 hn
  obtain ⟨e, he, rfl⟩ := List.mem_map.1 hmem
  rcases List.mem_append.1 (hf e hn) with hold | hgiven
  · exact List.mem_append_left _ (List.mem_flatMap.2 ⟨e, he, hold⟩)
  · exact List.mem_append_right _ hgiven

theorem ite_subset {f : γ → γ} {given : List Name} (hf : ∀ e, names (f e) ⊆ names e ++ given)
    (p : γ → Prop) [DecidablePred p] (e : γ) :
    names (if p e then f e else e) ⊆ names e ++ given := by
  split
  · exact hf e
  · exact List.subset_append_left _ _

end

namespace SidIndex

variable {κ : Type} {ix : SidIndex κ}

theorem mem_names {n : Name} :
    n ∈ ix.names ↔ ∃ sid owner, ix.owner? sid = some owner ∧ n = .sid sid := by
  unfold names owner?
  constructor
  · intro hn
    obtain ⟨⟨sid, owner⟩, hentry, rfl⟩ := List.mem_map.1 hn
    exact ⟨sid, owner, Dictionary.get?_eq_some_iff.2 hentry, rfl⟩
  · rintro ⟨sid, owner, howner, rfl⟩
    exact List.mem_map.2 ⟨(sid, owner), Dictionary.get?_eq_some_iff.1 howner, rfl⟩

variable [DecidableEq κ]

/-- Whatever a binding displaces, only its SID can be new in the index. -/
theorem owner?_of_bind {sid s : String} {owner o : κ} (h : (ix.bind sid owner).owner? s = some o) :
    s = sid ∨ ix.owner? s = some o := by
  by_cases hs : s = sid
  · exact Or.inl hs
  · refine Or.inr ?_
    unfold bind at h
    split at h
    · exact h
    · have hget := Dictionary.get?_insert ((ix.freeSid sid).dropSidOf owner).bySid sid s owner
      rw [if_neg hs] at hget
      have hkept : ((ix.freeSid sid).dropSidOf owner).owner? s = some o := hget.symm.trans h
      rw [owner?_dropSidOf, owner?_freeSid, if_neg hs] at hkept
      split at hkept
      · cases hkept
      · exact hkept

theorem names_bind (ix : SidIndex κ) (sid : String) (owner : κ) :
    (ix.bind sid owner).names ⊆ ix.names ++ [.sid sid] := by
  intro n hn
  obtain ⟨s, o, howner, rfl⟩ := mem_names.1 hn
  rcases owner?_of_bind howner with rfl | hold
  · exact List.mem_append_right _ List.mem_cons_self
  · exact List.mem_append_left _ (mem_names.2 ⟨s, o, hold, rfl⟩)

theorem names_bindAll (ix : SidIndex κ) {pairs : List (String × κ)} {given : List Name}
    (hgiven : ∀ p ∈ pairs, .sid p.1 ∈ given) : (ix.bindAll pairs).names ⊆ ix.names ++ given := by
  induction pairs generalizing ix with
  | nil => exact List.subset_append_left _ _
  | cons p pairs ih =>
    intro n hn
    rcases List.mem_append.1
      (ih (ix.bind p.1 p.2) (List.forall_mem_cons.1 hgiven).2 hn) with hn | hn
    · rcases List.mem_append.1 (names_bind ix p.1 p.2 hn) with hold | hsid
      · exact List.mem_append_left _ hold
      · obtain rfl := List.mem_singleton.1 hsid
        exact List.mem_append_right _ (hgiven p List.mem_cons_self)
    · exact List.mem_append_right _ hn

end SidIndex

/-! ## Jobs -/

theorem Attempt.names_apply (now : Instant) (p : Patch) (a : Attempt) :
    (a.apply now p).names ⊆ a.names ++ Name.ofSid? p.sid := by
  intro n hn
  rcases List.mem_cons.1 hn with rfl | hn
  · exact List.mem_append_left _ List.mem_cons_self
  · obtain ⟨s, hs, rfl⟩ := Name.mem_ofSid?.1 hn
    -- the SID comes from the patch, or the attempt had it before
    rcases Option.or_eq_some_iff.1 hs with hpatch | ⟨-, hold⟩
    · exact List.mem_append_right _ (Name.mem_ofSid?.2 ⟨s, hpatch, rfl⟩)
    · exact List.mem_append_left _ (List.mem_cons_of_mem _ (Name.mem_ofSid?.2 ⟨s, hold, rfl⟩))

namespace Job

theorem Touches.names {id : Uuid} {g : Attempt → Attempt} {f : Job → Job} (h : Touches id g f)
    {given : List Name} (hg : ∀ a, (g a).names ⊆ a.names ++ given) (j : Job) :
    (f j).names ⊆ j.names ++ given := by
  intro n hn
  rcases mem_names.1 hn with rfl | ⟨a, ha, hn⟩
  · rw [h.id_eq]
    exact List.mem_append_left _ List.mem_cons_self
  · rw [h.attempts_eq] at ha
    rcases mem_modifyAttempt ha with ha | ⟨b, hb, -, rfl⟩
    · exact List.mem_append_left _ (mem_names.2 (.inr ⟨a, ha, hn⟩))
    · rcases List.mem_append.1 (hg b hn) with hold | hgiven
      · exact List.mem_append_left _ (mem_names.2 (.inr ⟨b, hb, hold⟩))
      · exact List.mem_append_right _ hgiven

/-- The SIDs that are bound when a job is taken in are names of the job. -/
theorem names_sidPairs {j : Job} {p : String × AttemptRef} (hp : p ∈ j.sidPairs) :
    .sid p.1 ∈ j.names := by
  obtain ⟨a, ha, hsid, -⟩ := mem_sidPairs.1 hp
  exact mem_names.2 (.inr ⟨a, ha, List.mem_cons_of_mem _ (Name.mem_ofSid?.2 ⟨p.1, hsid, rfl⟩)⟩)

end Job

namespace JobRegister

variable {r r' : JobRegister}

theorem names_insert (r : JobRegister) (j : Job) : (r.insert j).names ⊆ r.names ++ j.names :=
  append_subset_given (flatMap_cons_filter_subset j _ r.jobs) (List.subset_append_left _ _)

theorem names_modify {f : Job → Job} {given : List Name} (hf : ∀ j, (f j).names ⊆ j.names ++ given)
    (r : JobRegister) (id : Uuid) : (r.modify id f).names ⊆ r.names ++ given :=
  append_subset_given (flatMap_map_subset (ite_subset hf (·.id = id)) r.jobs)
    (List.subset_append_left _ _)

theorem names_modify_patch (r : JobRegister) (now : Moment) (ref : AttemptRef)
    (p : Attempt.Patch) :
    (r.modify ref.jobId (Job.patch now ref.attemptId p)).names ⊆ r.names ++ Name.ofSid? p.sid :=
  names_modify ((Job.touches_patch now ref.attemptId p).names (Attempt.names_apply now.attempt p)) r
    ref.jobId

theorem names_patch {now : Moment} {ref : AttemptRef} {p : Attempt.Patch} {job : Job}
    (h : r.patch now ref p = some (job, r')) : r'.names ⊆ r.names ++ Name.ofSid? p.sid := by
  obtain ⟨j, a, -, -, rfl⟩ := patch_eq_some_iff.1 h
  exact names_modify_patch r now ref p

theorem names_released (r : JobRegister) (ref : AttemptRef) (sid : String) :
    (r.released ref sid).names ⊆ r.names := by
  rcases released_cases r ref sid with h | ⟨old, h⟩
  · rw [h]
    exact List.Subset.refl _
  · have hclear : ∀ a : Attempt, Attempt.names { a with sid := none } ⊆ a.names ++ [] := by
      intro a n hn
      obtain rfl : n = .id a.id := List.mem_singleton.1 hn
      exact List.mem_cons_self
    have hmodify := names_modify ((Job.touches_clearSid old.attemptId).names hclear) r old.jobId
    rw [List.append_nil] at hmodify
    rw [h]
    exact hmodify

theorem names_bindSid {now : Moment} {ref : AttemptRef} {sid : String} {job : Job}
    (h : r.bindSid now ref sid = some (job, r')) : r'.names ⊆ r.names ++ [.sid sid] := by
  obtain ⟨-, rfl⟩ := bindSid_eq_some h
  intro n hn
  rcases mem_names.1 hn with hjob | hindex
  · -- the names of the jobs are those of a patch after the SID was released
    have hpatched := names_modify_patch (r.released ref sid) now ref { sid := some sid }
      (mem_names.2 (.inl hjob))
    rcases List.mem_append.1 hpatched with hold | hsid
    · exact List.mem_append_left _ (names_released r ref sid hold)
    · exact List.mem_append_right _ hsid
  · rcases List.mem_append.1 (SidIndex.names_bind r.sids sid ref hindex) with hold | hsid
    · exact List.mem_append_left _ (mem_names.2 (.inr hold))
    · exact List.mem_append_right _ hsid

theorem names_restore (r : JobRegister) (j : Job) : (r.restore j).2.names ⊆ r.names ++ j.names := by
  unfold restore
  split
  · exact List.subset_append_left _ _
  · rw [indexAttempts_eq]
    exact append_subset_given (flatMap_cons_filter_subset j _ r.jobs)
      (SidIndex.names_bindAll r.sids fun _ => Job.names_sidPairs)

/-! ### What has no such name is not found -/

theorem get?_of_not_mem_names {id : Uuid} (h : .id id ∉ r.names) : r.get? id = none := by
  rw [get?_eq_none_iff]
  rintro j hj rfl
  exact h (mem_names.2 (.inl ⟨j, hj, List.mem_cons_self⟩))

theorem attempt?_of_not_mem_names {ref : AttemptRef}
    (h : .id ref.jobId ∉ r.names ∨ .id ref.attemptId ∉ r.names) : r.attempt? ref = none := by
  rw [Option.eq_none_iff_forall_ne_some]
  rintro ⟨j, a⟩ hfound
  obtain ⟨hj, ha⟩ := attempt?_eq_some_iff.1 hfound
  rcases h with hjob | hattempt
  · rw [get?_of_not_mem_names hjob] at hj
    cases hj
  · have hname : Name.id ref.attemptId ∈ a.names := by
      rw [← Job.attempt?_id ha]
      exact List.mem_cons_self
    exact hattempt (mem_names.2 (.inl ⟨j, List.mem_of_find?_eq_some hj,
      Job.mem_names.2 (.inr ⟨a, Job.attempt?_mem ha, hname⟩)⟩))

theorem findSid?_of_not_mem_names {sid : String} (h : .sid sid ∉ r.names) :
    r.findSid? sid = none := by
  rw [Option.eq_none_iff_forall_ne_some]
  intro found hfound
  obtain ⟨ref, howner, -⟩ := findSid?_eq_some_iff.1 hfound
  exact h (mem_names.2 (.inr (SidIndex.mem_names.2 ⟨sid, ref, howner, rfl⟩)))

end JobRegister

/-! ## Transfers -/

namespace Session

/-- Setting a slot brings what is put into it. -/
theorem SetsSlot.names {leg : Leg} {sid : Option String} {f : Session → Session}
    (h : SetsSlot leg sid f) (t : Session) : (f t).names ⊆ t.names ++ Name.ofSid? sid := by
  intro n hn
  rcases mem_names.1 hn with rfl | ⟨k, hn⟩
  · rw [h.id_eq]
    exact List.mem_append_left _ List.mem_cons_self
  · rw [h.sids_eq, LegSids.get_set] at hn
    split at hn
    · exact List.mem_append_right _ hn
    · exact List.mem_append_left _ (mem_names.2 (.inr ⟨k, hn⟩))

/-- The SIDs that are bound when a session is taken in are names of the session. -/
theorem names_sidPairs {t : Session} {p : String × LegRef} (hp : p ∈ t.sidPairs) :
    .sid p.1 ∈ t.names := by
  obtain ⟨-, hsid⟩ := mem_sidPairs.1 hp
  exact mem_names.2 (.inr ⟨p.2.leg, Name.mem_ofSid?.2 ⟨p.1, hsid, rfl⟩⟩)

end Session

namespace TransferRegister

variable {r r' : TransferRegister}

theorem names_insert (r : TransferRegister) (t : Session) :
    (r.insert t).names ⊆ r.names ++ t.names :=
  append_subset_given (flatMap_cons_filter_subset t _ r.sessions) (List.subset_append_left _ _)

theorem names_modify {f : Session → Session} {given : List Name}
    (hf : ∀ t, (f t).names ⊆ t.names ++ given) (r : TransferRegister) (id : Uuid) :
    (r.modify id f).names ⊆ r.names ++ given :=
  append_subset_given (flatMap_map_subset (ite_subset hf (·.id = id)) r.sessions)
    (List.subset_append_left _ _)

/-- A status brings no names. -/
theorem names_modify_status (r : TransferRegister) (now : Instant) (id : Uuid)
    (status : TransferStatus) :
    (r.modify id fun t => { t with status, updatedAt := now }).names ⊆ r.names := by
  have hstatus : ∀ t : Session, Session.names { t with status, updatedAt := now } ⊆ t.names ++ [] :=
    fun t => List.subset_append_left t.names []
  have hmodify := names_modify hstatus r id
  rw [List.append_nil] at hmodify
  exact hmodify

theorem names_released (r : TransferRegister) (ref : LegRef) (sid : String) :
    (r.released ref sid).names ⊆ r.names := by
  unfold released
  split
  · rename_i old _
    split
    · exact List.Subset.refl _
    · have hmodify := names_modify (Session.setsSlot_clear old.leg).names r old.transferId
      have hnone : Name.ofSid? none = [] := rfl
      rw [hnone, List.append_nil] at hmodify
      exact hmodify
  · exact List.Subset.refl _

theorem names_bindSid {now : Instant} {ref : LegRef} {sid : String} {t : Session}
    (h : r.bindSid now ref sid = some (t, r')) : r'.names ⊆ r.names ++ [.sid sid] := by
  obtain ⟨-, rfl⟩ := bindSid_eq_some h
  intro n hn
  rcases mem_names.1 hn with hsession | hindex
  · have hput := names_modify (Session.setsSlot_put now ref.leg sid).names (r.released ref sid)
      ref.transferId (mem_names.2 (.inl hsession))
    rcases List.mem_append.1 hput with hold | hsid
    · exact List.mem_append_left _ (names_released r ref sid hold)
    · exact List.mem_append_right _ hsid
  · rcases List.mem_append.1 (SidIndex.names_bind r.sids sid ref hindex) with hold | hsid
    · exact List.mem_append_left _ (mem_names.2 (.inr hold))
    · exact List.mem_append_right _ hsid

theorem names_restore (r : TransferRegister) (t : Session) :
    (r.restore t).2.names ⊆ r.names ++ t.names := by
  unfold restore
  split
  · exact List.subset_append_left _ _
  · rw [indexLegs_eq]
    exact append_subset_given (flatMap_cons_filter_subset t _ r.sessions)
      (SidIndex.names_bindAll r.sids fun _ => Session.names_sidPairs)

/-! ### What has no such name is not found -/

theorem get?_of_not_mem_names {id : Uuid} (h : .id id ∉ r.names) : r.get? id = none := by
  rw [get?_eq_none_iff]
  rintro t ht rfl
  exact h (mem_names.2 (.inl ⟨t, ht, List.mem_cons_self⟩))

theorem findSid?_of_not_mem_names {sid : String} (h : .sid sid ∉ r.names) :
    r.findSid? sid = none := by
  have hfree : r.sids.owner? sid = none := by
    rw [Option.eq_none_iff_forall_ne_some]
    intro ref howner
    exact h (mem_names.2 (.inr (SidIndex.mem_names.2 ⟨sid, ref, howner, rfl⟩)))
  unfold findSid?
  rw [hfree]
  rfl

end TransferRegister

end ShelterLine

import Mathlib.Data.List.Forall2
import ShelterLine.Desk.Callback
import ShelterLine.Proofs.JobRegister

/-!
# How attempts progress

A registered attempt is in one of two shapes once its job has been dialed. It failed locally and was
never called, or it was called and is followed by its reports. Reports go by SIDs, and a locally
failed attempt has none: since index and attempts agree, nothing finds it any more. `Sound` collects
what this needs of a register, with the attempts that are still to be dialed set apart, and `Moves`
is what the changes of a register do to its jobs.
-/

namespace ShelterLine

namespace Attempt

/-! ## Shapes -/

/-- Not dialed yet. -/
structure Untouched (a : Attempt) : Prop where
  status : a.status = .queued
  sid : a.sid = none
  recordingUrl : a.recordingUrl = none
  error : a.error = none
  excerpt : a.excerpt = none
  report : a.report = none

/-- Failed before there was a call. -/
structure LocallyFailed (a : Attempt) : Prop where
  status : a.status = .failed
  error : a.error ≠ none
  sid : a.sid = none
  recordingUrl : a.recordingUrl = none
  excerpt : a.excerpt = none
  report : a.report = none

/-- Called: initiated, completed or failed. -/
structure Dialed (a : Attempt) : Prop where
  status : a.status ≠ .queued
  error : a.error = none
  script : a.script ≠ none
  scriptSource : a.scriptSource ≠ none

/-- The same call to the same shelter. -/
structure SameTarget (a a' : Attempt) : Prop where
  id : a'.id = a.id
  jobId : a'.jobId = a.jobId
  shelterId : a'.shelterId = a.shelterId
  shelterName : a'.shelterName = a.shelterName
  toPhone : a'.toPhone = a.toPhone

/-- Goes on as a dialed attempt, and if it was over it stays over. -/
def Advances (a a' : Attempt) : Prop :=
  a.Dialed → a'.Dialed ∧ (a.status.isTerminal = true → a'.status.isTerminal = true)

/-- Without a SID nothing happens, and with one only progress. -/
structure Steady (a a' : Attempt) : Prop where
  target : SameTarget a a'
  unreached : a.sid = none → a' = a
  advances : Advances a a'

/-- What becomes of an attempt that was settled: a failed one stays as it is, and a
dialed one goes on. -/
structure Follows (a a' : Attempt) : Prop where
  target : SameTarget a a'
  locallyFailed : a.LocallyFailed → a' = a
  dialed : Advances a a'

theorem SameTarget.refl (a : Attempt) : SameTarget a a := ⟨rfl, rfl, rfl, rfl, rfl⟩

theorem SameTarget.trans {a b c : Attempt} (h : SameTarget a b) (h' : SameTarget b c) :
    SameTarget a c :=
  ⟨h'.id.trans h.id, h'.jobId.trans h.jobId, h'.shelterId.trans h.shelterId,
    h'.shelterName.trans h.shelterName, h'.toPhone.trans h.toPhone⟩

theorem Advances.refl (a : Attempt) : Advances a a := fun h => ⟨h, fun hend => hend⟩

theorem Advances.trans {a b c : Attempt} (h : Advances a b) (h' : Advances b c) : Advances a c := by
  intro ha
  obtain ⟨hb, hover⟩ := h ha
  obtain ⟨hc, hover'⟩ := h' hb
  exact ⟨hc, fun hend => hover' (hover hend)⟩

theorem Steady.follows {a a' : Attempt} (h : Steady a a') : Follows a a' :=
  ⟨h.target, fun hf => h.unreached hf.sid, h.advances⟩

theorem Steady.refl (a : Attempt) : Steady a a := ⟨.refl a, fun _ => rfl, .refl a⟩

theorem Steady.trans {a b c : Attempt} (h : Steady a b) (h' : Steady b c) : Steady a c := by
  refine ⟨h.target.trans h'.target, fun hnone => ?_, h.advances.trans h'.advances⟩
  have hb := h.unreached hnone
  rw [hb] at h'
  exact h'.unreached hnone

theorem sameTarget_apply (now : Instant) (p : Patch) (a : Attempt) : SameTarget a (a.apply now p) :=
  ⟨rfl, rfl, rfl, rfl, rfl⟩

/-- A patch that a report may make: it moves a dialed attempt forward. -/
structure Patch.Reports (p : Patch) (a : Attempt) : Prop where
  sid : p.sid = none
  error : p.error = none
  status : ∀ status, p.status = some status →
    status ≠ .queued ∧ (a.status.isTerminal = true → status.isTerminal = true)

/-- A report moves a dialed attempt forward. -/
theorem advances_apply {p : Patch} {a : Attempt} (h : p.Reports a) (now : Instant) :
    Advances a (a.apply now p) := by
  intro hd
  refine ⟨⟨?_, ?_, ?_, ?_⟩, ?_⟩
  · cases hs : p.status with
    | none => simpa [apply, hs] using hd.status
    | some status => simpa [apply, hs] using (h.status status hs).1
  · simp [apply, h.error, hd.error]
  · simp only [apply, ne_eq, Option.or_eq_none_iff, not_and]
    exact fun _ => hd.script
  · simp only [apply, ne_eq, Option.or_eq_none_iff, not_and]
    exact fun _ => hd.scriptSource
  · intro hend
    cases hs : p.status with
    | none => simpa [apply, hs] using hend
    | some status => simpa [apply, hs] using (h.status status hs).2 hend

/-- An attempt that is refused or cannot be called fails locally. -/
theorem Untouched.failed {a : Attempt} (h : a.Untouched) (now : Instant) (reason : String)
    (script : Option String) (source : Option ScriptSource) :
    (a.apply now { Patch.failed reason with
      script := script, scriptSource := source }).LocallyFailed where
  status := rfl
  error := by simp [apply, Patch.failed]
  sid := h.sid
  recordingUrl := h.recordingUrl
  excerpt := h.excerpt
  report := h.report

/-- An attempt whose call was placed is dialed. -/
theorem Untouched.initiated {a : Attempt} (h : a.Untouched) (now : Instant) (script : String)
    (source : ScriptSource) :
    (a.apply now {
      status := some .initiated, script := some script, scriptSource := some source }).Dialed where
  status := by simp [apply]
  error := h.error
  script := by simp [apply]
  scriptSource := by simp [apply]

theorem not_locallyFailed_of_dialed {a : Attempt} (h : a.Dialed) : ¬ a.LocallyFailed :=
  fun hf => hf.error h.error

end Attempt

/-! ## Jobs -/

theorem forall₂_comp {α β γ : Type} {R : α → β → Prop} {S : β → γ → Prop} {T : α → γ → Prop}
    (hT : ∀ a b c, R a b → S b c → T a c) {as : List α} {bs : List β} {cs : List γ}
    (h : List.Forall₂ R as bs) (h' : List.Forall₂ S bs cs) : List.Forall₂ T as cs := by
  induction h generalizing cs with
  | nil =>
    cases h'
    exact .nil
  | cons hab _ ih =>
    cases h' with
    | cons hbc h' => exact .cons (hT _ _ _ hab hbc) (ih h')

/-- The later job is the earlier one; its attempts are the same ones, in order, and each is related
by `R` to what it was. -/
structure Job.Becomes (R : AttemptRef → Attempt → Attempt → Prop) (j j' : Job) : Prop where
  id : j'.id = j.id
  mode : j'.mode = j.mode
  createdAt : j'.createdAt = j.createdAt
  request : j'.request = j.request
  attempts : List.Forall₂ (fun a a' => R ⟨j.id, a.id⟩ a a') j.attempts j'.attempts

theorem Job.Becomes.mono {R S : AttemptRef → Attempt → Attempt → Prop} {j j' : Job}
    (h : j.Becomes R j') (hRS : ∀ a a', R ⟨j.id, a.id⟩ a a' → S ⟨j.id, a.id⟩ a a') :
    j.Becomes S j' :=
  ⟨h.id, h.mode, h.createdAt, h.request, h.attempts.imp fun a a' => hRS a a'⟩

theorem Job.Becomes.refl {R : AttemptRef → Attempt → Attempt → Prop}
    (hR : ∀ k a, R k a a) (j : Job) :
    j.Becomes R j := ⟨rfl, rfl, rfl, rfl, List.forall₂_same.2 fun a _ => hR _ a⟩

theorem Job.Becomes.trans {R S T : AttemptRef → Attempt → Attempt → Prop} {j j' j'' : Job}
    (h : j.Becomes R j') (h' : j'.Becomes S j'') (hid : ∀ k a b, R k a b → b.id = a.id)
    (hT : ∀ k a b c, R k a b → S k b c → T k a c) : j.Becomes T j'' := by
  refine ⟨h'.id.trans h.id, h'.mode.trans h.mode, h'.createdAt.trans h.createdAt,
    h'.request.trans h.request, forall₂_comp (fun a b c hab hbc => ?_) h.attempts h'.attempts⟩
  rw [h.id, hid _ a b hab] at hbc
  exact hT _ a b c hab hbc

/-! ## Registers -/

/-- With different identifiers, changing the first attempt that has one changes all of them. -/
theorem Job.modifyAttempt_eq_map {id : Uuid} {f : Attempt → Attempt} : ∀ {as : List Attempt},
    (as.map (·.id)).Nodup → modifyAttempt id f as = as.map fun a => if a.id = id then f a else a
  | [], _ => rfl
  | a :: as, hn => by
    rw [List.map_cons, List.nodup_cons] at hn
    rw [modifyAttempt, List.map_cons]
    by_cases ha : a.id = id
    · -- no later attempt has the identifier
      have hrest : as.map (fun b => if b.id = id then f b else b) = as := by
        refine (List.map_congr_left fun b hb => ?_).trans (List.map_id as)
        rw [if_neg]
        · rfl
        · exact fun hid => hn.1 (ha ▸ hid ▸ List.mem_map_of_mem hb)
      rw [if_pos ha, if_pos ha, hrest]
    · rw [if_neg ha, if_neg ha, modifyAttempt_eq_map hn.2]

namespace JobRegister

variable {r r' r'' : JobRegister} {pending : AttemptRef → Prop}

/-- The shape that an attempt has, depending on whether it is still to be dialed. -/
structure Shape (pending : AttemptRef → Prop) (ref : AttemptRef) (a : Attempt) : Prop where
  untouched : pending ref → a.Untouched
  settled : ¬ pending ref → a.LocallyFailed ∨ a.Dialed

/-- What dialing and reporting rely on. -/
structure Sound (pending : AttemptRef → Prop) (r : JobRegister) : Prop where
  keyed : r.Keyed
  coherent : r.Coherent
  shape : ∀ ref j a, r.attempt? ref = some (j, a) → Shape pending ref a

theorem Sound.congr {pending' : AttemptRef → Prop} (h : r.Sound pending)
    (heq : ∀ ref, pending ref ↔ pending' ref) : r.Sound pending' :=
  ⟨h.keyed, h.coherent, fun ref j a hfound => ⟨fun hp =>
    (h.shape ref j a hfound).untouched ((heq ref).2 hp), fun hp =>
    (h.shape ref j a hfound).settled fun hc => hp ((heq ref).1 hc)⟩⟩

theorem sound_empty (pending : AttemptRef → Prop) : Sound pending {} :=
  ⟨keyed_empty, coherent_empty, fun _ _ _ h => by simp [attempt?_eq_some_iff, get?] at h⟩

/-- An attempt that a SID finds is dialed. -/
theorem Sound.dialed (h : r.Sound pending) {sid : String} {j : Job} {a : Attempt}
    (hfind : r.findSid? sid = some (j, a)) : a.sid ≠ none ∧ a.Dialed ∧ ¬ pending ⟨j.id, a.id⟩ := by
  have hfound := attempt?_of_findSid? hfind
  have hsid := ((h.coherent.findSid?_eq_some_iff h.keyed).1 hfind).2.2
  have hshape := h.shape _ _ _ hfound
  -- what is still to be dialed has no SID, and neither has what failed locally
  have hpending : ¬ pending ⟨j.id, a.id⟩ := fun hp => by
    rw [(hshape.untouched hp).sid] at hsid
    simp at hsid
  refine ⟨by simp [hsid], (hshape.settled hpending).resolve_left fun hf => ?_, hpending⟩
  rw [hf.sid] at hsid
  simp at hsid

/-- What the attempts that may be dialed go through, and the others. -/
structure Allowed (dialed : AttemptRef → Prop) (ref : AttemptRef) (a a' : Attempt) : Prop where
  target : a.SameTarget a'
  steady : ¬ dialed ref → a.Steady a'

theorem Allowed.refl (dialed : AttemptRef → Prop) (ref : AttemptRef) (a : Attempt) :
    Allowed dialed ref a a := ⟨.refl a, fun _ => .refl a⟩

/-- Every job that is there was there before, and what its attempts went through is allowed. If
nothing is forgotten, every job is still there. -/
structure Moves (dialed : AttemptRef → Prop) (remembered : Prop) (r r' : JobRegister) : Prop where
  back : ∀ j' ∈ r'.jobs, ∃ j ∈ r.jobs, j.Becomes (Allowed dialed) j'
  kept : remembered → ∀ j ∈ r.jobs, ∃ j' ∈ r'.jobs, j'.id = j.id

variable {dialed : AttemptRef → Prop} {remembered : Prop}

theorem Moves.of_jobs (h : r'.jobs = r.jobs) : Moves dialed remembered r r' :=
  ⟨fun j hj => ⟨j, h ▸ hj, .refl (Allowed.refl dialed) j⟩, fun _ j hj => ⟨j, h ▸ hj, rfl⟩⟩

theorem Moves.trans (h : Moves dialed remembered r r') (h' : Moves dialed remembered r' r'') :
    Moves dialed remembered r r'' := by
  refine ⟨fun j'' hj'' => ?_, fun hr j hj => ?_⟩
  · obtain ⟨j', hj', hb'⟩ := h'.back j'' hj''
    obtain ⟨j, hj, hb⟩ := h.back j' hj'
    refine ⟨j, hj, hb.trans hb' (fun _ _ _ hab => hab.target.id) fun _ a b c hab hbc => ?_⟩
    exact ⟨hab.target.trans hbc.target, fun hd => (hab.steady hd).trans (hbc.steady hd)⟩
  · obtain ⟨j', hj', hid⟩ := h.kept hr j hj
    obtain ⟨j'', hj'', hid'⟩ := h'.kept hr j' hj'
    exact ⟨j'', hj'', hid'.trans hid⟩

theorem Moves.mono {dialed' : AttemptRef → Prop} {remembered' : Prop}
    (h : Moves dialed remembered r r') (hd : ∀ ref, dialed ref → dialed' ref)
    (hr : remembered' → remembered) : Moves dialed' remembered' r r' := by
  refine ⟨fun j' hj' => ?_, fun hr' => h.kept (hr hr')⟩
  obtain ⟨j, hj, hb⟩ := h.back j' hj'
  exact ⟨j, hj, hb.mono fun a a' hallowed =>
    ⟨hallowed.target, fun hn => hallowed.steady fun hd' => hn (hd _ hd')⟩⟩

/-- A change of one attempt moves its job along if it is allowed for the attempt. -/
theorem Moves.modify (hk : r.Keyed) {a : Uuid} {g : Attempt → Attempt} {f : Job → Job}
    (hf : Job.Touches a g f) (id : Uuid)
    (hallowed : ∀ j x, r.attempt? ⟨id, a⟩ = some (j, x) → Allowed dialed ⟨id, a⟩ x (g x)) :
    Moves dialed remembered r (r.modify id f) := by
  refine ⟨fun k hk' => ?_, fun _ j hj => ?_⟩
  · obtain ⟨j, hj, rfl⟩ := List.mem_map.1 hk'
    refine ⟨j, hj, ?_⟩
    split
    · rename_i hid
      refine ⟨hf.id_eq j, hf.mode_eq j, hf.createdAt_eq j, hf.request_eq j, ?_⟩
      rw [hf.attempts_eq, Job.modifyAttempt_eq_map (hk.attempts j hj), List.forall₂_map_right_iff,
        List.forall₂_same]
      intro x hx
      split
      · rename_i hxa
        -- identifiers are keys, so this is the attempt that is found under the reference
        rw [hid, hxa]
        refine hallowed j x ?_
        rw [← hid, ← hxa]
        exact hk.attempt?_eq_some_iff.2 ⟨hj, hx⟩
      · exact .refl dialed _ x
    · exact .refl (Allowed.refl dialed) j
  · refine ⟨_, List.mem_map_of_mem hj, ?_⟩
    split
    · exact hf.id_eq j
    · rfl

/-- Shapes after a change of one attempt. -/
theorem shape_modify {a : Uuid} {g : Attempt → Attempt} {f : Job → Job} (hf : Job.Touches a g f)
    (id : Uuid) (hshape : ∀ ref j x, r.attempt? ref = some (j, x) →
      Shape pending ref (if ref = ⟨id, a⟩ then g x else x)) :
    ∀ ref j x, (r.modify id f).attempt? ref = some (j, x) → Shape pending ref x := by
  intro ref j x hx
  rw [attempt?_modify hf, Option.map_eq_some_iff] at hx
  obtain ⟨⟨j₀, x₀⟩, hfound, heq⟩ := hx
  rw [← (Prod.mk.inj heq).2]
  exact hshape ref j₀ x₀ hfound

/-! ## Reports -/

/-- A report goes to a dialed attempt, and moves it forward. -/
theorem Sound.report (h : r.Sound pending) {now : Moment} {sid : String}
    {j job : Job} {a : Attempt} {p : Attempt.Patch} (hfind : r.findSid? sid = some (j, a))
    (hp : p.Reports a)
    (hpatch : r.patch now ⟨j.id, a.id⟩ p = some (job, r')) :
    r'.Sound pending ∧ Moves dialed remembered r r' := by
  obtain ⟨hsid, hdialed, hpending⟩ := h.dialed hfind
  have hfound := attempt?_of_findSid? hfind
  have hcoherent := h.coherent.patch hp.sid hpatch
  have ht := Job.touches_patch now a.id p
  obtain ⟨-, -, -, -, rfl⟩ := patch_eq_some_iff.1 hpatch
  refine ⟨⟨h.keyed.modify ht _, hcoherent, shape_modify ht _ fun ref j' x hx => ?_⟩,
    .modify h.keyed ht _ fun j' x hx => ?_⟩
  · split
    · rename_i href
      -- the attempt of the report; all the others are as they were
      subst href
      rw [hfound] at hx
      obtain ⟨-, rfl⟩ := Prod.mk.inj (Option.some.inj hx)
      exact ⟨fun hc => absurd hc hpending,
        fun _ => Or.inr (Attempt.advances_apply hp now.attempt hdialed).1⟩
    · exact h.shape ref j' x hx
  · rw [hfound] at hx
    obtain ⟨-, rfl⟩ := Prod.mk.inj (Option.some.inj hx)
    exact ⟨Attempt.sameTarget_apply .., fun _ => ⟨Attempt.sameTarget_apply .., fun hnone =>
      absurd hnone hsid, Attempt.advances_apply hp now.attempt⟩⟩

/-! ## Dialing -/

/-- What is still to be dialed after an attempt. -/
def Without (pending : AttemptRef → Prop) (ref : AttemptRef) (k : AttemptRef) : Prop :=
  pending k ∧ k ≠ ref

/-- An attempt that is gone need not be dialed. -/
theorem Sound.gone (h : r.Sound pending) {ref : AttemptRef} (hgone : r.attempt? ref = none) :
    r.Sound (Without pending ref) := by
  refine ⟨h.keyed, h.coherent, fun k j a hfound => ⟨fun hk => (h.shape k j a hfound).untouched hk.1,
    fun hk => (h.shape k j a hfound).settled fun hp => hk ⟨hp, ?_⟩⟩⟩
  rintro rfl
  rw [hgone] at hfound
  simp at hfound

/-- The patch that settles an attempt leaves it failed or dialed. -/
theorem Sound.settle (h : r.Sound pending) {now : Moment} {ref : AttemptRef} (href : pending ref)
    {p : Attempt.Patch} (hsid : p.sid = none) {job : Job}
    (hp : ∀ a : Attempt, a.Untouched →
      (a.apply now.attempt p).LocallyFailed ∨ (a.apply now.attempt p).Dialed)
    (hpatch : r.patch now ref p = some (job, r')) :
    r'.Sound (Without pending ref) ∧ Moves (· = ref) remembered r r' := by
  have hcoherent := h.coherent.patch hsid hpatch
  have ht := Job.touches_patch now ref.attemptId p
  obtain ⟨-, -, -, -, rfl⟩ := patch_eq_some_iff.1 hpatch
  refine ⟨⟨h.keyed.modify ht _, hcoherent, shape_modify ht _ fun k j x hx => ?_⟩,
    .modify h.keyed ht _ fun j x hx => ⟨Attempt.sameTarget_apply .., fun hc => absurd rfl hc⟩⟩
  have hshape := h.shape k j x hx
  split
  · rename_i hk
    subst hk
    exact ⟨fun hc => absurd rfl hc.2, fun _ => hp x (hshape.untouched href)⟩
  · rename_i hk
    exact ⟨fun hc => hshape.untouched hc.1, fun hc => hshape.settled fun hpk => hc ⟨hpk, hk⟩⟩

/-- Losing its SID leaves a dialed attempt dialed. -/
theorem steady_clearSid {a : Attempt} (hsid : a.sid ≠ none) : a.Steady { a with sid := none } :=
  ⟨⟨rfl, rfl, rfl, rfl, rfl⟩, fun hnone => absurd hnone hsid, fun hd =>
    ⟨⟨hd.status, hd.error, hd.script, hd.scriptSource⟩, fun hend => hend⟩⟩

/-- When whoever has a SID loses it, every attempt keeps its shape. -/
theorem Sound.released (h : r.Sound pending) (ref : AttemptRef) (sid : String) :
    (r.released ref sid).Keyed ∧
      (∀ k j a, (r.released ref sid).attempt? k = some (j, a) → Shape pending k a) ∧
      Moves dialed remembered r (r.released ref sid) := by
  unfold JobRegister.released
  split
  · rename_i old hold
    split
    · exact ⟨h.keyed, h.shape, .of_jobs rfl⟩
    · have ht := Job.touches_clearSid old.attemptId
      -- the old owner is found by the SID, so it is dialed
      have hold' : ∀ j x, r.attempt? old = some (j, x) →
          x.sid ≠ none ∧ x.Dialed ∧ ¬ pending old := by
        intro j x hx
        have hdialed := h.dialed (JobRegister.findSid?_eq_some_iff.2 ⟨old, hold, hx⟩)
        rwa [attempt?_ref hx] at hdialed
      refine ⟨h.keyed.modify ht _, shape_modify ht _ fun k j x hx => ?_,
        .modify h.keyed ht _ fun j x hx => ?_⟩
      · split
        · rename_i hk
          subst hk
          obtain ⟨hsid, hd, hpending⟩ := hold' j x hx
          exact ⟨fun hc => absurd hc hpending, fun _ =>
            Or.inr ((steady_clearSid hsid).advances hd).1⟩
        · exact h.shape k j x hx
      · have hsteady := steady_clearSid (hold' j x hx).1
        exact ⟨hsteady.target, fun _ => hsteady⟩
  · exact ⟨h.keyed, h.shape, .of_jobs rfl⟩

/-- The attempt to bind to is not the one that loses the SID. -/
theorem attempt?_released_self {ref : AttemptRef} {sid : String} {j : Job} {a : Attempt}
    (h : (r.released ref sid).attempt? ref = some (j, a)) :
    ∃ j', r.attempt? ref = some (j', a) := by
  unfold JobRegister.released at h
  split at h
  · split at h
    · exact ⟨j, h⟩
    · rename_i old _ hne
      rw [attempt?_modify (Job.touches_clearSid ..), Option.map_eq_some_iff] at h
      obtain ⟨⟨j', a'⟩, hfound, heq⟩ := h
      have ha : a' = a := by simpa [Ne.symm hne] using (Prod.mk.inj heq).2
      exact ⟨j', ha ▸ hfound⟩
  · exact ⟨j, h⟩

/-- Binding the SID of a dialed attempt. -/
theorem Sound.bindSid (h : r.Sound pending) {now : Moment} {ref : AttemptRef} {sid : String}
    {job : Job} (hdialed : ∀ j a, r.attempt? ref = some (j, a) → a.Dialed) (href : ¬ pending ref)
    (hbind : r.bindSid now ref sid = some (job, r')) :
    r'.Sound pending ∧ Moves (· = ref) remembered r r' := by
  have hcoherent := h.coherent.bindSid hbind
  have hkeyed := h.keyed.bindSid hbind
  have ht := Job.touches_patch now ref.attemptId { sid := some sid }
  -- first whoever has the SID loses it, then the attempt gets it
  have hreleased : (r.released ref sid).Keyed ∧ _ ∧
      Moves (· = ref) remembered r (r.released ref sid) := h.released ref sid
  obtain ⟨hk, hshape, hmoves⟩ := hreleased
  have hbound : Moves (· = ref) remembered (r.released ref sid)
      ((r.released ref sid).modify ref.jobId (Job.patch now ref.attemptId { sid := some sid })) :=
    .modify hk ht ref.jobId fun j x hx => ⟨Attempt.sameTarget_apply .., fun hc => absurd rfl hc⟩
  obtain ⟨-, rfl⟩ := bindSid_eq_some hbind
  refine ⟨⟨hkeyed, hcoherent, shape_modify ht _ fun k j x hx => ?_⟩,
    hmoves.trans (hbound.trans (.of_jobs rfl))⟩
  split
  · rename_i hk
    subst hk
    obtain ⟨j', hfound⟩ := attempt?_released_self hx
    have hd := hdialed j' x hfound
    exact ⟨fun hc => absurd hc href, fun _ =>
      Or.inr ⟨hd.status, hd.error, hd.script, hd.scriptSource⟩⟩
  · exact hshape k j x hx

/-! ## New jobs -/

/-- What is still to be dialed of some attempts of a job. -/
def Awaiting (jobId : Uuid) (as : List Attempt) (ref : AttemptRef) : Prop :=
  ∃ a ∈ as, ref = ⟨jobId, a.id⟩

/-- A new job is taken in with all its attempts still to be dialed. -/
theorem Sound.insert (h : r.Sound fun _ => False) {job : Job} (hnew : r.get? job.id = none)
    (hids : (job.attempts.map (·.id)).Nodup) (huntouched : ∀ a ∈ job.attempts, a.Untouched) :
    (r.insert job).Sound (Awaiting job.id job.attempts) := by
  refine ⟨h.keyed.insert hids, h.coherent.insert hnew fun a ha => (huntouched a ha).sid, ?_⟩
  intro ref j a hfound
  obtain ⟨hj, ha⟩ := attempt?_eq_some_iff.1 hfound
  rw [get?_insert] at hj
  split at hj
  · rename_i hid
    -- every attempt of the new job is still to be dialed, and no other is
    obtain rfl := Option.some.inj hj
    have hmem := Job.attempt?_mem ha
    refine ⟨fun _ => huntouched a hmem, fun hn => absurd ⟨a, hmem, ?_⟩ hn⟩
    exact (attempt?_ref hfound).symm
  · rename_i hid
    have hshape := h.shape ref j a (attempt?_eq_some_iff.2 ⟨hj, ha⟩)
    refine ⟨?_, fun _ => hshape.settled id⟩
    rintro ⟨b, -, rfl⟩
    exact absurd rfl hid

end JobRegister

end ShelterLine

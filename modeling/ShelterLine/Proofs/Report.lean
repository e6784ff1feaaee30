import ShelterLine.Desk.Callback
import ShelterLine.Proofs.JobRegister
import ShelterLine.Proofs.TransferRegister

/-!
# What a status report changes

A report changes at most one record, the one that its SID belongs to, and what it writes there
depends on the status of that record alone. So reports on one call may be repeated, and reports
on different calls may change places. Only the times of the last changes tell the difference,
and `untimed` leaves these out: without them, what a report makes of a register is a function of
the register and the report.
-/

namespace ShelterLine

open Desk (statusPatch)

/-! ## One attempt -/

namespace Attempt

/-- The attempt apart from the time of its last change. -/
def untimed (a : Attempt) : Attempt := { a with updatedAt := default }

@[simp] theorem untimed_id (a : Attempt) : a.untimed.id = a.id := rfl

@[simp] theorem apply_id (now : Instant) (p : Patch) (a : Attempt) :
    (a.apply now p).id = a.id := rfl

theorem apply_untimed (now : Instant) (p : Patch) (a : Attempt) :
    (a.apply now p).untimed = a.untimed.apply default p := rfl

theorem apply_apply (now : Instant) (p : Patch) (a : Attempt) :
    (a.apply now p).apply now p = a.apply now p := by
  have hor : ∀ {α : Type} (x y : Option α), x.or (x.or y) = x.or y := fun x _ => by cases x <;> rfl
  have hgetD : p.status.getD (p.status.getD a.status) = p.status.getD a.status := by
    cases p.status <;> rfl
  simp only [apply, hor, hgetD]

end Attempt

/-- What a report that says `word` makes of a status. A finished attempt is moved only
to another end. -/
def AttemptStatus.reported (status : AttemptStatus) (word : Option AttemptStatus) : AttemptStatus :=
  (word.filter fun w => w.isTerminal || !status.isTerminal).getD status

theorem AttemptStatus.isTerminal_reported {status word : AttemptStatus}
    (h : status.isTerminal = true) : (status.reported (some word)).isTerminal = true := by
  cases status <;> cases word <;> simp_all [reported, Option.filter, isTerminal]

/-- Once reported, a word is nothing new. -/
theorem statusPatch_reported {a a' : Attempt} {report : StatusReport}
    (h : a'.status = a.status.reported (AttemptStatus.ofProvider? report.status)) :
    statusPatch a' report = statusPatch a report := by
  have hsame : a'.status.isTerminal = a.status.isTerminal ∨
      ∃ word, AttemptStatus.ofProvider? report.status = some word ∧ word.isTerminal = true := by
    rw [h]
    cases hword : AttemptStatus.ofProvider? report.status with
    | none => exact Or.inl rfl
    | some word =>
      cases hend : word.isTerminal with
      | true => exact Or.inr ⟨word, rfl, hend⟩
      | false =>
        left
        cases hover : a.status.isTerminal with
        | true => exact AttemptStatus.isTerminal_reported hover
        | false => simp [AttemptStatus.reported, Option.filter, hend, hover]
  unfold statusPatch
  rcases hsame with hsame | ⟨word, hword, hend⟩
  · rw [hsame]
  · -- the end of a call is always taken over
    rw [hword]
    simp [Option.filter, hend]

/-! ## One job -/

namespace Job

theorem modifyAttempt_modifyAttempt {f : Attempt → Attempt} (hf : ∀ a, (f a).id = a.id)
    (g : Attempt → Attempt) (id : Uuid) : ∀ as : List Attempt,
    modifyAttempt id g (modifyAttempt id f as) = modifyAttempt id (fun a => g (f a)) as
  | [] => rfl
  | a :: as => by
    by_cases ha : a.id = id
    · simp [modifyAttempt, ha, hf]
    · simp [modifyAttempt, ha, modifyAttempt_modifyAttempt hf g id as]

/-- Changes of different attempts may change places. -/
theorem modifyAttempt_comm {f g : Attempt → Attempt} (hf : ∀ a, (f a).id = a.id)
    (hg : ∀ a, (g a).id = a.id) {id id' : Uuid} (hne : id ≠ id') : ∀ as : List Attempt,
    modifyAttempt id f (modifyAttempt id' g as) = modifyAttempt id' g (modifyAttempt id f as)
  | [] => rfl
  | a :: as => by
    by_cases ha : a.id = id
    · simp [modifyAttempt, ha, hf, hne]
    · by_cases ha' : a.id = id'
      · simp [modifyAttempt, ha', hg, Ne.symm hne]
      · simp [modifyAttempt, ha, ha', modifyAttempt_comm hf hg hne as]

theorem map_modifyAttempt {f f' h : Attempt → Attempt} (hh : ∀ a, (h a).id = a.id)
    (hf : ∀ a, h (f a) = f' (h a)) (id : Uuid) : ∀ as : List Attempt,
    (modifyAttempt id f as).map h = modifyAttempt id f' (as.map h)
  | [] => rfl
  | a :: as => by
    by_cases ha : a.id = id
    · simp [modifyAttempt, ha, hh, hf]
    · simp [modifyAttempt, ha, hh, map_modifyAttempt hh hf id as]

/-- The job apart from the times of the last changes. -/
def untimed (j : Job) : Job :=
  { j with updatedAt := default, attempts := j.attempts.map Attempt.untimed }

@[simp] theorem untimed_id (j : Job) : j.untimed.id = j.id := rfl

theorem patch_untimed (now : Moment) (id : Uuid) (p : Attempt.Patch) (j : Job) :
    (j.patch now id p).untimed = j.untimed.patch default id p := by
  have hattempts : (modifyAttempt id (Attempt.apply now.attempt p) j.attempts).map Attempt.untimed =
      modifyAttempt id (Attempt.apply (default : Moment).attempt p)
        (j.attempts.map Attempt.untimed) :=
    map_modifyAttempt Attempt.untimed_id (Attempt.apply_untimed now.attempt p) id j.attempts
  have hstatuses : (modifyAttempt id (Attempt.apply now.attempt p) j.attempts).map (·.status) =
      (modifyAttempt id (Attempt.apply (default : Moment).attempt p)
        (j.attempts.map Attempt.untimed)).map (·.status) := by
    rw [← hattempts, List.map_map]
    rfl
  simp only [patch, untimed, hattempts, hstatuses]
  rfl

theorem patch_patch (now : Moment) (id : Uuid) (p : Attempt.Patch) (j : Job) :
    (j.patch now id p).patch now id p = j.patch now id p := by
  have hattempts :
      modifyAttempt id (Attempt.apply now.attempt p)
          (modifyAttempt id (Attempt.apply now.attempt p) j.attempts) =
        modifyAttempt id (Attempt.apply now.attempt p) j.attempts := by
    rw [modifyAttempt_modifyAttempt (Attempt.apply_id now.attempt p)]
    simp only [Attempt.apply_apply]
  simp only [patch, hattempts]

theorem patch_comm (now : Moment) {id id' : Uuid} (p p' : Attempt.Patch)
    (hne : id ≠ id') (j : Job) :
    (j.patch now id p).patch now id' p' = (j.patch now id' p').patch now id p := by
  have hattempts := modifyAttempt_comm (Attempt.apply_id now.attempt p')
    (Attempt.apply_id now.attempt p) hne.symm j.attempts
  simp only [patch, hattempts]

end Job

/-! ## The register of jobs -/

namespace JobRegister

variable {r : JobRegister}

theorem modify_modify {f : Job → Job} (hf : ∀ j, (f j).id = j.id) (g : Job → Job) (r : JobRegister)
    (id : Uuid) : (r.modify id f).modify id g = r.modify id fun j => g (f j) := by
  unfold modify
  simp only [List.map_map, mk.injEq, and_true]
  refine List.map_congr_left fun j _ => ?_
  by_cases hj : j.id = id <;> simp [hj, hf]

/-- Changes of jobs may change places unless they interfere in one job. -/
theorem modify_comm {f g : Job → Job} (hf : ∀ j, (f j).id = j.id) (hg : ∀ j, (g j).id = j.id)
    {id id' : Uuid} (hfg : id = id' → ∀ j, g (f j) = f (g j)) (r : JobRegister) :
    (r.modify id f).modify id' g = (r.modify id' g).modify id f := by
  unfold modify
  simp only [List.map_map, mk.injEq, and_true]
  refine List.map_congr_left fun j _ => ?_
  by_cases hid : id = id'
  · subst hid
    by_cases hj : j.id = id <;> simp [hj, hf, hg, hfg]
  · by_cases hj : j.id = id
    · simp [hj, hf, hid]
    · by_cases hj' : j.id = id' <;> simp [hj, hj', hg, Ne.symm hid]

theorem findSid?_modify {x : Uuid} {g : Attempt → Attempt} {f : Job → Job} (h : Job.Touches x g f)
    (r : JobRegister) (id : Uuid) (sid : String) :
    (r.modify id f).findSid? sid = (r.findSid? sid).map fun found =>
      (if found.1.id = id then f found.1 else found.1,
        if (⟨found.1.id, found.2.id⟩ : AttemptRef) = ⟨id, x⟩ then g found.2 else found.2) := by
  unfold findSid?
  rw [modify_sids]
  cases r.sids.owner? sid with
  | none => rfl
  | some ref =>
    simp only [Option.bind_eq_bind, Option.bind_some, attempt?_modify h]
    refine Option.map_congr fun found hfound => ?_
    rw [attempt?_ref hfound]

/-- One attempt has one SID in the index. -/
theorem ref_ne_of_findSid? (hl : r.sids.Linked) {sid sid' : String} {j j' : Job} {a a' : Attempt}
    (h : r.findSid? sid = some (j, a)) (h' : r.findSid? sid' = some (j', a')) (hne : sid ≠ sid') :
    (⟨j.id, a.id⟩ : AttemptRef) ≠ ⟨j'.id, a'.id⟩ := by
  obtain ⟨ref, howner, hfound⟩ := findSid?_eq_some_iff.1 h
  obtain ⟨ref', howner', hfound'⟩ := findSid?_eq_some_iff.1 h'
  rw [attempt?_ref hfound, attempt?_ref hfound']
  rintro rfl
  exact hne (Option.some.inj (((hl sid ref).1 howner).symm.trans ((hl sid' ref).1 howner')))

/-- What a report makes of the jobs. -/
def reported (now : Moment) (report : StatusReport) (r : JobRegister) : JobRegister :=
  match r.findSid? report.sid with
  | some (j, a) =>
    if statusPatch a report = {} then r
    else r.modify j.id (Job.patch now a.id (statusPatch a report))
  | none => r

theorem reported_of_none {report : StatusReport} (h : r.findSid? report.sid = none)
    (now : Moment) :
    r.reported now report = r := by
  unfold reported
  rw [h]

theorem reported_of_some {report : StatusReport} {j : Job} {a : Attempt}
    (h : r.findSid? report.sid = some (j, a)) (now : Moment) :
    r.reported now report = if statusPatch a report = {} then r
      else r.modify j.id (Job.patch now a.id (statusPatch a report)) := by
  unfold reported
  rw [h]

@[simp] theorem reported_sids (now : Moment) (report : StatusReport) (r : JobRegister) :
    (r.reported now report).sids = r.sids := by
  unfold reported
  split
  · split <;> rfl
  · rfl

/-- Every SID finds what it found, and the attempt of the report has the status that
the report says. -/
theorem findSid?_reported (hl : r.sids.Linked) {sid : String} {j : Job} {a : Attempt}
    (h : r.findSid? sid = some (j, a)) (now : Moment) (report : StatusReport) :
    ∃ j' a', (r.reported now report).findSid? sid = some (j', a') ∧ j'.id = j.id ∧ a'.id = a.id ∧
      (report.sid = sid →
        a'.status = a.status.reported (AttemptStatus.ofProvider? report.status)) ∧
      (report.sid ≠ sid → a' = a) := by
  cases hfind : r.findSid? report.sid with
  | none =>
    rw [reported_of_none hfind]
    refine ⟨j, a, h, rfl, rfl, fun hsid => ?_, fun _ => rfl⟩
    rw [hsid, h] at hfind
    simp at hfind
  | some found =>
    obtain ⟨k, x⟩ := found
    rw [reported_of_some hfind]
    have hsame : report.sid = sid → k = j ∧ x = a := fun hsid => by
      rw [hsid, h] at hfind
      obtain ⟨rfl, rfl⟩ := Prod.mk.inj (Option.some.inj hfind)
      exact ⟨rfl, rfl⟩
    split
    · rename_i hempty
      refine ⟨j, a, h, rfl, rfl, fun hsid => ?_, fun _ => rfl⟩
      obtain ⟨-, rfl⟩ := hsame hsid
      -- a report without a new status says the old one
      have hnone := congrArg Attempt.Patch.status hempty
      simp only [statusPatch] at hnone
      rw [AttemptStatus.reported, hnone, Option.getD_none]
    · rw [findSid?_modify (Job.touches_patch ..), h]
      refine ⟨_, _, rfl, ?_, ?_, fun hsid => ?_, fun hsid => ?_⟩
      · dsimp only
        split <;> rfl
      · dsimp only
        split <;> rfl
      · obtain ⟨rfl, rfl⟩ := hsame hsid
        rw [if_pos rfl]
        rfl
      · exact if_neg (ref_ne_of_findSid? hl h hfind (Ne.symm hsid))

theorem findSid?_reported_isSome (now : Moment) (report : StatusReport) (r : JobRegister)
    (sid : String) : ((r.reported now report).findSid? sid).isSome = (r.findSid? sid).isSome := by
  unfold reported
  split
  · split
    · rfl
    · rw [findSid?_modify (Job.touches_patch ..), Option.isSome_map]
  · rfl

/-- A report that comes again changes nothing more. -/
theorem reported_reported (hl : r.sids.Linked) (now : Moment) (report : StatusReport) :
    (r.reported now report).reported now report = r.reported now report := by
  cases hfind : r.findSid? report.sid with
  | none => rw [reported_of_none hfind, reported_of_none hfind]
  | some found =>
    obtain ⟨j, a⟩ := found
    obtain ⟨j', a', hfind', hj, ha, hstatus, -⟩ := findSid?_reported hl hfind now report
    rw [reported_of_some hfind', reported_of_some hfind, statusPatch_reported (hstatus rfl), hj, ha]
    split
    · rfl
    · rw [modify_modify (Job.touches_patch ..).id_eq]
      simp only [Job.patch_patch]

/-- Reports on different calls may change places. -/
theorem reported_comm (hl : r.sids.Linked) {report report' : StatusReport}
    (hne : report.sid ≠ report'.sid) (now : Moment) :
    (r.reported now report).reported now report' =
      (r.reported now report').reported now report := by
  cases hfind : r.findSid? report.sid with
  | none =>
    have hfind' := findSid?_reported_isSome now report' r report.sid
    rw [hfind, Option.isSome_none, Option.isSome_eq_false_iff, Option.isNone_iff_eq_none] at hfind'
    rw [reported_of_none hfind, reported_of_none hfind']
  | some found =>
    cases hother : r.findSid? report'.sid with
    | none =>
      have hother' := findSid?_reported_isSome now report r report'.sid
      rw [hother, Option.isSome_none, Option.isSome_eq_false_iff,
        Option.isNone_iff_eq_none] at hother'
      rw [reported_of_none hother, reported_of_none hother']
    | some found' =>
      obtain ⟨j, a⟩ := found
      obtain ⟨k, x⟩ := found'
      -- neither report changes the attempt of the other, so both write what they wrote
      obtain ⟨j', a', hfind', hj, ha, -, hkeep⟩ := findSid?_reported hl hfind now report'
      obtain ⟨k', x', hother', hk, hx, -, hkeep'⟩ := findSid?_reported hl hother now report
      obtain rfl := hkeep (Ne.symm hne)
      obtain rfl := hkeep' hne
      have href := ref_ne_of_findSid? hl hfind hother hne
      rw [reported_of_some hother', reported_of_some hfind', reported_of_some hfind,
        reported_of_some hother, hj, hk]
      split
      · rfl
      · split
        · rfl
        · refine modify_comm (Job.touches_patch ..).id_eq (Job.touches_patch ..).id_eq
            (fun hid i => ?_) r
          refine Job.patch_comm now _ _ (fun hattempt => href ?_) i
          rw [hid, hattempt]

/-! ### Apart from times -/

/-- The register apart from the times of the last changes. -/
def untimed (r : JobRegister) : JobRegister := { r with jobs := r.jobs.map Job.untimed }

theorem attempt?_untimed (r : JobRegister) (ref : AttemptRef) :
    r.untimed.attempt? ref =
      (r.attempt? ref).map fun found => (found.1.untimed, found.2.untimed) := by
  have hget : r.untimed.get? ref.jobId = (r.get? ref.jobId).map Job.untimed :=
    find?_key_map Job.untimed_id r.jobs ref.jobId
  unfold attempt?
  rw [hget]
  cases r.get? ref.jobId with
  | none => rfl
  | some j =>
    have hattempt : j.untimed.attempt? ref.attemptId =
        (j.attempt? ref.attemptId).map Attempt.untimed :=
      find?_key_map Attempt.untimed_id j.attempts ref.attemptId
    simp only [Option.map_some, Option.bind_eq_bind, Option.bind_some, hattempt]
    cases j.attempt? ref.attemptId <;> rfl

theorem findSid?_untimed (r : JobRegister) (sid : String) :
    r.untimed.findSid? sid =
      (r.findSid? sid).map fun found => (found.1.untimed, found.2.untimed) := by
  unfold findSid?
  have hsids : r.untimed.sids = r.sids := rfl
  rw [hsids]
  cases r.sids.owner? sid with
  | none => rfl
  | some ref => exact attempt?_untimed r ref

theorem modify_untimed {f g : Job → Job} (h : ∀ j, (f j).untimed = g j.untimed) (r : JobRegister)
    (id : Uuid) : (r.modify id f).untimed = r.untimed.modify id g := by
  unfold modify untimed
  simp only [List.map_map, mk.injEq, and_true]
  refine List.map_congr_left fun j _ => ?_
  by_cases hj : j.id = id <;> simp [hj, h]

/-- Apart from times, what a report makes of the jobs does not depend on when it comes. -/
theorem reported_untimed (now : Moment) (report : StatusReport) (r : JobRegister) :
    (r.reported now report).untimed = r.untimed.reported default report := by
  have hfind := findSid?_untimed r report.sid
  cases h : r.findSid? report.sid with
  | none =>
    rw [h] at hfind
    rw [reported_of_none h, reported_of_none hfind]
  | some found =>
    rw [h] at hfind
    rw [reported_of_some h, reported_of_some hfind]
    have hpatch : statusPatch found.2.untimed report = statusPatch found.2 report := rfl
    rw [hpatch]
    split
    · rfl
    · exact modify_untimed (Job.patch_untimed now found.2.id _) r found.1.id

end JobRegister

/-! ## The register of transfers -/

namespace TransferRegister

/-- What a report makes of the transfers. The last one counts, whichever leg it is on. -/
def reported (now : Instant) (report : StatusReport) (r : TransferRegister) : TransferRegister :=
  match r.findSid? report.sid, TransferStatus.ofProvider? report.status with
  | some (t, _), some status => r.modify t.id fun t => { t with status, updatedAt := now }
  | _, _ => r

theorem findSid?_modify {f : Session → Session} (hf : ∀ t, (f t).id = t.id) (r : TransferRegister)
    (id : Uuid) (sid : String) : (r.modify id f).findSid? sid =
      (r.findSid? sid).map fun found =>
        (if found.1.id = id then f found.1 else found.1, found.2) := by
  unfold findSid?
  rw [modify_sids]
  cases r.sids.owner? sid with
  | none => rfl
  | some ref =>
    simp only [Option.bind_eq_bind, Option.bind_some, get?_modify hf]
    cases r.get? ref.transferId <;> rfl

/-- A report that comes again changes nothing more. -/
theorem reported_reported (now : Instant) (report : StatusReport) (r : TransferRegister) :
    (r.reported now report).reported now report = r.reported now report := by
  cases hfind : r.findSid? report.sid with
  | none => simp only [reported, hfind]
  | some found =>
    cases hword : TransferStatus.ofProvider? report.status with
    | none => simp only [reported, hfind, hword]
    | some status =>
      have honce : r.reported now report =
          r.modify found.1.id fun t => { t with status, updatedAt := now } := by
        simp only [reported, hfind, hword]
      rw [honce]
      have hagain := findSid?_modify (f := fun t => { t with status, updatedAt := now })
        (fun _ => rfl) r found.1.id report.sid
      rw [hfind] at hagain
      unfold reported
      rw [hagain, hword]
      simp only [Option.map_some, ↓reduceIte, modify, List.map_map, mk.injEq, and_true]
      refine List.map_congr_left fun t _ => ?_
      by_cases ht : t.id = found.1.id <;> simp [ht]

end TransferRegister

/-- The session apart from the time of its last change. -/
def Session.untimed (t : Session) : Session := { t with updatedAt := default }

@[simp] theorem Session.untimed_id (t : Session) : t.untimed.id = t.id := rfl

namespace TransferRegister

/-- The register apart from the times of the last changes. -/
def untimed (r : TransferRegister) : TransferRegister :=
  { r with sessions := r.sessions.map Session.untimed }

theorem findSid?_untimed (r : TransferRegister) (sid : String) :
    r.untimed.findSid? sid = (r.findSid? sid).map fun found => (found.1.untimed, found.2) := by
  unfold findSid?
  have hsids : r.untimed.sids = r.sids := rfl
  rw [hsids]
  cases r.sids.owner? sid with
  | none => rfl
  | some ref =>
    have hget : r.untimed.get? ref.transferId = (r.get? ref.transferId).map Session.untimed :=
      find?_key_map Session.untimed_id r.sessions ref.transferId
    simp only [Option.bind_eq_bind, Option.bind_some, hget]
    cases r.get? ref.transferId <;> rfl

/-- Apart from times, what a report makes of the transfers does not depend on when it comes. -/
theorem reported_untimed (now : Instant) (report : StatusReport) (r : TransferRegister) :
    (r.reported now report).untimed = r.untimed.reported default report := by
  have hfind := findSid?_untimed r report.sid
  unfold reported
  rw [hfind]
  cases r.findSid? report.sid with
  | none => rfl
  | some found =>
    cases TransferStatus.ofProvider? report.status with
    | none => rfl
    | some status =>
      simp only [Option.map_some, untimed, modify, List.map_map, mk.injEq, and_true]
      refine List.map_congr_left fun t _ => ?_
      by_cases ht : t.id = found.1.id <;> simp [ht, Session.untimed]

end TransferRegister

end ShelterLine

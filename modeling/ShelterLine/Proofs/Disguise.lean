import ShelterLine.Desk.Operation
import ShelterLine.Proofs.JobRegister
import ShelterLine.Proofs.TransferRegister

/-!
# Records in disguise

A disguise takes away from a record a part that is not to count, and leaves what is read of a record
while it is carried out. Since records are changed under it, a register in disguise does what the
register does. Two registers that look the same in a disguise find the same, change the same, and
look the same afterwards.
-/

namespace ShelterLine

/-- Results that become the same are found together, or neither is. -/
theorem map_eq_map_cases {α β : Type} {f : α → β} {x y : Option α} (h : x.map f = y.map f) :
    x = none ∧ y = none ∨ ∃ a b, x = some a ∧ y = some b ∧ f a = f b := by
  cases x with
  | none =>
    cases y with
    | none => exact Or.inl ⟨rfl, rfl⟩
    | some b => cases h
  | some a =>
    cases y with
    | none => cases h
    | some b => exact Or.inr ⟨a, b, rfl, rfl, Option.some.inj h⟩

/-! ## Jobs -/

namespace Job

/-- `f` leaves alone what is read of a job while it is carried out, and what is changed about an
attempt is changed under it. -/
structure Disguise (f : Job → Job) : Prop where
  id : ∀ j, (f j).id = j.id
  callback : ∀ j, (f j).request.callbackNumber = j.request.callbackNumber
  approved : ∀ j, (f j).request.approved = j.request.approved
  attempts : ∀ j, (f j).attempts = j.attempts
  spoken : ∀ j, Desk.spokenContext (f j) = Desk.spokenContext j
  patch : ∀ now a p j, f (j.patch now a p) = (f j).patch now a p
  clearSid : ∀ a j, f (j.clearSid a) = (f j).clearSid a

/-- What jobs have in common that look alike. -/
structure Similar (j j' : Job) : Prop where
  id : j.id = j'.id
  callback : j.request.callbackNumber = j'.request.callbackNumber
  approved : j.request.approved = j'.request.approved
  attempts : j.attempts = j'.attempts
  spoken : Desk.spokenContext j = Desk.spokenContext j'

theorem Disguise.similar {f : Job → Job} (hf : Disguise f) {j j' : Job} (h : f j = f j') :
    j.Similar j' := by
  refine ⟨?_, ?_, ?_, ?_, ?_⟩
  · rw [← hf.id, h, hf.id]
  · rw [← hf.callback, h, hf.callback]
  · rw [← hf.approved, h, hf.approved]
  · rw [← hf.attempts, h, hf.attempts]
  · rw [← hf.spoken, h, hf.spoken]

end Job

namespace JobRegister

/-- Puts a disguise on all jobs. -/
def disguise (f : Job → Job) (r : JobRegister) : JobRegister := { r with jobs := r.jobs.map f }

variable {f : Job → Job} (hf : Job.Disguise f) (r : JobRegister)

@[simp] theorem disguise_sids (f : Job → Job) (r : JobRegister) :
    (r.disguise f).sids = r.sids := rfl

include hf

theorem get?_disguise (k : Uuid) : (r.disguise f).get? k = (r.get? k).map f :=
  find?_key_map hf.id r.jobs k

theorem attempt?_disguise (ref : AttemptRef) :
    (r.disguise f).attempt? ref = (r.attempt? ref).map fun found => (f found.1, found.2) := by
  unfold attempt?
  rw [get?_disguise hf]
  cases r.get? ref.jobId with
  | none => rfl
  | some j =>
    have hattempt : (f j).attempt? ref.attemptId = j.attempt? ref.attemptId := by
      unfold Job.attempt?
      rw [hf.attempts]
    change ((f j).attempt? ref.attemptId).bind _ = ((j.attempt? ref.attemptId).bind _).map _
    rw [hattempt]
    cases j.attempt? ref.attemptId <;> rfl

theorem modify_disguise (k : Uuid) {g : Job → Job} (hg : ∀ j, f (g j) = g (f j)) :
    (r.disguise f).modify k g = (r.modify k g).disguise f := by
  unfold modify disguise
  dsimp only
  rw [List.map_map, List.map_map]
  congr 1
  refine List.map_congr_left fun j _ => ?_
  change (if (f j).id = k then _ else _) = f (if j.id = k then _ else _)
  rw [hf.id]
  split
  · exact (hg j).symm
  · rfl

theorem patch_disguise (now : Moment) (ref : AttemptRef) (p : Attempt.Patch) :
    (r.disguise f).patch now ref p = (r.patch now ref p).map fun x => (f x.1, x.2.disguise f) := by
  rw [patch_eq, patch_eq, attempt?_disguise hf, modify_disguise hf _ _
    (hf.patch now ref.attemptId p)]
  cases r.attempt? ref with
  | none => rfl
  | some found => exact congrArg some (Prod.ext (hf.patch now ref.attemptId p found.1).symm rfl)

theorem released_disguise (ref : AttemptRef) (sid : String) :
    (r.disguise f).released ref sid = (r.released ref sid).disguise f := by
  unfold released
  rw [disguise_sids]
  cases r.sids.owner? sid with
  | none => rfl
  | some old =>
    dsimp only
    split
    · rfl
    · exact modify_disguise hf r old.jobId (hf.clearSid old.attemptId)

theorem bindSid_disguise (now : Moment) (ref : AttemptRef) (sid : String) :
    (r.disguise f).bindSid now ref sid =
      (r.bindSid now ref sid).map fun x => (f x.1, x.2.disguise f) := by
  rw [bindSid_eq, bindSid_eq, attempt?_disguise hf, released_disguise hf]
  cases r.attempt? ref with
  | none => rfl
  | some found =>
    exact patch_disguise hf { r.released ref sid with sids := r.sids.bind sid ref } now ref
      { sid := some sid }

theorem insert_disguise (j : Job) : (r.disguise f).insert (f j) = (r.insert j).disguise f := by
  unfold insert disguise
  dsimp only
  rw [List.map_cons, List.filter_map, hf.id]
  congr 2
  refine congrArg (List.map _) (List.filter_congr fun k _ => ?_)
  change decide ((f k).id ≠ j.id) = _
  rw [hf.id]

theorem restore_disguise (j : Job) :
    (r.disguise f).restore (f j) = ((r.restore j).1, (r.restore j).2.disguise f) := by
  have hsids : indexAttempts r.sids (f j) = indexAttempts r.sids j := by
    unfold indexAttempts
    rw [hf.attempts, hf.id]
  unfold restore
  rw [hf.id, get?_disguise hf, Option.isSome_map]
  split
  · rfl
  · change (true, { r.disguise f with sids := indexAttempts r.sids (f j) }.insert (f j)) = _
    rw [hsids]
    exact Prod.ext rfl (insert_disguise hf { r with sids := indexAttempts r.sids j } j)

theorem takeIn_restore_disguise (js : List Job) :
    Desk.takeIn restore (r.disguise f) (js.map f) =
      ((Desk.takeIn restore r js).1, (Desk.takeIn restore r js).2.disguise f) := by
  induction js generalizing r with
  | nil => rfl
  | cons j js ih =>
    rw [List.map_cons]
    unfold Desk.takeIn
    rw [restore_disguise hf]
    dsimp only
    rw [ih]

variable {r} {r' : JobRegister}

theorem get?_cases (h : r.disguise f = r'.disguise f) (k : Uuid) :
    r.get? k = none ∧ r'.get? k = none ∨
    ∃ j j', r.get? k = some j ∧ r'.get? k = some j' ∧ f j = f j' :=
  map_eq_map_cases (by rw [← get?_disguise hf, ← get?_disguise hf, h])

/-- What is read back looks alike, as long as what is taken instead does. -/
theorem getD_get?_eq (h : r.disguise f = r'.disguise f) {j j' : Job} (hj : f j = f j') (k : Uuid) :
    f ((r.get? k).getD j) = f ((r'.get? k).getD j') := by
  rcases get?_cases hf h k with ⟨hnone, hnone'⟩ | ⟨i, i', hi, hi', hsame⟩
  · rw [hnone, hnone']
    exact hj
  · rw [hi, hi']
    exact hsame

/-- Whatever is found in one is found in the other, with the same attempt. -/
theorem attempt?_cases (h : r.disguise f = r'.disguise f) (ref : AttemptRef) :
    r.attempt? ref = none ∧ r'.attempt? ref = none ∨
    ∃ j j' a, r.attempt? ref = some (j, a) ∧ r'.attempt? ref = some (j', a) ∧ f j = f j' := by
  have hsame := attempt?_disguise hf r ref
  rw [h, attempt?_disguise hf] at hsame
  rcases map_eq_map_cases hsame.symm with hnone | ⟨⟨j, a⟩, ⟨j', a'⟩, hj, hj', heq⟩
  · exact Or.inl hnone
  · obtain ⟨hjob, rfl⟩ := Prod.mk.inj heq
    exact Or.inr ⟨j, j', a, hj, hj', hjob⟩

theorem findSid?_cases (h : r.disguise f = r'.disguise f) (sid : String) :
    r.findSid? sid = none ∧ r'.findSid? sid = none ∨
    ∃ j j' a, r.findSid? sid = some (j, a) ∧ r'.findSid? sid = some (j', a) ∧ f j = f j' := by
  have hsids : r.sids = r'.sids := congrArg (·.sids) h
  change (r.sids.owner? sid).bind r.attempt? = none ∧ (r'.sids.owner? sid).bind r'.attempt? = none ∨
    ∃ j j' a, (r.sids.owner? sid).bind r.attempt? = some (j, a) ∧
      (r'.sids.owner? sid).bind r'.attempt? = some (j', a) ∧ f j = f j'
  rw [hsids]
  cases r'.sids.owner? sid with
  | none => exact Or.inl ⟨rfl, rfl⟩
  | some ref => exact attempt?_cases hf h ref

omit hf in
/-- What is changed in one is changed in the other, and looks alike still. -/
theorem changed_cases {x x' : Option (Job × JobRegister)}
    (h : x.map (fun p => (f p.1, p.2.disguise f)) = x'.map fun p => (f p.1, p.2.disguise f)) :
    x = none ∧ x' = none ∨ ∃ j q j' q', x = some (j, q) ∧ x' = some (j', q') ∧
      f j = f j' ∧ q.disguise f = q'.disguise f := by
  rcases map_eq_map_cases h with hnone | ⟨⟨j, q⟩, ⟨j', q'⟩, hj, hj', heq⟩
  · exact Or.inl hnone
  · exact Or.inr ⟨j, q, j', q', hj, hj', Prod.mk.inj heq⟩

theorem patch_cases (h : r.disguise f = r'.disguise f) (now : Moment) (ref : AttemptRef)
    (p : Attempt.Patch) : r.patch now ref p = none ∧ r'.patch now ref p = none ∨
    ∃ j q j' q', r.patch now ref p = some (j, q) ∧ r'.patch now ref p = some (j', q') ∧
      f j = f j' ∧ q.disguise f = q'.disguise f :=
  changed_cases (by rw [← patch_disguise hf, ← patch_disguise hf, h])

theorem bindSid_cases (h : r.disguise f = r'.disguise f) (now : Moment) (ref : AttemptRef)
    (sid : String) : r.bindSid now ref sid = none ∧ r'.bindSid now ref sid = none ∨
    ∃ j q j' q', r.bindSid now ref sid = some (j, q) ∧ r'.bindSid now ref sid = some (j', q') ∧
      f j = f j' ∧ q.disguise f = q'.disguise f :=
  changed_cases (by rw [← bindSid_disguise hf, ← bindSid_disguise hf, h])

end JobRegister

/-! ## Sessions -/

namespace Session

/-- `f` leaves alone what is read of a session while it is carried out, and what is changed about
it is changed under `f`. -/
structure Disguise (f : Session → Session) : Prop where
  id : ∀ t, (f t).id = t.id
  conference : ∀ t, (f t).conference = t.conference
  survivorPhone : ∀ t, (f t).survivorPhone = t.survivorPhone
  shelterPhone : ∀ t, (f t).shelterPhone = t.shelterPhone
  sids : ∀ t, (f t).sids = t.sids
  setStatus : ∀ t status now,
    f { t with status, updatedAt := now } = { f t with status, updatedAt := now }
  setSids : ∀ t sids, f { t with sids } = { f t with sids }
  bindSids : ∀ t sids now, f { t with sids, updatedAt := now } = { f t with sids, updatedAt := now }

/-- What sessions have in common that look alike. -/
structure Similar (t t' : Session) : Prop where
  id : t.id = t'.id
  conference : t.conference = t'.conference
  survivorPhone : t.survivorPhone = t'.survivorPhone
  shelterPhone : t.shelterPhone = t'.shelterPhone

theorem Disguise.similar {f : Session → Session} (hf : Disguise f) {t t' : Session}
    (h : f t = f t') :
    t.Similar t' := by
  refine ⟨?_, ?_, ?_, ?_⟩
  · rw [← hf.id, h, hf.id]
  · rw [← hf.conference, h, hf.conference]
  · rw [← hf.survivorPhone, h, hf.survivorPhone]
  · rw [← hf.shelterPhone, h, hf.shelterPhone]

end Session

namespace TransferRegister

/-- Puts a disguise on all sessions. -/
def disguise (f : Session → Session) (r : TransferRegister) : TransferRegister :=
  { r with sessions := r.sessions.map f }

variable {f : Session → Session} (hf : Session.Disguise f) (r : TransferRegister)

@[simp] theorem disguise_sids (f : Session → Session) (r : TransferRegister) :
    (r.disguise f).sids = r.sids := rfl

include hf

theorem get?_disguise (k : Uuid) : (r.disguise f).get? k = (r.get? k).map f :=
  find?_key_map hf.id r.sessions k

theorem modify_disguise (k : Uuid) {g : Session → Session} (hg : ∀ t, f (g t) = g (f t)) :
    (r.disguise f).modify k g = (r.modify k g).disguise f := by
  unfold modify disguise
  dsimp only
  rw [List.map_map, List.map_map]
  congr 1
  refine List.map_congr_left fun t _ => ?_
  change (if (f t).id = k then _ else _) = f (if t.id = k then _ else _)
  rw [hf.id]
  split
  · exact (hg t).symm
  · rfl

theorem update_disguise (k : Uuid) {g : Session → Session} (hg : ∀ t, f (g t) = g (f t)) :
    (r.disguise f).update k g = (r.update k g).map fun x => (f x.1, x.2.disguise f) := by
  rw [update_eq, update_eq, get?_disguise hf, modify_disguise hf _ _ hg]
  cases r.get? k with
  | none => rfl
  | some t => exact congrArg some (Prod.ext (hg t).symm rfl)

theorem setStatus_disguise (now : Instant) (k : Uuid) (status : TransferStatus) :
    (r.disguise f).setStatus now k status =
      (r.setStatus now k status).map fun x => (f x.1, x.2.disguise f) :=
  update_disguise hf r k fun t => hf.setStatus t status now

theorem released_disguise (ref : LegRef) (sid : String) :
    (r.disguise f).released ref sid = (r.released ref sid).disguise f := by
  unfold released
  rw [disguise_sids]
  cases r.sids.owner? sid with
  | none => rfl
  | some old =>
    dsimp only
    split
    · rfl
    · exact modify_disguise hf r old.transferId fun t => by rw [hf.setSids, hf.sids]

theorem bindSid_disguise (now : Instant) (ref : LegRef) (sid : String) :
    (r.disguise f).bindSid now ref sid =
      (r.bindSid now ref sid).map fun x => (f x.1, x.2.disguise f) := by
  rw [bindSid_eq, bindSid_eq, get?_disguise hf, released_disguise hf]
  cases r.get? ref.transferId with
  | none => rfl
  | some t =>
    exact update_disguise hf { r.released ref sid with sids := r.sids.bind sid ref } ref.transferId
      fun t => by rw [hf.bindSids, hf.sids]

theorem insert_disguise (t : Session) : (r.disguise f).insert (f t) = (r.insert t).disguise f := by
  unfold insert disguise
  dsimp only
  rw [List.map_cons, List.filter_map, hf.id]
  congr 2
  refine congrArg (List.map _) (List.filter_congr fun k _ => ?_)
  change decide ((f k).id ≠ t.id) = _
  rw [hf.id]

theorem restore_disguise (t : Session) :
    (r.disguise f).restore (f t) = ((r.restore t).1, (r.restore t).2.disguise f) := by
  have hsids : indexLegs r.sids (f t) = indexLegs r.sids t := by
    unfold indexLegs
    rw [hf.sids, hf.id]
  unfold restore
  rw [hf.id, get?_disguise hf, Option.isSome_map]
  split
  · rfl
  · change (true, { r.disguise f with sids := indexLegs r.sids (f t) }.insert (f t)) = _
    rw [hsids]
    exact Prod.ext rfl (insert_disguise hf { r with sids := indexLegs r.sids t } t)

theorem takeIn_restore_disguise (ts : List Session) :
    Desk.takeIn restore (r.disguise f) (ts.map f) =
      ((Desk.takeIn restore r ts).1, (Desk.takeIn restore r ts).2.disguise f) := by
  induction ts generalizing r with
  | nil => rfl
  | cons t ts ih =>
    rw [List.map_cons]
    unfold Desk.takeIn
    rw [restore_disguise hf]
    dsimp only
    rw [ih]

variable {r} {r' : TransferRegister}

theorem get?_cases (h : r.disguise f = r'.disguise f) (k : Uuid) :
    r.get? k = none ∧ r'.get? k = none ∨
    ∃ t t', r.get? k = some t ∧ r'.get? k = some t' ∧ f t = f t' :=
  map_eq_map_cases (by rw [← get?_disguise hf, ← get?_disguise hf, h])

/-- What is read back looks alike, as long as what is taken instead does. -/
theorem getD_get?_eq (h : r.disguise f = r'.disguise f) {t t' : Session}
    (ht : f t = f t') (k : Uuid) :
    f ((r.get? k).getD t) = f ((r'.get? k).getD t') := by
  rcases get?_cases hf h k with ⟨hnone, hnone'⟩ | ⟨i, i', hi, hi', hsame⟩
  · rw [hnone, hnone']
    exact ht
  · rw [hi, hi']
    exact hsame

theorem findSid?_cases (h : r.disguise f = r'.disguise f) (sid : String) :
    r.findSid? sid = none ∧ r'.findSid? sid = none ∨
    ∃ t t' leg, r.findSid? sid = some (t, leg) ∧ r'.findSid? sid = some (t', leg) ∧ f t = f t' := by
  have hsids : r.sids = r'.sids := congrArg (·.sids) h
  unfold findSid?
  rw [hsids]
  cases r'.sids.owner? sid with
  | none => exact Or.inl ⟨rfl, rfl⟩
  | some ref =>
    rcases get?_cases hf h ref.transferId with ⟨hnone, hnone'⟩ | ⟨t, t', ht, ht', hsame⟩
    · exact Or.inl ⟨by simp [hnone], by simp [hnone']⟩
    · exact Or.inr ⟨t, t', ref.leg, by simp [ht], by simp [ht'], hsame⟩

omit hf in
/-- What is changed in one is changed in the other, and looks alike still. -/
theorem changed_cases {x x' : Option (Session × TransferRegister)}
    (h : x.map (fun p => (f p.1, p.2.disguise f)) = x'.map fun p => (f p.1, p.2.disguise f)) :
    x = none ∧ x' = none ∨ ∃ t q t' q', x = some (t, q) ∧ x' = some (t', q') ∧
      f t = f t' ∧ q.disguise f = q'.disguise f := by
  rcases map_eq_map_cases h with hnone | ⟨⟨t, q⟩, ⟨t', q'⟩, ht, ht', heq⟩
  · exact Or.inl hnone
  · exact Or.inr ⟨t, q, t', q', ht, ht', Prod.mk.inj heq⟩

theorem setStatus_cases (h : r.disguise f = r'.disguise f) (now : Instant) (k : Uuid)
    (status : TransferStatus) :
    r.setStatus now k status = none ∧ r'.setStatus now k status = none ∨
    ∃ t q t' q', r.setStatus now k status = some (t, q) ∧ r'.setStatus now k status =
      some (t', q') ∧ f t = f t' ∧ q.disguise f = q'.disguise f :=
  changed_cases (by rw [← setStatus_disguise hf, ← setStatus_disguise hf, h])

theorem bindSid_cases (h : r.disguise f = r'.disguise f) (now : Instant) (ref : LegRef)
    (sid : String) : r.bindSid now ref sid = none ∧ r'.bindSid now ref sid = none ∨
    ∃ t q t' q', r.bindSid now ref sid = some (t, q) ∧ r'.bindSid now ref sid = some (t', q') ∧
      f t = f t' ∧ q.disguise f = q'.disguise f :=
  changed_cases (by rw [← bindSid_disguise hf, ← bindSid_disguise hf, h])

end TransferRegister

end ShelterLine

import ShelterLine.Proofs.Convergence
import ShelterLine.Proofs.Restore

/-!
# What newcomers take away

Stored records come into registers that may have records already. Whatever is registered stays
as it is, and a stored record with its identifier is passed over. The others are newcomers.
Their SIDs are bound like any others, so the last binding wins: a newcomer takes its SID from
whoever has it in memory, and callbacks about that call go to the newcomer from then on. All
other SIDs stay with their records.
-/

namespace ShelterLine

/-! ## Bindings and the owners who have no part in them -/

namespace SidIndex

variable {κ : Type} [DecidableEq κ] {ix : SidIndex κ} {pairs : List (String × κ)}
    {sid : String} {o : κ}

theorem linked_bindAll (h : ix.Linked) (pairs : List (String × κ)) : (ix.bindAll pairs).Linked :=
  List.foldlRecOn pairs _ h fun _ hix p _ => linked_bind hix p.1 p.2

/-- Somebody who gets no SID keeps his own if nobody else gets it. -/
theorem owner?_bindAll_eq_some_iff (h : ix.Linked) (ho : ∀ p ∈ pairs, o ≠ p.2) :
    (ix.bindAll pairs).owner? sid = some o ↔ ix.owner? sid = some o ∧ ∀ p ∈ pairs, p.1 ≠ sid := by
  induction pairs generalizing ix with
  | nil => simp [bindAll]
  | cons p pairs ih =>
    obtain ⟨hp, hpairs⟩ := List.forall_mem_cons.1 ho
    have hrest := ih (linked_bind h p.1 p.2) hpairs
    have hfirst : (ix.bind p.1 p.2).owner? sid = some o ↔ ix.owner? sid = some o ∧ p.1 ≠ sid := by
      rw [owner?_bind_eq_some_iff h]
      constructor
      · intro hcases
        rcases hcases with ⟨-, hsame⟩ | ⟨hs, -, howner⟩
        · exact absurd hsame hp
        · exact ⟨howner, Ne.symm hs⟩
      · intro hkept
        exact Or.inr ⟨Ne.symm hkept.2, hp, hkept.1⟩
    refine hrest.trans ?_
    rw [hfirst, List.forall_mem_cons, and_assoc]

/-- Whoever has a SID has been given it or had it before. -/
theorem owner?_or_mem_of_owner?_bindAll (h : ix.Linked) {pairs : List (String × κ)}
    (howner : (ix.bindAll pairs).owner? sid = some o) : ix.owner? sid = some o ∨
    (sid, o) ∈ pairs := by
  induction pairs generalizing ix with
  | nil => exact Or.inl howner
  | cons p pairs ih =>
    rcases ih (linked_bind h p.1 p.2) howner with hfirst | hmem
    · rcases owner?_or_eq_of_owner?_bind h hfirst with hold | ⟨rfl, rfl⟩
      · exact Or.inl hold
      · exact Or.inr List.mem_cons_self
    · exact Or.inr (List.mem_cons_of_mem p hmem)

end SidIndex

/-! ## Newcomers -/

/-- Those of some records that go by no known identifier; of records with one
identifier the first. -/
def newcomers {σ : Type} (id : σ → Uuid) : List Uuid → List σ → List σ
  | _, [] => []
  | known, x :: xs =>
    if id x ∈ known then newcomers id known xs else x :: newcomers id (id x :: known) xs

theorem newcomers_unknown {σ : Type} {id : σ → Uuid} {known : List Uuid} {xs : List σ} :
    ∀ x ∈ newcomers id known xs, id x ∉ known := by
  induction xs generalizing known with
  | nil => exact fun x hx => absurd hx List.not_mem_nil
  | cons y xs ih =>
    intro x hx
    unfold newcomers at hx
    split at hx
    · exact ih x hx
    · rename_i hy
      rcases List.mem_cons.1 hx with rfl | hx
      · exact hy
      · exact fun hknown => ih x hx (List.mem_cons_of_mem _ hknown)

theorem newcomers_singleton {σ : Type} {id : σ → Uuid} {ys : List σ} {x : σ}
    (h : ∀ y ∈ ys, id y ≠ id x) : newcomers id (ys.map id) [x] = [x] := by
  have hx : id x ∉ ys.map id := by simpa using h
  unfold newcomers
  rw [if_neg hx]
  rfl

/-- Newcomers are taken in and their SIDs are bound; everything else is passed over. -/
theorem Desk.takeIn_newcomers {σ ρ κ : Type} [DecidableEq κ] {id : σ → Uuid}
    {pairs : σ → List (String × κ)} {mk : List σ → SidIndex κ → ρ} {take : ρ → σ → Bool × ρ}
    (hnew : ∀ ys ix x, (∀ y ∈ ys, id y ≠ id x) →
      take (mk ys ix) x = (true, mk (x :: ys) (ix.bindAll (pairs x))))
    (hknown : ∀ ys ix x, (∃ y ∈ ys, id y = id x) → take (mk ys ix) x = (false, mk ys ix))
    (xs ys : List σ) (ix : SidIndex κ) :
    takeIn take (mk ys ix) xs =
      ((newcomers id (ys.map id) xs).length, mk ((newcomers id (ys.map id) xs).reverse ++ ys)
        (ix.bindAll ((newcomers id (ys.map id) xs).flatMap pairs))) := by
  induction xs generalizing ys ix with
  | nil => rfl
  | cons x xs ih =>
    unfold takeIn newcomers
    by_cases hx : id x ∈ ys.map id
    · obtain ⟨y, hy, hid⟩ := List.mem_map.1 hx
      rw [hknown ys ix x ⟨y, hy, hid⟩, if_pos hx]
      dsimp only
      rw [ih, if_neg Bool.false_ne_true, Nat.zero_add]
    · have hfresh : ∀ y ∈ ys, id y ≠ id x := fun y hy hid => hx (List.mem_map.2 ⟨y, hy, hid⟩)
      rw [hnew ys ix x hfresh, if_neg hx]
      dsimp only
      rw [ih (x :: ys), List.map_cons]
      refine Prod.ext (Nat.add_comm ..) ?_
      dsimp only
      rw [List.reverse_cons, List.append_assoc, List.singleton_append, List.flatMap_cons]
      unfold SidIndex.bindAll
      rw [List.foldl_append]

/-! ## What newcomers change -/

/-- What is found, by identifier and by SID, once newcomers that carry SIDs have been taken in. -/
structure TookIn {σ φ : Type} (carries : σ → String → Prop) (new : List σ)
    (get? get?' : Uuid → Option σ) (find? find?' : String → Option (σ × φ)) : Prop where
  /-- What is registered stays as it is. -/
  kept : ∀ id x, get? id = some x → get?' id = some x
  /-- A SID stays with its record if and only if no newcomer carries it. -/
  found_iff : ∀ sid found, find? sid = some found →
    (find?' sid = some found ↔ ∀ x ∈ new, ¬ carries x sid)
  /-- If one does, the SID finds at most a newcomer. -/
  displaced : ∀ sid found, (∃ x ∈ new, carries x sid) → find?' sid = some found → found.1 ∈ new

section

variable {σ κ φ : Type} (id : σ → Uuid) (recordOf : κ → Uuid) (part : κ → σ → Option φ)

/-- The record and the part of it that a SID belongs to. -/
def lookup [DecidableEq κ] (xs : List σ) (ix : SidIndex κ) (sid : String) : Option (σ × φ) :=
  (ix.owner? sid).bind fun ref =>
    (xs.find? (id · = recordOf ref)).bind fun x => (part ref x).map (x, ·)

variable {id recordOf part}

theorem mem_of_find?_id {xs : List σ} {k : Uuid} {x : σ} (h : xs.find? (id · = k) = some x) :
    x ∈ xs ∧ id x = k := ⟨List.mem_of_find?_eq_some h, by simpa using List.find?_some h⟩

theorem lookup_eq_some_iff [DecidableEq κ] {xs : List σ} {ix : SidIndex κ} {sid : String}
    {x : σ} {y : φ} :
    lookup id recordOf part xs ix sid = some (x, y) ↔ ∃ ref, ix.owner? sid = some ref ∧
      xs.find? (id · = recordOf ref) = some x ∧ part ref x = some y := by
  simp [lookup, Option.bind_eq_some_iff]

/-- **Newcomers leave records alone and take SIDs.** The index need not agree with the records, as
they may have lost SIDs to newcomers before. -/
theorem tookIn_append [DecidableEq κ] {carries : σ → String → Prop} {pairs : σ → List (String × κ)}
    (hcarries : ∀ x sid, carries x sid ↔ ∃ ref, (sid, ref) ∈ pairs x)
    (hpairs : ∀ x, ∀ p ∈ pairs x, recordOf p.2 = id x) {new ys : List σ} {ix : SidIndex κ}
    (hl : ix.Linked) (hnew : ∀ x ∈ new, id x ∉ ys.map id) :
    TookIn carries new (fun k => ys.find? (id · = k))
    (fun k => (new.reverse ++ ys).find? (id · = k))
      (lookup id recordOf part ys ix)
      (lookup id recordOf part (new.reverse ++ ys) (ix.bindAll (new.flatMap pairs))) := by
  have hkept : ∀ k x, ys.find? (id · = k) = some x →
      (new.reverse ++ ys).find? (id · = k) = some x := by
    intro k x hx
    obtain ⟨hmem, rfl⟩ := mem_of_find?_id hx
    have hnone : new.reverse.find? (id · = id x) = none := by
      refine List.find?_eq_none.2 fun n hn hid => hnew n (List.mem_reverse.1 hn) ?_
      rw [of_decide_eq_true hid]
      exact List.mem_map_of_mem hmem
    rw [List.find?_append, hnone, Option.none_or, hx]
  have hcarried : ∀ sid, (∀ p ∈ new.flatMap pairs, p.1 ≠ sid) ↔ ∀ x ∈ new, ¬ carries x sid := by
    intro sid
    simp only [hcarries, List.mem_flatMap]
    constructor
    · rintro h x hx ⟨ref, hpair⟩
      exact h _ ⟨x, hx, hpair⟩ rfl
    · rintro h ⟨s, ref⟩ ⟨x, hx, hpair⟩ rfl
      exact h x hx ⟨ref, hpair⟩
  -- no part of a registered record is given a SID, so it keeps its own if nobody else is given that
  have hregistered : ∀ {sid ref x}, ys.find? (id · = recordOf ref) = some x →
      ((ix.bindAll (new.flatMap pairs)).owner? sid = some ref ↔
        ix.owner? sid = some ref ∧ ∀ x ∈ new, ¬ carries x sid) := by
    intro sid ref x hx
    obtain ⟨hmem, hid⟩ := mem_of_find?_id hx
    rw [← hcarried]
    refine SidIndex.owner?_bindAll_eq_some_iff hl ?_
    rintro p hp rfl
    obtain ⟨n, hn, hpair⟩ := List.mem_flatMap.1 hp
    refine hnew n hn ?_
    rw [← hpairs n p hpair, ← hid]
    exact List.mem_map_of_mem hmem
  refine ⟨hkept, ?_, ?_⟩
  · rintro sid ⟨x, y⟩ hfound
    obtain ⟨ref, howner, hx, hy⟩ := lookup_eq_some_iff.1 hfound
    rw [lookup_eq_some_iff]
    constructor
    · rintro ⟨ref', howner', hx', -⟩
      -- it is the same record, whichever of its parts is found
      have hids : recordOf ref' = recordOf ref :=
        (mem_of_find?_id hx').2.symm.trans (mem_of_find?_id hx).2
      exact ((hregistered (hids ▸ hx)).1 howner').2
    · intro hnone
      exact ⟨ref, (hregistered hx).2 ⟨howner, hnone⟩, hkept _ _ hx, hy⟩
  · rintro sid ⟨x, y⟩ ⟨n, hn, hcarry⟩ hfound
    obtain ⟨ref, howner, hx, -⟩ := lookup_eq_some_iff.1 hfound
    cases hold : ys.find? (id · = recordOf ref) with
    | some z => exact absurd hcarry (((hregistered hold).1 howner).2 n hn)
    | none =>
      rw [List.find?_append, hold, Option.or_none] at hx
      exact List.mem_reverse.1 (mem_of_find?_id hx).1

end

/-! ## Jobs -/

namespace Job

/-- One of the job's attempts has the SID. -/
def Carries (j : Job) (sid : String) : Prop := ∃ a ∈ j.attempts, a.sid = some sid

theorem carries_iff (j : Job) (sid : String) : j.Carries sid ↔ ∃ ref, (sid, ref) ∈ j.sidPairs := by
  simp only [Carries, mem_sidPairs]
  constructor
  · rintro ⟨a, ha, hsid⟩
    exact ⟨_, a, ha, hsid, rfl⟩
  · rintro ⟨_, a, ha, hsid, rfl⟩
    exact ⟨a, ha, hsid⟩

end Job

namespace JobRegister

/-- A register as anything that can be done to it leaves it. -/
inductive Reached : JobRegister → Prop where
  | empty : Reached {}
  | insert {r : JobRegister} (h : Reached r) (j : Job) : Reached (r.insert j)
  | patch {r r' : JobRegister} {now : Moment} {ref : AttemptRef} {p : Attempt.Patch} {job : Job}
    (h : Reached r) (hpatch : r.patch now ref p = some (job, r')) : Reached r'
  | bindSid {r r' : JobRegister} {now : Moment} {ref : AttemptRef} {sid : String} {job : Job}
    (h : Reached r) (hbind : r.bindSid now ref sid = some (job, r')) : Reached r'
  | restore {r : JobRegister} (h : Reached r) (j : Job) : Reached (r.restore j).2

variable {r : JobRegister}

theorem Reached.linked (h : r.Reached) : r.sids.Linked := by
  induction h with
  | empty => exact SidIndex.linked_empty
  | insert h j ih => exact ih
  | patch h hpatch ih => exact linked_patch ih hpatch
  | bindSid h hbind ih => exact linked_bindSid ih hbind
  | restore h j ih => exact linked_restore ih j

/-- Whoever has a SID is an attempt of a registered job. -/
theorem Reached.owned (h : r.Reached) {sid : String} {ref : AttemptRef}
    (howner : r.sids.owner? sid = some ref) : (r.get? ref.jobId).isSome := by
  have hkept : ∀ (r : JobRegister) a g f id, Job.Touches a g f → (r.get? ref.jobId).isSome →
      ((r.modify id f).get? ref.jobId).isSome := by
    intro r a g f id htouches hthere
    rw [get?_modify htouches.id_eq, Option.isSome_map]
    exact hthere
  induction h with
  | empty => cases howner
  | insert h j ih =>
    rw [get?_insert]
    split
    · rfl
    · exact ih howner
  | patch h hpatch ih =>
    obtain ⟨-, -, -, -, rfl⟩ := patch_eq_some_iff.1 hpatch
    exact hkept _ _ _ _ _ (Job.touches_patch ..) (ih howner)
  | @bindSid r _ now target sid' _ h hbind ih =>
    refine bindSid_induction (I := fun r => (r.get? ref.jobId).isSome) hkept
      (fun _ _ h => h) ?_ hbind
    obtain ⟨hthere, rfl⟩ := bindSid_eq_some hbind
    change (r.sids.bind sid' target).owner? sid = some ref at howner
    rcases SidIndex.owner?_or_eq_of_owner?_bind h.linked howner with hold | ⟨-, rfl⟩
    · exact ih hold
    · obtain ⟨⟨j, a⟩, hfound⟩ := Option.isSome_iff_exists.1 hthere
      rw [(attempt?_eq_some_iff.1 hfound).1]
      rfl
  | @restore r h j ih =>
    unfold JobRegister.restore at howner ⊢
    split at howner
    · rename_i hthere
      rw [if_pos hthere]
      exact ih howner
    · rename_i hnew
      rw [if_neg hnew, get?_insert]
      change (indexAttempts r.sids j).owner? sid = some ref at howner
      rw [indexAttempts_eq] at howner
      rcases SidIndex.owner?_or_mem_of_owner?_bindAll h.linked howner with hold | hpair
      · split
        · rfl
        · exact ih hold
      · obtain ⟨a, -, -, rfl⟩ := Job.mem_sidPairs.1 hpair
        rw [if_pos rfl]
        rfl

/-- A job that is registered is passed over. -/
theorem restore_known {j : Job} (h : (r.get? j.id).isSome) : r.restore j = (false, r) := by
  unfold restore
  exact if_pos h

theorem findSid?_eq_lookup (r : JobRegister) (sid : String) :
    r.findSid? sid =
      lookup Job.id AttemptRef.jobId (fun ref j => j.attempt? ref.attemptId) r.jobs r.sids sid := by
  unfold findSid? lookup JobRegister.attempt? get?
  cases r.sids.owner? sid with
  | none => rfl
  | some ref =>
    dsimp only [Option.bind_eq_bind, Option.bind_some]
    cases r.jobs.find? (·.id = ref.jobId) with
    | none => rfl
    | some j =>
      dsimp only [Option.bind_some]
      cases j.attempt? ref.attemptId <;> rfl

theorem takeIn_restore_eq (r : JobRegister) (js : List Job) :
    Desk.takeIn restore r js =
      let new := newcomers Job.id (r.jobs.map (·.id)) js
      (new.length, ⟨new.reverse ++ r.jobs, r.sids.bindAll (new.flatMap Job.sidPairs)⟩) := by
  have hnew : ∀ ys ix (j : Job), (∀ y ∈ ys, y.id ≠ j.id) →
      restore (.mk ys ix) j = (true, .mk (j :: ys) (ix.bindAll j.sidPairs)) :=
      fun _ _ _ => restore_new
  have hknown : ∀ ys ix (j : Job), (∃ y ∈ ys, y.id = j.id) →
      restore (.mk ys ix) j = (false, .mk ys ix) := by
    rintro ys ix j ⟨k, hk, hid⟩
    exact restore_known (List.find?_isSome.2 ⟨k, hk, decide_eq_true hid⟩)
  exact Desk.takeIn_newcomers hnew hknown js r.jobs r.sids

/-- What is found of a register that has taken jobs in. -/
theorem takeIn_restore_tookIn (hl : r.sids.Linked) (js : List Job) :
    TookIn Job.Carries (newcomers Job.id (r.jobs.map (·.id)) js) r.get?
      (Desk.takeIn restore r js).2.get? r.findSid? (Desk.takeIn restore r js).2.findSid? := by
  have hown : ∀ (j : Job), ∀ p ∈ j.sidPairs, AttemptRef.jobId p.2 = j.id := by
    rintro j p hp
    obtain ⟨a, -, -, href⟩ := Job.mem_sidPairs.1 hp
    rw [href]
  rw [takeIn_restore_eq, funext (findSid?_eq_lookup r), funext (findSid?_eq_lookup _)]
  exact tookIn_append Job.carries_iff hown hl newcomers_unknown

/-- A job that is not registered is taken in. -/
theorem restore_tookIn (hl : r.sids.Linked) {j : Job} (h : r.get? j.id = none) :
    (r.restore j).1 = true ∧
      TookIn Job.Carries [j] r.get? (r.restore j).2.get? r.findSid? (r.restore j).2.findSid? := by
  have hunknown := get?_eq_none_iff.1 h
  have hnew : newcomers Job.id (r.jobs.map (·.id)) [j] = [j] :=
    newcomers_singleton fun k hk => hunknown k hk
  have htook := takeIn_restore_tookIn hl [j]
  rw [hnew] at htook
  exact ⟨congrArg Prod.fst (restore_new hunknown), htook⟩

end JobRegister

/-! ## Sessions -/

namespace Session

/-- One of the session's legs has the SID. -/
def Carries (t : Session) (sid : String) : Prop := ∃ leg, t.sids.get leg = some sid

theorem carries_iff (t : Session) (sid : String) :
    t.Carries sid ↔ ∃ ref, (sid, ref) ∈ t.sidPairs := by
  simp only [Carries, mem_sidPairs]
  constructor
  · rintro ⟨leg, hsid⟩
    exact ⟨⟨t.id, leg⟩, rfl, hsid⟩
  · rintro ⟨ref, -, hsid⟩
    exact ⟨ref.leg, hsid⟩

end Session

namespace TransferRegister

/-- A register as anything that can be done to it leaves it. -/
inductive Reached : TransferRegister → Prop where
  | empty : Reached {}
  | insert {r : TransferRegister} (h : Reached r) (t : Session) : Reached (r.insert t)
  | setStatus {r r' : TransferRegister} {now : Instant} {id : Uuid} {status : TransferStatus}
    {t : Session} (h : Reached r) (hset : r.setStatus now id status = some (t, r')) : Reached r'
  | bindSid {r r' : TransferRegister} {now : Instant} {ref : LegRef} {sid : String} {t : Session}
    (h : Reached r) (hbind : r.bindSid now ref sid = some (t, r')) : Reached r'
  | restore {r : TransferRegister} (h : Reached r) (t : Session) : Reached (r.restore t).2

variable {r : TransferRegister}

theorem linked_restore (hl : r.sids.Linked) (t : Session) : (r.restore t).2.sids.Linked := by
  unfold restore
  split
  · exact hl
  · change (indexLegs r.sids t).Linked
    rw [indexLegs_eq]
    exact SidIndex.linked_bindAll hl _

theorem Reached.linked (h : r.Reached) : r.sids.Linked := by
  induction h with
  | empty => exact SidIndex.linked_empty
  | insert h t ih => exact ih
  | setStatus h hset ih =>
    obtain ⟨-, rfl⟩ := update_eq_some_iff.1 hset
    exact ih
  | bindSid h hbind ih =>
    obtain ⟨-, rfl⟩ := bindSid_eq_some hbind
    exact SidIndex.linked_bind ih _ _
  | restore h t ih => exact linked_restore ih t

/-- Whoever has a SID is a leg of a registered session. -/
theorem Reached.owned (h : r.Reached) {sid : String} {ref : LegRef}
    (howner : r.sids.owner? sid = some ref) : (r.get? ref.transferId).isSome := by
  induction h generalizing sid ref with
  | empty => cases howner
  | @insert r h t ih =>
    rw [get?_insert]
    split
    · rfl
    · exact ih howner
  | @setStatus r _ now id status _ h hset ih =>
    obtain ⟨-, rfl⟩ := update_eq_some_iff.1 hset
    rw [get?_modify (f := fun t => { t with status, updatedAt := now }) (fun _ => rfl),
      Option.isSome_map]
    exact ih howner
  | @bindSid r _ now target sid' _ h hbind ih =>
    obtain ⟨hthere, rfl⟩ := bindSid_eq_some hbind
    have hold : (r.get? ref.transferId).isSome := by
      change (r.sids.bind sid' target).owner? sid = some ref at howner
      rcases SidIndex.owner?_or_eq_of_owner?_bind h.linked howner with hold | ⟨-, rfl⟩
      · exact ih hold
      · exact hthere
    have hkept := get?_modify (Session.setsSlot_put now target.leg sid').id_eq
      (r.released target sid') target.transferId ref.transferId
    rw [← get?_released_isSome r target sid', ← Option.isSome_map, ← hkept] at hold
    exact hold
  | @restore r h t ih =>
    unfold TransferRegister.restore at howner ⊢
    split at howner
    · rename_i hthere
      rw [if_pos hthere]
      exact ih howner
    · rename_i hnew
      rw [if_neg hnew, get?_insert]
      change (indexLegs r.sids t).owner? sid = some ref at howner
      rw [indexLegs_eq] at howner
      rcases SidIndex.owner?_or_mem_of_owner?_bindAll h.linked howner with hold | hpair
      · split
        · rfl
        · exact ih hold
      · rw [if_pos (Session.mem_sidPairs.1 hpair).1]
        rfl

/-- A session that is registered is passed over. -/
theorem restore_known {t : Session} (h : (r.get? t.id).isSome) : r.restore t = (false, r) := by
  unfold restore
  exact if_pos h

theorem findSid?_eq_lookup (r : TransferRegister) (sid : String) :
    r.findSid? sid =
      lookup Session.id LegRef.transferId (fun ref _ => some ref.leg) r.sessions r.sids sid := by
  unfold findSid? lookup get?
  cases r.sids.owner? sid with
  | none => rfl
  | some ref =>
    dsimp only [Option.bind_eq_bind, Option.bind_some]
    cases r.sessions.find? (·.id = ref.transferId) <;> rfl

theorem takeIn_restore_eq (r : TransferRegister) (ts : List Session) :
    Desk.takeIn restore r ts =
      let new := newcomers Session.id (r.sessions.map (·.id)) ts
      (new.length, ⟨new.reverse ++ r.sessions, r.sids.bindAll (new.flatMap Session.sidPairs)⟩) := by
  have hnew : ∀ ys ix (t : Session), (∀ y ∈ ys, y.id ≠ t.id) →
      restore (.mk ys ix) t = (true, .mk (t :: ys) (ix.bindAll t.sidPairs)) :=
      fun _ _ _ => restore_new
  have hknown : ∀ ys ix (t : Session), (∃ y ∈ ys, y.id = t.id) →
      restore (.mk ys ix) t = (false, .mk ys ix) := by
    rintro ys ix t ⟨k, hk, hid⟩
    exact restore_known (List.find?_isSome.2 ⟨k, hk, decide_eq_true hid⟩)
  exact Desk.takeIn_newcomers hnew hknown ts r.sessions r.sids

/-- What is found of a register that has taken sessions in. -/
theorem takeIn_restore_tookIn (hl : r.sids.Linked) (ts : List Session) :
    TookIn Session.Carries (newcomers Session.id (r.sessions.map (·.id)) ts) r.get?
      (Desk.takeIn restore r ts).2.get? r.findSid? (Desk.takeIn restore r ts).2.findSid? := by
  have hown : ∀ (t : Session), ∀ p ∈ t.sidPairs, LegRef.transferId p.2 = t.id :=
    fun t p hp => (Session.mem_sidPairs.1 hp).1.symm
  rw [takeIn_restore_eq, funext (findSid?_eq_lookup r), funext (findSid?_eq_lookup _)]
  exact tookIn_append Session.carries_iff hown hl newcomers_unknown

/-- A session that is not registered is taken in. -/
theorem restore_tookIn (hl : r.sids.Linked) {t : Session} (h : r.get? t.id = none) :
    (r.restore t).1 = true ∧
      TookIn Session.Carries [t] r.get? (r.restore t).2.get? r.findSid?
        (r.restore t).2.findSid? := by
  have hunknown := get?_eq_none_iff.1 h
  have hnew : newcomers Session.id (r.sessions.map (·.id)) [t] = [t] :=
    newcomers_singleton fun k hk => hunknown k hk
  have htook := takeIn_restore_tookIn hl [t]
  rw [hnew] at htook
  exact ⟨congrArg Prod.fst (restore_new hunknown), htook⟩

end TransferRegister

/-! ## The desk -/

namespace Desk

variable {s : Surroundings} {d d' : Desk}

/-- The registers are as anything that can be done to them leaves them. -/
structure Reached (d : Desk) : Prop where
  jobs : d.jobs.Reached
  transfers : d.transfers.Reached

theorem Change.reached (h : Change s d d') (hd : d.Reached) : d'.Reached := by
  cases h with
  | registered n now r callback accepted => exact ⟨hd.jobs.insert _, hd.transfers⟩
  | patched noSid hpatch => exact ⟨hd.jobs.patch hpatch, hd.transfers⟩
  | marked noSid hpatch => exact ⟨hd.jobs.patch hpatch, hd.transfers⟩
  | bound hbind => exact ⟨hd.jobs.bindSid hbind, hd.transfers⟩
  | opened n mode input made => exact ⟨hd.jobs, hd.transfers.insert _⟩
  | moved hset => exact ⟨hd.jobs, hd.transfers.setStatus hset⟩
  | joined hbind => exact ⟨hd.jobs, hd.transfers.bindSid hbind⟩
  | blocked raw =>
    obtain ⟨_, _, h⟩ := block_eq raw d
    exact h ▸ ⟨hd.jobs, hd.transfers⟩
  | unblocked raw =>
    obtain ⟨_, _, h⟩ := unblock_eq raw d
    exact h ▸ ⟨hd.jobs, hd.transfers⟩
  | forgotten => exact ⟨.empty, .empty⟩
  | acted | counted | escalated => exact ⟨hd.jobs, hd.transfers⟩

/-- Whatever a desk does its registers remain reached, also when it takes records in. -/
theorem Reachable.reached {c : SafetyConfig} (h : Reachable c d) : d.Reached := by
  obtain ⟨ops, s, hchanges⟩ := h
  refine hchanges.keeps (fun _ _ => Change.reached) ?_
  refine run_induction (fun d s op hd => ?_) ops _ ⟨.empty, .empty⟩
  by_cases hmemory : ∃ stored, op = .restore stored
  · obtain ⟨stored, rfl⟩ := hmemory
    exact ⟨takeIn_keeps (fun _ j hr => hr.restore j) stored.jobs _ hd.jobs,
      takeIn_keeps (fun _ t hr => hr.restore t) stored.sessions _ hd.transfers⟩
  · have hchanges := perform_changes s d fun stored h => hmemory ⟨stored, h⟩
    exact hchanges.keeps (fun _ _ => Change.reached) hd

/-- **Newcomers take SIDs from records in memory.** A stored record whose identifier is registered
changes nothing. Any other, and a whole store's newcomers, leave each registered record as it is;
a SID finds what it found before if and only if none of them carries it, and what it finds
otherwise is one of them. -/
theorem restore_displaces_iff (hd : d.Reached) (stored : Stored) :
    (∀ j, (d.jobs.get? j.id).isSome → d.jobs.restore j = (false, d.jobs)) ∧
    (∀ j, d.jobs.get? j.id = none → (d.jobs.restore j).1 = true ∧
      TookIn Job.Carries [j] d.jobs.get? (d.jobs.restore j).2.get? d.jobs.findSid?
        (d.jobs.restore j).2.findSid?) ∧
    (∀ t, (d.transfers.get? t.id).isSome → d.transfers.restore t = (false, d.transfers)) ∧
    (∀ t, d.transfers.get? t.id = none → (d.transfers.restore t).1 = true ∧
      TookIn Session.Carries [t] d.transfers.get? (d.transfers.restore t).2.get?
        d.transfers.findSid? (d.transfers.restore t).2.findSid?) ∧
    TookIn Job.Carries (newcomers Job.id (d.jobs.jobs.map (·.id)) stored.jobs) d.jobs.get?
      (d.restore stored).2.jobs.get? d.jobs.findSid? (d.restore stored).2.jobs.findSid? ∧
    TookIn Session.Carries (newcomers Session.id (d.transfers.sessions.map (·.id)) stored.sessions)
      d.transfers.get? (d.restore stored).2.transfers.get? d.transfers.findSid?
      (d.restore stored).2.transfers.findSid? :=
  ⟨fun _ => JobRegister.restore_known, fun _ => JobRegister.restore_tookIn hd.jobs.linked,
    fun _ => TransferRegister.restore_known,
    fun _ => TransferRegister.restore_tookIn hd.transfers.linked,
    JobRegister.takeIn_restore_tookIn hd.jobs.linked stored.jobs,
    TransferRegister.takeIn_restore_tookIn hd.transfers.linked stored.sessions⟩

/-- A job from storage whose one call had a SID. -/
def storedJob (sid : String) : Job :=
  (Job.create (.midnight 0) (.ofNat 40) (fun i => .ofNat (41 + i)) .dryRun
    ⟨"Needs a bed tonight.", none, false, false⟩ [⟨1, "Harbor House", none, none, none⟩]).patch
      (Instant.midnight 0) (.ofNat 41) { sid := some sid, status := some .completed }

/-- A job with a SID of its own leaves the others where they are, and one with a SID
from memory takes it. -/
theorem restore_displaces_iff_twoShelters : ((ofConfig {}).run (twoSheltersRun.take 1)).Reached ∧
    ∃ found, ((ofConfig {}).run (twoSheltersRun.take 1)).jobs.findSid? "CA0" = some found ∧
      ((((ofConfig {}).run (twoSheltersRun.take 1)).restore
        { jobs := [storedJob "CA9"] }).2.jobs.findSid? "CA0" = some found) ∧
      ¬ ((((ofConfig {}).run (twoSheltersRun.take 1)).restore
        { jobs := [storedJob "CA0"] }).2.jobs.findSid? "CA0" = some found) := by
  have hreachable : Reachable {} ((ofConfig {}).run (twoSheltersRun.take 1)) :=
    ⟨twoSheltersRun.take 1, .calm, .refl⟩
  have hfound : ∃ found,
      ((ofConfig {}).run (twoSheltersRun.take 1)).jobs.findSid? "CA0" = some found := ⟨_, rfl⟩
  have hnew : ∀ sid, newcomers Job.id
      (((ofConfig {}).run (twoSheltersRun.take 1)).jobs.jobs.map (·.id)) [storedJob sid] =
        [storedJob sid] := fun sid => rfl
  obtain ⟨found, hfind⟩ := hfound
  obtain ⟨-, -, -, -, hother, -⟩ :=
    restore_displaces_iff hreachable.reached { jobs := [storedJob "CA9"] }
  obtain ⟨-, -, -, -, hsame, -⟩ :=
    restore_displaces_iff hreachable.reached { jobs := [storedJob "CA0"] }
  have hcarries : ∀ sid, (storedJob sid).Carries "CA0" ↔ sid = "CA0" := by
    intro sid
    simp [Job.Carries, storedJob, Job.create, Job.patch, Job.modifyAttempt, Attempt.queued,
      Attempt.apply]
  rw [hnew] at hother hsame
  refine ⟨hreachable.reached, found, hfind, (hother.found_iff "CA0" found hfind).2 ?_, fun h => ?_⟩
  · intro j hj hcarry
    rw [List.mem_singleton.1 hj] at hcarry
    exact absurd ((hcarries "CA9").1 hcarry) (by decide)
  · exact (hsame.found_iff "CA0" found hfind).1 h _ (List.mem_singleton.2 rfl)
      ((hcarries "CA0").2 rfl)

/-- The SID of an attempt in memory finds an attempt from storage, while the former still has it. -/
theorem restore_takes_sid : Reachable {} ((ofConfig {}).run (twoSheltersRun.take 1)) ∧
    ((ofConfig {}).run (twoSheltersRun.take 1)).jobs.get? (storedJob "CA0").id = none ∧
    (((ofConfig {}).run (twoSheltersRun.take 1)).jobs.findSid? "CA0").map
        (fun found => (found.1.id, found.2.id)) = some (.ofNat 0, .ofNat 0) ∧
    ((((ofConfig {}).run (twoSheltersRun.take 1)).jobs.restore
      (storedJob "CA0")).2.findSid? "CA0").map
        (fun found => (found.1.id, found.2.id)) = some (.ofNat 40, .ofNat 41) ∧
    ((((ofConfig {}).run (twoSheltersRun.take 1)).restore
      { jobs := [storedJob "CA0"] }).2.jobs.findSid? "CA0").map
        (fun found => (found.1.id, found.2.id)) = some (.ofNat 40, .ofNat 41) ∧
    (((ofConfig {}).run (twoSheltersRun.take 1)).restore
      { jobs := [storedJob "CA0"] }).2.jobs.sidOf? ⟨.ofNat 0, .ofNat 0⟩ = some "CA0" :=
  ⟨⟨twoSheltersRun.take 1, .calm, .refl⟩, by decide +kernel⟩

end Desk

end ShelterLine

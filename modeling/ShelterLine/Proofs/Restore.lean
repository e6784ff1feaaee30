import ShelterLine.Proofs.BlockedWrites
import ShelterLine.Proofs.EscalationLog

/-!
# Taking stored records in

A record that is there already is passed over, so taking in what is there changes nothing but
the order of the log. An empty register takes in all records with different identifiers, and
indexes their SIDs: if they are those of a register whose index says what is written in its
records, so is what comes of it.
-/

namespace ShelterLine

/-! ## Binding many SIDs -/

namespace SidIndex

variable {κ : Type} [DecidableEq κ]

/-- Binds SIDs to owners, one after the other. -/
def bindAll (ix : SidIndex κ) (pairs : List (String × κ)) : SidIndex κ :=
  pairs.foldl (fun ix p => ix.bind p.1 p.2) ix

/-- Bindings that do not displace each other are all there in the end. -/
theorem owner?_bindAll (pairs : List (String × κ))
    (hone : ∀ p ∈ pairs, ∀ q ∈ pairs, p.1 = q.1 ↔ p.2 = q.2) :
    (bindAll {} pairs).Linked ∧
      ∀ sid owner, (bindAll {} pairs).owner? sid = some owner ↔ (sid, owner) ∈ pairs := by
  induction pairs using List.reverseRecOn with
  | nil => exact ⟨linked_empty, fun sid owner => by simp [bindAll, owner?, Dictionary.get?_empty]⟩
  | append_singleton pairs p ih =>
    obtain ⟨hlinked, howner⟩ := ih fun a ha b hb =>
      hone a (List.mem_append_left _ ha) b (List.mem_append_left _ hb)
    have hlast : bindAll {} (pairs ++ [p]) = (bindAll {} pairs).bind p.1 p.2 := List.foldl_append ..
    have hp : p ∈ pairs ++ [p] := by simp
    rw [hlast]
    refine ⟨linked_bind hlinked p.1 p.2, fun sid owner => ?_⟩
    rw [owner?_bind hlinked, List.mem_append, List.mem_singleton]
    by_cases hsid : sid = p.1
    · rw [if_pos hsid, hsid]
      constructor
      · intro h
        exact Or.inr (by rw [← Option.some.inj h])
      · rintro (h | h)
        · exact congrArg some ((hone _ (List.mem_append_left _ h) p hp).1 rfl).symm
        · rw [← h]
    · -- the new owner had no other SID before
      have hnone : (bindAll {} pairs).sid? p.2 ≠ some sid := by
        intro h
        have hmem := (howner sid p.2).1 ((hlinked sid p.2).2 h)
        exact hsid ((hone _ (List.mem_append_left _ hmem) p hp).2 rfl)
      rw [if_neg hsid, if_neg hnone, howner]
      constructor
      · exact Or.inl
      · rintro (h | h)
        · exact h
        · exact absurd (congrArg Prod.fst h) hsid

/-- The bindings of an index do not displace each other. -/
theorem one_of_owner? {ix : SidIndex κ} (h : ix.Linked) {pairs : List (String × κ)}
    (hpairs : ∀ sid owner, (sid, owner) ∈ pairs ↔ ix.owner? sid = some owner) :
    ∀ p ∈ pairs, ∀ q ∈ pairs, p.1 = q.1 ↔ p.2 = q.2 := by
  rintro ⟨sid, owner⟩ hp ⟨sid', owner'⟩ hq
  rw [hpairs] at hp hq
  constructor
  · rintro rfl
    exact Option.some.inj (hp.symm.trans hq)
  · rintro rfl
    exact Option.some.inj (((h sid owner).1 hp).symm.trans ((h sid' owner).1 hq))

end SidIndex

/-! ## Taking in -/

/-- Records that changed apart from their keys are found where the old ones were. -/
theorem find?_key_perm_map {α γ : Type} [DecidableEq α] {key : γ → α} {f : γ → γ}
    (hf : ∀ e, key (f e) = key e) {es es' : List γ} (hn : (es.map key).Nodup)
    (hperm : es'.Perm (es.map f)) (a : α) :
    es'.find? (key · = a) = (es.find? (key · = a)).map f := by
  have hkeys : (es.map f).map key = es.map key := map_key_map hf es
  have hn' : (es'.map key).Nodup := (hperm.map key).nodup_iff.2 (hkeys ▸ hn)
  refine Option.ext fun e' => ?_
  rw [find?_key_eq_some_iff hn', hperm.mem_iff, List.mem_map, Option.map_eq_some_iff]
  constructor
  · rintro ⟨⟨e, he, rfl⟩, hkey⟩
    exact ⟨e, (find?_key_eq_some_iff hn).2 ⟨he, (hf e).symm.trans hkey⟩, rfl⟩
  · rintro ⟨e, he, rfl⟩
    obtain ⟨hmem, hkey⟩ := (find?_key_eq_some_iff hn).1 he
    exact ⟨⟨e, hmem, rfl⟩, (hf e).trans hkey⟩

namespace Desk

/-- What changes nothing is not counted. -/
theorem takeIn_same {σ α : Type} {take : σ → α → Bool × σ} {state : σ} {as : List α}
    (h : ∀ a ∈ as, take state a = (false, state)) : takeIn take state as = (0, state) := by
  induction as with
  | nil => rfl
  | cons a as ih =>
    unfold takeIn
    rw [h a List.mem_cons_self]
    dsimp only
    rw [ih fun b hb => h b (List.mem_cons_of_mem a hb)]
    rfl

/-- Records with new identifiers are all taken in, and their SIDs are bound. -/
theorem takeIn_new {σ ρ κ : Type} [DecidableEq κ] {id : σ → Uuid} {pairs : σ → List (String × κ)}
    {mk : List σ → SidIndex κ → ρ} {take : ρ → σ → Bool × ρ}
    (htake : ∀ xs ix x, (∀ y ∈ xs, id y ≠ id x) →
      take (mk xs ix) x = (true, mk (x :: xs) (ix.bindAll (pairs x)))) :
    ∀ (xs ys : List σ) (ix : SidIndex κ), ((ys ++ xs).map id).Nodup →
      takeIn take (mk ys ix) xs = (xs.length, mk (xs.reverse ++ ys) (ix.bindAll (xs.flatMap pairs)))
  | [], ys, ix, _ => rfl
  | x :: xs, ys, ix, hn => by
    have hnext : ((x :: ys ++ xs).map id).Nodup := by
      refine (List.Perm.nodup_iff ?_).1 hn
      exact List.perm_middle.map id
    have hfresh : ∀ y ∈ ys, id y ≠ id x := by
      intro y hy heq
      rw [List.cons_append, List.map_cons, List.nodup_cons] at hnext
      refine hnext.1 ?_
      rw [← heq]
      exact List.mem_map_of_mem (List.mem_append_left _ hy)
    unfold takeIn
    rw [htake ys ix x hfresh]
    dsimp only
    rw [takeIn_new htake xs (x :: ys) _ hnext]
    refine Prod.ext (Nat.add_comm ..) ?_
    dsimp only
    rw [List.reverse_cons, List.append_assoc, List.singleton_append, List.flatMap_cons]
    unfold SidIndex.bindAll
    rw [List.foldl_append]

/-- **Records that are taken in anew are found as before**, by identifier and by SID, if the index
had just the SIDs that are written in them. `cut` is what storing does to a record. -/
theorem takeIn_own {σ ρ κ : Type} [DecidableEq κ] {id : σ → Uuid} {pairs : σ → List (String × κ)}
    {mk : List σ → SidIndex κ → ρ} {take : ρ → σ → Bool × ρ} (cut : σ → σ)
    (htake : ∀ xs ix x, (∀ y ∈ xs, id y ≠ id x) →
      take (mk xs ix) x = (true, mk (x :: xs) (ix.bindAll (pairs x))))
    (hid : ∀ x, id (cut x) = id x) (hpairs : ∀ x, pairs (cut x) = pairs x)
    {kept xs : List σ} {ix : SidIndex κ} (hn : (kept.map id).Nodup) (hlinked : ix.Linked)
    (howner : ∀ sid owner, ix.owner? sid = some owner ↔ ∃ x ∈ kept, (sid, owner) ∈ pairs x)
    (hperm : xs.Perm (kept.map cut)) :
    ∃ xs' ix', takeIn take (mk [] {}) xs = (xs.length, mk xs' ix') ∧ xs'.Perm (kept.map cut) ∧
      (∀ k, xs'.find? (id · = k) = (kept.find? (id · = k)).map cut) ∧
      ∀ sid, ix'.owner? sid = ix.owner? sid := by
  have hids : (kept.map cut).map id = kept.map id := map_key_map hid kept
  have hn' : (([] ++ xs).map id).Nodup := (hperm.map id).nodup_iff.2 (hids ▸ hn)
  -- the pairs are the bindings that there were before
  have hbindings : ∀ sid owner, (sid, owner) ∈ xs.flatMap pairs ↔ ix.owner? sid = some owner := by
    intro sid owner
    rw [howner, List.mem_flatMap]
    constructor
    · rintro ⟨y, hy, hpair⟩
      obtain ⟨x, hx, rfl⟩ := List.mem_map.1 (hperm.mem_iff.1 hy)
      exact ⟨x, hx, hpairs x ▸ hpair⟩
    · rintro ⟨x, hx, hpair⟩
      exact ⟨cut x, hperm.mem_iff.2 (List.mem_map_of_mem hx), (hpairs x).symm ▸ hpair⟩
  obtain ⟨-, hbound⟩ := SidIndex.owner?_bindAll (xs.flatMap pairs)
    (SidIndex.one_of_owner? hlinked hbindings)
  have hperm' : (xs.reverse ++ []).Perm (kept.map cut) := by
    rw [List.append_nil]
    exact xs.reverse_perm.trans hperm
  exact ⟨xs.reverse ++ [], .bindAll {} (xs.flatMap pairs), takeIn_new htake xs [] {} hn', hperm',
    find?_key_perm_map hid hn hperm',
    fun sid => Option.ext fun owner => (hbound sid owner).trans (hbindings sid owner)⟩

end Desk

/-! ## Jobs -/

/-- The SIDs of a job's attempts. -/
def Job.sidPairs (j : Job) : List (String × AttemptRef) :=
  j.attempts.filterMap fun a => a.sid.map (·, ⟨j.id, a.id⟩)

theorem Job.mem_sidPairs {j : Job} {sid : String} {ref : AttemptRef} :
    (sid, ref) ∈ j.sidPairs ↔ ∃ a ∈ j.attempts, a.sid = some sid ∧ ref = ⟨j.id, a.id⟩ := by
  unfold sidPairs
  rw [List.mem_filterMap]
  refine exists_congr fun a => and_congr_right fun _ => ?_
  rw [Option.map_eq_some_iff]
  constructor
  · rintro ⟨_, hsid, heq⟩
    obtain ⟨rfl, rfl⟩ := Prod.mk.inj heq
    exact ⟨hsid, rfl⟩
  · rintro ⟨hsid, rfl⟩
    exact ⟨sid, hsid, rfl⟩

namespace JobRegister

variable {r : JobRegister} {js : List Job}

theorem indexAttempts_eq (sids : SidIndex AttemptRef) (j : Job) :
    indexAttempts sids j = sids.bindAll j.sidPairs := by
  unfold indexAttempts SidIndex.bindAll Job.sidPairs
  rw [List.foldl_filterMap]
  congr 1
  funext ix a
  cases a.sid <;> rfl

theorem restore_new {xs : List Job} {ix : SidIndex AttemptRef} {j : Job}
    (h : ∀ y ∈ xs, y.id ≠ j.id) :
    restore ⟨xs, ix⟩ j = (true, ⟨j :: xs, ix.bindAll j.sidPairs⟩) := by
  have hnone : (⟨xs, ix⟩ : JobRegister).get? j.id = none := get?_eq_none_iff.2 h
  have hothers : xs.filter (·.id ≠ j.id) = xs := List.filter_eq_self.2 fun y hy =>
    decide_eq_true (h y hy)
  unfold restore
  rw [hnone, indexAttempts_eq, Option.isSome_none, if_neg Bool.false_ne_true]
  unfold insert
  rw [hothers]

/-- Jobs that are there already change nothing. -/
theorem takeIn_restore_same (h : ∀ j ∈ js, ∃ k ∈ r.jobs, k.id = j.id) :
    Desk.takeIn restore r js = (0, r) := by
  refine Desk.takeIn_same fun j hj => ?_
  have hthere : (r.get? j.id).isSome := by
    obtain ⟨k, hk, hid⟩ := h j hj
    exact List.find?_isSome.2 ⟨k, hk, by simpa using hid⟩
  unfold restore
  exact if_pos hthere

/-- **A register that takes in its own jobs finds the same attempts.** -/
theorem takeIn_restore_own (hk : r.Keyed) (hc : r.Coherent)
    (hjs : js.Perm (r.jobs.map Job.toMicros)) :
    ∃ r', Desk.takeIn restore {} js = (js.length, r') ∧ r'.jobs.Perm (r.jobs.map Job.toMicros) ∧
      ∀ sid, r'.findSid? sid = (r.findSid? sid).map fun found => (found.1.toMicros, found.2) := by
  have howner : ∀ sid ref, r.sids.owner? sid = some ref ↔ ∃ j ∈ r.jobs,
      (sid, ref) ∈ j.sidPairs := by
    intro sid ref
    rw [hc.owner?_eq_some_iff, sidOf?_eq_some_iff]
    constructor
    · rintro ⟨j, a, hfound, hsid⟩
      have href := attempt?_ref hfound
      obtain ⟨hj, ha⟩ := hk.attempt?_eq_some_iff.1 (href.symm ▸ hfound)
      exact ⟨j, hj, Job.mem_sidPairs.2 ⟨a, ha, hsid, href.symm⟩⟩
    · rintro ⟨j, hj, hpair⟩
      obtain ⟨a, ha, hsid, rfl⟩ := Job.mem_sidPairs.1 hpair
      exact ⟨j, a, hk.attempt?_eq_some_iff.2 ⟨hj, ha⟩, hsid⟩
  have hnew : ∀ xs ix (j : Job), (∀ y ∈ xs, y.id ≠ j.id) →
      restore (.mk xs ix) j = (true, .mk (j :: xs) (ix.bindAll j.sidPairs)) :=
      fun _ _ _ => restore_new
  obtain ⟨jobs, sids, htaken, hperm, hget, hsame⟩ := Desk.takeIn_own Job.toMicros hnew
    (fun _ => rfl) (fun _ => rfl) hk.jobs hc.linked howner hjs
  refine ⟨⟨jobs, sids⟩, htaken, hperm, fun sid => ?_⟩
  change (sids.owner? sid).bind _ = _
  rw [hsame]
  unfold findSid?
  cases r.sids.owner? sid with
  | none => rfl
  | some ref =>
    change (List.find? _ _).bind _ = ((r.get? ref.jobId).bind _).map _
    rw [hget]
    change ((r.get? ref.jobId).map _).bind _ = _
    cases r.get? ref.jobId with
    | none => rfl
    | some j =>
      change (j.attempt? ref.attemptId).bind _ = ((j.attempt? ref.attemptId).bind _).map _
      cases j.attempt? ref.attemptId <;> rfl

end JobRegister

/-! ## Sessions -/

/-- The SIDs of a session's legs. -/
def Session.sidPairs (t : Session) : List (String × LegRef) :=
  [Leg.survivor, .shelter].filterMap fun leg => (t.sids.get leg).map (·, ⟨t.id, leg⟩)

theorem Session.mem_sidPairs {t : Session} {sid : String} {ref : LegRef} :
    (sid, ref) ∈ t.sidPairs ↔ t.id = ref.transferId ∧ t.sids.get ref.leg = some sid := by
  unfold sidPairs
  rw [List.mem_filterMap]
  constructor
  · rintro ⟨leg, -, hpair⟩
    obtain ⟨_, hsid, heq⟩ := Option.map_eq_some_iff.1 hpair
    obtain ⟨rfl, rfl⟩ := Prod.mk.inj heq
    exact ⟨rfl, hsid⟩
  · rintro ⟨hid, hsid⟩
    refine ⟨ref.leg, by cases ref.leg <;> simp, ?_⟩
    rw [hsid, hid]
    rfl

namespace TransferRegister

variable {r : TransferRegister} {ts : List Session}

theorem indexLegs_eq (sids : SidIndex LegRef) (t : Session) :
    indexLegs sids t = sids.bindAll t.sidPairs := by
  unfold indexLegs SidIndex.bindAll Session.sidPairs
  rw [List.foldl_filterMap]
  congr 1
  funext ix leg
  cases t.sids.get leg <;> rfl

theorem get?_eq_none_iff {id : Uuid} : r.get? id = none ↔ ∀ t ∈ r.sessions, t.id ≠ id := by
  simp [get?]

theorem restore_new {xs : List Session} {ix : SidIndex LegRef} {t : Session}
    (h : ∀ y ∈ xs, y.id ≠ t.id) : restore ⟨xs, ix⟩ t =
      (true, ⟨t :: xs, ix.bindAll t.sidPairs⟩) := by
  have hnone : (⟨xs, ix⟩ : TransferRegister).get? t.id = none := get?_eq_none_iff.2 h
  have hothers : xs.filter (·.id ≠ t.id) = xs := List.filter_eq_self.2 fun y hy =>
    decide_eq_true (h y hy)
  unfold restore
  rw [hnone, indexLegs_eq, Option.isSome_none, if_neg Bool.false_ne_true]
  unfold insert
  rw [hothers]

/-- Sessions that are there already change nothing. -/
theorem takeIn_restore_same (h : ∀ t ∈ ts, ∃ k ∈ r.sessions, k.id = t.id) :
    Desk.takeIn restore r ts = (0, r) := by
  refine Desk.takeIn_same fun t ht => ?_
  have hthere : (r.get? t.id).isSome := by
    obtain ⟨k, hk, hid⟩ := h t ht
    exact List.find?_isSome.2 ⟨k, hk, by simpa using hid⟩
  unfold restore
  exact if_pos hthere

/-- **A register that takes in its own sessions finds the same legs.** -/
theorem takeIn_restore_own (hk : r.Keyed) (hc : r.Coherent)
    (hts : ts.Perm (r.sessions.map Session.toMicros)) :
    ∃ r', Desk.takeIn restore {} ts = (ts.length, r') ∧
      r'.sessions.Perm (r.sessions.map Session.toMicros) ∧
      ∀ sid, r'.findSid? sid = (r.findSid? sid).map fun found => (found.1.toMicros, found.2) := by
  have howner : ∀ sid ref, r.sids.owner? sid = some ref ↔
      ∃ t ∈ r.sessions, (sid, ref) ∈ t.sidPairs := by
    intro sid ref
    rw [hc.owner?_eq_some_iff, slot?_eq_some_iff]
    constructor
    · rintro ⟨t, hfound, hsid⟩
      obtain ⟨ht, hid⟩ := hk.get?_eq_some_iff.1 hfound
      exact ⟨t, ht, Session.mem_sidPairs.2 ⟨hid, hsid⟩⟩
    · rintro ⟨t, ht, hpair⟩
      obtain ⟨hid, hsid⟩ := Session.mem_sidPairs.1 hpair
      exact ⟨t, hk.get?_eq_some_iff.2 ⟨ht, hid⟩, hsid⟩
  have hnew : ∀ xs ix (t : Session), (∀ y ∈ xs, y.id ≠ t.id) →
      restore (.mk xs ix) t = (true, .mk (t :: xs) (ix.bindAll t.sidPairs)) :=
      fun _ _ _ => restore_new
  obtain ⟨sessions, sids, htaken, hperm, hget, hsame⟩ := Desk.takeIn_own Session.toMicros hnew
    (fun _ => rfl) (fun _ => rfl) hk hc.linked howner hts
  refine ⟨⟨sessions, sids⟩, htaken, hperm, fun sid => ?_⟩
  change (sids.owner? sid).bind _ = _
  rw [hsame]
  unfold findSid?
  cases r.sids.owner? sid with
  | none => rfl
  | some ref =>
    change (List.find? _ _).bind _ = ((r.get? ref.transferId).bind _).map _
    rw [hget]
    change ((r.get? ref.transferId).map _).bind _ = _
    cases r.get? ref.transferId <;> rfl

end TransferRegister

/-! ## Blocked numbers -/

namespace BlockList

variable {b : BlockList} {n : String} {raws : List String}

theorem insertSorted_of_mem :
    ∀ {ms : List String}, ms.Pairwise (· < ·) → n ∈ ms → insertSorted n ms = ms
  | [], _, h => absurd h List.not_mem_nil
  | m :: ms, hs, h => by
    obtain ⟨hm, hms⟩ := List.pairwise_cons.1 hs
    unfold insertSorted
    rcases List.mem_cons.1 h with rfl | h
    · rw [if_neg (String.lt_irrefl n), if_pos rfl]
    · have hlt := hm n h
      have hnot : ¬ n < m := fun hgt => String.lt_irrefl _ (String.lt_trans hlt hgt)
      have hne : n ≠ m := fun heq => String.lt_irrefl m (heq ▸ hlt)
      rw [if_neg hnot, if_neg hne, insertSorted_of_mem hms h]

/-- A number that is on the list already changes nothing, and neither does text that
is no number. -/
theorem add_known {raw : String} (hs : b.Sorted)
    (h : ∀ n, Phone.canonical? raw = some n → n ∈ b.numbers) :
    b.add raw = (⟨false, Phone.canonical? raw⟩, b) := by
  unfold add
  cases hraw : Phone.canonical? raw with
  | none => rfl
  | some n =>
    have hmem := h n hraw
    have hinsert : b.insert n = b := by
      unfold insert
      rw [insertSorted_of_mem hs hmem]
    dsimp only
    rw [hinsert, contains_eq_true_iff.2 hmem]
    rfl

/-- Numbers that are on the list already change nothing. -/
theorem takeIn_add_same (hs : b.Sorted) (hc : b.Canonical) (h : ∀ n ∈ raws, n ∈ b.numbers) :
    Desk.takeIn (fun b raw => ((b.add raw).1.changed, (b.add raw).2)) b raws = (0, b) := by
  refine Desk.takeIn_same fun n hn => ?_
  have hmem := h n hn
  rw [add_known hs]
  intro m hm
  rw [hc n hmem] at hm
  exact Option.some.inj hm ▸ hmem

/-- What is blocked and what is taken in is blocked, however it is spelled. -/
theorem mem_takeIn_add (h : n ∈ b.numbers ∨ ∃ raw ∈ raws, Phone.canonical? raw = some n) :
    n ∈ (Desk.takeIn (fun b raw => ((b.add raw).1.changed, (b.add raw).2)) b raws).2.numbers := by
  induction raws generalizing b with
  | nil => exact h.elim (fun h => h) fun ⟨_, hraw, _⟩ => absurd hraw List.not_mem_nil
  | cons raw raws ih =>
    refine ih ?_
    rw [← contains_eq_true_iff, contains_add, Bool.or_eq_true, decide_eq_true_eq,
      contains_eq_true_iff]
    rcases h with h | ⟨raw', hraw, hn⟩
    · exact Or.inl (Or.inr h)
    · rcases List.mem_cons.1 hraw with rfl | hraw
      · exact Or.inl (Or.inl hn)
      · exact Or.inr ⟨raw', hraw, hn⟩

end BlockList

end ShelterLine

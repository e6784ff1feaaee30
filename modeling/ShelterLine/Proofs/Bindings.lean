import Mathlib.Data.Set.Card
import ShelterLine.Proofs.SidIndex

/-!
# SIDs and owners are bound one to one

However the index came about, its two directions are the two directions of one relation, in which a
SID has at most one owner and an owner at most one SID. A binding adds one pair to it and takes away
those that share a side with the new one, which are two when both sides were bound to others. The
report of a binding is read off the relation before it, and says whether anything was taken away.
-/

namespace ShelterLine.SidIndex

/-! ## The relation -/

section

variable {κ : Type} {ix : SidIndex κ} {sid : String} {owner o : κ}

/-- A SID and an owner are bound to each other. -/
def Bound (ix : SidIndex κ) (sid : String) (owner : κ) : Prop := ix.owner? sid = some owner

/-- A SID has one owner. -/
theorem Bound.owner_eq (hb : ix.Bound sid owner) (hb' : ix.Bound sid o) : owner = o :=
  Option.some.inj (hb.symm.trans hb')

theorem owner?_eq_none_iff : ix.owner? sid = none ↔ ∀ o, ¬ ix.Bound sid o := by
  unfold Bound
  cases ix.owner? sid with
  | none => simp
  | some o => simp

/-- The index has as many entries as pairs are bound. -/
theorem size_eq_ncard (ix : SidIndex κ) : {p : String × κ | ix.Bound p.1 p.2}.Finite ∧
    ix.size = {p : String × κ | ix.Bound p.1 p.2}.ncard := by
  classical
  have hpairs : {p : String × κ | ix.Bound p.1 p.2} = ↑ix.bySid.entries.toFinset := by
    ext p
    rw [Finset.mem_coe, List.mem_toFinset]
    exact Dictionary.get?_eq_some_iff
  have hnodup : ix.bySid.entries.Nodup := ix.bySid.nodup.of_map
  rw [hpairs]
  refine ⟨Finset.finite_toSet _, ?_⟩
  rw [Set.ncard_coe_finset, List.toFinset_card_of_nodup hnodup]
  rfl

/-- The pairs whose owner passes the test are retained. -/
theorem bound_retain_iff (ix : SidIndex κ) (keep : κ → Bool) {s : String} :
    (ix.retain keep).Bound s o ↔ ix.Bound s o ∧ keep o = true := by
  unfold Bound owner? retain
  rw [Dictionary.get?_filter, Option.filter_eq_some_iff]

end

variable {κ : Type} [DecidableEq κ] {ix : SidIndex κ} {sid s : String} {owner o : κ}

/-- An owner has one SID. -/
theorem Linked.sid_eq (h : ix.Linked) (hb : ix.Bound sid owner) (hb' : ix.Bound s owner) :
    sid = s :=
  Option.some.inj (((h sid owner).1 hb).symm.trans ((h s owner).1 hb'))

theorem Linked.sid?_eq_none_iff (h : ix.Linked) :
    ix.sid? owner = none ↔ ∀ s, ¬ ix.Bound s owner := by
  have hall : (∀ s, ¬ ix.Bound s owner) ↔ ∀ s, ix.sid? owner ≠ some s :=
    forall_congr' fun s => not_congr (h s owner)
  rw [hall]
  exact Option.eq_none_iff_forall_ne_some

/-! ## Changes -/

theorem Linked.bound_bind_iff (h : ix.Linked) : (ix.bind sid owner).Bound s o ↔
    s = sid ∧ o = owner ∨ s ≠ sid ∧ o ≠ owner ∧ ix.Bound s o := owner?_bind_eq_some_iff h

theorem linked_retain (h : ix.Linked) (keep : κ → Bool) : (ix.retain keep).Linked := by
  intro sid owner
  have hsid : (ix.retain keep).sid? owner = some sid ↔ ix.sid? owner = some sid ∧
      keep owner = true := by
    unfold sid? retain
    rw [Dictionary.get?_filter, Option.filter_eq_some_iff]
  rw [hsid, ← h sid owner]
  exact bound_retain_iff ix keep

/-- What can be done to an index. -/
inductive Change (κ : Type) where
  | bind (sid : String) (owner : κ)
  | retain (keep : κ → Bool)
  | clear

/-- Makes a change. -/
def change (ix : SidIndex κ) : Change κ → SidIndex κ
  | .bind sid owner => ix.bind sid owner
  | .retain keep => ix.retain keep
  | .clear => {}

/-- Makes changes, one after the other. -/
def changeAll (ix : SidIndex κ) (changes : List (Change κ)) : SidIndex κ := changes.foldl change ix

theorem linked_change (h : ix.Linked) (c : Change κ) : (ix.change c).Linked := by
  cases c with
  | bind sid owner => exact linked_bind h sid owner
  | retain keep => exact linked_retain h keep
  | clear => exact linked_empty

theorem linked_changeAll (h : ix.Linked) (changes : List (Change κ)) :
    (ix.changeAll changes).Linked :=
  List.foldlRecOn changes _ h fun _ hix c _ => linked_change hix c

/-! ## Reports -/

/-- What a binding reports, by what was bound before it and what is bound after it. -/
structure Reports (ix ix' : SidIndex κ) (sid : String) (owner : κ) (r : Rebind κ) : Prop where
  unchanged : r = .unchanged ↔ ix.Bound sid owner
  fresh : r = .fresh ↔ (∀ o, ¬ ix.Bound sid o) ∧ ∀ s, ¬ ix.Bound s owner
  movedFrom : ∀ p, r = .movedFrom p ↔ ix.Bound sid p ∧ p ≠ owner
  replacedSid : ∀ q, r = .replacedSid q ↔ (∀ o, ¬ ix.Bound sid o) ∧ ix.Bound q owner
  anomaly : r.isAnomaly = true ↔ ∃ s o, ix.Bound s o ∧ ¬ ix'.Bound s o

/-- A pair is taken away when one side of it is bound to something else. -/
theorem Linked.lost_iff (h : ix.Linked) : (∃ s o, ix.Bound s o ∧ ¬ (ix.bind sid owner).Bound s o) ↔
    ∃ s o, ix.Bound s o ∧ (s = sid ∧ o ≠ owner ∨ s ≠ sid ∧ o = owner) := by
  refine exists_congr fun s => exists_congr fun o => and_congr_right fun hb => ?_
  rw [h.bound_bind_iff]
  by_cases hs : s = sid
  · simp [hs]
  · simp [hs, hb]

/-- **A binding reports what it took away.** -/
theorem Linked.reports (h : ix.Linked) (sid : String) (owner : κ) :
    ix.Reports (ix.bind sid owner) sid owner (ix.rebind sid owner) := by
  unfold rebind
  cases hsid : ix.owner? sid with
  | some p =>
    have hp : ix.Bound sid p := hsid
    have htaken : ¬ ∀ o, ¬ ix.Bound sid o := fun hfree => hfree p hp
    by_cases howner : p = owner
    · subst howner
      have hnone : ¬ ∃ s o, ix.Bound s o ∧ (s = sid ∧ o ≠ p ∨ s ≠ sid ∧ o = p) := by
        intro hlost
        obtain ⟨s, o, hb, hshared⟩ := hlost
        rcases hshared with ⟨hs, ho⟩ | ⟨hs, ho⟩
        · exact ho (Bound.owner_eq (hs ▸ hb) hp)
        · exact hs (h.sid_eq (ho ▸ hb) hp)
      dsimp only
      rw [if_pos rfl]
      exact {
        unchanged := iff_of_true rfl hp
        fresh := iff_of_false (by simp) fun hf => htaken hf.1
        movedFrom := fun q => iff_of_false (by simp) fun hm => hm.2 (hm.1.owner_eq hp)
        replacedSid := fun q => iff_of_false (by simp) fun hr => htaken hr.1
        anomaly := by
          rw [h.lost_iff]
          exact iff_of_false Bool.false_ne_true hnone }
    · dsimp only
      rw [if_neg howner]
      exact {
        unchanged := iff_of_false (by simp) fun hb => howner (hp.owner_eq hb)
        fresh := iff_of_false (by simp) fun hf => htaken hf.1
        movedFrom := fun q => by
          rw [Rebind.movedFrom.injEq]
          exact ⟨fun hq => hq ▸ ⟨hp, howner⟩, fun hq => hp.owner_eq hq.1⟩
        replacedSid := fun q => iff_of_false (by simp) fun hr => htaken hr.1
        anomaly := by
          rw [h.lost_iff]
          exact iff_of_true rfl ⟨sid, p, hp, Or.inl ⟨rfl, howner⟩⟩ }
  | none =>
    have hfree : ∀ o, ¬ ix.Bound sid o := owner?_eq_none_iff.1 hsid
    cases hprev : ix.sid? owner with
    | some q =>
      have hq : ix.Bound q owner := (h q owner).2 hprev
      have hne : q ≠ sid := fun hs => hfree owner (hs ▸ hq)
      exact {
        unchanged := iff_of_false (by simp) (hfree owner)
        fresh := iff_of_false (by simp) fun hf => hf.2 q hq
        movedFrom := fun p => iff_of_false (by simp) fun hm => hfree p hm.1
        replacedSid := fun p => by
          rw [Rebind.replacedSid.injEq]
          exact ⟨fun hp => hp ▸ ⟨hfree, hq⟩, fun hp => h.sid_eq hq hp.2⟩
        anomaly := by
          rw [h.lost_iff]
          exact iff_of_true rfl ⟨q, owner, hq, Or.inr ⟨hne, rfl⟩⟩ }
    | none =>
      have hnone : ∀ s, ¬ ix.Bound s owner := h.sid?_eq_none_iff.1 hprev
      exact {
        unchanged := iff_of_false (by simp) (hfree owner)
        fresh := iff_of_true rfl ⟨hfree, hnone⟩
        movedFrom := fun p => iff_of_false (by simp) fun hm => hfree p hm.1
        replacedSid := fun q => iff_of_false (by simp) fun hr => hnone q hr.2
        anomaly := by
          rw [h.lost_iff]
          refine iff_of_false Bool.false_ne_true ?_
          intro hlost
          obtain ⟨s, o, hb, hshared⟩ := hlost
          rcases hshared with ⟨hs, -⟩ | ⟨-, ho⟩
          · exact hfree o (hs ▸ hb)
          · exact hnone s (ho ▸ hb) }

/-! ## The index -/

/-- **The index is a partial bijection in which the last binding wins, and which reports every
loss.** After any changes to an empty index its directions agree and its size is the number of bound
pairs. Binding then leaves the new pair and those that share no side with it, and reports just what
it took away; retaining leaves the pairs whose owner passes the test. -/
theorem last_binding_wins (changes : List (Change κ)) :
    let ix := changeAll ({} : SidIndex κ) changes
    (∀ sid owner, ix.owner? sid = some owner ↔ ix.sid? owner = some sid) ∧
    ({p : String × κ | ix.Bound p.1 p.2}.Finite ∧
      ix.size = {p : String × κ | ix.Bound p.1 p.2}.ncard) ∧
    (∀ sid owner s o, (ix.bind sid owner).Bound s o ↔
      s = sid ∧ o = owner ∨ s ≠ sid ∧ o ≠ owner ∧ ix.Bound s o) ∧
    (∀ sid owner, ix.Reports (ix.bind sid owner) sid owner (ix.rebind sid owner)) ∧
    ∀ keep s o, (ix.retain keep).Bound s o ↔ ix.Bound s o ∧ keep o = true := by
  intro ix
  have hlinked : ix.Linked := linked_changeAll linked_empty changes
  exact ⟨hlinked, size_eq_ncard ix, fun _ _ _ _ => hlinked.bound_bind_iff, hlinked.reports,
    fun keep _ _ => bound_retain_iff ix keep⟩

/-- A binding that takes two pairs away reports the owner that lost the SID. -/
example : (changeAll ({} : SidIndex Nat) [.bind "CA1" 1, .bind "CA2" 2]).rebind "CA1" 2 =
      .movedFrom 1 ∧
    (changeAll {} [.bind "CA1" 1, .bind "CA2" 2, .bind "CA1" 2]).size = 1 := by
  decide

end ShelterLine.SidIndex

import ShelterLine.SidIndex

/-!
# The two directions of the index agree

The index keeps who owns a SID and which SID an owner has in separate dictionaries, and one binding
can displace two others: the SID leaves its former owner, and the new owner gives up its former SID.
`Linked` says that the directions are inverse to each other. It is what makes "displace" mean the
same in both, and a binding keeps it.
-/

namespace ShelterLine.SidIndex

variable {κ : Type} [DecidableEq κ] {ix : SidIndex κ}

/-- A SID's owner has that SID, and an owner's SID has that owner. -/
def Linked (ix : SidIndex κ) : Prop :=
  ∀ (sid : String) (owner : κ), ix.owner? sid = some owner ↔ ix.sid? owner = some sid

theorem linked_empty : Linked ({} : SidIndex κ) := by
  intro sid owner
  simp [owner?, sid?]

/-! ## What the two halves of a binding displace -/

theorem owner?_freeSid (ix : SidIndex κ) (sid s : String) :
    (ix.freeSid sid).owner? s = if s = sid then none else ix.owner? s := by
  unfold freeSid
  split
  · exact Dictionary.get?_erase ..
  · rename_i h
    -- nobody has the SID, so there is nothing to free
    split
    · rename_i hs
      rw [hs, h]
    · rfl

theorem sid?_freeSid (ix : SidIndex κ) (sid : String) (o : κ) :
    (ix.freeSid sid).sid? o = if ix.owner? sid = some o then none else ix.sid? o := by
  unfold freeSid
  split
  · rename_i p h
    rw [h]
    simp only [sid?, Dictionary.get?_erase, Option.some.injEq, eq_comm]
  · rename_i h
    rw [if_neg (by simp [h])]

theorem owner?_dropSidOf (ix : SidIndex κ) (owner : κ) (s : String) :
    (ix.dropSidOf owner).owner? s = if ix.sid? owner = some s then none else ix.owner? s := by
  unfold dropSidOf
  split
  · rename_i p h
    rw [h]
    simp only [owner?, Dictionary.get?_erase, Option.some.injEq, eq_comm]
  · rename_i h
    rw [if_neg (by simp [h])]

theorem sid?_dropSidOf (ix : SidIndex κ) (owner o : κ) :
    (ix.dropSidOf owner).sid? o = ix.sid? o := by
  unfold dropSidOf
  split <;> rfl

/-! ## Binding -/

/-- After a binding the SID has its new owner, and the SID that this owner had is free. -/
theorem owner?_bind (h : ix.Linked) (sid : String) (owner : κ) (s : String) :
    (ix.bind sid owner).owner? s =
      if s = sid then some owner
      else if ix.sid? owner = some s then none
      else ix.owner? s := by
  unfold bind
  split
  · -- nothing was left to do, so the owner's SID is this one
    rename_i hb
    have hs := (h sid owner).1 hb
    by_cases hne : s = sid
    · rw [if_pos hne, hne, hb]
    · rw [if_neg hne, if_neg (by rw [hs]; simpa using Ne.symm hne)]
  · rename_i hb
    -- both former bindings are gone before the new one is put in
    have hkeep : ((ix.freeSid sid).dropSidOf owner).owner? s =
        if ix.sid? owner = some s then none else if s = sid then none else ix.owner? s := by
      rw [owner?_dropSidOf, owner?_freeSid, sid?_freeSid, if_neg hb]
    have hins : ∀ d : Dictionary String κ,
        (d.insert sid owner).get? s = if s = sid then some owner else d.get? s :=
      fun d => Dictionary.get?_insert d sid s owner
    simp only [owner?] at hkeep ⊢
    rw [hins, hkeep]
    by_cases hne : s = sid <;> simp [hne]

/-- After a binding the owner has its new SID, and the owner that this SID had is without one. -/
theorem sid?_bind (h : ix.Linked) (sid : String) (owner o : κ) :
    (ix.bind sid owner).sid? o =
      if o = owner then some sid
      else if ix.owner? sid = some o then none
      else ix.sid? o := by
  unfold bind
  split
  · rename_i hb
    by_cases hne : o = owner
    · rw [if_pos hne, hne, (h sid owner).1 hb]
    · rw [if_neg hne, if_neg (by rw [hb]; simpa using Ne.symm hne)]
  · have hkeep := sid?_freeSid ix sid o
    rw [← sid?_dropSidOf (ix.freeSid sid) owner] at hkeep
    simp only [sid?] at hkeep ⊢
    rw [Dictionary.get?_insert, hkeep]

/-- **A binding keeps the directions inverse to each other.** -/
theorem linked_bind (h : ix.Linked) (sid : String) (owner : κ) : (ix.bind sid owner).Linked := by
  intro s o
  rw [owner?_bind h, sid?_bind h]
  by_cases hs : s = sid
  · by_cases ho : o = owner
    · simp [hs, ho]
    · -- the SID has its new owner, and `o` has another one or none
      have hno : ¬ (if ix.owner? sid = some o then none else ix.sid? o) = some sid := by
        split
        · simp
        · rename_i hp
          exact fun hc => hp ((h sid o).2 hc)
      rw [if_pos hs, if_neg ho, hs]
      exact iff_of_false (fun hc => ho (Option.some.inj hc).symm) hno
  · by_cases ho : o = owner
    · -- the owner has its new SID, and `s` has another owner or none
      have hno : ¬ (if ix.sid? owner = some s then none else ix.owner? s) = some owner := by
        split
        · simp
        · rename_i hp
          exact fun hc => hp ((h s owner).1 hc)
      rw [if_neg hs, if_pos ho, ho]
      exact iff_of_false hno fun hc => hs (Option.some.inj hc).symm
    · -- both were there before, and each loses the other or keeps it
      rw [if_neg hs, if_neg ho]
      by_cases hsid : ix.sid? owner = some s
      · have hother : ix.sid? o ≠ some s := fun hc => ho (Option.some.inj
          (((h s o).2 hc).symm.trans ((h s owner).2 hsid)))
        rw [if_pos hsid]
        split <;> simp [hother]
      · rw [if_neg hsid]
        split
        · rename_i howner
          have hother : ix.owner? s ≠ some o := fun hc => hs (Option.some.inj
            (((h s o).1 hc).symm.trans ((h sid o).1 howner)))
          simp [hother]
        · exact h s o

/-- **What is bound after a binding**: the new pair, and every old one that shares no
side with it. -/
theorem owner?_bind_eq_some_iff (h : ix.Linked) {sid s : String} {owner o : κ} :
    (ix.bind sid owner).owner? s = some o ↔
      s = sid ∧ o = owner ∨ s ≠ sid ∧ o ≠ owner ∧ ix.owner? s = some o := by
  rw [owner?_bind h]
  constructor
  · intro howner
    split at howner
    · rename_i hs
      exact Or.inl ⟨hs, (Option.some.inj howner).symm⟩
    · rename_i hs
      split at howner
      · cases howner
      · rename_i hfree
        have ho : o ≠ owner := fun ho => hfree ((h s owner).1 (ho ▸ howner))
        exact Or.inr ⟨hs, ho, howner⟩
  · intro hcases
    rcases hcases with ⟨hs, ho⟩ | ⟨hs, ho, hold⟩
    · rw [if_pos hs, ho]
    · -- the new owner does not give up `s`, which is somebody else's
      have hfree : ix.sid? owner ≠ some s := fun hc => ho (Option.some.inj
        (hold.symm.trans ((h s owner).2 hc)))
      rw [if_neg hs, if_neg hfree, hold]

/-- Bindings of other SIDs to other owners leave a SID with its owner. -/
theorem owner?_bind_other (h : ix.Linked) {sid s : String} {owner o : κ} (hs : s ≠ sid)
    (ho : o ≠ owner) (hold : ix.owner? s = some o) : (ix.bind sid owner).owner? s = some o :=
  (owner?_bind_eq_some_iff h).2 (Or.inr ⟨hs, ho, hold⟩)

/-- Whoever has a SID has just been given it or had it before. -/
theorem owner?_or_eq_of_owner?_bind (h : ix.Linked) {sid s : String} {owner o : κ}
    (howner : (ix.bind sid owner).owner? s = some o) :
    ix.owner? s = some o ∨ s = sid ∧ o = owner := by
  rcases (owner?_bind_eq_some_iff h).1 howner with hnew | ⟨-, -, hold⟩
  · exact Or.inr hnew
  · exact Or.inl hold

/-! ## The index and the records -/

/-- The index says of every owner what is written in its record. -/
structure Agrees (ix : SidIndex κ) (written : κ → Option String) : Prop where
  linked : ix.Linked
  sid?_eq : ∀ owner, ix.sid? owner = written owner

theorem agrees_empty : Agrees ({} : SidIndex κ) fun _ => none :=
  ⟨linked_empty, fun _ => rfl⟩

/-- A SID's owner is whoever has it written down. -/
theorem Agrees.owner?_eq_some_iff {written : κ → Option String} (h : ix.Agrees written)
    {sid : String} {owner : κ} : ix.owner? sid = some owner ↔ written owner = some sid := by
  rw [h.linked sid owner, h.sid?_eq]

/-- What has to be written down when a SID is bound. -/
theorem Agrees.bind {written written' : κ → Option String} (h : ix.Agrees written) {sid : String}
    {owner : κ} (hwritten : ∀ o, written' o =
      if o = owner then some sid else if ix.owner? sid = some o then none else written o) :
    (ix.bind sid owner).Agrees written' := by
  refine ⟨linked_bind h.linked sid owner, fun o => ?_⟩
  rw [sid?_bind h.linked, hwritten, h.sid?_eq]

end ShelterLine.SidIndex

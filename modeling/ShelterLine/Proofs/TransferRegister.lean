import ShelterLine.Proofs.SidIndex
import ShelterLine.Transfer.Register

/-!
# Looking things up in the register of transfers

A session has a slot for the SID of each leg. As with jobs, the index and the slots agree, and a
binding may take a SID from the other leg of the same session.
-/

namespace ShelterLine

theorem LegSids.get_set (sids : LegSids) (leg k : Leg) (sid : Option String) :
    (sids.set leg sid).get k = if k = leg then sid else sids.get k := by
  cases leg <;> cases k <;> rfl

namespace Session

/-- `f` puts a SID into the slot of a leg, or empties it, and leaves the other slot as it is. -/
structure SetsSlot (leg : Leg) (sid : Option String) (f : Session → Session) : Prop where
  id_eq : ∀ t, (f t).id = t.id
  sids_eq : ∀ t, (f t).sids = t.sids.set leg sid

theorem setsSlot_clear (leg : Leg) :
    SetsSlot leg none fun t => { t with sids := t.sids.set leg none } :=
  ⟨fun _ => rfl, fun _ => rfl⟩

theorem setsSlot_put (now : Instant) (leg : Leg) (sid : String) :
    SetsSlot leg (some sid) fun t =>
      { t with sids := t.sids.set leg (some sid), updatedAt := now } :=
  ⟨fun _ => rfl, fun _ => rfl⟩

end Session

namespace TransferRegister

variable {r r' : TransferRegister}

theorem get?_id {id : Uuid} {t : Session} (h : r.get? id = some t) : t.id = id := by
  simpa using List.find?_some h

/-! ## What is found after a change -/

theorem get?_insert (r : TransferRegister) (t : Session) (id : Uuid) :
    (r.insert t).get? id = if t.id = id then some t else r.get? id :=
  find?_key_cons_filter Session.id t r.sessions id

@[simp] theorem modify_sids (r : TransferRegister) (id : Uuid) (f : Session → Session) :
    (r.modify id f).sids = r.sids := rfl

theorem get?_modify {f : Session → Session} (hf : ∀ t, (f t).id = t.id) (r : TransferRegister)
    (id b : Uuid) :
    (r.modify id f).get? b = (r.get? b).map fun t => if t.id = id then f t else t :=
  find?_key_map (key_ite hf id) r.sessions b

/-! ## Slots -/

/-- The SID in a slot. -/
def slot? (r : TransferRegister) (ref : LegRef) : Option String :=
  (r.get? ref.transferId).bind fun t => t.sids.get ref.leg

theorem slot?_eq_some_iff {ref : LegRef} {sid : String} :
    r.slot? ref = some sid ↔ ∃ t, r.get? ref.transferId = some t ∧
      t.sids.get ref.leg = some sid := by
  simp [slot?, Option.bind_eq_some_iff]

/-- A change of one slot, and of what is no slot, shows in this slot and nowhere else. -/
theorem slot?_modify {f : Session → Session} {leg : Leg} {sid : Option String}
    (hf : Session.SetsSlot leg sid f) (r : TransferRegister) (id : Uuid) (k : LegRef) :
    (r.modify id f).slot? k =
      if k = ⟨id, leg⟩ then (r.get? id).bind fun _ => sid else r.slot? k := by
  obtain ⟨kid, kleg⟩ := k
  unfold slot?
  rw [get?_modify hf.id_eq]
  cases ht : r.get? kid with
  | none =>
    by_cases hk : kid = id
    · simp [← hk, ht]
    · simp [hk]
  | some t =>
    have htid : t.id = kid := get?_id ht
    -- another session keeps both slots, and this one keeps the slot of the other leg
    by_cases hk : kid = id
    · subst hk
      by_cases hleg : kleg = leg <;> simp [htid, hf.sids_eq, LegSids.get_set, hleg, ht]
    · simp [htid, hk]

/-- A change that leaves the slots alone does not show in them. -/
theorem slot?_modify_of_sids {f : Session → Session} (hid : ∀ t, (f t).id = t.id)
    (hf : ∀ t, (f t).sids = t.sids) (r : TransferRegister) (id : Uuid) (k : LegRef) :
    (r.modify id f).slot? k = r.slot? k := by
  unfold slot?
  rw [get?_modify hid]
  cases r.get? k.transferId with
  | none => rfl
  | some t =>
    by_cases h : t.id = id <;> simp [h, hf]

/-! ## What an update and a binding do -/

theorem update_eq (r : TransferRegister) (id : Uuid) (f : Session → Session) :
    r.update id f = (r.get? id).map fun t => (f t, r.modify id f) := by
  unfold update
  cases r.get? id <;> rfl

theorem update_eq_some_iff {id : Uuid} {f : Session → Session} {t : Session} :
    r.update id f = some (t, r') ↔ (∃ t₀, r.get? id = some t₀ ∧ t = f t₀) ∧ r' = r.modify id f := by
  rw [update_eq]
  simp only [Option.map_eq_some_iff, Prod.mk.injEq]
  constructor
  · rintro ⟨t₀, h, rfl, rfl⟩
    exact ⟨⟨t₀, h, rfl⟩, rfl⟩
  · rintro ⟨⟨t₀, h, rfl⟩, rfl⟩
    exact ⟨t₀, h, rfl, rfl⟩

/-- The register in which whoever has a SID has lost it, unless that is the leg to bind it to. -/
def released (r : TransferRegister) (ref : LegRef) (sid : String) : TransferRegister :=
  match r.sids.owner? sid with
  | some old =>
    if old = ref then r
    else r.modify old.transferId fun t => { t with sids := t.sids.set old.leg none }
  | none => r

theorem slot?_released (r : TransferRegister) (ref : LegRef) (sid : String) (k : LegRef) :
    (r.released ref sid).slot? k =
      if r.sids.owner? sid = some k ∧ k ≠ ref then none else r.slot? k := by
  unfold released
  split
  · rename_i old hold
    split
    · rename_i href
      rw [if_neg]
      rintro ⟨hk, hne⟩
      exact hne (Option.some.inj (hk.symm.trans (hold.trans (congrArg some href))))
    · rename_i href
      rw [slot?_modify (Session.setsSlot_clear old.leg)]
      by_cases hk : k = old
      · subst hk
        simp [hold, href]
      · simp [hold, hk, Ne.symm hk]
  · rename_i hold
    simp [hold]

/-- A binding takes the SID from whoever has it and gives it to the leg. -/
theorem bindSid_eq (r : TransferRegister) (now : Instant) (ref : LegRef) (sid : String) :
    r.bindSid now ref sid = (r.get? ref.transferId).bind fun _ =>
      { r.released ref sid with sids := r.sids.bind sid ref }.update ref.transferId fun t =>
        { t with sids := t.sids.set ref.leg (some sid), updatedAt := now } := by
  unfold TransferRegister.bindSid released SidIndex.rebind
  cases r.get? ref.transferId with
  | none => rfl
  | some t =>
    cases ho : r.sids.owner? sid with
    | none => cases hs : r.sids.sid? ref <;> rfl
    | some old =>
      by_cases h : old = ref
      · simp [h]
      · simp [h, modify]

/-- What a binding leaves, which needs the session to be there. -/
theorem bindSid_eq_some {now : Instant} {ref : LegRef} {sid : String} {t : Session}
    (h : r.bindSid now ref sid = some (t, r')) :
    (r.get? ref.transferId).isSome ∧
      r' = { (r.released ref sid).modify ref.transferId (fun t =>
        { t with sids := t.sids.set ref.leg (some sid), updatedAt := now }) with
          sids := r.sids.bind sid ref } := by
  rw [bindSid_eq] at h
  obtain ⟨found, hfound, h⟩ := Option.bind_eq_some_iff.1 h
  obtain ⟨-, rfl⟩ := update_eq_some_iff.1 h
  exact ⟨by rw [hfound]; rfl, rfl⟩

theorem get?_released_isSome (r : TransferRegister) (ref : LegRef) (sid : String) (id : Uuid) :
    ((r.released ref sid).get? id).isSome = (r.get? id).isSome := by
  unfold released
  split
  · split
    · rfl
    · rename_i old _ _
      rw [get?_modify (Session.setsSlot_clear old.leg).id_eq, Option.isSome_map]
  · rfl

/-- A binding fails only for want of the session. -/
theorem bindSid_isSome (r : TransferRegister) (now : Instant) (ref : LegRef) (sid : String) :
    (r.bindSid now ref sid).isSome = (r.get? ref.transferId).isSome := by
  rw [bindSid_eq]
  have hreleased := get?_released_isSome r ref sid ref.transferId
  cases hfound : r.get? ref.transferId with
  | none => rfl
  | some t =>
    rw [hfound] at hreleased
    rw [Option.bind_some, update_eq, Option.isSome_map]
    exact hreleased

/-- What is in the slots after a binding. -/
theorem slot?_bindSid {now : Instant} {ref : LegRef} {sid : String} {t : Session}
    (h : r.bindSid now ref sid = some (t, r')) (k : LegRef) :
    r'.slot? k =
      if k = ref then some sid else if r.sids.owner? sid = some k then none else r.slot? k := by
  obtain ⟨hthere, rfl⟩ := bindSid_eq_some h
  have hbound := slot?_modify (Session.setsSlot_put now ref.leg sid) (r.released ref sid)
    ref.transferId k
  refine hbound.trans ?_
  by_cases hk : k = ref
  · subst hk
    rw [if_pos rfl, if_pos rfl]
    -- emptying a slot does not unregister anything, so the update finds its session
    rw [← get?_released_isSome r k sid k.transferId] at hthere
    obtain ⟨found, hfound⟩ := Option.isSome_iff_exists.1 hthere
    rw [hfound]
    rfl
  · rw [if_neg hk, if_neg hk, slot?_released]
    simp [hk]

/-! ## Identifiers are keys -/

/-- Sessions have different identifiers. -/
def Keyed (r : TransferRegister) : Prop := (r.sessions.map (·.id)).Nodup

theorem keyed_empty : Keyed {} := List.nodup_nil

theorem Keyed.insert (h : r.Keyed) (t : Session) : (r.insert t).Keyed :=
  nodup_key_cons_filter Session.id t h

theorem Keyed.modify (h : r.Keyed) {f : Session → Session} (hf : ∀ t, (f t).id = t.id) (id : Uuid) :
    (r.modify id f).Keyed := by
  have hids : (r.modify id f).sessions.map Session.id = r.sessions.map Session.id :=
    map_key_map (key_ite hf id) r.sessions
  unfold Keyed
  rw [hids]
  exact h

theorem Keyed.released (h : r.Keyed) (ref : LegRef) (sid : String) :
    (r.released ref sid).Keyed := by
  unfold TransferRegister.released
  split
  · split
    · exact h
    · rename_i old _ _
      exact h.modify (Session.setsSlot_clear old.leg).id_eq _
  · exact h

theorem Keyed.bindSid (h : r.Keyed) {now : Instant} {ref : LegRef} {sid : String} {t : Session}
    (hbind : r.bindSid now ref sid = some (t, r')) : r'.Keyed := by
  obtain ⟨-, rfl⟩ := bindSid_eq_some hbind
  exact (h.released ref sid).modify (Session.setsSlot_put now ref.leg sid).id_eq _

theorem Keyed.get?_eq_some_iff (h : r.Keyed) {id : Uuid} {t : Session} :
    r.get? id = some t ↔ t ∈ r.sessions ∧ t.id = id := find?_key_eq_some_iff h

/-! ## Index and slots agree -/

/-- The index says of every leg the SID in its slot. -/
def Coherent (r : TransferRegister) : Prop := r.sids.Agrees r.slot?

theorem coherent_empty : Coherent {} := SidIndex.agrees_empty

/-- **A binding keeps index and slots in agreement.** -/
theorem Coherent.bindSid (h : r.Coherent) {now : Instant} {ref : LegRef}
    {sid : String} {t : Session} (hbind : r.bindSid now ref sid = some (t, r')) : r'.Coherent := by
  have hsids : r'.sids = r.sids.bind sid ref := by
    obtain ⟨-, rfl⟩ := bindSid_eq_some hbind
    rfl
  unfold Coherent
  rw [hsids]
  exact SidIndex.Agrees.bind h (slot?_bindSid hbind)

theorem Coherent.setStatus (h : r.Coherent) {now : Instant} {id : Uuid} {status : TransferStatus}
    {t : Session} (hset : r.setStatus now id status = some (t, r')) : r'.Coherent := by
  obtain ⟨-, rfl⟩ := update_eq_some_iff.1 hset
  refine ⟨h.linked, fun k => (h.sid?_eq k).trans (Eq.symm ?_)⟩
  exact slot?_modify_of_sids (f := fun t => { t with status, updatedAt := now }) (fun _ => rfl)
    (fun _ => rfl) r id k

/-- A session that is not there yet and has no SIDs may be taken in. -/
theorem Coherent.insert (h : r.Coherent) {t : Session} (hnew : r.get? t.id = none)
    (hnone : t.sids = {}) : (r.insert t).Coherent := by
  refine ⟨h.linked, fun k => (h.sid?_eq k).trans ?_⟩
  unfold slot?
  rw [get?_insert]
  split
  · rename_i hk
    -- there was no such session before, and its slots are empty now
    rw [← hk, hnew]
    cases hleg : k.leg <;> simp [hnone, LegSids.get]
  · rfl

/-- **A SID finds exactly the leg whose slot holds it.** -/
theorem Coherent.findSid?_eq_some_iff (h : r.Coherent) (hk : r.Keyed) {sid : String} {t : Session}
    {leg : Leg} :
    r.findSid? sid = some (t, leg) ↔ t ∈ r.sessions ∧ t.sids.get leg = some sid := by
  have hfind : r.findSid? sid = some (t, leg) ↔
      ∃ ref, r.sids.owner? sid = some ref ∧ r.get? ref.transferId = some t ∧ ref.leg = leg := by
    unfold findSid?
    simp only [Option.bind_eq_bind, Option.bind_eq_some_iff, Option.pure_def, Option.some.injEq,
      Prod.mk.injEq]
    constructor
    · rintro ⟨ref, howner, t', hfound, rfl, hleg⟩
      exact ⟨ref, howner, hfound, hleg⟩
    · rintro ⟨ref, howner, hfound, hleg⟩
      exact ⟨ref, howner, t, hfound, rfl, hleg⟩
  rw [hfind]
  constructor
  · rintro ⟨ref, howner, hfound, rfl⟩
    -- the owner in the index has the SID in its slot
    obtain ⟨t', hfound', hsid⟩ := slot?_eq_some_iff.1 (h.owner?_eq_some_iff.1 howner)
    rw [hfound, Option.some.injEq] at hfound'
    subst hfound'
    exact ⟨(hk.get?_eq_some_iff.1 hfound).1, hsid⟩
  · rintro ⟨ht, hsid⟩
    have hfound : r.get? t.id = some t := hk.get?_eq_some_iff.2 ⟨ht, rfl⟩
    exact ⟨⟨t.id, leg⟩, h.owner?_eq_some_iff.2 (slot?_eq_some_iff.2 ⟨t, hfound, hsid⟩), hfound, rfl⟩

end TransferRegister

end ShelterLine

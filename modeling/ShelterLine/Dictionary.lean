/-!
# Dictionaries

A dictionary is a list of entries with pairwise different keys. Registers are such lists as well,
with identifiers for keys, so what looking for a key finds is said of lists first.
-/

namespace ShelterLine

/-! ## Looking for a key -/

section

variable {α γ : Type}

/-- Changes that keep keys keep all of them in order. -/
theorem map_key_map {key : γ → α} {f : γ → γ} (hf : ∀ e, key (f e) = key e) (es : List γ) :
    (es.map f).map key = es.map key := by
  rw [List.map_map]
  exact List.map_congr_left fun e _ => hf e

variable [DecidableEq α]

/-- Where keys are pairwise different, looking for a key finds whatever has it. -/
theorem find?_key_eq_some_iff {key : γ → α} {es : List γ} (hn : (es.map key).Nodup)
    {a : α} {e : γ} :
    es.find? (key · = a) = some e ↔ e ∈ es ∧ key e = a := by
  constructor
  · intro h
    exact ⟨List.mem_of_find?_eq_some h, by simpa using List.find?_some h⟩
  · rintro ⟨hmem, rfl⟩
    induction es with
    | nil => simp at hmem
    | cons x es ih =>
      rw [List.map_cons, List.nodup_cons] at hn
      rcases List.mem_cons.1 hmem with rfl | hmem
      · simp
      · have hne : key x ≠ key e := fun he => hn.1 (he ▸ List.mem_map_of_mem hmem)
        rw [List.find?_cons_of_neg (by simpa using hne)]
        exact ih hn.2 hmem

/-- What is put in place of everything with its key is found under it, and the rest as before. -/
theorem find?_key_cons_filter (key : γ → α) (e : γ) (es : List γ) (a : α) :
    (e :: es.filter (key · ≠ key e)).find? (key · = a) =
      if key e = a then some e else es.find? (key · = a) := by
  by_cases h : key e = a
  · simp [h]
  · rw [if_neg h, List.find?_cons_of_neg (by simpa using h), List.find?_filter]
    congr 1
    funext x
    -- an item with the key `a` is none of those that were dropped
    by_cases hx : key x = a
    · simp [hx, Ne.symm h]
    · simp [hx]

theorem nodup_key_cons_filter (key : γ → α) (e : γ) {es : List γ} (hn : (es.map key).Nodup) :
    ((e :: es.filter (key · ≠ key e)).map key).Nodup := by
  have hne : key e ∉ (es.filter (key · ≠ key e)).map key := by simp
  exact List.nodup_cons.2 ⟨hne, hn.sublist (List.filter_sublist.map _)⟩

/-- Changing whatever has one key by what keeps keys keeps keys. -/
theorem key_ite {key : γ → α} {f : γ → γ} (hf : ∀ e, key (f e) = key e) (a : α) (e : γ) :
    key (if key e = a then f e else e) = key e := by
  split
  · exact hf e
  · rfl

/-- Where keys are kept the same item is found, changed. -/
theorem find?_key_map {key : γ → α} {f : γ → γ} (hf : ∀ e, key (f e) = key e)
    (es : List γ) (a : α) :
    (es.map f).find? (key · = a) = (es.find? (key · = a)).map f := by
  rw [List.find?_map]
  congr 2
  funext e
  simp [hf]

end

/-- Entries, at most one for a key. -/
structure Dictionary (α β : Type) where
  entries : List (α × β)
  nodup : (entries.map (·.1)).Nodup
deriving DecidableEq, Repr

namespace Dictionary

variable {α β : Type} [DecidableEq α]

/-- No entries. -/
def empty : Dictionary α β := ⟨[], List.nodup_nil⟩

/-- The value of a key. -/
def get? (d : Dictionary α β) (a : α) : Option β := (d.entries.find? (·.1 = a)).map (·.2)

/-- The number of entries. -/
def size (d : Dictionary α β) : Nat := d.entries.length

/-- Keeps the entries that pass a test. -/
def filter (d : Dictionary α β) (keep : α × β → Bool) : Dictionary α β :=
  ⟨d.entries.filter keep, d.nodup.sublist (List.filter_sublist.map _)⟩

/-- Drops the entry of a key. -/
def erase (d : Dictionary α β) (a : α) : Dictionary α β := d.filter (·.1 ≠ a)

/-- Gives a key a value, whatever it had before. -/
def insert (d : Dictionary α β) (a : α) (b : β) : Dictionary α β :=
  ⟨(a, b) :: (d.erase a).entries, by
    have hne : a ∉ (d.erase a).entries.map (·.1) := by simp [erase, filter]
    exact List.nodup_cons.2 ⟨hne, (d.erase a).nodup⟩⟩

theorem get?_eq_some_iff {d : Dictionary α β} {a : α} {v : β} :
    d.get? a = some v ↔ (a, v) ∈ d.entries := by
  unfold get?
  rw [Option.map_eq_some_iff]
  constructor
  · rintro ⟨e, he, rfl⟩
    obtain ⟨hmem, rfl⟩ := (find?_key_eq_some_iff d.nodup).1 he
    exact hmem
  · intro h
    exact ⟨(a, v), (find?_key_eq_some_iff d.nodup).2 ⟨h, rfl⟩, rfl⟩

@[simp]
theorem get?_empty (a : α) : (empty : Dictionary α β).get? a = none := rfl

theorem get?_filter (d : Dictionary α β) (keep : α × β → Bool) (a : α) :
    (d.filter keep).get? a = (d.get? a).filter fun v => keep (a, v) := by
  ext v
  rw [get?_eq_some_iff, Option.filter_eq_some_iff, get?_eq_some_iff]
  exact List.mem_filter

theorem get?_erase (d : Dictionary α β) (a b : α) :
    (d.erase a).get? b = if b = a then none else d.get? b := by
  rw [erase, get?_filter]
  by_cases h : b = a
  · simp [h]
  · cases hb : d.get? b <;> simp [h]

theorem get?_insert (d : Dictionary α β) (a b : α) (v : β) :
    (d.insert a v).get? b = if b = a then some v else d.get? b := by
  by_cases h : b = a
  · simp [get?, insert, h]
  · have he := get?_erase d a b
    rw [if_neg h] at he ⊢
    rw [← he]
    simp [get?, insert, Ne.symm h]

end Dictionary

end ShelterLine

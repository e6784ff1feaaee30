import ShelterLine.Safety.BlockList

/-!
# Canonical numbers are what they look like

A canonical number is a plus sign followed by at least one ASCII digit, and its own canonical form
is itself. So a number may be made canonical before the block list is asked or after, and all
spellings of one number are blocked together.
-/

namespace ShelterLine

/-! ## Trimming -/

theorem Text.isBlank_of_isDigit {c : Char} (h : c.isDigit) : Text.isBlank c = false := by
  have hlow : 48 ≤ c.toNat ∧ c.toNat ≤ 57 := by
    simpa [Char.isDigit, UInt32.le_iff_toNat_le] using h
  -- no run of blanks reaches into the digits
  have hruns : ∀ r ∈ Text.blankRanges, r.2 < 48 ∨ 57 < r.1 := by decide
  rw [Text.isBlank, Text.inRanges, List.any_eq_false]
  intro r hr
  have hrun := hruns r hr
  simp only [Bool.and_eq_true, decide_eq_true_eq]
  omega

theorem Text.trimEnd_of_not_blank {cs : List Char} (h : ∀ c ∈ cs, isBlank c = false) :
    trimEnd cs = cs := by
  induction cs with
  | nil => rfl
  | cons c cs ih =>
    rw [trimEnd, ih fun d hd => h d (List.mem_cons_of_mem _ hd)]
    cases cs with
    | nil => simp [h c]
    | cons d ds => rfl

theorem Text.trim_of_not_blank {cs : List Char} (h : ∀ c ∈ cs, isBlank c = false) :
    trim cs = cs := by
  have hs : trimStart cs = cs := by
    cases cs with
    | nil => rfl
    | cons c cs => simp [trimStart, List.dropWhile, h c]
  rw [trim, hs, trimEnd_of_not_blank h]

namespace Phone

/-! ## The form -/

/-- A plus sign and at least one digit. -/
def IsCanonical (cs : List Char) : Prop :=
  ∃ ds : List Char, cs = '+' :: ds ∧ ds ≠ [] ∧ ∀ d ∈ ds, d.isDigit

/-- Whatever is made canonical has the form. -/
theorem isCanonical_of_canonicalChars? {raw n : List Char} (h : canonicalChars? raw = some n) :
    IsCanonical n := by
  have hdig : ∀ d ∈ (Text.trim raw).filter Char.isDigit, d.isDigit := fun d hd =>
    (List.mem_filter.1 hd).2
  unfold canonicalChars? at h
  dsimp only at h
  split at h
  · simp at h
  · rename_i hne
    split at h
    · exact ⟨_, (Option.some.inj h).symm, hne, hdig⟩
    · split at h
      · refine ⟨_, (Option.some.inj h).symm, by simp, ?_⟩
        intro d hd
        rcases List.mem_cons.1 hd with rfl | hd
        · decide
        · exact hdig d hd
      · exact ⟨_, (Option.some.inj h).symm, hne, hdig⟩

/-- Whatever has the form is canonical already. -/
theorem canonicalChars?_of_isCanonical {cs : List Char} (h : IsCanonical cs) :
    canonicalChars? cs = some cs := by
  obtain ⟨ds, rfl, hne, hdig⟩ := h
  have hblank : ∀ c ∈ '+' :: ds, Text.isBlank c = false := by
    intro c hc
    rcases List.mem_cons.1 hc with rfl | hc
    · decide
    · exact Text.isBlank_of_isDigit (hdig c hc)
  -- of a canonical number the digits are all but the sign
  have hfilter : ('+' :: ds).filter Char.isDigit = ds := by
    rw [List.filter_cons_of_neg (by decide), List.filter_eq_self.2 hdig]
  simp only [canonicalChars?, Text.trim_of_not_blank hblank, hfilter, if_neg hne]
  rfl

/-- **Making a number canonical twice is making it canonical once.** -/
theorem canonical?_of_canonical? {raw n : String} (h : canonical? raw = some n) :
    canonical? n = some n := by
  obtain ⟨cs, hcs, rfl⟩ := Option.map_eq_some_iff.1 h
  have hform := isCanonical_of_canonicalChars? hcs
  simp [canonical?, canonicalChars?_of_isCanonical hform]

/-- What is dialed for a spelling, its canonical form or else the text itself, has the
canonical form of the spelling. -/
theorem canonical?_dialed (raw : String) :
    canonical? ((canonical? raw).getD raw) = canonical? raw := by
  cases h : canonical? raw with
  | none => exact h
  | some n => exact canonical?_of_canonical? h

end Phone

/-- Spellings of one number are blocked together. -/
theorem BlockList.blocks_congr {raw raw' : String}
    (h : Phone.canonical? raw = Phone.canonical? raw') (b : BlockList) :
    b.blocks raw = b.blocks raw' := by
  unfold blocks
  rw [h]

end ShelterLine

import Mathlib
import ShelterLine.Text.Numeral

/-!
# Digits

A number that is written in digits is read back from them. In a fixed width the order of the texts
is the order of the numbers, which is why columns of such texts can be sorted.
-/

namespace ShelterLine.Text

/-! ## Fixed width -/

@[simp] theorem length_padded (width n : Nat) : (padded width n).length = width := by
  induction width generalizing n with
  | zero => rfl
  | succ width ih => rw [padded, List.length_append, ih, List.length_singleton]

theorem padded_isDigit {width n : Nat} {c : Char} (h : c ∈ padded width n) : c.isDigit = true := by
  induction width generalizing n with
  | zero => simp [padded] at h
  | succ width ih =>
    rw [padded, List.mem_append, List.mem_singleton] at h
    rcases h with h | rfl
    · exact ih h
    · rw [Nat.isDigit_digitChar, decide_eq_true_eq]
      exact Nat.mod_lt _ (by decide)

theorem digitsValue_concat (ds : List Char) (d : Char) :
    digitsValue (ds ++ [d]) = 10 * digitsValue ds + (d.toNat - '0'.toNat) := by
  unfold digitsValue
  rw [List.foldl_append]
  rfl

theorem digitsValue_padded (width n : Nat) : digitsValue (padded width n) = n % 10 ^ width := by
  induction width generalizing n with
  | zero => rw [Nat.pow_zero, Nat.mod_one]; rfl
  | succ width ih =>
    have hlast : (Nat.digitChar (n % 10)).toNat - '0'.toNat = n % 10 := by
      rw [Nat.toNat_digitChar_of_lt_ten (Nat.mod_lt _ (by decide))]
      exact Nat.add_sub_cancel_left ..
    rw [padded, digitsValue_concat, ih, hlast, Nat.pow_succ, Nat.mul_comm (10 ^ width) 10,
      Nat.mod_mul, Nat.add_comm]

/-- What fits its width is read back from it. -/
theorem digitsValue_padded_of_lt {width n : Nat} (h : n < 10 ^ width) :
    digitsValue (padded width n) = n := by
  rw [digitsValue_padded, Nat.mod_eq_of_lt h]

theorem digitsValue_toDigits (n : Nat) : digitsValue (Nat.toDigits 10 n) = n :=
  Nat.ofDigitChars_toDigits (by decide) (by decide)

/-! ## Order -/

/-- Texts of one width are compared before what follows them. -/
theorem append_lt_append_iff {as bs cs ds : List Char} (h : as.length = bs.length) :
    as ++ cs < bs ++ ds ↔ as < bs ∨ as = bs ∧ cs < ds := by
  induction as generalizing bs with
  | nil =>
    obtain rfl := List.length_eq_zero_iff.1 h.symm
    simp
  | cons a as ih =>
    obtain ⟨b, bs, rfl⟩ := List.exists_cons_of_length_eq_add_one h.symm
    rw [List.cons_append, List.cons_append, List.cons_lt_cons_iff, List.cons_lt_cons_iff,
      ih (Nat.succ.inj h), List.cons.injEq]
    constructor
    · rintro (hab | ⟨hab, hlt | ⟨heq, hlt⟩⟩)
      · exact Or.inl (Or.inl hab)
      · exact Or.inl (Or.inr ⟨hab, hlt⟩)
      · exact Or.inr ⟨⟨hab, heq⟩, hlt⟩
    · rintro ((hab | ⟨hab, hlt⟩) | ⟨⟨hab, heq⟩, hlt⟩)
      · exact Or.inl hab
      · exact Or.inr ⟨hab, Or.inl hlt⟩
      · exact Or.inr ⟨hab, Or.inr ⟨heq, hlt⟩⟩

theorem digitChar_lt_digitChar {m n : Nat} (hn : n < 10) (h : m < n) :
    Nat.digitChar m < Nat.digitChar n := by
  rw [Char.lt_def, UInt32.lt_iff_toNat_lt]
  have hm := Nat.toNat_digitChar_of_lt_ten (n := m) (by omega)
  have hn' := Nat.toNat_digitChar_of_lt_ten hn
  unfold Char.toNat at hm hn'
  omega

/-- **In one width the smaller number has the smaller text.** -/
theorem padded_lt_padded {width m n : Nat} (hn : n < 10 ^ width) (h : m < n) :
    padded width m < padded width n := by
  induction width generalizing m n with
  | zero =>
    rw [Nat.pow_zero] at hn
    omega
  | succ width ih =>
    rw [Nat.pow_succ] at hn
    rw [padded, padded, append_lt_append_iff (by simp)]
    by_cases hlead : m / 10 < n / 10
    · exact Or.inl (ih (by omega) hlead)
    · -- the leading digits agree, so the last ones decide
      have hsame : m / 10 = n / 10 := by omega
      refine Or.inr ⟨by rw [hsame], ?_⟩
      rw [List.cons_lt_cons_iff]
      exact Or.inl (digitChar_lt_digitChar (Nat.mod_lt _ (by decide)) (by omega))

end ShelterLine.Text

import ShelterLine.Naming
import ShelterLine.Proofs.Numeral
import ShelterLine.Uuid

/-!
# Identifiers and names are read back

The hyphenated text of an identifier is read as that identifier, so different identifiers have
different texts. A naming is faithful if every value is found under its name.
-/

namespace ShelterLine

/-! ## Hexadecimal digits -/

namespace Text

theorem hexValue?_digitChar : ∀ n < 16, hexValue? (Nat.digitChar n) = some n := by decide

@[simp] theorem length_hexPadded (width n : Nat) : (hexPadded width n).length = width := by
  induction width generalizing n with
  | zero => rfl
  | succ width ih => rw [hexPadded, List.length_append, ih, List.length_singleton]

/-- Every digit is one of sixteen. -/
theorem hexPadded_mem {width n : Nat} {c : Char} (h : c ∈ hexPadded width n) :
    ∃ k < 16, c = Nat.digitChar k := by
  induction width generalizing n with
  | zero => simp [hexPadded] at h
  | succ width ih =>
    rw [hexPadded, List.mem_append, List.mem_singleton] at h
    rcases h with h | rfl
    · exact ih h
    · exact ⟨n % 16, Nat.mod_lt _ (by decide), rfl⟩

end Text

namespace Uuid

open Text

theorem hexNumber?_concat {ds : List Char} {d : Char} {m k : Nat} (hds : hexNumber? ds = some m)
    (hd : hexValue? d = some k) : hexNumber? (ds ++ [d]) = some (16 * m + k) := by
  unfold hexNumber? at *
  rw [List.foldl_append, hds, List.foldl_cons, List.foldl_nil, hd]
  rfl

theorem hexNumber?_hexPadded (width n : Nat) :
    hexNumber? (hexPadded width n) = some (n % 16 ^ width) := by
  induction width generalizing n with
  | zero =>
    rw [Nat.pow_zero, Nat.mod_one]
    rfl
  | succ width ih =>
    have hlast := hexValue?_digitChar (n % 16) (Nat.mod_lt _ (by decide))
    rw [hexPadded, hexNumber?_concat (ih (n / 16)) hlast, Nat.pow_succ,
      Nat.mul_comm (16 ^ width) 16, Nat.mod_mul, Nat.add_comm]

/-! ## Hyphens -/

/-- What stands between hyphens is found in its place. -/
theorem take_drop_of_append (as cs : List Char) {bs text : List Char} {m n : Nat}
    (htext : text = as ++ (bs ++ cs)) (has : as.length = m) (hbs : bs.length = n) :
    (text.drop m).take n = bs := by
  rw [htext, List.drop_left' has, List.take_left' hbs]

/-- Taking the hyphens out of their places gives the digits back. -/
theorem take_drop_hyphenate {ds : List Char} (h : ds.length = 32) :
    (hyphenate ds).take 8 ++ ((hyphenate ds).drop 9).take 4 ++ ((hyphenate ds).drop 14).take 4 ++
      ((hyphenate ds).drop 19).take 4 ++ (hyphenate ds).drop 24 = ds := by
  have h8 : (ds.take 8).length = 8 := by simp [h]
  have h12 : ((ds.drop 8).take 4).length = 4 := by simp [h]
  have h16 : ((ds.drop 12).take 4).length = 4 := by simp [h]
  have h20 : ((ds.drop 16).take 4).length = 4 := by simp [h]
  have hfirst : (hyphenate ds).take 8 = ds.take 8 := by
    unfold hyphenate
    rw [List.append_assoc, List.append_assoc, List.append_assoc, List.take_left' h8]
  have hsecond : ((hyphenate ds).drop 9).take 4 = (ds.drop 8).take 4 := by
    refine take_drop_of_append (ds.take 8 ++ ['-']) ('-' :: (ds.drop 12).take 4 ++
      '-' :: (ds.drop 16).take 4 ++ '-' :: ds.drop 20) ?_ (by simp [h8]) h12
    simp [hyphenate]
  have hthird : ((hyphenate ds).drop 14).take 4 = (ds.drop 12).take 4 := by
    refine take_drop_of_append (ds.take 8 ++ '-' :: (ds.drop 8).take 4 ++ ['-'])
      ('-' :: (ds.drop 16).take 4 ++ '-' :: ds.drop 20) ?_ (by simp [h]) h16
    simp [hyphenate]
  have hfourth : ((hyphenate ds).drop 19).take 4 = (ds.drop 16).take 4 := by
    refine take_drop_of_append (ds.take 8 ++ '-' :: (ds.drop 8).take 4 ++
      '-' :: (ds.drop 12).take 4 ++ ['-']) ('-' :: ds.drop 20) ?_ (by simp [h]) h20
    simp [hyphenate]
  have hlast : (hyphenate ds).drop 24 = ds.drop 20 := by
    have hcut : hyphenate ds = (ds.take 8 ++ '-' :: (ds.drop 8).take 4 ++
        '-' :: (ds.drop 12).take 4 ++ '-' :: (ds.drop 16).take 4 ++ ['-']) ++ ds.drop 20 := by
      simp [hyphenate]
    rw [hcut, List.drop_left' (by simp [h])]
  rw [hfirst, hsecond, hthird, hfourth, hlast]
  -- now the pieces join up
  rw [show ds.drop 20 = (ds.drop 16).drop 4 by rw [List.drop_drop], List.append_assoc,
    List.take_append_drop, show ds.drop 16 = (ds.drop 12).drop 4 by rw [List.drop_drop],
    List.append_assoc, List.take_append_drop, show ds.drop 12 = (ds.drop 8).drop 4 by
    rw [List.drop_drop], List.append_assoc, List.take_append_drop, List.take_append_drop]

theorem length_simple (u : Uuid) : u.simple.length = 32 := length_hexPadded ..

/-- Different numbers make different identifiers. -/
theorem ofNat_ne {m n : Nat} (h : m < n) (hn : n < 2 ^ 128) : ofNat m ≠ ofNat n := by
  intro heq
  have hbits : (ofNat m).bits.toNat = (ofNat n).bits.toNat := by rw [heq]
  unfold ofNat at hbits
  rw [BitVec.toNat_ofNat, BitVec.toNat_ofNat, Nat.mod_eq_of_lt (Nat.lt_trans h hn),
    Nat.mod_eq_of_lt hn] at hbits
  exact absurd hbits (Nat.ne_of_lt h)

theorem ofSimple?_simple (u : Uuid) : ofSimple? u.simple = some u := by
  have hnumber : hexNumber? u.simple = some u.toNat := by
    have hfits : u.toNat < 16 ^ 32 := by
      have hlt := u.bits.isLt
      rwa [show 2 ^ 128 = 16 ^ 32 by decide] at hlt
    unfold simple
    rw [hexNumber?_hexPadded, Nat.mod_eq_of_lt hfits]
  have hback : ofNat u.toNat = u := by
    unfold ofNat toNat
    rw [BitVec.ofNat_toNat, BitVec.setWidth_eq]
  unfold ofSimple?
  rw [if_pos (length_simple u), hnumber, Option.map_some, hback]

theorem ofHyphenated?_hyphenate (u : Uuid) : ofHyphenated? (hyphenate u.simple) = some u := by
  unfold ofHyphenated?
  dsimp only
  rw [take_drop_hyphenate (length_simple u), if_pos rfl, ofSimple?_simple]

/-- A digit opens neither a brace nor the name of a URN. -/
theorem digitChar_plain : ∀ k < 16,
    Nat.digitChar k ≠ '\x7b' ∧ (Nat.digitChar k).toLower ≠ 'u' := by decide

/-- **An identifier is read from its text.** -/
theorem ofString?_toString (u : Uuid) : ofString? u.toString = some u := by
  have hlength : (hyphenate u.simple).length = 36 := by simp [hyphenate, length_simple]
  cases hds : u.simple with
  | nil =>
    have hsimple := length_simple u
    simp [hds] at hsimple
  | cons d ds =>
    have hmem : d ∈ hexPadded 32 u.toNat := by
      change d ∈ u.simple
      rw [hds]
      exact List.mem_cons_self
    obtain ⟨k, hk, rfl⟩ := hexPadded_mem hmem
    obtain ⟨rest, hrest⟩ : ∃ rest, hyphenate u.simple = Nat.digitChar k :: rest := by
      rw [hds]
      exact ⟨_, rfl⟩
    obtain ⟨hbrace, hurn⟩ := digitChar_plain k hk
    have hhyphenated := ofHyphenated?_hyphenate u
    unfold ofString? toString toChars
    rw [String.toList_ofList, hrest]
    rw [hrest] at hhyphenated hlength
    unfold ofChars?
    split
    · rename_i heq
      exact absurd (List.cons.inj heq).1 hbrace
    · rw [if_neg, if_neg (by rw [hlength]; decide)]
      · exact hhyphenated
      · intro heq
        exact hurn (List.cons.inj heq).1

theorem toString_inj {u v : Uuid} (h : u.toString = v.toString) : u = v := by
  have hu := ofString?_toString u
  rw [h, ofString?_toString] at hu
  exact (Option.some.inj hu).symm

theorem some_toString_inj {u v : Uuid} : some u.toString = some v.toString ↔ u = v := by
  rw [Option.some_inj]
  exact ⟨toString_inj, congrArg toString⟩

end Uuid

/-- Every value is found under its name. -/
def Naming.Faithful {α : Type} (n : Naming α) : Prop := ∀ a, n.find? (n.name a) = some a

end ShelterLine

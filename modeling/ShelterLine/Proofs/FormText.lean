import ShelterLine.Proofs.Identifier
import ShelterLine.Web.Form

/-!
# Plain forms are read as they are written

Text that is ASCII and has no character with a meaning in a form stands for itself. Pairs of such
texts, each with an equals sign between them and joined by ampersands, are read as these pairs. The
text of an identifier is of this kind.
-/

namespace ShelterLine

namespace Form

variable {c separator : Char} {cs xs ys : List Char}

/-! ## Text that stands for itself -/

/-- The character is ASCII and has no meaning in a form. -/
def IsPlain (c : Char) : Prop := c.toNat < 0x80 ∧ c ∉ ['+', '%', '&', '=']

instance : DecidablePred IsPlain := fun c =>
  inferInstanceAs (Decidable (c.toNat < 0x80 ∧ c ∉ ['+', '%', '&', '=']))

theorem IsPlain.ne (h : IsPlain c) {d : Char} (hd : d ∈ ['+', '%', '&', '=']) : c ≠ d := by
  intro heq
  rw [heq] at h
  exact h.2 hd

/-- A character of ASCII is one byte. -/
theorem utf8EncodeChar_ascii (h : c.toNat < 0x80) : String.utf8EncodeChar c =
    [UInt8.ofNat c.toNat] := by
  have hsize : c.val.toNat ≤ 0x7F := Nat.le_of_lt_succ h
  unfold String.utf8EncodeChar
  dsimp only
  rw [if_pos hsize]
  rfl

/-- Nothing is encoded in plain text. -/
theorem decodeBytes_plain (h : ∀ c ∈ cs, IsPlain c) :
    Percent.decodeBytes cs = cs.map fun c => UInt8.ofNat c.toNat := by
  induction cs with
  | nil => rfl
  | cons c cs ih =>
    obtain ⟨hc, hcs⟩ := List.forall_mem_cons.1 h
    have hpercent : c ≠ '%' := hc.ne (by decide)
    have hstep : Percent.decodeBytes (c :: cs) = String.utf8EncodeChar c ++
        Percent.decodeBytes cs := by
      rw [Percent.decodeBytes]
      intro a b rest heq
      exact absurd heq hpercent
    rw [hstep, ih hcs, utf8EncodeChar_ascii hc.1]
    rfl

/-- Bytes of ASCII are read one by one. -/
theorem utf8Chars_ascii (h : ∀ c ∈ cs, c.toNat < 0x80) :
    Text.utf8Chars none (cs.map fun c => UInt8.ofNat c.toNat) = cs.map some := by
  induction cs with
  | nil => rfl
  | cons c cs ih =>
    obtain ⟨hc, hcs⟩ := List.forall_mem_cons.1 h
    have hbyte : (UInt8.ofNat c.toNat).toNat = c.toNat := by
      rw [UInt8.toNat_ofNat']
      exact Nat.mod_eq_of_lt (Nat.lt_trans hc (by decide))
    have hrole : Text.ByteRole.first (UInt8.ofNat c.toNat) = .last c := by
      unfold Text.ByteRole.first
      dsimp only
      rw [hbyte, if_pos hc, Char.ofNat_toNat]
    rw [List.map_cons, List.map_cons, Text.utf8Chars, Text.roleAfter, hrole, ← ih hcs]
    rfl

/-- **Plain text stands for itself.** -/
theorem decode_plain (h : ∀ c ∈ cs, IsPlain c) : decode cs = String.ofList cs := by
  have hplus : cs.map (fun c => if c = '+' then ' ' else c) = cs := by
    refine (List.map_congr_left fun c hc => if_neg ((h c hc).ne (by decide))).trans
      (List.map_id' cs)
  unfold decode
  rw [hplus, decodeBytes_plain h]
  unfold Text.ofUtf8Lossy
  rw [utf8Chars_ascii fun c hc => (h c hc).1, List.map_map]
  exact congrArg String.ofList (List.map_id' cs)

/-! ## Pairs -/

theorem split_of_not_mem (h : separator ∉ cs) : split separator cs = [cs] := by
  induction cs with
  | nil => rfl
  | cons c cs ih =>
    rw [List.mem_cons, not_or] at h
    rw [split, if_neg (Ne.symm h.1), ih h.2]

theorem split_append (h : separator ∉ xs) (ys : List Char) :
    split separator (xs ++ separator :: ys) = xs :: split separator ys := by
  induction xs with
  | nil =>
    rw [List.nil_append, split]
    exact if_pos rfl
  | cons x xs ih =>
    rw [List.mem_cons, not_or] at h
    rw [List.cons_append, split, if_neg (Ne.symm h.1), ih h.2]

/-- Pieces without a separator are found between separators. -/
theorem split_intercalate {ps : List (List Char)} (hne : ps ≠ []) (h : ∀ p ∈ ps, separator ∉ p) :
    split separator ([separator].intercalate ps) = ps := by
  induction ps with
  | nil => exact absurd rfl hne
  | cons p ps ih =>
    obtain ⟨hp, hps⟩ := List.forall_mem_cons.1 h
    cases ps with
    | nil => rw [List.intercalate_singleton, split_of_not_mem hp]
    | cons q ps =>
      rw [List.intercalate_cons_cons, List.append_assoc, List.singleton_append, split_append hp,
        ih (List.cons_ne_nil q ps) hps]

/-- A name and a value as they are written when both are plain. -/
def written (field : String × String) : List Char := field.1.toList ++ '=' :: field.2.toList

/-- A pair of plain texts. -/
def PlainField (field : String × String) : Prop :=
  (∀ c ∈ field.1.toList, IsPlain c) ∧ ∀ c ∈ field.2.toList, IsPlain c

theorem pair_written {field : String × String} (h : PlainField field) :
    pair (written field) = field := by
  have hname : ∀ c ∈ field.1.toList, decide (c ≠ '=') = true := fun c hc =>
    decide_eq_true ((h.1 c hc).ne (by decide))
  unfold pair written
  rw [List.takeWhile_append_of_pos hname, List.dropWhile_append_of_pos hname,
    List.takeWhile_cons_of_neg (by decide), List.dropWhile_cons_of_neg (by decide), List.append_nil,
    List.drop_one, List.tail_cons, decode_plain h.1, decode_plain h.2, String.ofList_toList,
    String.ofList_toList]

/-- **Plain pairs are read as they are written.** -/
theorem pairs_written {fields : List (String × String)} (h : ∀ f ∈ fields, PlainField f) :
    pairs (String.ofList (['&'].intercalate (fields.map written))) = fields := by
  unfold pairs
  rw [String.toList_ofList]
  cases hfields : fields with
  | nil => rfl
  | cons field rest =>
    rw [← hfields]
    have hne : fields.map written ≠ [] := by
      rw [hfields]
      exact List.cons_ne_nil _ _
    have hfree : ∀ p ∈ fields.map written, '&' ∉ p := by
      refine List.forall_mem_map.2 fun f hf hmem => ?_
      rcases List.mem_append.1 hmem with hmem | hmem
      · exact ((h f hf).1 _ hmem).ne (by decide) rfl
      · rcases List.mem_cons.1 hmem with heq | hmem
        · exact absurd heq (by decide)
        · exact ((h f hf).2 _ hmem).ne (by decide) rfl
    have hfull : (fields.map written).filter (· ≠ []) = fields.map written := by
      refine List.filter_eq_self.2 (List.forall_mem_map.2 fun f _ => decide_eq_true ?_)
      exact List.append_ne_nil_of_right_ne_nil _ (List.cons_ne_nil _ _)
    rw [split_intercalate hne hfree, hfull, List.map_map]
    exact (List.map_congr_left fun f hf => pair_written (h f hf)).trans (List.map_id fields)

end Form

namespace Uuid

/-- The text of an identifier is made of hyphens and sixteen digits. -/
theorem forall_mem_toString {p : Char → Prop} (hhyphen : p '-')
    (hdigit : ∀ k < 16, p (Nat.digitChar k)) (u : Uuid) : ∀ c ∈ u.toString.toList, p c := by
  have hsimple : ∀ c ∈ u.simple, p c := by
    intro c hc
    obtain ⟨k, hk, rfl⟩ := Text.hexPadded_mem hc
    exact hdigit k hk
  intro c hc
  unfold toString toChars hyphenate at hc
  rw [String.toList_ofList] at hc
  simp only [List.mem_append, List.mem_cons] at hc
  rcases hc with (((hc | rfl | hc) | rfl | hc) | rfl | hc) | rfl | hc
  · exact hsimple c (List.mem_of_mem_take hc)
  · exact hhyphen
  · exact hsimple c (List.mem_of_mem_drop (List.mem_of_mem_take hc))
  · exact hhyphen
  · exact hsimple c (List.mem_of_mem_drop (List.mem_of_mem_take hc))
  · exact hhyphen
  · exact hsimple c (List.mem_of_mem_drop (List.mem_of_mem_take hc))
  · exact hhyphen
  · exact hsimple c (List.mem_of_mem_drop hc)

/-- Such a text is plain. -/
theorem plain_toString (u : Uuid) : ∀ c ∈ u.toString.toList, Form.IsPlain c :=
  forall_mem_toString (by decide) (by decide) u

end Uuid

end ShelterLine

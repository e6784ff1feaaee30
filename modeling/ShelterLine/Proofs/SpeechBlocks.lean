import ShelterLine.Proofs.Sentences

/-!
# Nothing but blanks is lost in speech

A text is cut between its letters only: what its sentences hold beside blanks is what the
text holds beside blanks, in the same order. So the blocks that are spoken leave out blanks
and, past the twelfth block, the end of the text. No block reaches over a line's end or
over the end of a sentence.
-/

namespace ShelterLine.Speech

open Text

variable {cs xs ys b : List Char}

/-- What a text holds beside blanks. -/
def solid (cs : List Char) : List Char := cs.filter (!isBlank ·)

theorem solid_append (xs ys : List Char) : solid (xs ++ ys) = solid xs ++ solid ys :=
  List.filter_append ..

theorem solid_of_blanks (h : ∀ b ∈ cs, isBlank b) : solid cs = [] := by
  refine List.filter_eq_nil_iff.2 fun b hb => ?_
  rw [h b hb]
  exact Bool.false_ne_true

theorem solid_trim (cs : List Char) : solid (trim cs) = solid cs := by
  obtain ⟨bs, bs', hcs, hbs, hbs'⟩ := exists_trim cs
  have hsplit : solid cs = solid bs ++ (solid (trim cs) ++ solid bs') := by
    rw [← solid_append, ← solid_append, ← hcs]
  rw [hsplit, solid_of_blanks hbs, solid_of_blanks hbs', List.nil_append, List.append_nil]

/-! ## Between the blanks of a text and of its sentences -/

/-- The line ends that go with the cutting are blanks. -/
theorem solid_flatten_pieces (cs : List Char) : solid (pieces cs).flatten = solid cs := by
  rw [flatten_pieces]
  unfold solid
  rw [List.filter_filter]
  refine List.filter_congr fun c _ => ?_
  by_cases hend : c = '\n'
  · subst hend
    decide
  · simp [hend]

/-- Trimming each piece and leaving out what is then empty takes blanks away and nothing else. -/
theorem solid_flatten_trim (ps : List (List Char)) :
    solid ((ps.map trim).filter fun b => b ≠ []).flatten = solid ps.flatten := by
  induction ps with
  | nil => rfl
  | cons p ps ih =>
    rw [List.map_cons, List.flatten_cons, solid_append, ← ih, ← solid_trim p]
    by_cases hnil : trim p = []
    · rw [List.filter_cons_of_neg (by simpa using hnil), hnil]
      rfl
    · rw [List.filter_cons_of_pos (by simpa using hnil), List.flatten_cons, solid_append]

/-- **The sentences of a text hold all of it but blanks.** -/
theorem solid_sentences (cs : List Char) : solid (sentences cs).flatten = solid cs := by
  unfold sentences
  rw [solid_flatten_trim, solid_flatten_pieces]

/-- What is spoken of a text is the beginning of it. -/
theorem solid_blocks_prefix (cs : List Char) : solid (blocks cs).flatten <+: solid cs := by
  refine ⟨solid ((sentences cs).drop maxBlocks).flatten, ?_⟩
  rw [blocks_eq, ← solid_append, ← List.flatten_append, List.take_append_drop, solid_sentences]

/-- A text is spoken to its end when there is room for another block. -/
theorem solid_blocks_of_lt (h : (blocks cs).length < maxBlocks) :
    solid (blocks cs).flatten = solid cs := by
  have hall : blocks cs = sentences cs := by
    rw [blocks_eq, List.length_take] at h
    rw [blocks_eq]
    exact List.take_of_length_le (by omega)
  rw [hall, solid_sentences]

/-! ## What a block reaches over -/

/-- A text is unbroken just if no line ends in it and no blank stands after a stop. -/
theorem unbroken_iff :
    Unbroken cs ↔ '\n' ∉ cs ∧ ∀ x y, [x, y] <:+: cs → isStop x → isBlank y = false := by
  induction cs with
  | nil =>
    refine iff_of_true trivial ⟨List.not_mem_nil, fun x y h => ?_⟩
    exact absurd (List.infix_nil.1 h) (List.cons_ne_nil _ _)
  | cons c cs ih =>
    have hpair : ∀ x y, [x, y] <:+: c :: cs ↔ (x = c ∧ cs.head? = some y) ∨ [x, y] <:+: cs := by
      intro x y
      have hnext : [y] <+: cs ↔ cs.head? = some y := by
        cases cs with
        | nil => simp
        | cons d ds =>
          rw [List.cons_prefix_cons, List.head?_cons, Option.some_inj]
          exact ⟨fun h => h.1.symm, fun h => ⟨h.symm, List.nil_prefix⟩⟩
      rw [List.infix_cons_iff, List.cons_prefix_cons, hnext]
    have hstarts : startsBlank cs = false ↔ ∀ y, cs.head? = some y → isBlank y = false := by
      cases cs with
      | nil => exact iff_of_true rfl fun y hy => by cases hy
      | cons d ds => simp [startsBlank]
    unfold Unbroken
    rw [ih, List.mem_cons, not_or, hstarts]
    constructor
    · rintro ⟨hend, hstop, hnone, hrest⟩
      refine ⟨⟨Ne.symm hend, hnone⟩, fun x y h hx => ?_⟩
      rcases (hpair x y).1 h with ⟨rfl, hy⟩ | h
      · exact hstop hx y hy
      · exact hrest x y h hx
    · rintro ⟨⟨hend, hnone⟩, hrest⟩
      refine ⟨Ne.symm hend, fun hc y hy => ?_, hnone, fun x y h => ?_⟩
      · exact hrest c y ((hpair c y).2 (Or.inl ⟨rfl, hy⟩)) hc
      · exact hrest x y ((hpair x y).2 (Or.inr h))

/-- What stands within an unbroken text is unbroken. -/
theorem Unbroken.within (h : Unbroken cs) (hin : xs <:+: cs) : Unbroken xs := by
  obtain ⟨hend, hstop⟩ := unbroken_iff.1 h
  refine unbroken_iff.2 ⟨fun hmem => hend (hin.subset hmem), fun x y hxy => ?_⟩
  exact hstop x y (hxy.trans hin)

/-- The first piece of a text begins with a blank only if the text does. -/
theorem startsBlank_of_pieces {p : List Char} {ps : List (List Char)} (h : pieces cs = p :: ps)
    (hp : startsBlank p) : startsBlank cs := by
  cases cs with
  | nil =>
    obtain ⟨rfl, -⟩ := List.cons.inj h
    exact hp
  | cons c cs =>
    unfold pieces at h
    split at h
    · obtain ⟨rfl, -⟩ := List.cons.inj h
      cases hp
    · split at h
      · obtain ⟨rfl, -⟩ := List.cons.inj h
        exact hp
      · obtain ⟨q, qs, hqs⟩ := List.exists_cons_of_ne_nil (pieces_ne_nil cs)
        rw [hqs] at h
        obtain ⟨rfl, -⟩ := List.cons.inj h
        exact hp

/-- Every piece of a text is unbroken. -/
theorem unbroken_of_mem_pieces {p : List Char} (h : p ∈ pieces cs) : Unbroken p := by
  induction cs generalizing p with
  | nil =>
    obtain rfl := List.mem_singleton.1 h
    exact trivial
  | cons c cs ih =>
    unfold pieces at h
    split at h
    · rcases List.mem_cons.1 h with rfl | h
      · exact trivial
      · exact ih h
    · rename_i hend
      split at h
      · rcases List.mem_cons.1 h with rfl | h
        · exact ⟨hend, fun _ => rfl, trivial⟩
        · exact ih h
      · -- the character goes in front of the first piece, and no sentence ends with it
        rename_i hgoes
        obtain ⟨q, qs, hqs⟩ := List.exists_cons_of_ne_nil (pieces_ne_nil cs)
        rw [hqs] at h ih
        rcases List.mem_cons.1 h with rfl | h
        · refine ⟨hend, fun hstop => Bool.eq_false_iff.2 fun hblank => hgoes ?_,
            ih List.mem_cons_self⟩
          rw [hstop, startsBlank_of_pieces hqs hblank]
          rfl
        · exact ih (List.mem_cons_of_mem q h)

theorem unbroken_of_mem_blocks (h : b ∈ blocks cs) : Unbroken b := by
  obtain ⟨p, hp, rfl⟩ := List.mem_map.1 (List.mem_filter.1 (List.mem_of_mem_take h)).1
  exact (unbroken_of_mem_pieces hp).within (trim_within p)

/-! ## The blocks of a text -/

/-- A block is not empty, has no blank at either end and reaches over neither a line's end nor
the end of a sentence. -/
structure IsBlock (b : List Char) : Prop where
  nonempty : b ≠ []
  starts : StartsPlain b
  ends : EndsPlain b
  line : '\n' ∉ b
  sentence : ∀ x y, [x, y] <:+: b → x = '.' ∨ x = '!' ∨ x = '?' → isBlank y = false

theorem isBlock_of_mem_blocks (h : b ∈ blocks cs) : IsBlock b := by
  obtain ⟨hline, hsentence⟩ := unbroken_iff.1 (unbroken_of_mem_blocks h)
  obtain ⟨hmem, hne⟩ := List.mem_filter.1 (List.mem_of_mem_take h)
  obtain ⟨p, -, rfl⟩ := List.mem_map.1 hmem
  refine ⟨by simpa using hne, startsPlain_trim p, endsPlain_trim p, hline, fun x y hxy hx => ?_⟩
  refine hsentence x y hxy ?_
  unfold isStop
  rcases hx with rfl | rfl | rfl <;> rfl

/-- **A text is spoken in at most twelve blocks, of a sentence at most each, which leave out blanks
and nothing else until there is no room.** -/
theorem blocks_lossless (cs : List Char) :
    (blocks cs).length ≤ 12 ∧ (∀ b ∈ blocks cs, IsBlock b) ∧
      solid (blocks cs).flatten <+: solid cs ∧
      ((blocks cs).length < 12 → solid (blocks cs).flatten = solid cs) ∧
      ((∃ c ∈ cs, isBlank c = false) → blocks cs ≠ []) := by
  refine ⟨?_, fun b hb => isBlock_of_mem_blocks hb, solid_blocks_prefix cs, solid_blocks_of_lt, ?_⟩
  · rw [blocks_eq]
    exact List.length_take_le maxBlocks (sentences cs)
  · rintro ⟨c, hc, hblank⟩
    exact blocks_ne_nil hc hblank

/-- Stops side by side, a line end of two characters, an empty line and a wide blank. -/
def brokenText : List Char := "Wait... really?!\u3000Café is open.\r\n\n Call 3.14 back. ".toList

/-- Such a text is spoken to its end. -/
theorem blocks_lossless_brokenText :
    (blocks brokenText).length < 12 ∧ solid (blocks brokenText).flatten = solid brokenText ∧
      blocks brokenText ≠ [] := by
  have hlength : (blocks brokenText).length < 12 := by decide +kernel
  obtain ⟨-, -, -, hall, hsome⟩ := blocks_lossless brokenText
  exact ⟨hlength, hall hlength, hsome ⟨'W', List.mem_of_mem_head? rfl, by decide⟩⟩

example : (blocks brokenText).map String.ofList =
    ["Wait...", "really?!", "Café is open.", "Call 3.14 back."] := by decide +kernel

end ShelterLine.Speech

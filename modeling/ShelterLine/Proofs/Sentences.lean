import ShelterLine.Markup.Speech
import ShelterLine.Proofs.Blank

/-!
# Sentences of a text

A text that is spoken is cut into sentences, of which only the first so many are spoken. The
sentences of lines that are put together are those of each line, and the same holds where a sentence
ends within a line; a text without such a place is one sentence.
-/

namespace ShelterLine.Speech

open Text

variable {b c : Char} {cs xs ys : List Char}

/-! ## Pieces and blocks -/

theorem flatten_consFirst (c : Char) (bs : List (List Char)) :
    (consFirst c bs).flatten = c :: bs.flatten := by
  cases bs <;> rfl

/-- Cutting a text loses its line ends and nothing else. -/
theorem flatten_pieces (cs : List Char) : (pieces cs).flatten = cs.filter (· ≠ '\n') := by
  induction cs with
  | nil => rfl
  | cons c cs ih =>
    unfold pieces
    split
    · rename_i hend
      rw [List.flatten_cons, List.nil_append, ih, List.filter_cons_of_neg (by simpa using hend)]
    · rename_i hend
      rw [List.filter_cons_of_pos (by simpa using hend)]
      split
      · rw [List.flatten_cons, ih]
        rfl
      · rw [flatten_consFirst, ih]

theorem mem_of_mem_blocks (hxs : xs ∈ blocks cs) (hc : c ∈ xs) : c ∈ cs := by
  obtain ⟨p, hp, rfl⟩ := List.mem_map.1 (List.mem_filter.1 (List.mem_of_mem_take hxs)).1
  have hmem : c ∈ (pieces cs).flatten := List.mem_flatten.2 ⟨p, hp, mem_of_mem_trim hc⟩
  rw [flatten_pieces] at hmem
  exact (List.mem_filter.1 hmem).1

/-- A text that is not blank is spoken in one block at least. -/
theorem blocks_ne_nil (hc : c ∈ cs) (hblank : isBlank c = false) : blocks cs ≠ [] := by
  have hmem : c ∈ (pieces cs).flatten := by
    rw [flatten_pieces]
    refine List.mem_filter.2 ⟨hc, decide_eq_true ?_⟩
    rintro rfl
    exact absurd hblank (by decide)
  obtain ⟨p, hp, hcp⟩ := List.mem_flatten.1 hmem
  have hne : trim p ≠ [] := List.ne_nil_of_mem (mem_trim hcp hblank)
  have hblock : trim p ∈ ((pieces cs).map trim).filter fun b => b ≠ [] :=
    List.mem_filter.2 ⟨List.mem_map_of_mem hp, decide_eq_true hne⟩
  unfold blocks
  rw [Ne, List.take_eq_nil_iff, not_or]
  exact ⟨by decide, List.ne_nil_of_mem hblock⟩

/-! ## Sentences -/

/-- All sentences of a text, however many there are. -/
def sentences (cs : List Char) : List (List Char) := ((pieces cs).map trim).filter fun b => b ≠ []

theorem blocks_eq (cs : List Char) : blocks cs = (sentences cs).take maxBlocks := rfl

theorem ne_nil_of_mem_sentences (h : cs ∈ sentences xs) : cs ≠ [] := by
  simpa using (List.mem_filter.1 h).2

/-- A text that is not blank has a sentence. -/
theorem length_sentences_pos (hc : c ∈ cs) (hblank : isBlank c = false) :
    0 < (sentences cs).length := by
  rw [List.length_pos_iff]
  intro hnil
  refine blocks_ne_nil hc hblank ?_
  rw [blocks_eq, hnil, List.take_nil]

/-! ## Where sentences end -/

theorem pieces_ne_nil (cs : List Char) : pieces cs ≠ [] := by
  cases cs with
  | nil => exact List.cons_ne_nil _ _
  | cons c cs =>
    unfold pieces
    split
    · exact List.cons_ne_nil _ _
    · split
      · exact List.cons_ne_nil _ _
      · cases pieces cs <;> exact List.cons_ne_nil _ _

theorem consFirst_append {ps qs : List (List Char)} (h : ps ≠ []) (c : Char) :
    consFirst c (ps ++ qs) = consFirst c ps ++ qs := by
  obtain ⟨p, ps, rfl⟩ := List.exists_cons_of_ne_nil h
  rfl

theorem startsBlank_append (h : xs ≠ []) (ys : List Char) :
    startsBlank (xs ++ ys) = startsBlank xs := by
  obtain ⟨x, xs, rfl⟩ := List.exists_cons_of_ne_nil h
  rfl

/-- Two lines are cut one after the other, with nothing between them or the blank after a stop. -/
theorem pieces_join (xs ys : List Char) :
    pieces (xs ++ '\n' :: ys) = pieces xs ++ pieces ys ∨
      pieces (xs ++ '\n' :: ys) = pieces xs ++ [] :: pieces ys := by
  induction xs with
  | nil => exact Or.inl rfl
  | cons c xs ih =>
    rw [List.cons_append, pieces, pieces]
    split
    · rcases ih with h | h
      · exact Or.inl (by rw [h]; rfl)
      · exact Or.inr (by rw [h]; rfl)
    · by_cases hnil : xs = []
      · -- a stop at the end of the first line is followed by the line's end
        subst hnil
        have hend : pieces ([] ++ '\n' :: ys) = [] :: pieces ys := rfl
        rw [hend]
        cases isStop c
        · exact Or.inl rfl
        · exact Or.inr rfl
      · rw [startsBlank_append hnil]
        split
        · rcases ih with h | h
          · exact Or.inl (by rw [h]; rfl)
          · exact Or.inr (by rw [h]; rfl)
        · rcases ih with h | h
          · exact Or.inl (by rw [h, consFirst_append (pieces_ne_nil xs)])
          · exact Or.inr (by rw [h, consFirst_append (pieces_ne_nil xs)])

/-- **The sentences of two lines are those of the first, then those of the second.** -/
theorem sentences_join (xs ys : List Char) :
    sentences (xs ++ '\n' :: ys) = sentences xs ++ sentences ys := by
  unfold sentences
  rcases pieces_join xs ys with h | h
  · rw [h, List.map_append, List.filter_append]
  · rw [h, List.map_append, List.filter_append]
    rfl

/-- The sentences of some lines are those of each of them. -/
theorem sentences_intercalate (lines : List (List Char)) :
    sentences (['\n'].intercalate lines) = lines.flatMap sentences := by
  induction lines with
  | nil => rfl
  | cons line lines ih =>
    cases lines with
    | nil => rw [List.intercalate_singleton, List.flatMap_singleton]
    | cons next lines =>
      rw [List.intercalate_cons_cons, List.append_assoc, List.singleton_append, sentences_join, ih]
      rfl

/-- After a stop that a blank follows the text goes on anew. -/
theorem pieces_stop (hstop : isStop c) (hblank : startsBlank ys) (xs : List Char) :
    pieces (xs ++ c :: ys) = pieces (xs ++ [c]) ++ pieces ys := by
  have hend : c ≠ '\n' := by
    rintro rfl
    cases hstop
  induction xs with
  | nil =>
    rw [List.nil_append, List.nil_append, pieces, pieces, if_neg hend, if_neg hend, hstop, hblank]
    rfl
  | cons x xs ih =>
    have hne : xs ++ [c] ≠ [] := by simp
    have hsame : startsBlank (xs ++ c :: ys) = startsBlank (xs ++ [c]) := by
      rw [← startsBlank_append hne ys, List.append_assoc, List.singleton_append]
    rw [List.cons_append, List.cons_append, pieces, pieces, ih, hsame]
    split
    · rfl
    · split
      · rfl
      · rw [consFirst_append (pieces_ne_nil _)]

/-- A blank in front of a text makes no difference to its sentences. -/
theorem sentences_blank (hb : isBlank b) (cs : List Char) : sentences (b :: cs) = sentences cs := by
  have hstop : isStop b = false := by
    unfold isStop
    have hne : ∀ d, isBlank d = false → decide (b = d) = false := by
      rintro d hd
      refine decide_eq_false ?_
      rintro rfl
      rw [hb] at hd
      cases hd
    rw [hne '.' (by decide), hne '!' (by decide), hne '?' (by decide)]
    rfl
  unfold sentences
  rw [pieces, hstop]
  split
  · rfl
  · obtain ⟨p, ps, hps⟩ := List.exists_cons_of_ne_nil (pieces_ne_nil cs)
    have htrim : trim (b :: p) = trim p := by
      unfold trim trimStart
      rw [List.dropWhile_cons_of_pos hb]
    rw [Bool.false_and, if_neg Bool.false_ne_true, hps, consFirst, List.map_cons,
      List.map_cons, htrim]

/-- **Where a sentence ends within a line, the sentences are those up to it, then
those after it.** -/
theorem sentences_stop (hstop : isStop c) (hb : isBlank b) (xs ys : List Char) :
    sentences (xs ++ c :: b :: ys) = sentences (xs ++ [c]) ++ sentences ys := by
  have hblank : startsBlank (b :: ys) := hb
  rw [← sentences_blank hb ys]
  unfold sentences
  rw [pieces_stop hstop hblank, List.map_append, List.filter_append]

/-- The sentences of a text that ends in a stop and a blank are sentences of their own
whatever follows. -/
theorem sentences_append (h : [c, b] <:+ xs) (hstop : isStop c) (hb : isBlank b) (ys : List Char) :
    sentences (xs ++ ys) = sentences xs ++ sentences ys := by
  obtain ⟨front, rfl⟩ := h
  have htext : front ++ [c, b] ++ ys = front ++ c :: b :: ys := by simp
  rw [htext, sentences_stop hstop hb, sentences_stop hstop hb]
  have hnil : sentences [] = [] := rfl
  rw [hnil, List.append_nil]

/-! ## Texts of one sentence -/

/-- No line ends in the text, and no sentence within it. -/
def Unbroken : List Char → Prop
  | [] => True
  | c :: cs => c ≠ '\n' ∧ (isStop c → startsBlank cs = false) ∧ Unbroken cs

instance : (cs : List Char) → Decidable (Unbroken cs)
  | [] => isTrue trivial
  | c :: cs =>
    have : Decidable (Unbroken cs) := instDecidableUnbroken cs
    inferInstanceAs (Decidable (c ≠ '\n' ∧ (isStop c → startsBlank cs = false) ∧ Unbroken cs))

/-- Two texts are unbroken together unless a stop at the end of the first meets a blank. -/
theorem Unbroken.append (hxs : Unbroken xs) (hys : Unbroken ys)
    (h : (∀ c, xs.getLast? = some c → isStop c = false) ∨ startsBlank ys = false) :
    Unbroken (xs ++ ys) := by
  induction xs with
  | nil => exact hys
  | cons x xs ih =>
    obtain ⟨hend, hstop, hrest⟩ := hxs
    by_cases hnil : xs = []
    · subst hnil
      refine ⟨hend, fun hx => ?_, hys⟩
      rcases h with hlast | hblank
      · rw [hlast x rfl] at hx
        cases hx
      · exact hblank
    · have hlast : (x :: xs).getLast? = xs.getLast? := by
        obtain ⟨y, xs, rfl⟩ := List.exists_cons_of_ne_nil hnil
        exact List.getLast?_cons_cons
      rw [hlast] at h
      refine ⟨hend, fun hx => ?_, ih hrest h⟩
      rw [← hstop hx]
      exact startsBlank_append hnil ys

theorem pieces_of_unbroken (h : Unbroken cs) : pieces cs = [cs] := by
  induction cs with
  | nil => rfl
  | cons c cs ih =>
    obtain ⟨hend, hstop, hrest⟩ := h
    rw [pieces, if_neg hend, ih hrest, if_neg]
    · rfl
    · rw [Bool.and_eq_true]
      rintro ⟨hc, hblank⟩
      rw [hstop hc] at hblank
      cases hblank

/-- **An unbroken text that is not blank is one sentence.** -/
theorem sentences_of_unbroken (h : Unbroken cs) (hc : c ∈ cs) (hblank : isBlank c = false) :
    sentences cs = [trim cs] := by
  have hne : trim cs ≠ [] := List.ne_nil_of_mem (mem_trim hc hblank)
  unfold sentences
  rw [pieces_of_unbroken h, List.map_singleton, List.filter_cons_of_pos (by simpa using hne),
    List.filter_nil]

end ShelterLine.Speech

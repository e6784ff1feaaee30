import ShelterLine.Proofs.Blank
import ShelterLine.Proofs.Cutting
import ShelterLine.Script.Fallback

/-!
# What a script should not have in it

A placeholder is what stands between an opening and a closing, up to the first character that the
closing begins with. The rules for brackets and for double braces find just these; a place for a
name is a placeholder in brackets too. Blanks are to be shrunk where two are side by side, and the
rule finds all that follow.
-/

namespace ShelterLine.Script

open Text

/-- Something between an opening and a closing, without the character that the closing
begins with. -/
def Placeholder (opening : List Char) (stop : Char) (closing : List Char) (m : List Char) : Prop :=
  ∃ u, m = opening ++ (u ++ stop :: closing) ∧ u ≠ [] ∧ stop ∉ u

/-- A placeholder in brackets. -/
def IsBracketed : List Char → Prop := Placeholder ['['] ']' []

/-- A placeholder in double braces. -/
def IsBraced : List Char → Prop := Placeholder ['\x7b', '\x7b'] '\x7d' ['\x7d']

/-- Two blanks side by side. -/
def TwoBlanks (m : List Char) : Prop := ∃ b b', m = [b, b'] ∧ isBlank b ∧ isBlank b'

/-- At least two blanks with none after them. -/
def blankRuns : Pattern := fun _ m after =>
  2 ≤ m.length ∧ (∀ b ∈ m, isBlank b) ∧ ∀ c, after = some c → isBlank c = false

/-! ## Steps of cleaning -/

/-- The script without what stands in brackets, a name in its place apart. -/
def withoutBrackets (raw : List Char) : List Char :=
  replaceAll bracketPlace [] (replaceAll namePlace agentName.toList raw)

/-- The script without what stands in double braces. -/
def withoutBraces (cs : List Char) : List Char := replaceAll bracePlace [] cs

/-- The script with one blank for each run of them. -/
def withoutRuns (cs : List Char) : List Char := replaceAll blankRun [' '] cs

theorem sanitizeChars_eq (raw : List Char) : sanitizeChars raw =
    (trim (withoutRuns (withoutBraces (withoutBrackets raw)))).take maxLength := rfl

variable {before : Option Char} {cs m : List Char} {n : Nat}

/-! ## Brackets -/

theorem bracketPlace_sound : bracketPlace.Sound (.ofText IsBracketed) := by
  intro before cs n h
  unfold bracketPlace at h
  split at h
  · rename_i rest
    dsimp only at h
    split at h
    · rename_i hfits
      simp only [Bool.and_eq_true, decide_eq_true_eq] at hfits
      obtain ⟨more, hmore⟩ := exists_of_length_takeWhile_lt hfits.2
      refine ⟨'[' :: (rest.takeWhile (· ≠ ']') ++ [']']), more, ?_, ?_,
        rest.takeWhile (· ≠ ']'), rfl, hfits.1, not_mem_takeWhile_ne ']' rest⟩
      · rw [List.cons_append, List.append_assoc, List.singleton_append, ← hmore]
      · rw [← Option.some.inj h, List.length_cons, List.length_append]
        rfl
    · cases h
  · cases h

theorem bracketPlace_open (before : Option Char) (rest : List Char) :
    bracketPlace before ('[' :: rest) =
    if rest.takeWhile (· ≠ ']') ≠ [] && (rest.takeWhile (· ≠ ']')).length < rest.length then
      some ((rest.takeWhile (· ≠ ']')).length + 2) else none := rfl

theorem bracketPlace_complete : bracketPlace.Complete (.ofText IsBracketed) := by
  rintro before _ post ⟨u, rfl, hu, hstop⟩
  have htext : ['['] ++ (u ++ ']' :: []) ++ post = '[' :: (u ++ ']' :: post) := by simp
  have htake := takeWhile_ne_append hstop post
  refine ⟨u.length + 1, ?_⟩
  rw [htext, bracketPlace_open, htake, if_pos]
  simp [hu]

theorem IsBracketed.head (h : IsBracketed m) : m.head? = some '[' := by
  obtain ⟨u, rfl, -⟩ := h
  rfl

/-- What is read for a phrase in any case is the phrase, but for the case of its letters. -/
theorem afterFolded?_eq_some {phrase text rest : List Char}
    (h : afterFolded? phrase text = some rest) :
    ∃ w, text = w ++ rest ∧ w.map foldLetter = phrase := by
  induction phrase generalizing text with
  | nil => exact ⟨[], Option.some.inj h, rfl⟩
  | cons p phrase ih =>
    cases text with
    | nil => cases h
    | cons c text =>
      rw [afterFolded?] at h
      split at h
      · rename_i hp
        obtain ⟨w, rfl, rfl⟩ := ih h
        exact ⟨c :: w, rfl, by rw [List.map_cons, ← hp]⟩
      · cases h

theorem not_mem_of_afterFolded? {phrase text rest : List Char} {c : Char}
    (h : afterFolded? phrase text = some rest) (hc : foldLetter c ∉ phrase) :
    ∃ w, text = w ++ rest ∧ c ∉ w := by
  obtain ⟨w, rfl, rfl⟩ := afterFolded?_eq_some h
  exact ⟨w, rfl, fun hmem => hc (List.mem_map_of_mem hmem)⟩

/-- What a place for a name is made of. -/
theorem namePlace_eq_some (h : namePlace before cs = some n) :
    ∃ whose b blanks name rest, cs = '[' :: (whose ++ b :: (blanks ++ (name ++ ']' :: rest))) ∧
      n = cs.length - rest.length ∧ ']' ∉ whose ∧ isBlank b ∧
      (∀ c ∈ blanks, isBlank c) ∧ ']' ∉ name := by
  unfold namePlace at h
  split at h
  · rename_i rest
    dsimp only [Option.bind_eq_bind, Option.bind_some] at h
    obtain ⟨afterWhose, hwhose, hgap⟩ := Option.bind_eq_some_iff.1 h
    obtain ⟨whose, rfl, hclosed⟩ : ∃ w, rest = w ++ afterWhose ∧ ']' ∉ w := by
      rcases Option.or_eq_some_iff.1 hwhose with hyour | ⟨-, hmy⟩
      · exact not_mem_of_afterFolded? hyour (by decide)
      · exact not_mem_of_afterFolded? hmy (by decide)
    split at hgap
    · rename_i b more
      split at hgap
      · rename_i hb
        obtain ⟨afterName, hname, hclose⟩ := Option.bind_eq_some_iff.1 hgap
        obtain ⟨name, hmore, hclosed'⟩ : ∃ w, trimStart more = w ++ afterName ∧ ']' ∉ w :=
          not_mem_of_afterFolded? hname (by decide)
        split at hclose
        · rename_i last
          refine ⟨whose, b, more.takeWhile isBlank, name, last, ?_,
            (Option.some.inj hclose).symm, hclosed, hb,
            fun c hc => List.all_eq_true.1 List.all_takeWhile c hc, hclosed'⟩
          rw [← hmore, trimStart, List.takeWhile_append_dropWhile]
        · cases hclose
      · cases hgap
    · cases hgap
  · cases h

/-- A place for a name is a placeholder in brackets. -/
theorem namePlace_sound : namePlace.Sound (.ofText IsBracketed) := by
  intro before cs n h
  obtain ⟨whose, b, blanks, name, rest, rfl, rfl, hwhose, hb, hblanks, hname⟩ := namePlace_eq_some h
  refine ⟨'[' :: (whose ++ b :: (blanks ++ (name ++ [']']))), rest, by simp, ?_,
    whose ++ b :: (blanks ++ name), by simp, by simp, fun hmem => ?_⟩
  · simp only [List.length_append, List.length_cons, List.length_nil]
    omega
  · have hblank : isBlank ']' = false := by decide
    simp only [List.mem_append, List.mem_cons] at hmem
    rcases hmem with hmem | rfl | hmem | hmem
    · exact hwhose hmem
    · rw [hblank] at hb
      cases hb
    · rw [hblanks _ hmem] at hblank
      cases hblank
    · exact hname hmem

/-! ## Braces -/

theorem bracePlace_open (before : Option Char) (rest : List Char) :
    bracePlace before ('\x7b' :: '\x7b' :: rest) =
      match rest.takeWhile (· ≠ '\x7d'), rest.drop (rest.takeWhile (· ≠ '\x7d')).length with
      | _ :: _, '\x7d' :: '\x7d' :: _ => some ((rest.takeWhile (· ≠ '\x7d')).length + 4)
      | _, _ => none := rfl

theorem bracePlace_of_braced (post : List Char) (h : IsBraced m) :
    bracePlace before (m ++ post) = some m.length := by
  obtain ⟨u, rfl, hu, hstop⟩ := h
  have htext : ['\x7b', '\x7b'] ++ (u ++ '\x7d' :: ['\x7d']) ++ post =
      '\x7b' :: '\x7b' :: (u ++ '\x7d' :: '\x7d' :: post) := by simp
  have htake := takeWhile_ne_append hstop ('\x7d' :: post)
  obtain ⟨c, u, rfl⟩ := List.exists_cons_of_ne_nil hu
  rw [htext, bracePlace_open, htake, List.drop_left]
  simp

theorem bracePlace_sound : bracePlace.Sound (.ofText IsBraced) := by
  intro before cs n h
  unfold bracePlace at h
  split at h
  · rename_i rest
    dsimp only at h
    have hsplit := append_drop_takeWhile (· ≠ '\x7d') rest
    have hstop := not_mem_takeWhile_ne '\x7d' rest
    generalize rest.takeWhile (· ≠ '\x7d') = inner at h hsplit hstop
    split at h
    · rename_i c u more hdrop
      rw [hdrop] at hsplit
      refine ⟨'\x7b' :: '\x7b' :: (c :: u ++ ['\x7d', '\x7d']), more, ?_, ?_, c :: u, rfl,
        List.cons_ne_nil c u, hstop⟩
      · rw [← hsplit]
        simp
      · rw [← Option.some.inj h]
        simp
    · cases h
  · cases h

theorem IsBraced.head (h : IsBraced m) : m.head? = some '\x7b' := by
  obtain ⟨u, rfl, -⟩ := h
  rfl

theorem IsBraced.last (h : IsBraced m) : m.getLast? = some '\x7d' := by
  obtain ⟨u, rfl, -⟩ := h
  simp only [List.getLast?_append, List.getLast?_cons]
  rfl

theorem IsBraced.length (h : IsBraced m) : ∃ n, m.length = n + 5 := by
  obtain ⟨u, rfl, hu, -⟩ := h
  obtain ⟨c, u, rfl⟩ := List.exists_cons_of_ne_nil hu
  exact ⟨u.length, by simp⟩

theorem bracePlace_complete : bracePlace.Complete (.ofText IsBraced) := by
  intro before m post h
  obtain ⟨n, hn⟩ := IsBraced.length h
  exact ⟨n + 4, by rw [bracePlace_of_braced post h, hn]⟩

/-! ## Blanks -/

theorem blankRun_sound : blankRun.Sound blankRuns := by
  intro before cs n h
  unfold blankRun at h
  dsimp only at h
  split at h
  · rename_i hlong
    refine ⟨cs.takeWhile isBlank, cs.dropWhile isBlank, List.takeWhile_append_dropWhile.symm,
      Option.some.inj h, hlong, fun b hb => List.all_eq_true.1 List.all_takeWhile b hb,
      fun c hc => ?_⟩
    have hhead := List.head?_dropWhile_not isBlank cs
    rw [hc] at hhead
    exact hhead
  · cases h

theorem blankRuns_head {b a : Option Char} (h : blankRuns b m a) :
    ∃ d, m.head? = some d ∧ isBlank d := by
  obtain ⟨hlong, hblank, -⟩ := h
  obtain ⟨d, m, rfl⟩ := List.exists_cons_of_length_pos (show 0 < m.length by omega)
  exact ⟨d, rfl, hblank d List.mem_cons_self⟩

theorem blankRun_complete : blankRun.Complete (.ofText TwoBlanks) := by
  rintro before _ post ⟨b, b', rfl, hb, hb'⟩
  refine ⟨(post.takeWhile isBlank).length + 1, ?_⟩
  unfold blankRun
  dsimp only
  rw [List.cons_append, List.cons_append, List.nil_append, List.takeWhile_cons_of_pos hb,
    List.takeWhile_cons_of_pos hb', if_pos]
  · rfl
  · rw [List.length_cons, List.length_cons]
    omega

/-- Where a run of blanks is there are two side by side. -/
theorem holds_twoBlanks_of_blankRuns {before after : Option Char} (h : blankRuns before m after) :
    Holds TwoBlanks m := by
  obtain ⟨hlong, hblank, -⟩ := h
  match m, hlong with
  | b :: b' :: rest, _ =>
    exact ⟨[b, b'], ⟨b, b', rfl, hblank b (by simp), hblank b' (by simp)⟩, [], rest, rfl⟩

end ShelterLine.Script

import ShelterLine.Text.Range

/-!
# Blanks

The characters that separate words: the 25 of Unicode's White_Space, line ends included.
-/

namespace ShelterLine.Text

/-- The runs of White_Space. -/
def blankRanges : List (Nat × Nat) := [
  (0x0009, 0x000D), (0x0020, 0x0020), (0x0085, 0x0085), (0x00A0, 0x00A0), (0x1680, 0x1680),
  (0x2000, 0x200A), (0x2028, 0x2029), (0x202F, 0x202F), (0x205F, 0x205F), (0x3000, 0x3000)]

/-- A character that separates words. -/
def isBlank (c : Char) : Bool := inRanges blankRanges c

/-- The text without the blanks before it. -/
def trimStart (cs : List Char) : List Char := cs.dropWhile isBlank

/-- The text without the blanks after it. -/
def trimEnd : List Char → List Char
  | [] => []
  | c :: cs =>
    match trimEnd cs with
    | [] => if isBlank c then [] else [c]
    | d :: ds => c :: d :: ds

/-- The text without the blanks around it. -/
def trim (cs : List Char) : List Char := trimEnd (trimStart cs)

/-- A text of blanks only, the empty one included. -/
def isBlankText (cs : List Char) : Bool := cs.all isBlank

theorem trimEnd_of_all {cs : List Char} (h : ∀ c ∈ cs, isBlank c) : trimEnd cs = [] := by
  induction cs with
  | nil => rfl
  | cons c cs ih =>
    have hc := h c (by simp)
    simp [trimEnd, ih fun d hd => h d (by simp [hd]), hc]

end ShelterLine.Text

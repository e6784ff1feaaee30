/-!
# Cutting a text at the stretches a rule finds

A rule says how many characters, if any, form a stretch at a given place; it sees the character
before that place and the text from there on. A text is cut from left to right: where the rule finds
a stretch, the stretch is one piece, and elsewhere each character is a piece of its own. Replacing
is cutting and writing the same token for every stretch.
-/

namespace ShelterLine.Text

/-- The length of the stretch that starts here, given the character before and the
text from here. -/
abbrev Rule := Option Char → List Char → Option Nat

/-- A character that is kept, or a stretch that a rule found. -/
inductive Piece where
  | kept (c : Char)
  | found (stretch : List Char)
deriving DecidableEq

/-- What a piece was cut from. -/
def Piece.chars : Piece → List Char
  | kept c => [c]
  | found s => s

/-- The pieces of a text, with the character before it. A stretch of no length counts as none. -/
def cut (rule : Rule) (before : Option Char) : List Char → List Piece
  | [] => []
  | c :: cs =>
    match rule before (c :: cs) with
    | some (n + 1) =>
      .found (c :: cs.take n) :: cut rule ((c :: cs.take n).getLast?) (cs.drop n)
    | _ => .kept c :: cut rule (some c) cs
termination_by cs => cs.length
decreasing_by all_goals (simp only [List.length_drop, List.length_cons]; omega)

/-- The text with `token` in place of every stretch. -/
def replaceAll (rule : Rule) (token : List Char) (cs : List Char) : List Char :=
  (cut rule none cs).flatMap fun
    | .kept c => [c]
    | .found _ => token

/-- Cutting loses nothing. -/
theorem flatMap_chars_cut (rule : Rule) (before : Option Char) (cs : List Char) :
    (cut rule before cs).flatMap Piece.chars = cs := by
  fun_induction cut rule before cs with
  | case1 => rfl
  | case2 before c cs n _ ih => simp [Piece.chars, ih]
  | case3 before c cs _ ih => simp [Piece.chars, ih]

end ShelterLine.Text

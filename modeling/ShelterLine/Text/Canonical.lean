import ShelterLine.Text.Mark
import ShelterLine.Text.Parts

/-!
# One spelling for one text

Texts that differ only in how letters and their marks are put together, or in the order of marks
that do not meet, have one canonical spelling: everything is taken apart, marks are put in order,
and what can be put together is put together.
-/

namespace ShelterLine.Text

/-- Puts a character in front of ordered ones: a mark moves past marks of lower classes. -/
def insertMark (c : Char) : List Char → List Char
  | [] => [c]
  | d :: ds =>
    if 0 < combiningClass d && combiningClass d < combiningClass c then d :: insertMark c ds
    else c :: d :: ds

/-- Marks in order of their classes, between characters that do not move. -/
def orderMarks : List Char → List Char
  | [] => []
  | c :: cs => insertMark c (orderMarks cs)

/-- Puts characters together. A character joins the last `base` that does not move, unless a mark
stands between them whose class is not lower; `marks` are those in between, newest first. -/
def joinAfter (base : Char) (marks : List Char) : List Char → List Char
  | [] => base :: marks.reverse
  | c :: cs =>
    let k := combiningClass c
    let free := match marks with
      | [] => true
      | m :: _ => combiningClass m < k
    match if free then joined? base c else none with
    | some d => joinAfter d marks cs
    | none =>
      if k = 0 then base :: marks.reverse ++ joinAfter c [] cs else joinAfter base (c :: marks) cs

/-- Puts characters together, from the first that does not move. -/
def joinMarks : List Char → List Char
  | [] => []
  | c :: cs => if combiningClass c = 0 then joinAfter c [] cs else c :: joinMarks cs

/-- The canonical spelling of a text. -/
def canonical (cs : List Char) : List Char := joinMarks (orderMarks (cs.flatMap partsOf))

end ShelterLine.Text

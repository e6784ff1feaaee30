/-!
# Letters without regard to case

Two characters beyond ASCII are the same letter as an ASCII one when case does not matter: the long
`ſ` is an `s` and the Kelvin sign is a `k`.
-/

namespace ShelterLine.Text

/-- The lower-case ASCII letter that a character stands for, or the character itself. -/
def foldLetter (c : Char) : Char :=
  if c = 'ſ' then 's' else if c = '\u212A' then 'k' else c.toLower

/-- A letter from A to Z in either case. -/
def isLetter (c : Char) : Bool := (foldLetter c).isLower

/-- What follows a lower-case phrase at the start of a text, whatever the case of its letters. -/
def afterFolded? : (phrase text : List Char) → Option (List Char)
  | [], text => some text
  | _ :: _, [] => none
  | p :: ps, c :: cs => if p = foldLetter c then afterFolded? ps cs else none

end ShelterLine.Text

import ShelterLine.Text.Blank

/-!
# Speech in blocks

A text is spoken in blocks of about a sentence. A block ends at a line's end and after a full stop,
an exclamation mark or a question mark that a blank follows; blanks around a block go, empty blocks
go, and only the first twelve are spoken.
-/

namespace ShelterLine.Speech

open Text

/-- How many blocks are spoken at most. -/
def maxBlocks : Nat := 12

/-- A character that ends a sentence when a blank follows. -/
def isStop (c : Char) : Bool := c = '.' || c = '!' || c = '?'

/-- Whether a text begins with a blank. -/
def startsBlank : List Char → Bool
  | [] => false
  | c :: _ => isBlank c

/-- Puts a character in front of the first block. -/
def consFirst (c : Char) : List (List Char) → List (List Char)
  | [] => [[c]]
  | b :: bs => (c :: b) :: bs

/-- Cuts a text at line ends, which go, and after sentences. -/
def pieces : List Char → List (List Char)
  | [] => [[]]
  | c :: cs =>
    if c = '\n' then [] :: pieces cs
    else if isStop c && startsBlank cs then [c] :: pieces cs
    else consFirst c (pieces cs)

/-- The blocks in which a text is spoken. -/
def blocks (text : List Char) : List (List Char) :=
  (((pieces text).map trim).filter fun b => b ≠ []).take maxBlocks

end ShelterLine.Speech

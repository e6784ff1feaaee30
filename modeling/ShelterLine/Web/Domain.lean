import ShelterLine.Text.Canonical
import ShelterLine.Web.Domain.Direction
import ShelterLine.Web.Domain.Joiner
import ShelterLine.Web.Domain.Letter
import ShelterLine.Web.Domain.Punycode

/-!
# Domain names

A domain name is a row of labels with points between them. It is written in ASCII: letters are put
into one spelling, and a label that still has others is written as a row of numbers behind a mark of
its own. A label that comes with that mark has to be what would be written for what it says.

Labels may be empty and as long as they like; who looks the name up may think otherwise.
-/

namespace ShelterLine.Domain

open Text

/-- Whether a character is ASCII. -/
def isAscii (c : Char) : Bool := c.toNat < 0x80

/-- Whether a sign has a meaning of its own around a domain name, so that none may have it. -/
def isReserved (c : Char) : Bool :=
  c.toNat ≤ 0x20 || c.toNat = 0x7f || "#/:<>?@[\\]^|%".toList.contains c

/-- A label as it reads, and as it is written. -/
structure Label where
  text : List Char
  written : List Char

/-- How many characters of a label can be written as numbers. -/
def writable : Nat := 1000

/-- How many numbers' digits of a label can be read. -/
def readable : Nat := 2000

/-- Whether a text is in the one spelling that domain names have. -/
def isSpelled (cs : List Char) : Bool :=
  cs.all (fun c => meaning? c = some [c]) && canonical cs = cs

/-- The label that is given so. -/
def Label.read? (cs : List Char) : Option Label :=
  match cs with
  | 'x' :: 'n' :: '-' :: '-' :: numbers => do
    guard (cs.all isAscii && numbers.length ≤ readable)
    let text ← Punycode.decode? numbers
    guard (!text.all isAscii && text.length ≤ writable && isSpelled text)
    some ⟨text, cs⟩
  | _ =>
    if cs.all isAscii then some ⟨cs, cs⟩
    else if cs.length ≤ writable then some ⟨cs, "xn--".toList ++ Punycode.encode cs⟩
    else none

/-- Whether a label begins with no mark and its joiners stand where they may. -/
def Label.isSound (l : Label) : Bool := !l.text.head?.any isMark && joinersFit [] l.text

/-- The labels of a text. -/
def labels : List Char → List (List Char)
  | [] => [[]]
  | c :: cs =>
    if c = '.' then [] :: labels cs
    else match labels cs with
      | [] => [[c]]
      | l :: ls => (c :: l) :: ls

/-- The text of labels. -/
def joined : List (List Char) → List Char
  | [] => []
  | [l] => l
  | l :: ls => l ++ '.' :: joined ls

/-- The domain name that is meant by a text, in ASCII. -/
def ofText? (cs : List Char) : Option (List Char) := do
  let meant := (← cs.mapM meaning?).flatten
  let spelled := if meant.all isAscii then meant else canonical meant
  let read ← (labels spelled).mapM Label.read?
  let careful := read.any fun l => hasLeftward l.text
  guard (read.all fun l => l.isSound && (!careful || runsOneWay l.text))
  let written := joined (read.map (·.written))
  guard (!written.any isReserved)
  some written

end ShelterLine.Domain

import ShelterLine.Text.Utf8
import ShelterLine.Web.Percent

/-!
# Forms and queries

A form is a list of pairs, joined by ampersands, of a name and a value with an equals sign
between them. A plus sign is a blank, and percent signs with two digits are bytes; bytes that
are no UTF-8 are replaced. A reader knows some names and passes over the others, but none
that it knows may come twice.
-/

namespace ShelterLine.Form

/-- The text of a name or a value. -/
def decode (cs : List Char) : String :=
  String.ofList <| Text.ofUtf8Lossy <| Percent.decodeBytes <|
    cs.map fun c => if c = '+' then ' ' else c

/-- The pieces of a text between separators. -/
def split (separator : Char) : List Char → List (List Char)
  | [] => [[]]
  | c :: cs =>
    if c = separator then [] :: split separator cs
    else match split separator cs with
      | p :: ps => (c :: p) :: ps
      | [] => [[c]]

/-- The name and the value of a pair. Without an equals sign the value is empty. -/
def pair (cs : List Char) : String × String :=
  (decode (cs.takeWhile (· ≠ '=')), decode ((cs.dropWhile (· ≠ '=')).drop 1))

/-- The pairs of a form. -/
def pairs (text : String) : List (String × String) :=
  ((split '&' text.toList).filter (· ≠ [])).map pair

/-- The pairs with a known name, unless a name comes twice. -/
def read? (known : List String) (text : String) : Option (List (String × String)) :=
  let found := (pairs text).filter fun p => known.contains p.1
  if (found.map (·.1)).Nodup then some found else none

end ShelterLine.Form

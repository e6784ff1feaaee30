/-!
# Markup

The telephone provider executes a small document of elements, attributes and texts. Here a
document is a tree; it is written with everything escaped that has a meaning in markup, so no text
can be taken for an element.
-/

namespace ShelterLine

/-- A text, or an element with its attributes and what it holds. -/
inductive Markup where
  | text (s : List Char)
  | element (name : String) (attributes : List (String × List Char)) (children : List Markup)
deriving Repr, Inhabited

namespace Markup

/-- The characters that have a meaning in markup. -/
def isSpecial (c : Char) : Bool := "<>&'\"".toList.contains c

/-- A character as it is written in a text or an attribute. -/
def escapeChar (c : Char) : List Char :=
  match c with
  | '<' => "&lt;".toList
  | '>' => "&gt;".toList
  | '&' => "&amp;".toList
  | '\'' => "&apos;".toList
  | '"' => "&quot;".toList
  | c => [c]

/-- A text as it is written. -/
def escape (cs : List Char) : List Char := cs.flatMap escapeChar

/-- Attributes as they are written, each after a blank. -/
def renderAttributes (as : List (String × List Char)) : List Char :=
  as.flatMap fun a => ' ' :: (a.1.toList ++ '=' :: '"' :: (escape a.2 ++ ['"']))

mutual

/-- A document as it is written. An element that holds nothing is closed at once. -/
def render : Markup → List Char
  | text s => escape s
  | element name attributes [] => '<' :: (name.toList ++ renderAttributes attributes ++ "/>".toList)
  | element name attributes (c :: cs) =>
    '<' :: (name.toList ++ renderAttributes attributes ++ '>' :: (render c ++ renderAll cs)
      ++ "</".toList ++ name.toList ++ ['>'])

/-- Documents one after the other. -/
def renderAll : List Markup → List Char
  | [] => []
  | m :: ms => render m ++ renderAll ms

end

/-- The text without the characters that have a meaning in markup. -/
def strip (cs : List Char) : List Char := cs.filter fun c => !isSpecial c

end Markup

end ShelterLine

import ShelterLine.Text.Numeral
import ShelterLine.Text.Range

/-!
# Tables of code points

A long table is written as a text: its entries stand between blanks, and an entry is made of
hexadecimal numbers with other signs between them, such as `0300-036F` for a run of code points.
-/

namespace ShelterLine.Text

/-- Reads entries; `entry` holds the numbers of the current one, newest first, and `number` the
digits read so far of the next. -/
def scanTable (entry : List Nat) (number : Option Nat) : List Char → List (List Nat)
  | [] => (number.toList ++ entry).reverse :: []
  | c :: cs => match hexValue? c with
    | some d => scanTable entry (some (16 * number.getD 0 + d)) cs
    | none =>
      let entry := number.toList ++ entry
      if c = ' ' || c = '\n' then entry.reverse :: scanTable [] none cs
      else scanTable entry none cs

/-- The entries of a table. -/
def entriesOf (table : String) : List (List Nat) :=
  (scanTable [] none table.toList).filter (· ≠ [])

/-- The runs of a table whose entries are runs or single code points. -/
def runsOf (table : String) : List (Nat × Nat) :=
  (entriesOf table).filterMap fun
    | [n] => some (n, n)
    | [first, last] => some (first, last)
    | _ => none

end ShelterLine.Text

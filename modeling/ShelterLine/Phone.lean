import ShelterLine.Text.Blank

/-!
# Telephone numbers

A number is compared in its canonical form, a plus sign and its ASCII digits. The form is a best
effort, not a validation: ten bare digits are taken as domestic and get the country code 1, and any
other digits are taken as they are. Text without a digit is no number.
-/

namespace ShelterLine.Phone

/-- The canonical form of a number, as characters. -/
def canonicalChars? (raw : List Char) : Option (List Char) :=
  let text := Text.trim raw
  let digits := text.filter Char.isDigit
  if digits = [] then none
  else if text.head? = some '+' then some ('+' :: digits)
  else if digits.length = 10 then some ('+' :: '1' :: digits)
  else some ('+' :: digits)

/-- The canonical form of a number, if the text has a digit at all. -/
def canonical? (raw : String) : Option String :=
  (canonicalChars? raw.toList).map String.ofList

end ShelterLine.Phone

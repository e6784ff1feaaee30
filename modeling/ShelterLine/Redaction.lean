import ShelterLine.Text.Blank
import ShelterLine.Text.Cut
import ShelterLine.Text.Digit
import ShelterLine.Text.Fold
import ShelterLine.Text.Word

/-!
# Redaction for anonymous callers

Three kinds of stretch identify a person and are replaced by a token each: e-mail addresses, then
telephone numbers, then what is left of runs of digits. The order matters, since a telephone number
is made of such runs.
-/

namespace ShelterLine.Redaction

open Text

/-- The characters before the `@` of an address. -/
def isMailboxChar (c : Char) : Bool :=
  isLetter c || c.isDigit || "._%+-".toList.contains c

/-- The characters of a domain. -/
def isDomainChar (c : Char) : Bool :=
  isLetter c || c.isDigit || ".-".toList.contains c

/-- The length up to the end of the letters after a dot, if there are two or more. -/
def labelEnd (passed : Nat) (cs : List Char) : Option Nat :=
  let label := (cs.takeWhile isLetter).length
  if label ≥ 2 then some (passed + 1 + label) else none

/-- The length of the longest part of `cs` that ends in a dot and two or more letters, of which
everything before the dot are domain characters, `passed` of them so far. -/
def domainLength (passed : Nat) : List Char → Option Nat
  | [] => none
  | c :: cs =>
    if isDomainChar c then
      (domainLength (passed + 1) cs).or (if c = '.' && passed > 0 then labelEnd passed cs else none)
    else none

/-- An e-mail address: mailbox characters, an `@`, a domain, a dot and at least two letters. -/
def email : Rule := fun _ cs =>
  let mailbox := (cs.takeWhile isMailboxChar).length
  match mailbox, cs.drop mailbox with
  | _ + 1, '@' :: rest => (domainLength 0 rest).map (mailbox + 1 + ·)
  | _, _ => none

/-- The characters within a telephone number. -/
def isDialChar (c : Char) : Bool :=
  isDigit c || isBlank c || "().-".toList.contains c

/-- The length up to and with the last digit of `cs`, counting only places from `skip` on. -/
def lengthToLastDigit (skip : Nat) (cs : List Char) : Option Nat :=
  let body := cs.drop skip
  let tail := body.reverse.dropWhile fun c => !isDigit c
  if tail = [] then none else some (skip + tail.length)

/-- A telephone number: a digit, at least seven dial characters, and a digit, with a plus sign in
front if there is one. -/
def telephone : Rule := fun _ cs =>
  let (plus, rest) := match cs with
    | '+' :: rest => (1, rest)
    | _ => (0, cs)
  match rest with
  | [] => none
  | d :: more =>
    if isDigit d then (lengthToLastDigit 7 (more.takeWhile isDialChar)).map (plus + 1 + ·) else none

/-- Two or more digits that are a word of their own. -/
def bareNumber : Rule := fun before cs =>
  let digits := cs.takeWhile isDigit
  let after := cs.drop digits.length
  if digits.length ≥ 2 && wordEdge before cs.head? && wordEdge digits.getLast? after.head?
  then some digits.length else none

/-- The text with addresses, then telephone numbers, then other numbers replaced. -/
def redactChars (cs : List Char) : List Char :=
  let cs := replaceAll email "[REDACTED_EMAIL]".toList cs
  let cs := replaceAll telephone "[REDACTED_PHONE]".toList cs
  replaceAll bareNumber "[REDACTED_NUMBER]".toList cs

/-- What of a text may leave the house when the caller stays anonymous. -/
def redact (text : String) : String := String.ofList (redactChars text.toList)

end ShelterLine.Redaction

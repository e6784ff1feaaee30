import ShelterLine.Decimal.Shortest
import ShelterLine.Store.Database

/-!
# Rows given column by column

A row can be put into a table by hand, with a value for each of some columns. A column without a
value takes its default. A column of texts turns a number into its text, a column of whole numbers
turns the text of a number into the number, and keeps what is no whole number for a reader to
stumble over. A row that lacks a value it needs, or whose key is taken, is refused.
-/

namespace ShelterLine

/-- The nearest whole number to a quotient, half-way cases upward. -/
def roundQuotientUp (num den : Nat) : Nat := (2 * num + den) / (2 * den)

/-- The text of a number that is not whole: at most fifteen digits, with an exponent beyond the
fifteenth power of ten and below the ten-thousandth. -/
def realText (x : BinaryFraction) : String :=
  if x.significand = 0 then "0.0" else
  let num := if x.exponent ≥ 0 then x.significand <<< x.exponent.toNat else x.significand
  let den := if x.exponent ≥ 0 then 1 else 1 <<< (-x.exponent).toNat
  let unit := Decimal.floorLog10 num den - 14
  let fifteen := if unit ≥ 0 then roundQuotientUp num (den * Nat.pow 10 unit.toNat)
    else roundQuotientUp (num * Nat.pow 10 (-unit).toNat) den
  let (digits, dropped) := Decimal.dropZeros (Nat.toDigits 10 fifteen)
  let power := unit + dropped + digits.length - 1
  let body := if -4 ≤ power && power ≤ 14 then Decimal.pointed digits (power + 1)
    else Decimal.pointed digits 1 ++ 'e' :: (if power < 0 then '-' else '+')
      :: Text.padded (if power.natAbs < 100 then 2 else 3) power.natAbs
  String.ofList (if x.negative then '-' :: body else body)

/-! ## Numbers in texts -/

/-- What may stand around a number. -/
def isGap (c : Char) : Bool := c = ' ' || (9 ≤ c.toNat && c.toNat ≤ 13)

/-- Whether a sign is a minus, and what follows it. -/
def splitSign (cs : List Char) : Bool × List Char :=
  match cs with
  | '-' :: cs => (true, cs)
  | '+' :: cs => (false, cs)
  | cs => (false, cs)

/-- A number in a text. -/
inductive TextNumber where
  | whole (n : Int)
  | real (x : BinaryFraction)

/-- The number that a text is: digits with a point among them or at one of their ends, and perhaps a
power of ten. -/
def TextNumber.read? (text : List Char) : Option TextNumber := do
  let (negative, cs) := splitSign (text.dropWhile isGap)
  let ones := cs.takeWhile Char.isDigit
  let cs := cs.drop ones.length
  let (point, places) := match cs with
    | '.' :: cs => (1, cs.takeWhile Char.isDigit)
    | _ => (0, [])
  let cs := cs.drop (point + places.length)
  let digits := ones ++ places
  guard (digits ≠ [])
  let (exponent, cs) ← match cs with
    | 'e' :: cs | 'E' :: cs =>
      let (down, cs) := splitSign cs
      let power := cs.takeWhile Char.isDigit
      guard (power ≠ [])
      let n : Int := Text.digitsValue power
      pure (some (if down then -n else n), cs.drop power.length)
    | cs => pure (none, cs)
  guard (cs.all isGap)
  let n := Text.digitsValue digits
  if point = 0 && exponent.isNone then some (.whole (if negative then -n else n))
  else (BinaryFormat.double.ofDecimal negative n (exponent.getD 0 - places.length)).map .real

/-- Columns with their values. -/
abbrev Columns := List (String × Json)

namespace Columns

/-- Whether a whole number fits a column of numbers. -/
def fits (n : Int) : Bool := Int64.minValue.toInt ≤ n && n ≤ Int64.maxValue.toInt

/-- A value in a column of texts: nothing for null. -/
def asText : Json → Option String
  | .null => none
  | .bool b => some (if b then "1" else "0")
  | .num (.int n) =>
    if fits n then some (String.ofList (Json.renderInt n))
    else (BinaryFormat.double.ofDecimal (n < 0) n.natAbs 0).map realText
  | .num (.float x) => some (realText x)
  | .str s => some s
  | v => some v.compress

/-- A number that is not given as whole, as a whole number that is not at the ends. -/
def realAsWhole (x : BinaryFraction) : Option Int :=
  let n : Int := if x.negative then -x.wholePart else x.wholePart
  if x.isWhole && fits (n - 1) && fits (n + 1) then some n else none

/-- A value in a column of whole numbers. -/
def asWhole : Json → Option Int
  | .bool b => some (flagNumber b)
  | .num (.int n) => if fits n then some n else none
  | .num (.float x) => realAsWhole x
  | .str s => match TextNumber.read? s.toList with
    | some (.whole n) => if fits n then some n else none
    | some (.real x) => realAsWhole x
    | none => none
  | _ => none

/-- A text that may be missing. -/
def optional (cs : Columns) (name : String) : Option String := (cs.lookup name).bind asText

/-- A text that has to be there. -/
def text (cs : Columns) (name : String) : Option String := cs.optional name

/-- A text with a default. -/
def textOr (cs : Columns) (name absent : String) : Option String :=
  match cs.lookup name with
  | none => some absent
  | some v => asText v

/-- A flag that has to be there, off by default. What is no whole number is no flag. -/
def flag (cs : Columns) (name : String) : Option (Option Int) :=
  match cs.lookup name with
  | none => some (some 0)
  | some .null => none
  | some v => some (asWhole v)

/-- Whether every column is one of these. -/
def within (cs : Columns) (names : List String) : Bool := cs.all fun c => names.contains c.1

end Columns

/-- The row of a job with these columns. -/
def JobRow.ofColumns? (cs : Columns) : Option JobRow := do
  guard (cs.within ["job_id", "mode", "status", "created_at", "updated_at", "survivor_context",
    "callback_number", "anonymous_mode", "escalation_approved", "shelter_ids", "attempts"])
  pure {
    id := cs.optional "job_id"
    mode := ← cs.text "mode"
    status := ← cs.text "status"
    createdAt := ← cs.text "created_at"
    updatedAt := ← cs.text "updated_at"
    survivorContext := ← cs.text "survivor_context"
    callbackNumber := cs.optional "callback_number"
    anonymous := ← cs.flag "anonymous_mode"
    approved := ← cs.flag "escalation_approved"
    shelterIds := ← cs.textOr "shelter_ids" "[]"
    attempts := ← cs.textOr "attempts" "[]" }

/-- The row of a session with these columns. -/
def SessionRow.ofColumns? (cs : Columns) : Option SessionRow := do
  guard (cs.within ["transfer_id", "mode", "status", "created_at", "updated_at", "conference_name",
    "job_id", "attempt_id", "shelter_name", "shelter_phone", "survivor_phone", "survivor_name",
    "notes", "call_sids"])
  pure {
    id := cs.optional "transfer_id"
    mode := ← cs.text "mode"
    status := ← cs.text "status"
    createdAt := ← cs.text "created_at"
    updatedAt := ← cs.text "updated_at"
    conference := ← cs.text "conference_name"
    jobId := ← cs.text "job_id"
    attemptId := ← cs.text "attempt_id"
    shelterName := ← cs.text "shelter_name"
    shelterPhone := ← cs.text "shelter_phone"
    survivorPhone := ← cs.text "survivor_phone"
    survivorName := cs.optional "survivor_name"
    notes := cs.optional "notes"
    sids := ← cs.textOr "call_sids" "\x7b\x7d" }

/-- The row of an escalation with these columns. -/
def EscalationRow.ofColumns? (cs : Columns) : Option EscalationRow := do
  guard (cs.within
    ["escalation_id", "created_at", "source", "reference_id", "reason", "details"])
  pure {
    id := cs.optional "escalation_id"
    createdAt := ← cs.text "created_at"
    source := ← cs.text "source"
    referenceId := ← cs.text "reference_id"
    reason := ← cs.text "reason"
    details := cs.optional "details" }

namespace Database

open Schema

/-- Adds a row whose key is free. -/
def addRow {ρ : Type} (key : ρ → Option String) (new : ρ) (rows : List ρ) : Option (List ρ) :=
  if Table.taken key new rows then none else some (rows ++ [new])

/-- Puts a row into a table by hand. -/
def insertColumns (db : Database) (table : String) (cs : Columns) : Option Database := do
  guard (db.hasTable table)
  if table = jobTable then
    pure { db with jobs := ← addRow (·.id) (← JobRow.ofColumns? cs) db.jobs }
  else if table = sessionTable then
    pure { db with sessions := ← addRow (·.id) (← SessionRow.ofColumns? cs) db.sessions }
  else if table = escalationTable then
    pure { db with escalations := ← addRow (·.id) (← EscalationRow.ofColumns? cs) db.escalations }
  else if table = blockedTable then
    guard (cs.within ["phone", "created_at"])
    let _ ← cs.textOr "created_at" ""
    pure { db with blocked := ← addRow id (cs.optional "phone") db.blocked }
  else if table = ledgerTable then
    guard (cs.within ["version", "name", "applied_at"])
    let _ ← cs.textOr "applied_at" ""
    let next := 1 + (db.version?.getD 0)
    let version ← match cs.lookup "version" with
      | none | some .null => some next
      | some v => Columns.asWhole v
    let name ← cs.text "name"
    guard (db.ledger.takesRows && !db.ledger.rows.any (·.1 = version))
    pure { db with ledger.rows := insertVersion version name db.ledger.rows }
  else none

end Database

end ShelterLine

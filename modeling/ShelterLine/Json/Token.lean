import ShelterLine.Json.Basic
import ShelterLine.Text.Numeral

/-!
# The tokens of a JSON text

A text is cut into tokens as far as that goes; the first place where it does not go on is a token
too, the last one. Some tokens can be passed over but not read: a number beyond the doubles, and a
string with half of a surrogate pair in it. So a broken place may look different to one who reads a
value there and to one who passes over it.
-/

namespace ShelterLine.Json

open Text

/-- What is wrong with a text: it goes on wrongly, or it ends too early, or a value
stands where a name is due. -/
inductive Flaw where
  | malformed
  | truncated
  | oddKey
deriving DecidableEq, Repr

/-- The flaw that is met when a place is read, and when it is passed over. One who reads a choice
looks at how a value begins and reads the object of a choice without looking for a comma, so he may
meet a flaw of his own. A place may also be where the word `null` breaks off, which one cares for
who takes null for nothing. -/
structure Break where
  onRead : Flaw
  onSkip : Flaw
  onChoice : Flaw
  withinNull : Bool := false
deriving DecidableEq, Repr

/-- A place where all meet the same flaw. -/
def Flaw.toBreak (f : Flaw) : Break := { onRead := f, onSkip := f, onChoice := f }

/-- A token of a JSON text. -/
inductive Token where
  | openBrace
  | closeBrace
  | openBracket
  | closeBracket
  | colon
  | comma
  | null
  | bool (b : Bool)
  | num (n : Number)
  | hugeNum
  | str (s : String)
  | halfStr
  | brokenStr (b : Break)
  | broken (b : Break)
deriving DecidableEq, Repr

/-! ## Words -/

/-- What is wrong when `expected` is due. -/
def wordFlaw? : (expected text : List Char) → Option Flaw
  | [], _ => none
  | _ :: _, [] => some .truncated
  | e :: es, c :: cs => if e = c then wordFlaw? es cs else some .malformed

/-- A word whose first letter has been seen, with the number of further characters it takes. -/
def lexWord (expected : List Char) (token : Token) (cs : List Char) : Token × Nat :=
  match wordFlaw? expected cs with
  | none => (token, expected.length)
  | some f =>
    (.broken { f.toBreak with onChoice := .malformed, withinNull := token = .null }, cs.length)

/-! ## Numbers -/

/-- A digit is due where `cs` begins. One who passes over a number never speaks of its end. -/
def digitFlaw (cs : List Char) : Token :=
  .broken
    { onRead := if cs = [] then .truncated else .malformed
      onSkip := .malformed
      onChoice := .malformed }

/-- A whole number, if it fits 64 bits. Negative zero does not count as whole. -/
def wholeNumber? (negative : Bool) (n : Nat) : Option Int :=
  if negative then (if 0 < n ∧ Int64.minValue.toInt ≤ -n then some (-n) else none)
  else if n < UInt64.size then some n else none

/-- The token of a number that has digits on both sides of its point and a power of ten. -/
def floatToken (negative : Bool) (digits : List Char) (power : Int) : Token :=
  match BinaryFormat.double.ofDecimal negative (digitsValue digits) power with
  | some x => .num (.float x)
  | none => .hugeNum

/-- The parts of a number: its digits before and after the point, and its power of ten. -/
structure Numeral where
  whole : List Char
  fraction : Option (List Char)
  power : Option Int
  length : Nat

/-- The power of ten after `e`, with the number of characters it takes. -/
def lexPower (cs : List Char) : Except Token (Int × Nat) :=
  let (sign, signLength, cs) := match cs with
    | '-' :: cs => ((-1 : Int), 1, cs)
    | '+' :: cs => (1, 1, cs)
    | cs => (1, 0, cs)
  match cs.takeWhile Char.isDigit with
  | [] => .error (digitFlaw cs)
  | ds => .ok (sign * digitsValue ds, signLength + ds.length)

/-- The parts of an unsigned number. A zero is never followed by a digit. -/
def lexNumeral (cs : List Char) : Except Token Numeral := do
  let whole := cs.takeWhile Char.isDigit
  let rest := cs.drop whole.length
  if whole = [] then throw (digitFlaw rest)
  if whole.length > 1 && whole.head? = some '0' then throw (.broken Flaw.malformed.toBreak)
  let (fraction, rest, used) ← match rest with
    | '.' :: more =>
      let ds := more.takeWhile Char.isDigit
      if ds = [] then throw (digitFlaw more)
      pure (some ds, more.drop ds.length, whole.length + 1 + ds.length)
    | _ => pure (none, rest, whole.length)
  match rest with
  | 'e' :: more | 'E' :: more =>
    let (power, n) ← lexPower more
    pure ⟨whole, fraction, some power, used + 1 + n⟩
  | _ => pure ⟨whole, fraction, none, used⟩

/-- The token of a number whose parts are known. -/
def Numeral.token (negative : Bool) (n : Numeral) : Token :=
  match n.fraction, n.power with
  | none, none =>
    match wholeNumber? negative (digitsValue n.whole) with
    | some i => .num (.int i)
    | none => floatToken negative n.whole 0
  | fraction, power =>
    let places := fraction.getD []
    floatToken negative (n.whole ++ places) (power.getD 0 - places.length)

/-- A number after its sign, with the number of characters it takes. -/
def lexNumber (negative : Bool) (cs : List Char) : Token × Nat :=
  match lexNumeral cs with
  | .ok n => (n.token negative, n.length)
  | .error t => (t, cs.length)

/-! ## Strings -/

/-- A string is made of characters and of 16-bit units given by number. -/
inductive Unit16 where
  | char (c : Char)
  | code (n : Nat)
deriving DecidableEq, Repr

/-- The character that a backslash and a letter stand for. -/
def simpleEscape? (c : Char) : Option Char :=
  match c with
  | '"' => some '"'
  | '\\' => some '\\'
  | '/' => some '/'
  | 'b' => some '\x08'
  | 'f' => some '\x0c'
  | 'n' => some '\n'
  | 'r' => some '\r'
  | 't' => some '\t'
  | _ => none

/-- The value of four hexadecimal digits. -/
def hexUnit? (a b c d : Char) : Option Nat := do
  pure (4096 * (← hexValue? a) + 256 * (← hexValue? b) + 16 * (← hexValue? c) + (← hexValue? d))

/-- Bytes of a text in UTF-8. -/
def byteLength (cs : List Char) : Nat := cs.foldr (fun c n => c.utf8Size + n) 0

/-- Four digits are due but missing: the text must have four more bytes to be called malformed. -/
def hexFlaw (cs : List Char) : Flaw := if byteLength (cs.take 4) < 4 then .truncated else .malformed

/-- The units of a string after its opening quote, the number of characters up to and with the
closing quote, and the flaw that keeps it from closing. -/
def scanString : List Char → List Unit16 × Nat × Option Flaw
  | [] => ([], 0, some .truncated)
  | '"' :: _ => ([], 1, none)
  | '\\' :: 'u' :: cs =>
    match cs with
    | a :: b :: c :: d :: rest =>
      match hexUnit? a b c d with
      | some n =>
        let (us, k, f) := scanString rest
        (.code n :: us, k + 6, f)
      | none => ([], 0, some (hexFlaw cs))
    | _ => ([], 0, some (hexFlaw cs))
  | ['\\'] => ([], 0, some .truncated)
  | '\\' :: e :: cs =>
    match simpleEscape? e with
    | some c =>
      let (us, k, f) := scanString cs
      (.char c :: us, k + 2, f)
    | none => ([], 0, some .malformed)
  | c :: cs =>
    if c.toNat < 0x20 then ([], 0, some .malformed)
    else
      let (us, k, f) := scanString cs
      (.char c :: us, k + 1, f)

/-- Whether a unit is the first half of a surrogate pair. -/
def isLead (n : Nat) : Bool := 0xD800 ≤ n && n < 0xDC00

/-- Whether a unit is the second half of a surrogate pair. -/
def isTrail (n : Nat) : Bool := 0xDC00 ≤ n && n < 0xE000

/-- Joins the surrogate pairs. A half that stands alone is malformed; a first half at a place where
the string breaks off has the flaw of that place. -/
def joinUnits (ending : Option Flaw) : List Unit16 → Except Flaw (List Char)
  | [] => match ending with
    | none => .ok []
    | some f => .error f
  | .char c :: us => (joinUnits ending us).map (c :: ·)
  | [.code n] =>
    if isTrail n then .error .malformed
    else if isLead n then .error (ending.getD .malformed)
    else match ending with
      | none => .ok [Char.ofNat n]
      | some f => .error f
  | .code n :: u :: us =>
    if isTrail n then .error .malformed
    else if isLead n then
      match u with
      | .code m =>
        if isTrail m then
          (joinUnits ending us).map
            (Char.ofNat (0x10000 + 0x400 * (n - 0xD800) + (m - 0xDC00)) :: ·)
        else .error .malformed
      | .char _ => .error .malformed
    else (joinUnits ending (u :: us)).map (Char.ofNat n :: ·)

/-- A string after its opening quote, with the number of characters it takes. -/
def lexString (cs : List Char) : Token × Nat :=
  let (units, length, ending) := scanString cs
  match joinUnits ending units, ending with
  | .ok text, none => (.str (String.ofList text), length)
  | .error _, none => (.halfStr, length)
  | .error f, some g => (.brokenStr { onRead := f, onSkip := g, onChoice := f }, cs.length)
  | .ok _, some g => (.brokenStr g.toBreak, cs.length)

/-! ## Texts -/

/-- The blanks of JSON. -/
def isSpace (c : Char) : Bool := c = ' ' || c = '\n' || c = '\t' || c = '\r'

/-- The token that begins with `c`, if `c` is no blank, and the number of further characters it
takes. -/
def lexOne (c : Char) (cs : List Char) : Option Token × Nat :=
  let token := fun (r : Token × Nat) => (some r.1, r.2)
  if isSpace c then (none, 0)
  else match c with
    | '\x7b' => (some .openBrace, 0)
    | '\x7d' => (some .closeBrace, 0)
    | '[' => (some .openBracket, 0)
    | ']' => (some .closeBracket, 0)
    | ':' => (some .colon, 0)
    | ',' => (some .comma, 0)
    | 'n' => token (lexWord "ull".toList .null cs)
    | 't' => token (lexWord "rue".toList (.bool true) cs)
    | 'f' => token (lexWord "alse".toList (.bool false) cs)
    | '"' => token (lexString cs)
    | '-' => token (lexNumber true cs)
    | _ =>
      if c.isDigit then
        let (t, n) := lexNumber false (c :: cs)
        (some t, n - 1)
      else (some (.broken Flaw.malformed.toBreak), cs.length)

/-- The tokens of a text. -/
def tokens : List Char → List Token
  | [] => []
  | c :: cs =>
    let r := lexOne c cs
    r.1.toList ++ tokens (cs.drop r.2)
termination_by cs => cs.length
decreasing_by simp only [List.length_drop, List.length_cons]; omega

end ShelterLine.Json

import ShelterLine.Json.Draft
import ShelterLine.Json.Printer
import ShelterLine.Naming
import ShelterLine.Time.Rfc3339
import ShelterLine.Uuid

/-!
# Codecs

A codec writes values of a type as JSON and reads them back from drafts. Reading walks the draft in
the order of the text and reports the first problem that it meets: a break in the text, or a value
that has no place where it stands.

A structure is described once, by its *members*: each has a name, a codec and a rule for its
absence. Members are put together with the constructor, as in `Point.mk <$> member … <*>
member …`, and the description serves both directions. A structure can also be read from the
list of its members' values in order. Unknown fields are passed over; a known field that
comes twice is a problem.
-/

namespace ShelterLine.Json

/-- Why a text does not give a value: it is no JSON, it ends early, or it writes something else. -/
inductive Problem where
  | malformed
  | truncated
  | mismatch
deriving DecidableEq, Repr

/-- The problem that a flaw is. -/
def Flaw.problem : Flaw → Problem
  | .malformed => .malformed
  | .truncated => .truncated
  | .oddKey => .mismatch

/-- Both directions between a type and JSON. -/
structure Codec (α : Type) where
  encode : α → Json
  decode : Draft → Except Problem α

namespace Codec

/-! ## Simple values -/

/-- The problem of a draft where a value of another kind is wanted. -/
def unwanted {α : Type} : Draft → Except Problem α
  | .unreadable => .error .malformed
  | .broken b => .error b.onRead.problem
  | _ => .error .mismatch

/-- Texts. -/
def string : Codec String where
  encode := .str
  decode
    | .str s => .ok s
    | d => unwanted d

/-- Truth values. -/
def bool : Codec Bool where
  encode := .bool
  decode
    | .bool b => .ok b
    | d => unwanted d

/-- Whole numbers within a range, as values of a type that holds them. -/
def whole {α : Type} (toInt : α → Int) (ofInt? : Int → Option α) : Codec α where
  encode a := .int (toInt a)
  decode
    | .num (.int n) => match ofInt? n with
      | some a => .ok a
      | none => .error .mismatch
    | d => unwanted d

/-- Signed whole numbers of 64 bits. -/
def int64 : Codec Int64 :=
  whole Int64.toInt fun n =>
    if Int64.minValue.toInt ≤ n ∧ n ≤ Int64.maxValue.toInt then some (Int64.ofInt n) else none

/-- Unsigned whole numbers of 32 bits. -/
def uint32 : Codec UInt32 :=
  whole (fun n => n.toNat) fun n =>
    if 0 ≤ n ∧ n < UInt32.size then some (UInt32.ofNat n.toNat) else none

/-- Texts that stand for other values. -/
def text {α : Type} (write : α → String) (read? : String → Option α) : Codec α where
  encode a := .str (write a)
  decode d := do
    match read? (← string.decode d) with
    | some a => .ok a
    | none => .error .mismatch

/-- Identifiers. -/
def uuid : Codec Uuid := text Uuid.toString Uuid.ofString?

/-- Instants. -/
def instant : Codec Instant := text Instant.toString Instant.ofString?

/-- A draft that has to be null. -/
def decodeNull : Draft → Except Problem Unit
  | .null | .hollow => .ok ()
  | d => unwanted d

/-- One of finitely many names. A name may also be given as an object whose only field has that name
and is null. -/
def name {α : Type} (n : Naming α) : Codec α where
  encode a := .str (n.name a)
  decode
    | .str s => known s
    | .obj ((none, _) :: _) _ => .error .malformed
    | .obj ((some k, d) :: rest) stop => do
      let a ← known k
      decodeNull d
      match rest, stop with
      | [], none => .ok a
      | [], some b => .error b.onChoice.problem
      | _ :: _, _ => .error .malformed
    | .obj [] (some b) => .error b.onChoice.problem
    | .broken b => .error b.onChoice.problem
    | _ => .error .malformed
where
  known (s : String) : Except Problem α :=
    match n.find? s with
    | some a => .ok a
    | none => .error .mismatch

/-- A value or null. -/
def option {α : Type} (c : Codec α) : Codec (Option α) where
  encode
    | some a => c.encode a
    | none => .null
  decode
    | .null => .ok none
    | .broken b => if b.withinNull then .error b.onRead.problem else (c.decode (.broken b)).map some
    | d => (c.decode d).map some

/-- The items of a list, in order. -/
def decodeItems {α : Type} (c : Codec α) : List Draft → Except Problem (List α)
  | [] => .ok []
  | d :: ds => do
    let a ← c.decode d
    let as ← decodeItems c ds
    .ok (a :: as)

/-- Lists. -/
def list {α : Type} (c : Codec α) : Codec (List α) where
  encode as := .arr (as.map c.encode)
  decode
    | .arr items stop => do
      let as ← decodeItems c items
      match stop with
      | none => .ok as
      | some b => .error b.onRead.problem
    | .buried (.arr _ _) => .error .malformed
    | d => unwanted d

/-- The value that a text writes, if nothing stands after it. -/
def read {α : Type} (c : Codec α) (text : String) : Except Problem α :=
  let r := draft text.toList
  match c.decode r.draft with
  | .error p => .error p
  | .ok a => if r.overfull then .error .malformed else .ok a

/-- The value that a JSON value encodes. -/
def ofJson? {α : Type} (c : Codec α) (v : Json) : Option α := (c.decode v.toDraft).toOption

/-- The compact text of a value. -/
def print {α : Type} (c : Codec α) (a : α) : String := (c.encode a).compress

end Codec

/-! ## Members -/

/-- What is read of a structure: each value with its place in the text and its name, and whether the
names were written or come from the order. -/
structure Entries where
  named : Bool
  values : List (String × Nat × Draft)
  size : Nat

/-- A result, or a problem and the place where it was met. -/
abbrev Placed (α : Type) := Except (Nat × Problem) α

/-- Of two problems the one met first counts. -/
def Placed.ap {α β : Type} : Placed (α → β) → Placed α → Placed β
  | .ok f, .ok a => .ok (f a)
  | .ok _, .error p => .error p
  | .error p, .ok _ => .error p
  | .error p, .error q => .error (if q.1 < p.1 then q else p)

/-- The members of a structure `σ` from which a value of `α` is made. -/
structure Members (σ α : Type) where
  names : List String
  write : σ → List (String × Json)
  read : Entries → Placed α

namespace Members

variable {σ α β : Type}

instance : Applicative (Members σ) where
  pure a := ⟨[], fun _ => [], fun _ => .ok a⟩
  seq f a := ⟨f.names ++ (a ()).names, fun s => f.write s ++ (a ()).write s,
    fun e => Placed.ap (f.read e) ((a ()).read e)⟩

/-- A value at its place. -/
def place (n : Nat) : Except Problem α → Placed α
  | .ok a => .ok a
  | .error p => .error (n, p)

/-- The problem of a member that is not there: it is met after everything that is. -/
def missing (e : Entries) : Placed α := .error (e.size + 1, .mismatch)

/-- Reads the member called `name`, or else takes what absence means. -/
def readOr (name : String) (c : Codec α) (absent : Entries → Placed α) (e : Entries) : Placed α :=
  match e.values.lookup name with
  | some (n, d) => place n (c.decode d)
  | none => absent e

/-- A member that has to be there. -/
def required (name : String) (c : Codec α) (get : σ → α) : Members σ α :=
  ⟨[name], fun s => [(name, c.encode (get s))], readOr name c missing⟩

/-- A member that is always written and has a value of its own when it is absent. -/
def withDefault (name : String) (c : Codec α) (absent : α) (get : σ → α) : Members σ α :=
  ⟨[name], fun s => [(name, c.encode (get s))], readOr name c fun _ => .ok absent⟩

/-- A member that is written as null when it has no value, and may be absent where names are
written. -/
def nullable (name : String) (c : Codec α) (get : σ → Option α) : Members σ (Option α) :=
  ⟨[name], fun s => [(name, c.option.encode (get s))],
    readOr name c.option fun e => if e.named then .ok none else missing e⟩

/-- A member that is written only when it has a value, and may be absent. -/
def optional (name : String) (c : Codec α) (get : σ → Option α) : Members σ (Option α) :=
  ⟨[name], fun s => match get s with
    | some a => [(name, c.encode a)]
    | none => [],
    readOr name c.option fun _ => .ok none⟩

/-- The first problem among the fields as such: a name that cannot be read, a known name that came
before, or an unknown field that cannot be passed over. -/
def fieldProblem (names : List String) (seen : List String) (place : Nat) :
    List (Option String × Draft) → Option (Nat × Problem)
  | [] => none
  | (none, _) :: _ => some (place, .malformed)
  | (some k, d) :: rest =>
    if names.contains k then
      if seen.contains k then some (place, .mismatch)
      else fieldProblem names (k :: seen) (place + 1) rest
    else match d.skipFlaw with
      | some f => some (place, f.problem)
      | none => fieldProblem names seen (place + 1) rest

/-- The known fields with their places. -/
def entriesOf (place : Nat) : List (Option String × Draft) → List (String × Nat × Draft)
  | [] => []
  | (none, _) :: rest => entriesOf (place + 1) rest
  | (some k, d) :: rest => (k, place, d) :: entriesOf (place + 1) rest

/-- Reads a structure from its fields. -/
def decodeFields (m : Members σ α) (fields : List (Option String × Draft)) (stop : Option Break) :
    Except Problem α :=
  let end_ := stop.map fun b => (fields.length, b.onRead.problem)
  let whole : Placed Unit := match (fieldProblem m.names [] 0 fields).or end_ with
    | some p => .error p
    | none => .ok ()
  let value := m.read ⟨true, entriesOf 0 fields, fields.length⟩
  (Placed.ap (Placed.ap (.ok fun _ a => a) whole) value).mapError (·.2)

/-- Reads a structure from the values of its members in order. -/
def decodeItems (m : Members σ α) (items : List Draft) (stop : Option Break) : Except Problem α :=
  let end_ := if items.length > m.names.length then some (items.length + 2, Problem.malformed)
    else stop.map fun b => (items.length, b.onRead.problem)
  let whole : Placed Unit := match end_ with
    | some p => .error p
    | none => .ok ()
  let entries := entriesOf 0 ((m.names.map some).zip items)
  let value := m.read ⟨false, entries, items.length⟩
  (Placed.ap (Placed.ap (.ok fun _ a => a) whole) value).mapError (·.2)

/-- The codec of a structure. -/
def codec (m : Members α α) : Codec α where
  encode a := .obj (m.write a)
  decode
    | .obj fields stop => m.decodeFields fields stop
    | .arr items stop => m.decodeItems items stop
    | .hollow => m.decodeFields [] none
    | .buried _ => .error .malformed
    | d => Codec.unwanted d

end Members

end ShelterLine.Json

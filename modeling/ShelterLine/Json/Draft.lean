import ShelterLine.Json.Token

/-!
# JSON texts read as far as they go

A draft is the tree of a JSON text, also of one that is broken: where the text does not go on, the
tree says so in place. A reader who walks a draft in the order of the text therefore meets whatever
comes first, a break or a value he has no use for, and reports that one.

Drafts are built by a machine that takes one token at a time and keeps the lists that are still
open. Lists nested deeper than 127 can be passed over but not read.
-/

namespace ShelterLine.Json

/-- The tree of a JSON text as far as it goes. A field whose name is half a string has none. A
hollow draft is an empty object in a text that has been taken in before it is read: it may
then also stand for null. -/
inductive Draft where
  | null
  | bool (b : Bool)
  | num (n : Number)
  | str (s : String)
  | unreadable
  | broken (b : Break)
  | arr (items : List Draft) (stop : Option Break)
  | obj (fields : List (Option String × Draft)) (stop : Option Break)
  | buried (d : Draft)
  | hollow
deriving Repr, Inhabited

/-- How deep lists may be nested. -/
def maxDepth : Nat := 127

/-- A list that is still open, with what it holds so far, newest first. -/
inductive Frame where
  | items (done : List Draft)
  | fields (done : List (Option String × Draft)) (name : Option String)

/-- What a reader of tokens waits for, with the lists that are open around it. -/
inductive State where
  /-- A value, at the start, after a colon or after a comma between items. -/
  | value (outer : List Frame)
  /-- An item, or the end of a list that has just begun. -/
  | firstItem (outer : List Frame)
  /-- A comma or the end of a list. -/
  | moreItems (done : List Draft) (outer : List Frame)
  /-- A field's name, or the end of an object that has just begun. -/
  | firstName (outer : List Frame)
  /-- A field's name after a comma. -/
  | nextName (done : List (Option String × Draft)) (outer : List Frame)
  /-- The colon after a field's name. -/
  | colon (done : List (Option String × Draft)) (name : Option String) (outer : List Frame)
  /-- A comma or the end of an object. -/
  | moreFields (done : List (Option String × Draft)) (outer : List Frame)
  /-- Nothing: the value is complete. -/
  | complete (d : Draft)
  /-- Nothing: something stands after the value. -/
  | overfull (d : Draft)
  /-- Nothing: the text is broken. -/
  | stopped (d : Draft)

/-- A list or object as deep as the lists around it make it. -/
def enclose (outer : List Frame) (d : Draft) : Draft :=
  if outer.length < maxDepth then d else .buried d

/-- Hands a value to the innermost open list. -/
def deliver (d : Draft) : List Frame → State
  | [] => .complete d
  | .items done :: outer => .moreItems (d :: done) outer
  | .fields done name :: outer => .moreFields ((name, d) :: done) outer

/-- Closes every open list after a value in which the text broke. -/
def closeAll (d : Draft) : List Frame → Draft
  | [] => d
  | .items done :: outer => closeAll (enclose outer (.arr (d :: done).reverse none)) outer
  | .fields done name :: outer =>
    closeAll (enclose outer (.obj ((name, d) :: done).reverse none)) outer

/-- The text breaks where a value is due. -/
def breakValue (b : Break) (outer : List Frame) : State := .stopped (closeAll (.broken b) outer)

/-- The text breaks within a list, after its items so far. -/
def breakItems (b : Break) (done : List Draft) (outer : List Frame) : State :=
  .stopped (closeAll (enclose outer (.arr done.reverse (some b))) outer)

/-- The text breaks within an object, after its fields so far. -/
def breakFields (b : Break) (done : List (Option String × Draft)) (outer : List Frame) : State :=
  .stopped (closeAll (enclose outer (.obj done.reverse (some b))) outer)

/-- Takes a token where a value is due. -/
def takeValue (outer : List Frame) : Token → State
  | .null => deliver .null outer
  | .bool b => deliver (.bool b) outer
  | .num n => deliver (.num n) outer
  | .str s => deliver (.str s) outer
  | .hugeNum | .halfStr => deliver .unreadable outer
  | .openBracket => .firstItem outer
  | .openBrace => .firstName outer
  | .brokenStr b | .broken b => breakValue b outer
  | .closeBrace | .closeBracket | .colon | .comma => breakValue Flaw.malformed.toBreak outer

/-- Takes a token where a field's name is due. -/
def takeName (done : List (Option String × Draft)) (outer : List Frame) : Token → State
  | .str s => .colon done (some s) outer
  | .halfStr => .colon done none outer
  | .brokenStr b => breakFields (inName b b.onRead) done outer
  | .broken b => breakFields (inName Flaw.malformed.toBreak b.onRead) done outer
  | .null | .bool _ | .num _ | .openBracket | .openBrace =>
    breakFields (inName Flaw.malformed.toBreak .oddKey) done outer
  | _ => breakFields Flaw.malformed.toBreak done outer
where
  /-- A choice has one name only. -/
  inName (b : Break) (first : Flaw) : Break :=
    { b with onChoice := if done = [] then first else .malformed }

/-- Takes one token. -/
def State.step : State → Token → State
  | .value outer, t => takeValue outer t
  | .firstItem outer, .closeBracket => deliver (enclose outer (.arr [] none)) outer
  | .firstItem outer, t => takeValue (.items [] :: outer) t
  | .moreItems done outer, .comma => .value (.items done :: outer)
  | .moreItems done outer, .closeBracket =>
    deliver (enclose outer (.arr done.reverse none)) outer
  | .moreItems done outer, _ => breakItems Flaw.malformed.toBreak done outer
  | .firstName outer, .closeBrace => deliver (enclose outer (.obj [] none)) outer
  | .firstName outer, t => takeName [] outer t
  | .nextName done outer, t => takeName done outer t
  | .colon done name outer, .colon => .value (.fields done name :: outer)
  | .colon done name outer, _ =>
    breakValue Flaw.malformed.toBreak (.fields done name :: outer)
  | .moreFields done outer, .comma => .nextName done outer
  | .moreFields done outer, .closeBrace =>
    deliver (enclose outer (.obj done.reverse none)) outer
  | .moreFields done outer, _ => breakFields Flaw.malformed.toBreak done outer
  | .complete d, _ => .overfull d
  | .overfull d, _ => .overfull d
  | .stopped d, _ => .stopped d

/-- A draft, and whether something stands after it. -/
structure Reading where
  draft : Draft
  overfull : Bool

/-- The text ends here. -/
def State.finish : State → Reading
  | .complete d => ⟨d, false⟩
  | .overfull d => ⟨d, true⟩
  | .stopped d => ⟨d, false⟩
  | .value outer => ended (breakValue Flaw.truncated.toBreak outer)
  | .firstItem outer => ended (breakItems Flaw.truncated.toBreak [] outer)
  | .moreItems done outer => ended (breakItems Flaw.truncated.toBreak done outer)
  | .firstName outer => ended (breakFields Flaw.truncated.toBreak [] outer)
  | .nextName done outer =>
    ended (breakFields { Flaw.truncated.toBreak with onChoice := .malformed } done outer)
  | .colon done name outer =>
    ended (breakValue Flaw.truncated.toBreak (.fields done name :: outer))
  | .moreFields done outer => ended (breakFields Flaw.truncated.toBreak done outer)
where
  ended : State → Reading
    | .stopped d => ⟨d, false⟩
    | _ => ⟨.broken Flaw.truncated.toBreak, false⟩

/-- Reads a text as far as it goes. -/
def draft (text : List Char) : Reading :=
  ((tokens text).foldl State.step (.value [])).finish

/-! ## Values as drafts -/

mutual

/-- The draft of a value. -/
def toDraft : Json → Draft
  | .null => .null
  | .bool b => .bool b
  | .num n => .num n
  | .str s => .str s
  | .arr items => .arr (itemsToDraft items) none
  | .obj fields => .obj (fieldsToDraft fields) none

/-- The drafts of the items of a list. -/
def itemsToDraft : List Json → List Draft
  | [] => []
  | v :: vs => toDraft v :: itemsToDraft vs

/-- The drafts of the fields of an object. -/
def fieldsToDraft : List (String × Json) → List (Option String × Draft)
  | [] => []
  | (k, v) :: fs => (some k, toDraft v) :: fieldsToDraft fs

end

/-! ## Texts taken in -/

mutual

/-- The draft of a text that has been taken in. -/
def Draft.takenIn : Draft → Draft
  | .arr items stop => .arr (itemsTakenIn items) stop
  | .obj [] none => .hollow
  | .obj fields stop => .obj (fieldsTakenIn fields) stop
  | d => d

/-- The drafts of items that have been taken in. -/
def itemsTakenIn : List Draft → List Draft
  | [] => []
  | d :: ds => d.takenIn :: itemsTakenIn ds

/-- The drafts of fields that have been taken in. -/
def fieldsTakenIn : List (Option String × Draft) → List (Option String × Draft)
  | [] => []
  | (k, d) :: fs => (k, d.takenIn) :: fieldsTakenIn fs

end

/-! ## Passing over -/

mutual

/-- The flaw that one who passes over a draft meets. -/
def Draft.skipFlaw : Draft → Option Flaw
  | .broken b => some b.onSkip
  | .arr items stop => (skipItems items).or (stop.map (·.onSkip))
  | .obj fields stop => (skipFields fields).or (stop.map (·.onSkip))
  | .buried d => d.skipFlaw
  | _ => none

/-- The flaw that one who passes over items meets. -/
def skipItems : List Draft → Option Flaw
  | [] => none
  | d :: ds => d.skipFlaw.or (skipItems ds)

/-- The flaw that one who passes over fields meets. -/
def skipFields : List (Option String × Draft) → Option Flaw
  | [] => none
  | (_, d) :: fs => d.skipFlaw.or (skipFields fs)

end

/-! ## Reading whole values -/

mutual

/-- The value of a draft without a flaw. Of two fields with one name the later counts, and fields
stand in the order of their names. -/
def Draft.value : Draft → Except Flaw Json
  | .null => .ok .null
  | .bool b => .ok (.bool b)
  | .num n => .ok (.num n)
  | .str s => .ok (.str s)
  | .unreadable => .error .malformed
  | .broken b => .error b.onRead
  | .arr items stop => do
    let vs ← valueItems items
    match stop with
    | none => .ok (.arr vs)
    | some b => .error b.onRead
  | .obj fields stop => do
    let fs ← valueFields [] fields
    match stop with
    | none => .ok (.obj fs)
    | some b => .error b.onRead
  | .buried _ => .error .malformed
  | .hollow => .ok (.obj [])

/-- The values of items without a flaw. -/
def valueItems : List Draft → Except Flaw (List Json)
  | [] => .ok []
  | d :: ds => do
    let v ← d.value
    let vs ← valueItems ds
    .ok (v :: vs)

/-- The values of fields without a flaw, put into the fields read before. -/
def valueFields (done : List (String × Json)) :
    List (Option String × Draft) → Except Flaw (List (String × Json))
  | [] => .ok done
  | (none, _) :: _ => .error .malformed
  | (some k, d) :: fs => do
    let v ← d.value
    valueFields (insertField k v done) fs

end

/-! ## Texts within texts -/

/-- The name of the only field of an object that stands for what its text writes. -/
def embeddedKey : String := "$serde_json::private::RawValue"

mutual

/-- The draft with what embedded texts write in place of the objects that hold them. -/
def Draft.unfold (read : String → Draft) : Draft → Draft
  | .arr items stop => .arr (unfoldItems read items) stop
  | .obj ((some k, d) :: fields) stop =>
    if k = embeddedKey then match d, fields, stop with
      | .str s, [], none => read s
      | _, _, _ => .unreadable
    else .obj ((some k, d.unfold read) :: unfoldFields read fields) stop
  | d => d

/-- The drafts of items with what embedded texts write. -/
def unfoldItems (read : String → Draft) : List Draft → List Draft
  | [] => []
  | d :: ds => d.unfold read :: unfoldItems read ds

/-- The drafts of fields with what embedded texts write. -/
def unfoldFields (read : String → Draft) :
    List (Option String × Draft) → List (Option String × Draft)
  | [] => []
  | (k, d) :: fs => (k, d.unfold read) :: unfoldFields read fs

end

/-- The value that a text writes, with texts embedded up to a depth. -/
def parseNested? : Nat → String → Option Json
  | 0, _ => none
  | depth + 1, text =>
    let embedded := fun s => match parseNested? depth s with
      | some v => v.toDraft
      | none => .unreadable
    let r := draft text.toList
    if r.overfull then none else (r.draft.unfold embedded).value.toOption

/-- The value that a text writes, if it is one JSON value and nothing else. An embedded text is
shorter than the text around it. -/
def parse? (text : String) : Option Json := parseNested? (text.length + 1) text

end ShelterLine.Json

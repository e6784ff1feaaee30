import ShelterLine.Text.Numeral

/-!
# Media types

What a request says about its content, if that is readable ASCII. JSON is known by its type whatever
the parameters are, also where it is the syntax of another format; forms are known by how the text
begins.
-/

namespace ShelterLine.MediaType

/-- Whether a character may stand in a name. -/
def isTokenChar (c : Char) : Bool :=
  c.isAlphanum || "!#$%&'*+-.^_\x60|~".toList.contains c

/-- Whether a character may stand between quotes. -/
def isQuotedChar (c : Char) : Bool := c.toNat > 31 && c.toNat ≠ 127

/-- Drops a value between quotes, after the first quote, with the blanks after it. The value is not
empty, so a quote at its beginning belongs to it. -/
def dropQuoted (cs : List Char) : Option (List Char) :=
  match cs with
  | [] => none
  | first :: cs =>
    if !isQuotedChar first then none
    else match cs.dropWhile fun c => c ≠ '"' && isQuotedChar c with
      | '"' :: rest => match rest.dropWhile (· = ' ') with
        | [] => some []
        | ';' :: rest => some rest
        | _ => none
      | _ => none

/-- Drops one parameter with the semicolon after it. -/
def dropParameter (cs : List Char) : Option (List Char) :=
  let name := cs.takeWhile isTokenChar
  if name = [] then none
  else match cs.drop name.length with
    | '=' :: '"' :: rest => dropQuoted rest
    | '=' :: rest =>
      let value := rest.takeWhile isTokenChar
      match rest.drop value.length with
      | [] => some []
      | ';' :: rest => if value = [] then none else some rest
      | _ => none
    | _ => none

/-- Whether a text is a list of parameters. Each step drops a character at least, so a step per
character is enough. -/
def areParameters : Nat → List Char → Bool
  | _, [] => true
  | 0, _ => false
  | fuel + 1, cs => match cs.dropWhile (· = ' ') with
    | [] => true
    | cs => match dropParameter cs with
      | some rest => areParameters fuel rest
      | none => false

/-- The type and the subtype of a text that is a media type, in lower case. -/
def read? (text : String) : Option (List Char × List Char) :=
  let cs := text.toList
  let main := cs.takeWhile isTokenChar
  match cs.drop main.length with
  | '/' :: rest =>
    let sub := rest.takeWhile isTokenChar
    let parameters := match rest.drop sub.length with
      | [] => true
      | ';' :: rest => areParameters rest.length rest
      | _ => false
    if main ≠ [] && sub ≠ [] && parameters then
      some (main.map Char.toLower, sub.map Char.toLower)
    else none
  | _ => none

/-- A subtype without the last plus sign and what follows it, and what follows it. -/
def splitSuffix (sub : List Char) : List Char × Option (List Char) :=
  let suffix := (sub.reverse.takeWhile (· ≠ '+')).reverse
  let name := sub.take (sub.length - suffix.length - 1)
  if suffix.length = sub.length || name = [] then (sub, none) else (name, some suffix)

/-- Whether a text is readable ASCII. -/
def isReadable (text : String) : Bool :=
  text.toList.all fun c => c = '\t' || (32 ≤ c.toNat && c.toNat < 127)

/-- Whether a content is JSON. -/
def isJson (contentType : Option String) : Bool :=
  match (contentType.filter isReadable).bind read? with
  | some (main, sub) =>
    let (name, suffix) := splitSuffix sub
    main = "application".toList && (name = "json".toList || suffix = some "json".toList)
  | none => false

/-- Whether a content is a form. -/
def isForm (contentType : Option String) : Bool :=
  match contentType.filter isReadable with
  | some text => "application/x-www-form-urlencoded".toList.isPrefixOf text.toList
  | none => false

end ShelterLine.MediaType

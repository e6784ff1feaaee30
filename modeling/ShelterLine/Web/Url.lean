import ShelterLine.Web.Host

/-!
# Addresses

The canonical text of an absolute address. Blanks and control characters around it go, tabs and line
ends within it go, dot segments are resolved, and what may not stand for itself is percent encoded.

In an address of the web or a scheme of its kind, backslashes are slashes, there is a host, and the
default port is left out. A file has no port, and its path may begin with a drive. Other schemes may
lack a host, and without one what follows the colon need not be a path at all. No dot segment leads
above a drive.
-/

namespace ShelterLine.Url

/-! ## Parts -/

/-- Control characters and the blank. -/
def isControlOrSpace (c : Char) : Bool := c.toNat ≤ 0x20

/-- The text without control characters and blanks around it, and without tabs and line ends. -/
def clean (cs : List Char) : List Char :=
  let cs := ((cs.dropWhile isControlOrSpace).reverse.dropWhile isControlOrSpace).reverse
  cs.filter fun c => c ≠ '\t' && c ≠ '\n' && c ≠ '\r'

/-- What a scheme says about its addresses. -/
inductive SchemeKind where
  | web (defaultPort : Nat)
  | file
  | other
deriving DecidableEq

/-- The schemes whose addresses have a host, with their default ports. -/
def webSchemes : List (List Char × Nat) := [
  ("http".toList, 80), ("https".toList, 443), ("ws".toList, 80), ("wss".toList, 443),
  ("ftp".toList, 21)]

/-- What a scheme in lower case says. -/
def SchemeKind.of (scheme : List Char) : SchemeKind :=
  match webSchemes.lookup scheme with
  | some port => .web port
  | none => if scheme = "file".toList then .file else .other

/-- A scheme in lower case and what follows its colon. -/
def splitScheme? (cs : List Char) : Option (List Char × List Char) :=
  let scheme := cs.takeWhile fun c => c.isAlphanum || c = '+' || c = '-' || c = '.'
  match scheme, cs.drop scheme.length with
  | s :: _, ':' :: rest => if s.isAlpha then some (scheme.map Char.toLower, rest) else none
  | _, _ => none

/-- Whether a character separates segments of a path. -/
def SchemeKind.isSlash (k : SchemeKind) (c : Char) : Bool := c = '/' || (c = '\\' && k ≠ .other)

/-- Whether a character ends a path. -/
def endsPath (c : Char) : Bool := c = '?' || c = '#'

/-! ## What stands for itself -/

/-- What stands for itself in a path. -/
def staysInPath (c : Char) : Bool :=
  Host.isPlain c && !" \"#<>?\x60\x7b\x7d".toList.contains c

/-- What stands for itself in the name of a user. -/
def staysInUser (c : Char) : Bool := staysInPath c && !"/:;=@[\\]^|".toList.contains c

/-- What stands for itself in a query. -/
def SchemeKind.staysInQuery (k : SchemeKind) (c : Char) : Bool :=
  Host.isPlain c && !" \"#<>".toList.contains c && (c ≠ '\'' || k = .other)

/-- What stands for itself after a `#`. -/
def staysInFragment (c : Char) : Bool := Host.isPlain c && !" \"<>\x60".toList.contains c

/-! ## Authorities -/

/-- The name of a user and a password, as they are written. -/
structure User where
  name : List Char
  password : List Char

/-- Where an address leads: a user, a host and a port, each of which may be missing. -/
structure Authority where
  user : User := ⟨[], []⟩
  host : Option Host := none
  port : Option Nat := none

/-- A user as it is written in front of the host. -/
def User.render (u : User) : List Char :=
  let password := if u.password = [] then [] else ':' :: u.password
  if u.name = [] && u.password = [] then [] else u.name ++ password ++ ['@']

/-- An authority as it is written. -/
def Authority.render (a : Authority) : List Char :=
  let host := match a.host with
    | some h => h.render
    | none => []
  let port := match a.port with
    | some n => ':' :: Nat.toDigits 10 n
    | none => []
  a.user.render ++ host ++ port

/-- Reads a user in front of a host. -/
def User.ofText (cs : List Char) : User :=
  let name := cs.takeWhile (· ≠ ':')
  ⟨Percent.encode staysInUser name, Percent.encode staysInUser (cs.drop (name.length + 1))⟩

/-- The text up to the colon in front of a port. Colons in brackets belong to the host. -/
def hostText (inBrackets : Bool) : List Char → List Char
  | [] => []
  | c :: cs =>
    if c = ':' && !inBrackets then []
    else c :: hostText (c = '[' || (inBrackets && c ≠ ']')) cs

/-- Reads a port after its colon, and says what follows it. -/
def readPort? (defaultPort : Option Nat) (cs : List Char) : Option (Option Nat × List Char) :=
  let digits := cs.takeWhile Char.isDigit
  let rest := cs.drop digits.length
  let n := Text.digitsValue digits
  if n ≥ 65536 || !(rest = [] || rest.head? = some '\\') then none
  else some (if digits = [] || some n = defaultPort then none else some n, rest)

/-- The host in an address of a kind, which may be empty in some. -/
def SchemeKind.host? (k : SchemeKind) (cs : List Char) : Option Host :=
  if k = .other then Host.ofOther? cs else Host.ofWeb? cs

/-- The port that an address of a kind leads to when it names none. -/
def SchemeKind.defaultPort : SchemeKind → Option Nat
  | .web port => some port
  | _ => none

/-- Reads an authority, and says what follows its port. Only where there is a host there
can be a user and a port; `atEnd` says that the address ends with the authority, where even
an `@` may stand alone. -/
def readAuthority? (k : SchemeKind) (atEnd : Bool) (cs : List Char) :
    Option (Authority × List Char) := do
  let afterUser := (cs.reverse.takeWhile (· ≠ '@')).reverse
  let userText := cs.take (cs.length - afterUser.length - 1)
  let user := User.ofText userText
  let host := hostText false afterUser
  let portText := afterUser.drop host.length
  if host = [] then
    let loneSign := afterUser.length < cs.length && userText = []
    guard (k = .other && portText = [] && user.name = [] && user.password = []
      && (atEnd || !loneSign))
    some (⟨user, none, none⟩, [])
  else
    let host ← k.host? host
    match portText with
    | ':' :: cs => do
      let (port, rest) ← readPort? k.defaultPort cs
      some (⟨user, some host, port⟩, rest)
    | _ => some (⟨user, some host, none⟩, [])

/-! ## Paths -/

/-- The segments of a path, which begins after its first slash. -/
def segments (slash : Char → Bool) : List Char → List (List Char)
  | [] => [[]]
  | c :: cs =>
    if slash c then [] :: segments slash cs
    else match segments slash cs with
      | [] => [[c]]
      | s :: ss => (c :: s) :: ss

/-- The spellings of a dot in a dot segment. -/
def plainDots (s : List Char) : List Char :=
  match s with
  | '%' :: '2' :: 'e' :: rest | '%' :: '2' :: 'E' :: rest => '.' :: plainDots rest
  | c :: rest => c :: plainDots rest
  | [] => []

/-- Whether a segment is a drive, or begins with one before a backslash. -/
def isDrive : List Char → Bool
  | letter :: mark :: rest =>
    letter.isAlpha && (mark = ':' || mark = '|') && (rest = [] || rest.head? = some '\\')
  | _ => false

/-- Leaves the last of the segments so far, unless that is a drive. -/
def leave : List (List Char) → List (List Char)
  | [] => []
  | s :: done => if isDrive s then s :: done else done

/-- Resolves dot segments; `done` are the segments so far, last first. A dot segment at the end
leaves an empty one. -/
def resolve (done : List (List Char)) : List (List Char) → List (List Char)
  | [] => done.reverse
  | s :: rest =>
    let dots := plainDots s
    if dots = ['.', '.'] then
      if rest = [] then ([] :: leave done).reverse else resolve (leave done) rest
    else if dots = ['.'] then
      if rest = [] then ([] :: done).reverse else resolve done rest
    else resolve (Percent.encode staysInPath s :: done) rest

/-- The segments of the path in a text without a slash in front. -/
def SchemeKind.pathOf (k : SchemeKind) (cs : List Char) : List (List Char) :=
  resolve [] (segments k.isSlash cs)

/-- Segments as they are written. -/
def renderPath (segments : List (List Char)) : List Char := segments.flatMap ('/' :: ·)

/-- The text without a slash in front. -/
def SchemeKind.dropSlash (k : SchemeKind) : List Char → List Char
  | [] => []
  | c :: cs => if k.isSlash c then cs else c :: cs

/-! ## Addresses -/

/-- An absolute address in its canonical text. -/
structure Address where
  scheme : List Char
  authority : Option Authority
  path : List Char
  ending : List Char

/-- The text of an address. A path that begins with two slashes must not be taken for
an authority. -/
def Address.render (a : Address) : List Char :=
  let authority := match a.authority with
    | some authority => "//".toList ++ authority.render
    | none => if "//".toList.isPrefixOf a.path then "/.".toList else []
  a.scheme ++ ':' :: authority ++ a.path ++ a.ending

/-- The text of an address. -/
def Address.toString (a : Address) : String := String.ofList a.render

/-- The query and what follows a `#`, as they are written. -/
def SchemeKind.ending (k : SchemeKind) (cs : List Char) : List Char :=
  let query := match cs with
    | '?' :: q => '?' :: Percent.encode k.staysInQuery (q.takeWhile (· ≠ '#'))
    | _ => []
  let fragment := match cs.dropWhile (· ≠ '#') with
    | '#' :: f => '#' :: Percent.encode staysInFragment f
    | _ => []
  query ++ fragment

/-- The authority and the path of an address with a host. -/
def withHost? (k : SchemeKind) (cs : List Char) : Option (Authority × List Char) := do
  let rest := cs.dropWhile k.isSlash
  let text := rest.takeWhile fun c => !k.isSlash c
  let (authority, _) ← readAuthority? k true text
  some (authority, renderPath (k.pathOf (k.dropSlash (rest.drop text.length))))

/-- A drive at the front of a path, with its colon. -/
def nameDrive : List (List Char) → List (List Char)
  | s :: rest => (if isDrive s then s.take 1 ++ [':'] else s) :: rest
  | [] => []

/-- The path of a file. Slashes in front are one slash. -/
def renderFile (segments : List (List Char)) : List Char :=
  '/' :: (renderPath segments).dropWhile (· = '/')

/-- The authority and the path of a file. A host that is this machine is none, and before a drive
there is no host. Where the host is left out between slashes, a drive stays as it is written. -/
def ofFile? (cs : List Char) : Option (Authority × List Char) :=
  let k := SchemeKind.file
  let here := fun cs => some (Authority.mk ⟨[], []⟩ none none, renderFile (nameDrive (k.pathOf cs)))
  match cs with
  | a :: b :: rest =>
    if k.isSlash a && k.isSlash b then
      let text := rest.takeWhile fun c => !k.isSlash c
      let segments := k.pathOf (k.dropSlash (rest.drop text.length))
      if isDrive text then here rest
      else do
        let host ← if text = [] then some none
          else (Host.ofWeb? text).map fun h => if h = .name "localhost".toList then none else some h
        match host, segments with
        | none, _ => some (⟨⟨[], []⟩, none, none⟩, renderFile segments)
        | some h, s :: _ =>
          if isDrive s then some (⟨⟨[], []⟩, none, none⟩, renderFile (nameDrive segments))
          else some (⟨⟨[], []⟩, some h, none⟩, renderFile segments)
        | some h, [] => some (⟨⟨[], []⟩, some h, none⟩, renderFile [])
    else here (k.dropSlash cs)
  | _ => here (k.dropSlash cs)

/-- The authority and the path of an address that may lack a host; `atEnd` says that there is no
query and nothing after a `#`. -/
def ofOther? (atEnd : Bool) (cs : List Char) : Option (Option Authority × List Char) :=
  let k := SchemeKind.other
  match cs with
  | '/' :: '/' :: rest => do
    let text := rest.takeWhile (· ≠ '/')
    let (authority, more) ← readAuthority? k (atEnd && text = rest) text
    let path := more ++ rest.drop text.length
    some (some authority, if path = [] then [] else renderPath (k.pathOf (k.dropSlash path)))
  | '/' :: rest => some (none, renderPath (k.pathOf rest))
  | _ => some (none, Percent.encode Host.isPlain cs)

/-- Reads an absolute address. -/
def parse? (text : String) : Option Address := do
  let (scheme, rest) ← splitScheme? (clean text.toList)
  let k := SchemeKind.of scheme
  let before := rest.takeWhile fun c => !endsPath c
  let ending := k.ending (rest.drop before.length)
  match k with
  | .web _ => do
    let (authority, path) ← withHost? k before
    some ⟨scheme, some authority, path, ending⟩
  | .file => do
    let (authority, path) ← ofFile? before
    some ⟨scheme, some authority, path, ending⟩
  | .other => do
    let (authority, path) ← ofOther? (before = rest) before
    some ⟨scheme, authority, path, ending⟩

/-! ## Requests -/

/-- An address without its user, unless nobody can read who that is. -/
def Address.withoutUser (a : Address) : Address :=
  let readable (cs : List Char) : Bool := (Text.ofUtf8? (Percent.decodeBytes cs)).isSome
  match a.authority with
  | some authority =>
    let user := authority.user
    if readable user.name && (user.name ≠ [] || readable user.password) then
      { a with authority := some { authority with user := ⟨[], []⟩ } }
    else a
  | none => a

/-- Whether an address belongs to the web. -/
def Address.isWeb (a : Address) : Bool := a.scheme = "http".toList || a.scheme = "https".toList

/-- The greatest length of an address that can be asked for. -/
def longest : Nat := 65534

/-- Whether an address can be asked for. -/
def Address.canBeAsked (a : Address) : Bool :=
  let host := match a.authority.bind (·.host) with
    | some h => h.render
    | none => []
  a.isWeb && host.all (fun c => !"\"\x60\x7b\x7d".toList.contains c) && a.render.length ≤ longest

end ShelterLine.Url

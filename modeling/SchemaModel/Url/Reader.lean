import SchemaModel.Url.Basic
import SchemaModel.Url.Host

/-!
# Reading URLs

Spaces and control characters around a URL and tabs and line ends within it are dropped. Then its
scheme decides how it is read.

* `read`             an absolute URL;
* `checkRelative`    whether a text without scheme may stand for a URL.
-/

namespace SchemaModel.Url

/-- a character dropped at either end -/
def isOuter (c : Char) : Bool := c.toNat ≤ 32

/-- a character dropped anywhere -/
def isDropped (c : Char) : Bool := c = '\t' || c = '\n' || c = '\r'

def cleaned (s : List Char) : List Char :=
  (((s.dropWhile isOuter).reverse.dropWhile isOuter).reverse).filter (!isDropped ·)

/-! ## schemes -/

def isSchemeChar (c : Char) : Bool := c.isAlphanum || c = '+' || c = '-' || c = '.'

/-- the scheme in lower case, and what stands behind its colon -/
def cutScheme? (s : List Char) : Option (String × List Char) :=
  let name := s.takeWhile isSchemeChar
  match s.head?, s.drop name.length with
  | some c, ':' :: rest =>
    if c.isAlpha then some (String.ofList (name.map Char.toLower), rest) else none
  | _, _ => none

def schemeKind (scheme : String) : SchemeKind :=
  if scheme = "file" then .file
  else if scheme ∈ ["http", "https", "ws", "wss", "ftp"] then .special
  else .other

def defaultPort? (scheme : String) : Option Nat :=
  if scheme ∈ ["http", "ws"] then some 80
  else if scheme ∈ ["https", "wss"] then some 443
  else if scheme = "ftp" then some 21
  else none

/-! ## authorities -/

/-- a character behind the authority -/
def endsAuthority (k : SchemeKind) (c : Char) : Bool := k.isSlash c || c = '?' || c = '#'

/-- The text before the last `@`, if there is one, and the text behind it. -/
def cutUser (s : List Char) : Option (List Char) × List Char :=
  let back := s.reverse.takeWhile (· ≠ '@')
  if back.length = s.length then (none, s)
  else (some (s.take (s.length - back.length - 1)), back.reverse)

/-- The user information in text. The first colon divides name and password. -/
def userText (user : List Char) : List Char :=
  let name := percentEncode userSet (user.takeWhile (· ≠ ':'))
  let password := percentEncode userSet ((user.dropWhile (· ≠ ':')).drop 1)
  let both := if password = [] then name else name ++ ':' :: password
  if both = [] then [] else both ++ ['@']

/-- The host in front of a text, up to a colon outside brackets. -/
def cutHost (inBrackets : Bool) : List Char → List Char × List Char
  | [] => ([], [])
  | c :: rest =>
    if c = ':' ∧ ¬ inBrackets then ([], c :: rest)
    else
      let inBrackets := c = '[' || (inBrackets && c ≠ ']')
      let (host, rest) := cutHost inBrackets rest
      (c :: host, rest)

/-- The port behind a colon, unless it is missing or the default. -/
def readPort (scheme : String) (s : List Char) : Except Fault (Option Nat) :=
  if !s.all Char.isDigit then .error .port
  else
    let n := s.foldl (fun n c => n * 10 + (c.toNat - 48)) 0
    if 65535 < n then .error .port
    else .ok (if s = [] ∨ defaultPort? scheme = some n then none else some n)

/-- Reads an authority: its text, and what follows it. -/
def readAuthority (k : SchemeKind) (scheme : String) (s : List Char) :
    Except Fault (String × List Char) := do
  let authority := s.takeWhile (!endsAuthority k ·)
  let behind := s.drop authority.length
  let (user, place) := cutUser authority
  if user = some [] ∧ place = [] ∧ behind ≠ [] then throw .emptyHost
  let (hostPart, portPart) := cutHost false place
  if k.isSpecial ∧ hostPart = [] then throw .emptyHost
  let host ← if k.isSpecial then Host.ofDomain hostPart else Host.ofText hostPart
  if host = .name "" ∧ portPart ≠ [] then throw .emptyHost
  -- behind the port of any scheme a backslash ends the authority
  let digits := (portPart.drop 1).takeWhile (· ≠ '\\')
  let behind := (portPart.drop 1).drop digits.length ++ behind
  let port ← readPort scheme digits
  let user := userText (user.getD [])
  if host = .name "" ∧ user ≠ [] then throw .emptyHost
  return (String.ofList user ++ host.text ++ port.elim "" (fun n => ":" ++ toString n), behind)

/-! ## URLs -/

/-- the part before the first `?` or `#`, and the part from it on -/
def cutPath (s : List Char) : List Char × List Char :=
  let path := s.takeWhile fun c => c ≠ '?' && c ≠ '#'
  (path, s.drop path.length)

/-- the query and the fragment behind a path -/
def readTail (k : SchemeKind) (s : List Char) : Option String × Option String :=
  let fragment (s : List Char) := match s with
    | '#' :: rest => some (String.ofList (percentEncode fragmentSet rest))
    | _ => none
  match s with
  | '?' :: rest =>
    let query := rest.takeWhile (· ≠ '#')
    let set := if k.isSpecial then specialQuerySet else querySet
    (some (String.ofList (percentEncode set query)), fragment (rest.drop query.length))
  | _ => (none, fragment s)

def finish (k : SchemeKind) (scheme : String) (authority : Option String) (path : List Char)
    (flat : Bool) (rest : List Char) : Url :=
  let (query, fragment) := readTail k rest
  { scheme, authority, path := String.ofList path, flat, query, fragment }

/-- a URL with an authority -/
def readAuthorityUrl (k : SchemeKind) (scheme : String) (s : List Char) : Except Fault Url := do
  let (authority, rest) ← readAuthority k scheme s
  let (path, rest) := cutPath rest
  return finish k scheme (some authority) (Path.readBehindHost k path).path false rest

/-- a URL of a file, behind its scheme -/
def readFile (s : List Char) : Except Fault Url := do
  match s with
  | a :: b :: rest =>
    if SchemeKind.file.isSlash a ∧ SchemeKind.file.isSlash b then
      let hostPart := rest.takeWhile (!endsAuthority .file ·)
      if hostPart = [] ∨ Path.isDriveLetter hostPart then
        let (path, rest) := cutPath rest
        return finish .file "file" (some "") (Path.read .file ['/'] path).path false rest
      let host ← Host.ofDomain hostPart
      let (path, rest) := cutPath (rest.drop hostPart.length)
      if host = .name "localhost" then
        return finish .file "file" (some "") (Path.read .file ['/'] path).path false rest
      let b := Path.readBehindHost .file path
      return finish .file "file" (some (if b.keepsHost then host.text else "")) b.path false rest
  | _ => pure ()
  let start := if s.head?.any SchemeKind.file.isSlash then [] else ['/']
  let (path, rest) := cutPath s
  return finish .file "file" (some "") (Path.read .file start path).path false rest

/-- a URL of a scheme that is not special, behind its scheme -/
def readOther (scheme : String) (s : List Char) : Except Fault Url :=
  match s with
  | '/' :: '/' :: rest => readAuthorityUrl .other scheme rest
  | '/' :: rest =>
    let (path, rest) := cutPath rest
    .ok (finish .other scheme none (Path.read .other ['/'] path).path false rest)
  | _ =>
    let (path, rest) := cutPath s
    .ok (finish .other scheme none (percentEncode [] path) true rest)

/-- the absolute URL of a text -/
def read (text : String) : Except Fault Url :=
  match cutScheme? (cleaned text.toList) with
  | none => .error .relative
  | some (scheme, rest) =>
    match schemeKind scheme with
    | .file => readFile rest
    | .special =>
      readAuthorityUrl .special scheme (rest.dropWhile SchemeKind.special.isSlash)
    | .other => readOther scheme rest

/-- Checks a text without scheme as if it stood in a document of scheme `http`: behind two slashes
there must be an authority, and all else is a path. -/
def checkRelative (text : String) : Except Fault Unit := do
  let s := cleaned text.toList
  match s with
  | a :: b :: rest =>
    if SchemeKind.special.isSlash a ∧ SchemeKind.special.isSlash b then
      let s := if a = '/' ∧ b = '/' then rest else rest.dropWhile SchemeKind.special.isSlash
      let _ ← readAuthority .special "http" s
  | _ => pure ()

end SchemaModel.Url

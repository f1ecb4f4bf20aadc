import SchemaModel.Text.Split
import SchemaModel.Url.Percent

/-!
# Paths

A path is built segment by segment: `.` adds nothing and `..` takes the last segment away. The path
of a file may start with a drive letter, which `..` does not take away.
-/

namespace SchemaModel.Url

/-- the kinds of schemes, which differ in hosts and paths -/
inductive SchemeKind where
  /-- `http`, `https`, `ws`, `wss` and `ftp` -/
  | special
  | file
  | other
  deriving DecidableEq, Repr

/-- `special` or `file` -/
def SchemeKind.isSpecial (k : SchemeKind) : Bool := k ≠ .other

/-- a character that ends a segment -/
def SchemeKind.isSlash (k : SchemeKind) (c : Char) : Bool := c = '/' || (k.isSpecial && c = '\\')

namespace Path

/-! ## drive letters -/

/-- a letter and `:` or `|` -/
def isDriveLetter : List Char → Bool
  | [c, d] => c.isAlpha && (d = ':' || d = '|')
  | _ => false

/-- a letter and `:` -/
def isPlainDrive (s : List Char) : Bool := isDriveLetter s && s.getLast? = some ':'

/-- a slash, a drive letter, and then a slash or the end -/
def startsWithDrive : List Char → Bool
  | '/' :: c :: d :: rest =>
    isDriveLetter [c, d] && rest.head?.all fun e => e = '/' || e = '\\' || e = '?' || e = '#'
  | _ => false

/-! ## segments -/

/-- the part before the last slash, and the part from it on -/
def cutAtLastSlash (path : List Char) : List Char × List Char :=
  let back := path.reverse.takeWhile (· ≠ '/')
  let front := path.take (path.length - back.length - 1)
  (front, path.drop front.length)

/-- The slash at the end of a path, unless it is the first or stands behind a drive letter, is
dropped. -/
def dropSlash (path : List Char) : List Char :=
  if path.getLast? = some '/' then
    let front := path.dropLast
    if front.contains '/' && !startsWithDrive ((cutAtLastSlash front).2 ++ ['/']) then front
    else path
  else path

/-- The last segment is dropped, unless it is the drive letter of a file. -/
def shorten (k : SchemeKind) (path : List Char) : List Char :=
  if path = [] then path
  else
    let (front, back) := cutAtLastSlash path
    if k = .file ∧ isPlainDrive (back.drop 1) then path else front ++ ['/']

def isDot (s : String) : Bool := s ∈ [".", "%2e", "%2E"]

def isDoubleDot (s : String) : Bool :=
  s ∈ ["..", "%2e%2e", "%2e%2E", "%2E%2e", "%2E%2E", "%2e.", "%2E.", ".%2e", ".%2E"]

def endsWithSlash (path : List Char) : Bool := path.getLast? = some '/'

/-- a path while it is built -/
structure Builder where
  path : List Char
  /-- a file with a drive letter loses its host -/
  keepsHost : Bool

/-- Adds a segment, which is closed by a slash or ends the path. -/
def Builder.add (k : SchemeKind) (b : Builder) (segment : List Char) (closed : Bool) : Builder :=
  let segment := percentEncode pathSet segment
  let slash := if closed then ['/'] else []
  let name := String.ofList segment
  if isDoubleDot name then
    let path := shorten k (dropSlash b.path)
    { b with path := if closed && !endsWithSlash path then path ++ ['/'] else path }
  else if isDot name then
    { b with path := if endsWithSlash b.path then b.path else b.path ++ ['/'] }
  else if k = .file ∧ b.path.length = 1 ∧ isDriveLetter segment then
    { path := b.path ++ segment.take 1 ++ [':'] ++ slash, keepsHost := false }
  else { b with path := b.path ++ segment ++ slash }

/-- Adds all segments of a text. -/
def Builder.addAll (k : SchemeKind) (b : Builder) : List (List Char) → Builder
  | [] => b
  | [last] => b.add k last false
  | segment :: rest => (b.add k segment true).addAll k rest

/-- Reads the rest of a path that starts with `start`. -/
def read (k : SchemeKind) (start s : List Char) : Builder :=
  let b := Builder.addAll k ⟨start, true⟩ (Text.pieces k.isSlash s)
  if k = .file then { b with path := '/' :: b.path.dropWhile (· = '/') } else b

/-- Reads the path behind a host. A special URL always has one. -/
def readBehindHost (k : SchemeKind) (s : List Char) : Builder :=
  if k.isSpecial then
    match s with
    | c :: rest => read k ['/'] (if k.isSlash c then rest else s)
    | [] => read k ['/'] []
  else match s with
    | [] => ⟨[], true⟩
    | '/' :: _ => read k [] s
    | _ => read k ['/'] s

end Path

end SchemaModel.Url

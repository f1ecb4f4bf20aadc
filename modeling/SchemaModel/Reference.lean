import SchemaModel.Url.Reader

/-!
# References

A reference is a fragment, which addresses a place in the same document, or a URI. A fragment and a
relative URI are kept as they were written; an absolute URI is kept in normal form.
-/

namespace SchemaModel

inductive Uri where
  | absolute (u : Url)
  | relative (text : String)
  deriving DecidableEq, Repr

namespace Uri

def isAbsolute : Uri → Bool
  | absolute _ => true
  | relative _ => false

def text : Uri → String
  | absolute u => u.text
  | relative s => s

/-- the fragment with its `#` -/
def fragment? : Uri → Option String
  | absolute u => u.fragment.map ("#" ++ ·)
  | relative s =>
    match s.toList.dropWhile (· ≠ '#') with
    | [] => none
    | rest => some (String.ofList rest)

/-- What equality and hashing look at: the text without fragment, and the fragment. -/
inductive Key where
  | absolute (text : String) (fragment : Option String)
  | relative (text : String)
  deriving DecidableEq, Repr

def key : Uri → Key
  | absolute u => .absolute u.withoutFragment.text u.fragment
  | relative s => .relative s

/-- Two URIs are the same. -/
def same (a b : Uri) : Bool :=
  match a, b with
  | absolute u, absolute v =>
    u.withoutFragment.text = v.withoutFragment.text ∧ u.fragment = v.fragment
  | relative s, relative t => s = t
  | _, _ => false

end Uri

inductive Reference where
  /-- a text that starts with `#` -/
  | fragment (text : String)
  | uri (u : Uri)
  deriving DecidableEq, Repr

namespace Reference

def text : Reference → String
  | fragment s => s
  | uri u => u.text

def isFragment : Reference → Bool
  | fragment _ => true
  | uri _ => false

/-- a reference taken as what it is not -/
inductive Misuse where
  | notFragment (text : String)
  | notUri (text : String)
  deriving DecidableEq, Repr

def Misuse.message : Misuse → String
  | notFragment text => "'" ++ text ++ "' is a URI, not a fragment"
  | notUri text => "'" ++ text ++ "' is a fragment, not a URI"

/-- the text of a fragment -/
def asFragment : Reference → Except Misuse String
  | fragment s => .ok s
  | uri u => .error (.notFragment u.text)

/-- the URI of a reference that is none of the same document -/
def asUri : Reference → Except Misuse Uri
  | fragment s => .error (.notUri s)
  | uri u => .ok u

/-- the reference in a text -/
def read (s : String) : Except Url.Fault Reference :=
  if s.toList.head? = some '#' then .ok (.fragment s)
  else match Url.read s with
    | .ok u => .ok (.uri (.absolute u))
    | .error .relative => do
      Url.checkRelative s
      return .uri (.relative s)
    | .error fault => .error fault

/-- Two references are the same. -/
def same (a b : Reference) : Bool :=
  match a, b with
  | fragment s, fragment t => s = t
  | uri u, uri v => u.same v
  | _, _ => false

/-- what hashing looks at -/
inductive Key where
  | fragment (text : String)
  | uri (key : Uri.Key)
  deriving DecidableEq, Repr

def key : Reference → Key
  | fragment s => .fragment s
  | uri u => .uri u.key

end Reference

end SchemaModel

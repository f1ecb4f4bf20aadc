import SchemaModel.Url.Path

/-!
# URLs

The parts of an absolute URL, each in the form in which it is written.
-/

namespace SchemaModel

structure Url where
  scheme : String
  /-- user information, host and port -/
  authority : Option String
  path : String
  /-- The path is a text without segments. -/
  flat : Bool
  query : Option String
  fragment : Option String
  deriving DecidableEq, Repr

namespace Url

/-- The path in text. Without an authority it does not start with two slashes. -/
def pathText (u : Url) : String :=
  if u.authority = none ∧ u.path.toList.take 2 = ['/', '/'] then "/." ++ u.path else u.path

def text (u : Url) : String :=
  u.scheme ++ ":" ++ (u.authority.elim "" ("//" ++ ·)) ++ u.pathText ++
    (u.query.elim "" ("?" ++ ·)) ++ (u.fragment.elim "" ("#" ++ ·))

/-- The URL without its fragment. A path without segments and without a query behind it does not
keep spaces at its end. -/
def withoutFragment (u : Url) : Url :=
  let path :=
    if u.flat ∧ u.query = none then
      String.ofList (u.path.toList.reverse.dropWhile (· = ' ')).reverse
    else u.path
  { u with path, fragment := none }

end Url

end SchemaModel

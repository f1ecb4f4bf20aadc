import SchemaModel.Text.Word

/-!
# Names of generated types, properties and members

Every name is made from a text of the schema: types, properties and members in upper camel case,
fields and modules in snake case. A name that would be empty or start with an ASCII digit gets a
letter or `_` in front.
-/

namespace SchemaModel.Naming

/-- A name, behind `mark` when it is empty or starts with an ASCII digit. -/
def guarded (mark : Char) (name : String) : String :=
  match name.toList with
  | [] => mark.toString
  | c :: _ => if c.isDigit then mark.toString ++ name else name

/-- the name of a type or property -/
def typeName (s : String) : String := guarded 'T' (Text.upperCamel s)

/-- the name of an enumeration member -/
def memberName (s : String) : String := guarded 'E' (Text.upperCamel s)

/-! ## fields and modules -/

/-- the keywords of Rust that are escaped, `gen` and `yield` among them -/
def keywords : List String := [
  "as", "async", "await", "break", "const", "continue", "crate", "dyn", "else", "enum", "extern",
  "false", "fn", "for", "gen", "if", "impl", "in", "let", "loop", "match", "mod", "move", "mut",
  "pub", "ref", "return", "self", "Self", "static", "struct", "super", "trait", "true", "type",
  "unsafe", "use", "where", "while", "yield"]

/-- keywords that may not stand behind `r#` -/
def pathKeywords : List String := ["self", "super", "crate", "Self"]

/-- The identifier of a field or module. A keyword becomes a raw identifier, or gets a `_` behind
it where no raw identifier exists. -/
def fieldName (s : String) : String :=
  let name := guarded '_' (Text.snake s)
  if name ∈ pathKeywords then name ++ "_"
  else if name ∈ keywords then "r#" ++ name
  else name

/-- a text without the marks `r#` in front -/
def dropRaw : List Char → List Char
  | 'r' :: '#' :: rest => dropRaw rest
  | s => s

/-- an identifier without the mark of raw identifiers -/
def plain (name : String) : String := String.ofList (dropRaw name.toList)

/-! ## hint keys and repeated names -/

/-- the hint key of a property -/
def propertyKey (className propertyName : String) : String := className ++ "." ++ propertyName

/-- The names that remain after those in `before`; a name that occurs more than once in `all` is
followed by its ordinal. -/
def numberedFrom (all before : List String) : List String → List String
  | [] => []
  | name :: rest =>
    (if 1 < all.count name then name ++ toString (before.count name + 1) else name) ::
      numberedFrom all (name :: before) rest

/-- A list of names in which the repeated ones are numbered from 1. -/
def numbered (names : List String) : List String := numberedFrom names [] names

theorem length_numberedFrom (all before names : List String) :
    (numberedFrom all before names).length = names.length := by
  induction names generalizing before with
  | nil => rfl
  | cons name rest ih => simp [numberedFrom, ih]

theorem length_numbered (names : List String) : (numbered names).length = names.length :=
  length_numberedFrom names [] names

end SchemaModel.Naming

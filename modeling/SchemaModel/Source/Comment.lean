import SchemaModel.Text.Blank
import SchemaModel.Text.Split

/-!
# Descriptions as comments

A description is written as documentation in front of what it describes, every line of it on a line
of its own.
-/

namespace SchemaModel.Source

/-- one line of documentation, without blanks at its end -/
def commentLine (indent : String) (line : List Char) : String :=
  match Text.trimEnd line with
  | [] => indent ++ "///"
  | trimmed => indent ++ "/// " ++ String.ofList trimmed

/-- The lines of a description; a blank one has none. -/
def comment (indent : String) (description : Option String) : List String :=
  match description with
  | none => []
  | some s => (Text.lines (Text.trimList s.toList)).map (commentLine indent)

end SchemaModel.Source

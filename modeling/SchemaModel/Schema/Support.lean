import SchemaModel.Error
import SchemaModel.Pointer

/-!
# Keywords that a strict run refuses

Every keyword that is not read is an issue: one of the language of schemas that no model expresses,
or one that the language does not have. Issues are listed in the order of the document, those of a
nested schema where its keyword stands.
-/

namespace SchemaModel.Schema

/-- the keywords that are read, and `$schema` -/
def supported : List String := [
  "$schema", "title", "description", "type", "properties", "required", "enum", "items",
  "definitions", "$ref", "format"]

/-- keywords that no model expresses -/
def unsupported : List String := [
  "$id", "id", "$defs", "additionalItems", "additionalProperties", "allOf", "anyOf", "const",
  "default", "dependencies", "deprecated", "examples", "exclusiveMaximum", "exclusiveMinimum",
  "maxItems", "maxLength", "maxProperties", "maximum", "minItems", "minLength", "minProperties",
  "minimum", "multipleOf", "not", "oneOf", "pattern", "patternProperties", "propertyNames",
  "readOnly", "uniqueItems", "writeOnly"]

/-- the issue of a keyword that is not supported -/
def issue (p : Pointer) (keyword : String) : Issue :=
  ⟨p.text, keyword, if keyword ∈ unsupported then .unsupported else .unknown⟩

mutual

/-- the issues of a schema and of all schemas in it -/
def issues (p : Pointer) : Json → List Issue
  | .object fields => fieldIssues p fields
  | _ => []

def fieldIssues (p : Pointer) : List (String × Json) → List Issue
  | [] => []
  | (key, .object members) :: rest =>
    (if key ∉ supported then [issue p key]
     else if key = "properties" ∨ key = "definitions" then memberIssues (p ++ [key]) members
     else if key = "items" then fieldIssues (p ++ [key]) members
     else []) ++ fieldIssues p rest
  | (key, _) :: rest =>
    (if key ∉ supported then [issue p key] else []) ++ fieldIssues p rest

def memberIssues (p : Pointer) : List (String × Json) → List Issue
  | [] => []
  | (name, j) :: rest => issues (p ++ [name]) j ++ memberIssues p rest

end

/-- A schema holds supported keywords only. -/
def checkSupported (j : Json) : Except Error Unit :=
  match issues [] j with
  | [] => .ok ()
  | found => .error (.refusedKeywords found)

end SchemaModel.Schema

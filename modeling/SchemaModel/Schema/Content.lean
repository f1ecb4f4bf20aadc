import SchemaModel.Error
import SchemaModel.Pointer
import SchemaModel.Reference
import SchemaModel.Text.SortedSet

/-!
# What a schema says about itself

The keywords of a schema that hold no other schema. A keyword whose value is null counts as absent,
and a keyword that is not read may hold anything.
-/

namespace SchemaModel.Schema

/-- the value of `type` -/
inductive ValueType where
  | object
  | array
  | string
  | integer
  | number
  | boolean
  | null
  deriving DecidableEq, Repr

def ValueType.ofText? : String → Option ValueType
  | "object" => some object
  | "array" => some array
  | "string" => some string
  | "integer" => some integer
  | "number" => some number
  | "boolean" => some boolean
  | "null" => some null
  | _ => none

structure Content where
  type : Option ValueType := none
  title : Option String := none
  /-- without white space around it, and not blank -/
  description : Option String := none
  /-- the values of an enumeration -/
  values : Option (List String) := none
  /-- keys of the required properties, ascending -/
  required : List String := []
  reference : Option Reference := none
  format : Option String := none
  deriving DecidableEq, Repr

/-! ## fields -/

/-- The mismatch of a field whose value has another type than its keyword asks for. -/
def mismatch? (field : String × Json) : Option Json.Mismatch :=
  match field.1 with
  | "title" | "description" | "type" | "$ref" | "format" =>
    Json.faultOf (field.2.optional Json.asText)
  | "properties" | "definitions" => Json.faultOf (field.2.optional Json.asFields)
  | "required" => Json.faultOf (field.2.optional Json.asTexts)
  | "enum" => Json.faultOf (field.2.optional Json.asItems)
  | _ => none

/-- Every keyword has a value of its type. The first field that does not is reported. -/
def checkTypes (p : Pointer) (fields : List (String × Json)) : Except Error Unit :=
  match fields.findSome? mismatch? with
  | none => .ok ()
  | some m => .error (.invalidSchema p.text (.illTyped m))

/-! ## keywords with a meaning of their own -/

def readReference (fields : List (String × Json)) : Except Error (Option Reference) :=
  match Json.textAt? "$ref" fields with
  | none => .ok none
  | some s =>
    match Reference.read s with
    | .ok r => .ok (some r)
    | .error fault => .error (.malformedReference s fault)

def readType (p : Pointer) (fields : List (String × Json)) : Except Error (Option ValueType) :=
  match Json.textAt? "type" fields with
  | none => .ok none
  | some s =>
    match ValueType.ofText? s with
    | some t => .ok (some t)
    | none => .error (.invalidSchema p.text (.unknownType s))

/-- Distinct texts, given those in front. -/
def readDistinct (before : List String) : List Json → Except Fault (List String)
  | [] => .ok []
  | .string s :: rest =>
    if s ∈ before then .error (.repeatedValue s)
    else (s :: ·) <$> readDistinct (before ++ [s]) rest
  | other :: _ => .error (.valueNotText other)

/-- The values of an enumeration: at least one, all of them texts, none twice. -/
def readValues (p : Pointer) (fields : List (String × Json)) :
    Except Error (Option (List String)) :=
  match fields.lookup "enum" with
  | some (.array []) => .error (.invalidSchema p.text .noValues)
  | some (.array items) =>
    match readDistinct [] items with
    | .ok values => .ok (some values)
    | .error fault => .error (.invalidSchema p.text fault)
  | _ => .ok none

/-- the content of a schema, with the keywords that have been checked -/
def content (fields : List (String × Json)) (reference : Option Reference)
    (type : Option ValueType) (values : Option (List String)) : Content where
  type
  title := Json.textAt? "title" fields
  description := (Json.textAt? "description" fields).bind Text.nonBlank?
  values
  required := Text.sortedSet ((Json.textsAt? "required" fields).getD [])
  reference
  format := Json.textAt? "format" fields

end SchemaModel.Schema

import SchemaModel.Json.Typed

/-!
# Faults of schemas

What makes a value no schema, and the keywords that a strict run refuses.
-/

namespace SchemaModel.Schema

/-- why a value is no schema -/
inductive Fault where
  | notObject
  | illTyped (m : Json.Mismatch)
  /-- `items` lists one schema per position -/
  | itemsPerPosition
  | unknownType (name : String)
  | noValues
  | valueNotText (found : Json)
  | repeatedValue (value : String)
  /-- an array whose items lead back to it, with arrays only on the way -/
  | arrayOfItself
  deriving Repr

def Fault.message : Fault → String
  | notObject => "schema must be a JSON object"
  | illTyped m => m.message
  | itemsPerPosition => "tuple-typed \"items\" is not supported"
  | unknownType name => "unsupported type \"" ++ name ++ "\""
  | noValues => "enum must have at least one value"
  | valueNotText found => "enum values must be strings, found " ++ found.text
  | repeatedValue value => "duplicate enum value \"" ++ value ++ "\""
  | arrayOfItself => "array items refer back to the array without passing through an object"

/-- how a refused keyword stands to the language of schemas -/
inductive KeywordStatus where
  /-- a keyword that no model expresses -/
  | unsupported
  /-- no keyword at all -/
  | unknown
  deriving DecidableEq, Repr

def KeywordStatus.name : KeywordStatus → String
  | unsupported => "unsupported"
  | unknown => "unknown"

/-- a refused keyword -/
structure Issue where
  /-- the pointer of the schema that holds it -/
  pointer : String
  keyword : String
  status : KeywordStatus
  deriving DecidableEq, Repr

def Issue.message (i : Issue) : String :=
  (if i.pointer = "" then "(root)" else i.pointer) ++ ": " ++ i.status.name ++
    " keyword \"" ++ i.keyword ++ "\""

end SchemaModel.Schema

import SchemaModel.Json.SyntaxError
import SchemaModel.Json.Typed

/-!
# Faults of hint documents
-/

namespace SchemaModel.Hint

inductive Fault where
  | malformed (e : Json.SyntaxError)
  | documentNotObject
  | recordsNotArray
  | recordNotObject
  | noVariant
  | variantNotText
  | unknownVariant (text : String)
  | illTyped (m : Json.Mismatch)
  | unknownField (name : String) (allowed : List String)
  | missingField (name : String)
  deriving Repr

/-- a name as messages show it -/
def ticked (name : String) : String := "`" ++ name ++ "`"

def allowedText : List String → String
  | [name] => ticked name
  | names => "one of " ++ ", ".intercalate (names.map ticked)

def Fault.message : Fault → String
  | malformed e => e.message
  | documentNotObject => "hint document must be a JSON object"
  | recordsNotArray => "hints must be given as an array"
  | recordNotObject => "hint record must be a JSON object"
  | noVariant => "hint record has no \"$type\""
  | variantNotText => "\"$type\" must be a string"
  | unknownVariant text => "unknown hint type \"" ++ text ++ "\""
  | illTyped m => m.message
  | unknownField name allowed =>
    "unknown field " ++ ticked name ++ ", expected " ++ allowedText allowed
  | missingField name => "missing field " ++ ticked name

end SchemaModel.Hint

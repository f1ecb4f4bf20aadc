import SchemaModel.Source.Boxing

/-!
# Types in source text
-/

namespace SchemaModel.Source

def typeText : TypeRef → String
  | .boolean => "bool"
  | .integer => "i64"
  | .number => "f64"
  | .string => "String"
  | .dateTime => "chrono::DateTime<chrono::Utc>"
  | .any => "serde_json::Value"
  | .classNamed name => name
  | .enumNamed name => name
  | .sequence element => "Vec<" ++ typeText element ++ ">"

/-- The type of a field of the class `owner`. A class that leads back to the owner is boxed. -/
def fieldTypeText (models : ModelSet) (owner : String) : TypeRef → String
  | .classNamed name => if models.leadsTo name owner then "Box<" ++ name ++ ">" else name
  | type => typeText type

end SchemaModel.Source

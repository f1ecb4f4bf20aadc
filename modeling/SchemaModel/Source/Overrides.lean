import SchemaModel.Model.Equality
import SchemaModel.Naming

/-!
# Equality and hash in source text
-/

namespace SchemaModel.Source

/-- one comparison per property, all but the first behind `&&` -/
def comparisonLines : List String → List String
  | [] => ["        true"]
  | first :: rest =>
    ("        self." ++ first ++ " == other." ++ first) ::
      rest.map fun field => "            && self." ++ field ++ " == other." ++ field

def equalityLines (c : EqualityContract) : List String :=
  let other := if c.members = [] then "_other" else "other"
  ["impl PartialEq for " ++ c.typeName ++ " \x7b",
    "    fn eq(&self, " ++ other ++ ": &Self) -> bool \x7b"] ++
  comparisonLines (c.members.map fun m => Naming.fieldName m.propertyName) ++
  ["    \x7d", "\x7d"]

/-- the line that hashes one property -/
def hashLine (m : MemberContract) : String :=
  let field := "self." ++ Naming.fieldName m.propertyName
  match m.hashing with
  | .direct => "        std::hash::Hash::hash(&" ++ field ++ ", state);"
  | .canonical =>
    "        std::hash::Hash::hash(&format!(\"\x7b:?\x7d\", " ++ field ++ "), state);"

def hashLines (c : EqualityContract) : List String :=
  ["impl std::hash::Hash for " ++ c.typeName ++ " \x7b",
    "    fn hash<H: std::hash::Hasher>(&self, state: &mut H) \x7b",
    "        state.write_u32(" ++ toString c.seed.toNat ++ ");"] ++
  c.members.map hashLine ++
  ["    \x7d", "\x7d"]

end SchemaModel.Source

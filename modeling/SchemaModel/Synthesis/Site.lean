import SchemaModel.Graph.Resolve
import SchemaModel.Hint.Basic
import SchemaModel.Naming

/-!
# Names of classes and properties

A schema is named by the way on which it is first reached. A class takes the name of its definition
or of the property that holds it, the class of the root takes the name in the settings, and hints
replace all names but that of the root. Two properties of one class that would have the same name
are numbered.
-/

namespace SchemaModel

/-- the way on which a schema is reached -/
structure Site where
  /-- class and property, under which hints are looked up -/
  propertyKey : Option String := none
  /-- the name of a class that is no definition -/
  inlineName : String
  deriving DecidableEq, Repr

/-- the site of the items of an array -/
def Site.items (site : Site) : Site := { site with inlineName := site.inlineName ++ "Item" }

/-- the site of a property that has the key `jsonName` -/
def Site.ofProperty (className jsonName : String) : Site where
  propertyKey := some (Naming.propertyKey className (Naming.typeName jsonName))
  inlineName := Naming.typeName jsonName

/-! ## classes -/

/-- the name of a class without hints, and the keys under which hints are looked up -/
def classKeys (g : Graph) (site : Site) (id : NodeId) : String × List String :=
  let (name, keys) := match (g.node id).pointer.definition? with
    | some definition => (Naming.typeName definition, [definition])
    | none => (site.inlineName, site.propertyKey.toList)
  (name, if name ∈ keys then keys else keys ++ [name])

/-- the name of the class of an object -/
def className (g : Graph) (hints : Hints) (site : Site) (id : NodeId) : String :=
  if id = g.root then site.inlineName
  else
    let (name, keys) := classKeys g site id
    match hints.findFirst? Hint.className? keys with
    | some (_, hinted) => Naming.typeName hinted
    | none => name

/-! ## properties -/

/-- a property of a schema, with its name in the class -/
structure NamedProperty where
  jsonName : String
  child : NodeId
  name : String
  deriving DecidableEq, Repr

/-- the name of a property, before repeated names are numbered -/
def propertyName (hints : Hints) (className jsonName : String) : String :=
  let name := Naming.typeName jsonName
  match hints.find? Hint.propertyName? (Naming.propertyKey className name) with
  | some hinted => Naming.typeName hinted
  | none => name

/-- the properties of a class with their names -/
def namedProperties (hints : Hints) (className : String) (properties : List (String × NodeId)) :
    List NamedProperty :=
  List.zipWith (fun (jsonName, child) name => ⟨jsonName, child, name⟩) properties
    (Naming.numbered (properties.map fun (jsonName, _) => propertyName hints className jsonName))

end SchemaModel

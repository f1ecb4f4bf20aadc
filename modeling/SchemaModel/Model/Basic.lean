/-!
# The object model

What a schema is turned into: classes with properties, and enumerations with members. A model set
lists them in the order in which they were finished, so that a class stands behind the types it was
the first to need.
-/

namespace SchemaModel

/-- the type of a property -/
inductive TypeRef where
  | boolean
  | integer
  | number
  | string
  | dateTime
  /-- a value without constraints -/
  | any
  | classNamed (name : String)
  | enumNamed (name : String)
  | sequence (element : TypeRef)
  deriving DecidableEq, Inhabited, Repr

/-- the class or enumeration that a type refers to, looking through sequences -/
def TypeRef.named? : TypeRef → Option String
  | .classNamed name => some name
  | .enumNamed name => some name
  | .sequence element => element.named?
  | _ => none

structure Property where
  name : String
  /-- key of the property in a document -/
  jsonName : String
  type : TypeRef
  required : Bool
  description : Option String
  deriving DecidableEq, Repr

structure ClassModel where
  namespaceName : String
  name : String
  description : Option String
  properties : List Property
  /-- whether equality and hash are written out for the class -/
  overrides : Bool
  deriving DecidableEq, Repr

structure EnumMember where
  name : String
  /-- the schema value that the member stands for; the zero member stands for none -/
  value : Option String
  deriving DecidableEq, Repr

structure EnumModel where
  namespaceName : String
  name : String
  description : Option String
  members : List EnumMember
  deriving DecidableEq, Repr

/-- the member that a value of the type has by default -/
def EnumModel.default? (e : EnumModel) : Option EnumMember := e.members.head?

inductive Model where
  | ofClass (c : ClassModel)
  | ofEnum (e : EnumModel)
  deriving DecidableEq, Repr

namespace Model

def name : Model → String
  | ofClass c => c.name
  | ofEnum e => e.name

def namespaceName : Model → String
  | ofClass c => c.namespaceName
  | ofEnum e => e.namespaceName

def class? : Model → Option ClassModel
  | ofClass c => some c
  | ofEnum _ => none

def enum? : Model → Option EnumModel
  | ofClass _ => none
  | ofEnum e => some e

end Model

/-- models in the order in which they were finished -/
abbrev ModelSet := List Model

namespace ModelSet

def classes (models : ModelSet) : List ClassModel := models.filterMap Model.class?

def enums (models : ModelSet) : List EnumModel := models.filterMap Model.enum?

/-- the first model of a name -/
def get? (models : ModelSet) (name : String) : Option Model :=
  List.find? (fun m => m.name = name) models

def getClass? (models : ModelSet) (name : String) : Option ClassModel :=
  models.classes.find? fun c => c.name = name

def getEnum? (models : ModelSet) (name : String) : Option EnumModel :=
  models.enums.find? fun e => e.name = name

end ModelSet

end SchemaModel

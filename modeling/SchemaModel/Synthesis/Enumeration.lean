import SchemaModel.Error
import SchemaModel.Hint.Basic
import SchemaModel.Model.Basic
import SchemaModel.Naming

/-!
# Enumerations

An enumeration is named by its hint or else by its definition, never silently by the property that
holds it. Its members stand for the values of the schema in order; a zero member may stand in front
of them.
-/

namespace SchemaModel

/-- an enumeration in a schema, with what leads to its name -/
structure EnumSite where
  /-- class and property through which it was reached -/
  propertyKey : Option String
  /-- the name of its definition -/
  definition : Option String
  /-- where it stands in the document -/
  pointer : String
  description : Option String
  values : List String
  deriving DecidableEq, Repr

/-- an enumeration ready to become a model -/
structure NamedEnum where
  typeName : String
  description : Option String
  members : List EnumMember
  deriving DecidableEq, Repr

namespace EnumSite

/-- the keys under which a hint is looked up, the first one first -/
def hintKeys (site : EnumSite) : List String :=
  site.propertyKey.toList ++
    match site.definition with
    | none => []
    | some name =>
      if Naming.typeName name = name then [name] else [name, Naming.typeName name]

/-- The name of the type: that of the hint unless it is blank, or that of the definition. -/
def typeName? (site : EnumSite) (hint : EnumHint) : Option String :=
  ((hint.typeName.bind Text.nonBlank?).or site.definition).map Naming.typeName

/-- what an error calls an enumeration without a name -/
def place (site : EnumSite) : String := site.propertyKey.getD ("#" ++ site.pointer)

/-- The members for given names of the values, one name per value. -/
def members (site : EnumSite) (zero : Option String) (names : List String) : List EnumMember :=
  List.zipWith EnumMember.mk
    (Naming.numbered ((zero.toList ++ names).map Naming.memberName))
    (zero.toList.map (fun _ => none) ++ site.values.map some)

/-- The enumeration that a hint makes of a site. -/
def apply (site : EnumSite) (hint : EnumHint) : Except Error NamedEnum :=
  match site.typeName? hint with
  | none => .error (.namelessEnum site.place)
  | some typeName =>
    let names := hint.members.getD site.values
    if names.length ≠ site.values.length then
      .error (.memberCount typeName names.length site.values.length)
    else .ok {
      typeName
      description := (hint.description.or site.description).bind Text.nonBlank?
      members := site.members hint.zeroValue names }

/-- The enumeration of a site, with the hint that is found for it. -/
def synthesize (site : EnumSite) (hints : Hints) : Except Error NamedEnum :=
  site.apply (((hints.findFirst? Hint.enumeration? site.hintKeys).map Prod.snd).getD {})

end EnumSite

end SchemaModel

import SchemaModel.Model.Hash

/-!
# Equality of generated classes

A class whose overrides are asked for comes with an equality and a hash over its properties in
order. The contract says how each property takes part in them.
-/

namespace SchemaModel

/-- how a property is compared -/
inductive Comparison where
  | value
  /-- a nested class, compared property by property -/
  | structural
  /-- element by element, in order -/
  | sequence
  deriving DecidableEq, Repr

/-- how a property is hashed -/
inductive Hashing where
  | direct
  /-- through a text form, for values without a hash of their own -/
  | canonical
  deriving DecidableEq, Repr

structure MemberContract where
  propertyName : String
  comparison : Comparison
  hashing : Hashing
  required : Bool
  deriving DecidableEq, Repr

structure EqualityContract where
  typeName : String
  seed : UInt32
  multiplier : UInt32
  members : List MemberContract
  deriving DecidableEq, Repr

/-- Values of the type have no hash of their own: floating point numbers and values without
constraints, also inside sequences. -/
def TypeRef.hashesByText : TypeRef → Bool
  | number => true
  | any => true
  | sequence element => element.hashesByText
  | _ => false

def TypeRef.comparison : TypeRef → Comparison
  | sequence _ => .sequence
  | classNamed _ => .structural
  | _ => .value

def Property.contract (p : Property) : MemberContract where
  propertyName := p.name
  comparison := p.type.comparison
  hashing := if p.type.hashesByText then .canonical else .direct
  required := p.required

/-- the contract of a class that has overrides -/
def ClassModel.contract? (c : ClassModel) : Option EqualityContract :=
  if c.overrides then
    some ⟨c.name, Hash.seed, Hash.multiplier, c.properties.map Property.contract⟩
  else none

end SchemaModel

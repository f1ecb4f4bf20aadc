/-!
# Hints

A hint changes how one type or property is named or described. Hints are recorded under keys: the
name of a definition, the name of a type, or a class and a property with a point between them. Under
one key several hints may stand; they are kept in the order in which they were recorded.

* `lookup_insert`   a new hint stands behind the others of its key, and only there.
-/

namespace SchemaModel

/-- how an enumeration is named and described -/
structure EnumHint where
  typeName : Option String := none
  description : Option String := none
  /-- names of the members, one per value -/
  members : Option (List String) := none
  /-- the name of one more member, in front of the others -/
  zeroValue : Option String := none
  deriving DecidableEq, Repr

inductive Hint where
  | enumeration (h : EnumHint)
  /-- the name of a class -/
  | className (typeName : String)
  /-- the name of a property -/
  | propertyName (name : String)
  deriving DecidableEq, Repr

namespace Hint

def enumeration? : Hint → Option EnumHint
  | enumeration h => some h
  | _ => none

def className? : Hint → Option String
  | className typeName => some typeName
  | _ => none

def propertyName? : Hint → Option String
  | propertyName name => some name
  | _ => none

end Hint

/-- hints with their keys, in the order in which they were recorded -/
structure Hints where
  records : List (String × Hint) := []
  deriving DecidableEq, Repr

namespace Hints

/-- the hints under a key -/
def lookup (hints : Hints) (key : String) : List Hint :=
  hints.records.filterMap fun (k, hint) => if k = key then some hint else none

def insert (hints : Hints) (key : String) (hint : Hint) : Hints :=
  ⟨hints.records ++ [(key, hint)]⟩

theorem lookup_insert (hints : Hints) (key key' : String) (hint : Hint) :
    (hints.insert key hint).lookup key' =
      hints.lookup key' ++ if key = key' then [hint] else [] := by
  by_cases h : key = key' <;> simp [lookup, insert, h]

/-- the keys that have hints -/
def keys (hints : Hints) : List String := (hints.records.map Prod.fst).eraseDups

/-- the number of keys that have hints -/
def size (hints : Hints) : Nat := hints.keys.length

/-- The same hints stand under every key. -/
def same (a b : Hints) : Bool :=
  (a.keys ++ b.keys).all fun key => a.lookup key = b.lookup key

/-- the first hint of a variant under a key -/
def find? (variant : Hint → Option α) (hints : Hints) (key : String) : Option α :=
  (hints.lookup key).findSome? variant

/-- The first hint of a variant, under the first key that has one, with this key. -/
def findFirst? (variant : Hint → Option α) (hints : Hints) (keys : List String) :
    Option (String × α) :=
  keys.findSome? fun key => (hints.find? variant key).map (key, ·)

end Hints

end SchemaModel

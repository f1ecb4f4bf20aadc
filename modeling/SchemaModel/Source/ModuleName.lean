import SchemaModel.Naming

/-!
# Module names

Every model has a module of its own, named after it in snake case. A name that is taken gets the
first number from 2 on that makes it free.

* `length_moduleNames`   every model has a module.
-/

namespace SchemaModel.Source

/-- a module name with a number behind it -/
def numberedModule (base : String) (n : Nat) : String :=
  Naming.plain base ++ "_" ++ toString n

/-- the names to try for a module when `count` names are taken -/
def candidates (base : String) (count : Nat) : List String :=
  base :: (List.range count).map fun k => numberedModule base (k + 2)

/-- the first name that is free -/
def firstFree (taken : List String) (base : String) : String :=
  ((candidates base taken.length).find? (· ∉ taken)).getD base

/-- The modules of models by name, with those that are taken before. -/
def moduleNamesFrom (taken : List String) : List String → List String
  | [] => []
  | name :: rest =>
    let free := firstFree taken (Naming.fieldName name)
    free :: moduleNamesFrom (free :: taken) rest

def moduleNames (names : List String) : List String := moduleNamesFrom [] names

theorem length_moduleNamesFrom (taken names : List String) :
    (moduleNamesFrom taken names).length = names.length := by
  induction names generalizing taken with
  | nil => rfl
  | cons name rest ih => simp [moduleNamesFrom, ih]

theorem length_moduleNames (names : List String) : (moduleNames names).length = names.length :=
  length_moduleNamesFrom [] names

end SchemaModel.Source

import SchemaModel.Model.Basic
import SchemaModel.Unseen

/-!
# Fields that need a box

A class whose field holds another class by value holds itself by value if this one leads back to
it. Such a field is boxed. A sequence is no value of its elements' size, so fields of sequences do
not count.
-/

namespace SchemaModel

/-- the classes that a class holds by value -/
def ClassModel.held (c : ClassModel) : List String :=
  c.properties.filterMap fun p =>
    match p.type with
    | .classNamed name => some name
    | _ => none

namespace ModelSet

def classNames (models : ModelSet) : List String := models.classes.map (·.name)

theorem mem_classNames_of_getClass? {models : ModelSet} {name : String} {c : ClassModel}
    (h : models.getClass? name = some c) : name ∈ models.classNames := by
  have hc := List.mem_of_find?_eq_some h
  have hn : c.name = name := by simpa using List.find?_some h
  exact List.mem_map.mpr ⟨c, hc, hn⟩

/-- One of the classes that wait leads to `target` by fields that are held, without passing those
in `seen`. -/
def leadsFrom (models : ModelSet) (target : String) (seen : List String) : List String → Bool
  | [] => false
  | name :: waiting =>
    if name = target then true
    else
      match _h : models.getClass? name with
      | none => leadsFrom models target seen waiting
      | some c =>
        if _hs : name ∈ seen then leadsFrom models target seen waiting
        else leadsFrom models target (name :: seen) (c.held ++ waiting)
termination_by waiting => (unseen models.classNames seen, waiting.length)
decreasing_by
  · exact Prod.Lex.right _ (by simp)
  · exact Prod.Lex.right _ (by simp)
  · exact Prod.Lex.left _ _ (unseen_cons_lt (mem_classNames_of_getClass? _h) _hs)

/-- A class leads to another one, or is it, by fields that are held. -/
def leadsTo (models : ModelSet) (source target : String) : Bool :=
  models.leadsFrom target [] [source]

end ModelSet

end SchemaModel

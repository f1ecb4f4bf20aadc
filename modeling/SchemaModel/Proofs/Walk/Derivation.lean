import SchemaModel.Proofs.Lists
import SchemaModel.Synthesis.Models

/-!
# Walks that end well, as derivations

`Run.typeOf` stops at the first fault. A walk that meets none is a finite tree with one rule for
every way in which a node gets its type: it has its name already, it gets one now, it is an array of
another node, or it holds no other schema. What holds of all models is shown by induction on these
trees, one case per rule.

* `typeOf_ok`         a walk from a node that ends well is a derivation of `TypeOf`;
* `propertiesOf_ok`   the same for the properties of a class;
* `walk_ok`           the whole walk: the root first, then the definitions in order;
* `invariant_of_walk` what a walk from each beginning keeps holds at the end;
* `models_ok`         the models are those of a walk from a root that is an object.
-/

namespace SchemaModel

theorem Graph.mem_range_of_shape {g : Graph} {id : NodeId} {s : Shape}
    (hs : (g.node id).shape = s) (hu : s ≠ .unconstrained) : id ∈ List.range g.size :=
  List.mem_range.mpr (lt_size_of_shape (hs ▸ hu))

/-- the type of a shape that holds no other schema -/
def Shape.plain? : Shape → Option TypeRef
  | .array none => some (.sequence .any)
  | .string format => some (if format = some "date-time" then .dateTime else .string)
  | .integer => some .integer
  | .number => some .number
  | .boolean => some .boolean
  | .null | .unconstrained => some .any
  | .enumeration _ | .object _ | .array (some _) => none

/-- a property as its schema declares it -/
def NamedProperty.declared (p : NamedProperty) : String × NodeId := (p.jsonName, p.child)

/-- Naming the properties of a class keeps what is declared, in order. -/
theorem map_declared_namedProperties (hints : Hints) (className : String)
    (properties : List (String × NodeId)) :
    (namedProperties hints className properties).map NamedProperty.declared = properties := by
  refine map_zipWith_left (fun _ _ => rfl) (Nat.le_of_eq ?_)
  rw [Naming.length_numbered, List.length_map]

/-- What a hint makes of an enumeration: a type that has a name, with a member for every value. -/
theorem EnumSite.apply_ok {site : EnumSite} {hint : EnumHint} {e : NamedEnum}
    (h : site.apply hint = .ok e) :
    site.typeName? hint = some e.typeName ∧
      (hint.members.getD site.values).length = site.values.length ∧
      e.members = site.members hint.zeroValue (hint.members.getD site.values) := by
  unfold EnumSite.apply at h
  split at h
  · cases h
  · next name hname =>
    dsimp only at h
    split at h
    · cases h
    · next hcount =>
      cases h
      exact ⟨hname, Decidable.not_not.mp hcount, rfl⟩

namespace Run

mutual

/-- `r.TypeOf trail site id done t done'`: the walk stands at `trail` and has finished `done`; the
node `id`, reached at `site`, has the type `t`, and then `done'` is finished. -/
inductive TypeOf (r : Run) : Trail → Site → NodeId → Finished → TypeRef → Finished → Prop
  | oldEnum {trail site id done values name}
      (hs : (r.graph.node id).shape = .enumeration values)
      (hg : givenName? trail done id = some name) :
      TypeOf r trail site id done (.enumNamed name) done
  | newEnum {trail site id done values e}
      (hs : (r.graph.node id).shape = .enumeration values)
      (hg : givenName? trail done id = none)
      (he : (r.enumSite site id values).synthesize r.hints = .ok e)
      (ho : owner? trail done e.typeName = none) :
      TypeOf r trail site id done (.enumNamed e.typeName)
        (done ++ [(id, .ofEnum ⟨r.settings.namespaceName, e.typeName, e.description, e.members⟩)])
  | oldClass {trail site id done properties name}
      (hs : (r.graph.node id).shape = .object properties)
      (hg : givenName? trail done id = some name) :
      TypeOf r trail site id done (.classNamed name) done
  | newClass {trail site id done properties name types done'}
      (hs : (r.graph.node id).shape = .object properties)
      (hg : givenName? trail done id = none)
      (hn : className r.graph r.hints site id = name)
      (ho : owner? trail done name = none)
      (hp : PropertiesOf r ⟨(id, name) :: trail.classes, []⟩ id name
        (namedProperties r.hints name properties) done types done') :
      TypeOf r trail site id done (.classNamed name)
        (done' ++ [(id, .ofClass (r.classModel name id types))])
  | items {trail site id done items target element done'}
      (hs : (r.graph.node id).shape = .array (some items))
      (ha : id ∉ trail.arrays)
      (hf : r.graph.follow items = .ok target)
      (ht : TypeOf r ⟨trail.classes, id :: trail.arrays⟩ site.items target done element done') :
      TypeOf r trail site id done (.sequence element) done'
  | plain {trail site id done t} (hs : (r.graph.node id).shape.plain? = some t) :
      TypeOf r trail site id done t done

/-- The same for the properties of the class `name` of the node `owner`, in order. -/
inductive PropertiesOf (r : Run) : Trail → NodeId → String → List NamedProperty → Finished →
    List Property → Finished → Prop
  | nil {trail owner name done} : PropertiesOf r trail owner name [] done [] done
  | cons {trail owner name p rest done target t done₁ others done₂}
      (hf : r.graph.follow p.child = .ok target)
      (ht : TypeOf r trail (.ofProperty name p.jsonName) target done t done₁)
      (hp : PropertiesOf r trail owner name rest done₁ others done₂) :
      PropertiesOf r trail owner name (p :: rest) done (r.property owner p t :: others) done₂

end

section
variable {r : Run} {trail : Trail} {site : Site} {id : NodeId} {done done' : Finished}
  {t : TypeRef}

theorem claim_ok {name : String} (h : r.claim trail done name id = .ok ()) :
    owner? trail done name = none := by
  unfold claim at h
  split at h
  · assumption
  · cases h

theorem enumType_ok {values : List String}
    (hs : (r.graph.node id).shape = .enumeration values)
    (h : r.enumType trail site id values done = .ok (t, done')) :
    r.TypeOf trail site id done t done' := by
  unfold enumType at h
  cases hg : givenName? trail done id with
  | some name =>
    rw [hg] at h
    cases h
    exact .oldEnum hs hg
  | none =>
    rw [hg] at h
    obtain ⟨e, he, h⟩ := bind_ok h
    obtain ⟨_, hc, h⟩ := bind_ok h
    cases h
    exact .newEnum hs hg he (claim_ok hc)

end

mutual

theorem typeOf_ok (r : Run) (trail : Trail) (site : Site) (id : NodeId) (done : Finished)
    {t : TypeRef} {done' : Finished} (h : r.typeOf trail site id done = .ok (t, done')) :
    r.TypeOf trail site id done t done' := by
  rw [typeOf] at h
  split at h
  next values hs => exact enumType_ok hs h
  next properties hs =>
    split at h
    next name hg =>
      cases h
      exact .oldClass hs hg
    next hg =>
      obtain ⟨_, hc, h⟩ := bind_ok h
      obtain ⟨⟨types, done₁⟩, hp, h⟩ := bind_ok h
      cases h
      exact .newClass hs hg rfl (claim_ok hc) (propertiesOf_ok r _ _ _ _ _ hp)
  next items hs =>
    split at h
    · cases h
    next ha =>
      split at h
      next hs =>
        cases h
        exact .plain (by rw [hs]; rfl)
      next items hs =>
        obtain ⟨target, hf, h⟩ := bind_ok h
        obtain ⟨⟨element, done₁⟩, ht, h⟩ := bind_ok h
        cases h
        exact .items hs ha hf (typeOf_ok r _ _ _ _ ht)
  next format hs =>
    cases h
    exact .plain (by rw [hs]; rfl)
  all_goals
    next hs =>
      cases h
      exact .plain (by rw [hs]; rfl)
-- the measure of `typeOf`: a walk that ends well takes the same steps
termination_by (unseen (List.range r.graph.size) (trail.classes.map Prod.fst),
  unseen (List.range r.graph.size) trail.arrays, 0)
decreasing_by
  · exact Prod.Lex.left _ _ (unseen_cons_lt
      (Graph.mem_range_of_shape ‹_ = Shape.object _› nofun) (not_mem_of_givenName? ‹_›))
  · exact Prod.Lex.right _ (Prod.Lex.left _ _ (unseen_cons_lt
      (Graph.mem_range_of_shape ‹_ = Shape.array _› nofun) (by assumption)))

theorem propertiesOf_ok (r : Run) (trail : Trail) (owner : NodeId) (className : String)
    (properties : List NamedProperty) (done : Finished) {types : List Property} {done' : Finished}
    (h : r.propertiesOf trail owner className properties done = .ok (types, done')) :
    r.PropertiesOf trail owner className properties done types done' := by
  cases properties with
  | nil =>
    rw [propertiesOf] at h
    cases h
    exact .nil
  | cons p rest =>
    rw [propertiesOf] at h
    obtain ⟨target, hf, h⟩ := bind_ok h
    obtain ⟨⟨t, done₁⟩, ht, h⟩ := bind_ok h
    obtain ⟨⟨others, done₂⟩, hp, h⟩ := bind_ok h
    cases h
    exact .cons hf (typeOf_ok r _ _ _ _ ht) (propertiesOf_ok r _ _ _ rest _ hp)
termination_by (unseen (List.range r.graph.size) (trail.classes.map Prod.fst),
  unseen (List.range r.graph.size) trail.arrays, properties.length + 1)

end

/-! ## the whole walk -/

/-- The walk from definitions of the root, in order. -/
inductive DefinitionsOf (r : Run) : List (String × NodeId) → Finished → Finished → Prop
  | nil {done} : DefinitionsOf r [] done done
  /-- a definition that is a reference -/
  | reference {d rest done done' target} (hf : r.graph.follow d.2 = .ok target) (hn : target ≠ d.2)
      (hd : DefinitionsOf r rest done done') : DefinitionsOf r (d :: rest) done done'
  | own {d rest done t done₁ done₂} (hf : r.graph.follow d.2 = .ok d.2)
      (ht : r.TypeOf {} { inlineName := Naming.typeName d.1 } d.2 done t done₁)
      (hd : DefinitionsOf r rest done₁ done₂) : DefinitionsOf r (d :: rest) done done₂

theorem definitionsOf_ok {r : Run} {definitions : List (String × NodeId)} {done done' : Finished}
    (h : definitions.foldlM r.definitionOf done = .ok done') :
    r.DefinitionsOf definitions done done' := by
  induction definitions generalizing done with
  | nil =>
    cases h
    exact .nil
  | cons d rest ih =>
    rw [List.foldlM_cons] at h
    obtain ⟨done₁, hd, h⟩ := bind_ok h
    unfold definitionOf at hd
    obtain ⟨target, hf, hd⟩ := bind_ok hd
    by_cases hn : target = d.2
    · subst hn
      rw [if_neg (by simp)] at hd
      obtain ⟨⟨t, done₂⟩, ht, hd⟩ := bind_ok hd
      cases hd
      exact .own hf (typeOf_ok r _ _ _ _ ht) (ih h)
    · rw [if_pos hn] at hd
      cases hd
      exact .reference hf hn (ih h)

/-- the way on which the root is reached -/
def rootSite (r : Run) : Site := { inlineName := Naming.typeName r.settings.rootClassName }

theorem walk_ok {r : Run} {done : Finished} (h : r.walk = .ok done) :
    ∃ t done₀, r.TypeOf {} r.rootSite r.graph.root [] t done₀ ∧
      r.DefinitionsOf (r.graph.node r.graph.root).definitions done₀ done := by
  unfold walk at h
  obtain ⟨⟨t, done₀⟩, ht, h⟩ := bind_ok h
  exact ⟨t, done₀, typeOf_ok r _ _ _ _ ht, definitionsOf_ok h⟩

/-- What the walk from each definition keeps, that from all definitions keeps. -/
theorem DefinitionsOf.preserves {r : Run} {I : Finished → Prop}
    {definitions : List (String × NodeId)} {done done' : Finished}
    (h : r.DefinitionsOf definitions done done')
    (hkeep : ∀ d ∈ definitions, r.graph.follow d.2 = .ok d.2 → ∀ {done t done'},
      r.TypeOf {} { inlineName := Naming.typeName d.1 } d.2 done t done' → I done → I done')
    (hi : I done) : I done' := by
  induction h with
  | nil => exact hi
  | reference _ _ _ ih => exact ih (fun d hd => hkeep d (List.mem_cons_of_mem _ hd)) hi
  | own hf ht _ ih =>
    exact ih (fun d hd => hkeep d (List.mem_cons_of_mem _ hd))
      (hkeep _ List.mem_cons_self hf ht hi)

/-- `r.BeginsAt name id`: a walk begins at the node `id`, under the text `name`. It is the root, or
a definition of it that is no reference. -/
inductive BeginsAt (r : Run) : String → NodeId → Prop
  | root : BeginsAt r r.settings.rootClassName r.graph.root
  | definition {d} (hd : d ∈ (r.graph.node r.graph.root).definitions)
      (hf : r.graph.follow d.2 = .ok d.2) : BeginsAt r d.1 d.2

theorem BeginsAt.reference_eq_none {r : Run} {name : String} {id : NodeId}
    (h : r.BeginsAt name id) (hroot : (r.graph.node r.graph.root).reference = none) :
    (r.graph.node id).reference = none := by
  cases h with
  | root => exact hroot
  | definition _ hf => exact Graph.reference_of_follow hf

/-- What holds of no models, and is kept by a walk from each of its beginnings, holds of the models
at the end. -/
theorem invariant_of_walk {r : Run} {I : Finished → Prop} (hempty : I [])
    (hkeep : ∀ {name id done t done'}, r.BeginsAt name id →
      r.TypeOf {} { inlineName := Naming.typeName name } id done t done' → I done → I done')
    {done : Finished} (h : r.walk = .ok done) : I done := by
  obtain ⟨t, done₀, ht, hd⟩ := walk_ok h
  exact hd.preserves (fun _ hd hf _ _ _ ht => hkeep (.definition hd hf) ht)
    (hkeep .root ht hempty)

theorem reference_of_rootIsObject {r : Run} (h : r.rootIsObject = true) :
    (r.graph.node r.graph.root).reference = none := by
  unfold rootIsObject at h
  exact Option.isNone_iff_eq_none.mp (Bool.and_eq_true_iff.mp h).1

theorem shape_of_rootIsObject {r : Run} (h : r.rootIsObject = true) :
    ∃ properties, (r.graph.node r.graph.root).shape = .object properties := by
  unfold rootIsObject at h
  have hshape := (Bool.and_eq_true_iff.mp h).2
  split at hshape
  · next properties hs => exact ⟨properties, hs⟩
  · cases hshape

theorem models_ok {r : Run} {models : ModelSet} (h : r.models = .ok models) :
    r.rootIsObject = true ∧ ∃ done, r.walk = .ok done ∧ models = done.map Prod.snd := by
  unfold Run.models at h
  obtain ⟨_, _, h⟩ := bind_ok h
  split at h
  · next hr =>
    obtain ⟨done, hw, h⟩ := bind_ok h
    cases h
    exact ⟨hr, done, hw, rfl⟩
  · cases h

theorem models_of_walk {r : Run} {done : Finished} (hs : r.settings.check = .ok ())
    (hr : r.rootIsObject = true) (hw : r.walk = .ok done) :
    r.models = .ok (done.map Prod.snd) := by
  rw [models, hs, if_pos hr, hw]
  rfl

end Run

/-- The models of a text are those of a run with the same settings, which are complete. -/
theorem ModelSet.ofText_ok {settings : Settings} {hints : Option String} {schema : String}
    {models : ModelSet} (h : ModelSet.ofText settings hints schema = .ok models) :
    settings.check = .ok () ∧ ∃ r : Run, r.settings = settings ∧ r.models = .ok models := by
  unfold ModelSet.ofText at h
  obtain ⟨_, hcheck, h⟩ := bind_ok h
  obtain ⟨found, _, h⟩ := bind_ok h
  obtain ⟨document, _, h⟩ := bind_ok h
  obtain ⟨graph, hmodels⟩ : ∃ graph, Run.models ⟨graph, found, settings⟩ = .ok models := by
    dsimp only at h
    split at h
    · obtain ⟨_, _, h⟩ := bind_ok h
      obtain ⟨graph, _, h⟩ := bind_ok h
      exact ⟨graph, h⟩
    · obtain ⟨graph, _, h⟩ := bind_ok h
      exact ⟨graph, h⟩
  exact ⟨hcheck, ⟨graph, found, settings⟩, rfl, hmodels⟩

end SchemaModel

import SchemaModel.Proofs.Walk.Derivation

/-!
# How names are spelled

Every name in a model comes from a text: of the settings, of a key of the document, or of a hint.
The name of a class may have `Item` behind it, once for every array between it and the property that
named it, and repeated names of properties and members are numbered. A walk keeps this for all
finished models, so it holds of every model of a run.

* `isTypeName_className`   the name of a class is spelled as a type;
* `names_of_declared`      the names of the properties of a class, numbered;
* `names_of_apply`         the names of the members of an enumeration, numbered;
* `spelled_of_models`      every model of a run is spelled so.
-/

namespace SchemaModel

/-! ## names of types -/

/-- the name of a type: that of a text, with `Item` behind it for every array on the way -/
inductive IsTypeName : String → Prop
  | ofText (s : String) : IsTypeName (Naming.typeName s)
  | item {name : String} (h : IsTypeName name) : IsTypeName (name ++ "Item")

theorem isTypeName_classKeys (g : Graph) {site : Site} (id : NodeId)
    (h : IsTypeName site.inlineName) : IsTypeName (classKeys g site id).1 := by
  unfold classKeys
  cases (g.node id).pointer.definition? with
  | some definition =>
    dsimp only
    exact .ofText definition
  | none => exact h

theorem isTypeName_className (g : Graph) (hints : Hints) {site : Site} (id : NodeId)
    (h : IsTypeName site.inlineName) : IsTypeName (className g hints site id) := by
  unfold className
  split
  · exact h
  · dsimp only
    split
    · exact .ofText _
    · exact isTypeName_classKeys g id h

theorem isTypeName_inline (s : String) :
    IsTypeName ({ inlineName := Naming.typeName s } : Site).inlineName := by
  dsimp only
  exact .ofText s

theorem isTypeName_ofProperty (className jsonName : String) :
    IsTypeName (Site.ofProperty className jsonName).inlineName := by
  dsimp only [Site.ofProperty]
  exact .ofText jsonName

/-! ## names of properties and members -/

theorem map_name_namedProperties (hints : Hints) (className : String)
    (properties : List (String × NodeId)) :
    (namedProperties hints className properties).map NamedProperty.name =
      Naming.numbered (properties.map fun p => propertyName hints className p.1) := by
  refine map_zipWith_right (fun _ _ => rfl) (Nat.le_of_eq ?_)
  rw [Naming.length_numbered, List.length_map]

theorem map_jsonName_namedProperties (hints : Hints) (className : String)
    (properties : List (String × NodeId)) :
    (namedProperties hints className properties).map NamedProperty.jsonName =
      properties.map Prod.fst := by
  have h := congrArg (List.map Prod.fst) (map_declared_namedProperties hints className properties)
  rwa [List.map_map] at h

/-- The members of an enumeration are named after the zero value and the names of the values. -/
theorem EnumSite.map_name_of_apply {site : EnumSite} {hint : EnumHint} {e : NamedEnum}
    (h : site.apply hint = .ok e) : e.members.map EnumMember.name =
      Naming.numbered ((hint.zeroValue.toList ++ hint.members.getD site.values).map
        Naming.memberName) := by
  obtain ⟨-, hcount, hmembers⟩ := EnumSite.apply_ok h
  rw [hmembers, EnumSite.members]
  refine map_zipWith_left (fun _ _ => rfl) ?_
  rw [Naming.length_numbered]
  simp [hcount]

/-- The name of an enumeration is that of a text, and so are the names of its members, numbered. -/
theorem EnumSite.names_of_apply {site : EnumSite} {hint : EnumHint} {e : NamedEnum}
    (h : site.apply hint = .ok e) : (∃ s, e.typeName = Naming.typeName s) ∧
      ∃ texts : List String,
        e.members.map EnumMember.name = Naming.numbered (texts.map Naming.memberName) := by
  obtain ⟨hname, -⟩ := EnumSite.apply_ok h
  obtain ⟨s, -, hs⟩ := Option.map_eq_some_iff.mp hname
  exact ⟨⟨s, hs.symm⟩, _, map_name_of_apply h⟩

/-! ## models -/

/-- a model whose names are spelled by the rules -/
inductive Spelled (hints : Hints) : Model → Prop
  | ofClass {c} (hn : IsTypeName c.name)
      (hp : c.properties.map Property.name =
        Naming.numbered (c.properties.map fun p => propertyName hints c.name p.jsonName)) :
      Spelled hints (.ofClass c)
  | ofEnum {e} (hn : ∃ s, e.name = Naming.typeName s)
      (hm : ∃ texts : List String,
        e.members.map EnumMember.name = Naming.numbered (texts.map Naming.memberName)) :
      Spelled hints (.ofEnum e)

theorem Spelled.isTypeName {hints : Hints} {m : Model} (h : Spelled hints m) :
    IsTypeName m.name := by
  cases h with
  | ofClass hn => exact hn
  | ofEnum hn =>
    obtain ⟨s, hs⟩ := hn
    show IsTypeName _
    rw [Model.name, hs]
    exact .ofText s

namespace Run

/-- The properties that a walk reads have the names that they were given. -/
theorem PropertiesOf.map_names {r : Run} {trail : Trail} {owner : NodeId} {name : String}
    {properties : List NamedProperty} {done done' : Finished} {types : List Property}
    (h : r.PropertiesOf trail owner name properties done types done') :
    types.map Property.name = properties.map NamedProperty.name ∧
      types.map Property.jsonName = properties.map NamedProperty.jsonName := by
  induction properties generalizing done types with
  | nil =>
    cases h
    exact ⟨rfl, rfl⟩
  | cons property rest ih =>
    cases h with
    | cons _ _ hp =>
      obtain ⟨hnames, hjson⟩ := ih hp
      exact ⟨congrArg (_ :: ·) hnames, congrArg (_ :: ·) hjson⟩

/-- The names of the properties of a class. -/
theorem PropertiesOf.names_of_declared {r : Run} {trail : Trail} {owner : NodeId} {name : String}
    {declared : List (String × NodeId)} {done done' : Finished} {types : List Property}
    (h : r.PropertiesOf trail owner name (namedProperties r.hints name declared) done types
      done') :
    types.map Property.name =
      Naming.numbered (types.map fun p => propertyName r.hints name p.jsonName) := by
  obtain ⟨hnames, hjson⟩ := h.map_names
  rw [map_name_namedProperties] at hnames
  rw [map_jsonName_namedProperties] at hjson
  have hkeys : types.map (fun p => propertyName r.hints name p.jsonName) =
      declared.map fun p => propertyName r.hints name p.1 := by
    have hmapped := congrArg (List.map (propertyName r.hints name)) hjson
    rwa [List.map_map, List.map_map] at hmapped
  rw [hnames, hkeys]

/-- all finished models are spelled by the rules -/
def AllSpelled (r : Run) (done : Finished) : Prop := ∀ entry ∈ done, Spelled r.hints entry.2

theorem AllSpelled.finish {r : Run} {done : Finished} {id : NodeId} {m : Model}
    (h : r.AllSpelled done) (hm : Spelled r.hints m) : r.AllSpelled (done ++ [(id, m)]) := by
  intro entry he
  rcases List.mem_append.mp he with he | he
  · exact h entry he
  · rw [List.mem_singleton.mp he]
    exact hm

mutual

theorem TypeOf.spelled {r : Run} {trail : Trail} {site : Site} {id : NodeId}
    {done done' : Finished} {t : TypeRef} :
    r.TypeOf trail site id done t done' → IsTypeName site.inlineName → r.AllSpelled done →
      r.AllSpelled done'
  | .oldEnum _ _, _, h | .oldClass _ _, _, h | .plain _, _, h => h
  | .newEnum _ _ he _, _, h => by
    obtain ⟨hname, hmembers⟩ := EnumSite.names_of_apply he
    exact h.finish (.ofEnum hname hmembers)
  | .newClass _ _ hn _ hp, hs, h => by
    have hname := isTypeName_className r.graph r.hints id hs
    rw [hn] at hname
    exact (hp.spelled h).finish (.ofClass hname hp.names_of_declared)
  | .items _ _ _ ht, hs, h => ht.spelled hs.item h

theorem PropertiesOf.spelled {r : Run} {trail : Trail} {owner : NodeId} {name : String}
    {properties : List NamedProperty} {done done' : Finished} {types : List Property} :
    r.PropertiesOf trail owner name properties done types done' → r.AllSpelled done →
      r.AllSpelled done'
  | .nil, h => h
  | @PropertiesOf.cons _ _ _ name p _ _ _ _ _ _ _ _ ht hp, h =>
    hp.spelled (ht.spelled (isTypeName_ofProperty name p.jsonName) h)

end

/-- Every model of a run is spelled by the rules. -/
theorem spelled_of_models {r : Run} {models : ModelSet} (h : r.models = .ok models) {m : Model}
    (hm : m ∈ models) : Spelled r.hints m := by
  obtain ⟨-, done, hw, rfl⟩ := models_ok h
  have hall : r.AllSpelled done := invariant_of_walk nofun
    (fun {name} _ _ _ _ _ ht hs => ht.spelled (isTypeName_inline name) hs) hw
  obtain ⟨entry, he, rfl⟩ := List.mem_map.mp hm
  exact hall entry he

end Run

end SchemaModel

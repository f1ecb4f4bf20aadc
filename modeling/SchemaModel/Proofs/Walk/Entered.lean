import Mathlib
import SchemaModel.Proofs.Walk.Links
import SchemaModel.Proofs.Walk.Spelling

/-!
# The classes that a walk enters

A walk enters a class when its node has no name yet and the name that it gets is free. From then on
the node has this name, and the walk goes through its properties. A walk that stops at a fault has
entered classes before, so `EntersFrom` has one rule for every way to the moment at which a class is
entered, past nodes from which the walk ends well, and says nothing about what comes after it.

* `TypeOf.unique`      from a node the walk has one result, so it goes one way;
* `EntersFrom.fresh`   the name of a class that is entered was free where the walk started;
* `EntersFrom.given`   the name stays with the node if the walk ends well;
* `Enters.unique`      so no two classes are entered under one name;
* `enters_iff`         in a walk that ends well they are the classes among the models.
-/

namespace SchemaModel

namespace Run

/-! ## one result -/

section
variable {r : Run} {trail : Trail} {site : Site} {id : NodeId} {done done' done'' : Finished}
  {t t' : TypeRef}

/-- An object without a name becomes a class, behind what is finished for its properties. -/
theorem TypeOf.of_object {properties : List (String × NodeId)}
    (h : r.TypeOf trail site id done t done') (hs : (r.graph.node id).shape = .object properties)
    (hg : givenName? trail done id = none) {name : String}
    (hn : className r.graph r.hints site id = name) :
    ∃ types done₁, r.PropertiesOf ⟨(id, name) :: trail.classes, []⟩ id name
        (namedProperties r.hints name properties) done types done₁ ∧ t = .classNamed name ∧
      done' = done₁ ++ [(id, .ofClass (r.classModel name id types))] := by
  cases h with
  | oldClass _ hg' => cases hg.symm.trans hg'
  | newClass hs' _ hn' _ hp =>
    cases hs.symm.trans hs'
    cases hn.symm.trans hn'
    exact ⟨_, _, hp, rfl, rfl⟩
  | oldEnum hs' | newEnum hs' | items hs' => cases hs.symm.trans hs'
  | plain hs' => rw [hs] at hs'; cases hs'

theorem TypeOf.of_items {items target : NodeId} (h : r.TypeOf trail site id done t done')
    (hs : (r.graph.node id).shape = .array (some items))
    (hf : r.graph.follow items = .ok target) :
    ∃ element, r.TypeOf ⟨trail.classes, id :: trail.arrays⟩ site.items target done element done' ∧
      t = .sequence element := by
  cases h with
  | items hs' _ hf' ht =>
    cases hs.symm.trans hs'
    cases hf.symm.trans hf'
    exact ⟨_, ht, rfl⟩
  | oldEnum hs' | newEnum hs' | oldClass hs' | newClass hs' => cases hs.symm.trans hs'
  | plain hs' => rw [hs] at hs'; cases hs'

end

mutual

theorem TypeOf.unique {r : Run} {trail : Trail} {site : Site} {id : NodeId}
    {done done' done'' : Finished} {t t' : TypeRef} :
    r.TypeOf trail site id done t done' → r.TypeOf trail site id done t' done'' →
      t = t' ∧ done' = done''
  | .oldEnum hs hg, h => by
    cases h with
    | oldEnum _ hg' => cases hg.symm.trans hg'; exact ⟨rfl, rfl⟩
    | newEnum _ hg' => cases hg.symm.trans hg'
    | oldClass hs' | newClass hs' | items hs' => cases hs.symm.trans hs'
    | plain hs' => rw [hs] at hs'; cases hs'
  | .newEnum hs hg he _, h => by
    cases h with
    | oldEnum _ hg' => cases hg.symm.trans hg'
    | newEnum hs' _ he' =>
      cases hs.symm.trans hs'
      cases he.symm.trans he'
      exact ⟨rfl, rfl⟩
    | oldClass hs' | newClass hs' | items hs' => cases hs.symm.trans hs'
    | plain hs' => rw [hs] at hs'; cases hs'
  | .oldClass hs hg, h => by
    cases h with
    | oldClass _ hg' => cases hg.symm.trans hg'; exact ⟨rfl, rfl⟩
    | newClass _ hg' => cases hg.symm.trans hg'
    | oldEnum hs' | newEnum hs' | items hs' => cases hs.symm.trans hs'
    | plain hs' => rw [hs] at hs'; cases hs'
  | .newClass hs hg hn _ hp, h => by
    obtain ⟨types', done₁', hp', rfl, rfl⟩ := h.of_object hs hg hn
    obtain ⟨rfl, rfl⟩ := hp.unique hp'
    exact ⟨rfl, rfl⟩
  | .items hs _ hf ht, h => by
    obtain ⟨element', ht', rfl⟩ := h.of_items hs hf
    obtain ⟨rfl, rfl⟩ := ht.unique ht'
    exact ⟨rfl, rfl⟩
  | .plain hs, h => by
    cases h with
    | plain hs' => exact ⟨Option.some.inj (hs.symm.trans hs'), rfl⟩
    | oldEnum hs' | newEnum hs' | oldClass hs' | newClass hs' | items hs' =>
      rw [hs'] at hs; cases hs

theorem PropertiesOf.unique {r : Run} {trail : Trail} {owner : NodeId} {name : String}
    {properties : List NamedProperty} {done done' done'' : Finished}
    {types types' : List Property} :
    r.PropertiesOf trail owner name properties done types done' →
      r.PropertiesOf trail owner name properties done types' done'' →
      types = types' ∧ done' = done''
  | .nil, h => by
    cases h
    exact ⟨rfl, rfl⟩
  | .cons hf ht hp, h => by
    cases h with
    | cons hf' ht' hp' =>
      cases hf.symm.trans hf'
      obtain ⟨rfl, rfl⟩ := ht.unique ht'
      obtain ⟨rfl, rfl⟩ := hp.unique hp'
      exact ⟨rfl, rfl⟩

end

/-! ## classes that are entered -/

mutual

/-- `r.EntersFrom trail site id done owner name`: the walk stands at `trail` and has finished
`done`; from the node `id`, reached at `site`, it comes to enter the class of the node `owner`,
under the name `name`. -/
inductive EntersFrom (r : Run) : Trail → Site → NodeId → Finished → NodeId → String → Prop
  /-- the node itself -/
  | here {trail site id done properties name}
      (hs : (r.graph.node id).shape = .object properties)
      (hg : givenName? trail done id = none)
      (hn : className r.graph r.hints site id = name)
      (ho : owner? trail done name = none) :
      EntersFrom r trail site id done id name
  /-- a node behind a property of the class that is entered first -/
  | within {trail site id done properties outer owner name}
      (hs : (r.graph.node id).shape = .object properties)
      (hg : givenName? trail done id = none)
      (hn : className r.graph r.hints site id = outer)
      (ho : owner? trail done outer = none)
      (hp : EntersAmong r ⟨(id, outer) :: trail.classes, []⟩ outer
        (namedProperties r.hints outer properties) done owner name) :
      EntersFrom r trail site id done owner name
  /-- a node behind the items of an array -/
  | items {trail site id done items target owner name}
      (hs : (r.graph.node id).shape = .array (some items))
      (ha : id ∉ trail.arrays)
      (hf : r.graph.follow items = .ok target)
      (ht : EntersFrom r ⟨trail.classes, id :: trail.arrays⟩ site.items target done owner name) :
      EntersFrom r trail site id done owner name

/-- The same for the properties of the class `outer`, in order. -/
inductive EntersAmong (r : Run) : Trail → String → List NamedProperty → Finished → NodeId →
    String → Prop
  | first {trail outer p rest done target owner name} (hf : r.graph.follow p.child = .ok target)
      (ht : EntersFrom r trail (.ofProperty outer p.jsonName) target done owner name) :
      EntersAmong r trail outer (p :: rest) done owner name
  | later {trail outer p rest done target t done₁ owner name}
      (hf : r.graph.follow p.child = .ok target)
      (ht : r.TypeOf trail (.ofProperty outer p.jsonName) target done t done₁)
      (hp : EntersAmong r trail outer rest done₁ owner name) :
      EntersAmong r trail outer (p :: rest) done owner name

end

/-- The same for definitions of the root, in order. -/
inductive EntersBehind (r : Run) : List (String × NodeId) → Finished → NodeId → String → Prop
  | first {d rest done owner name} (hf : r.graph.follow d.2 = .ok d.2)
      (ht : r.EntersFrom {} { inlineName := Naming.typeName d.1 } d.2 done owner name) :
      EntersBehind r (d :: rest) done owner name
  /-- a definition that is a reference -/
  | reference {d rest done target owner name} (hf : r.graph.follow d.2 = .ok target)
      (hn : target ≠ d.2) (hd : EntersBehind r rest done owner name) :
      EntersBehind r (d :: rest) done owner name
  | later {d rest done t done₁ owner name} (hf : r.graph.follow d.2 = .ok d.2)
      (ht : r.TypeOf {} { inlineName := Naming.typeName d.1 } d.2 done t done₁)
      (hd : EntersBehind r rest done₁ owner name) :
      EntersBehind r (d :: rest) done owner name

/-- The walk enters the class of a node under a name, whether or not it ends well. -/
inductive Enters (r : Run) : NodeId → String → Prop
  | root {owner name} (ht : r.EntersFrom {} r.rootSite r.graph.root [] owner name) :
      Enters r owner name
  | definition {t done owner name} (ht : r.TypeOf {} r.rootSite r.graph.root [] t done)
      (hd : r.EntersBehind (r.graph.node r.graph.root).definitions done owner name) :
      Enters r owner name

/-! ## a node that is entered -/

mutual

/-- What is entered is an object, under the name of a type. -/
theorem EntersFrom.named {r : Run} {trail : Trail} {site : Site} {id : NodeId} {done : Finished}
    {owner : NodeId} {name : String} :
    r.EntersFrom trail site id done owner name → IsTypeName site.inlineName →
      (∃ properties, (r.graph.node owner).shape = .object properties) ∧ IsTypeName name
  | .here hs _ hn _, h => ⟨⟨_, hs⟩, hn ▸ isTypeName_className r.graph r.hints _ h⟩
  | .within _ _ _ _ hp, _ => hp.named
  | .items _ _ _ ht, h => ht.named h.item

theorem EntersAmong.named {r : Run} {trail : Trail} {outer : String}
    {properties : List NamedProperty} {done : Finished} {owner : NodeId} {name : String} :
    r.EntersAmong trail outer properties done owner name →
      (∃ declared, (r.graph.node owner).shape = .object declared) ∧ IsTypeName name
  | .first _ ht => ht.named (isTypeName_ofProperty outer _)
  | .later _ _ hp => hp.named

end

theorem EntersBehind.named {r : Run} {definitions : List (String × NodeId)} {done : Finished}
    {owner : NodeId} {name : String} (h : r.EntersBehind definitions done owner name) :
    (∃ properties, (r.graph.node owner).shape = .object properties) ∧ IsTypeName name := by
  induction h with
  | first _ ht => exact ht.named (isTypeName_inline _)
  | reference _ _ _ ih | later _ _ _ ih => exact ih

theorem Enters.named {r : Run} {owner : NodeId} {name : String} (h : r.Enters owner name) :
    (∃ properties, (r.graph.node owner).shape = .object properties) ∧ IsTypeName name := by
  cases h with
  | root ht => exact ht.named (isTypeName_inline _)
  | definition _ hd => exact hd.named

mutual

/-- The name of a class that is entered was free when the walk came to the node. -/
theorem EntersFrom.fresh {r : Run} {trail : Trail} {site : Site} {id : NodeId} {done : Finished}
    {owner : NodeId} {name : String} : r.EntersFrom trail site id done owner name →
      name ∉ (namesGiven trail done).map Prod.snd
  | .here _ _ _ ho => owner?_eq_none_iff.mp ho
  | .within _ _ _ _ hp => fun hm => hp.fresh (List.mem_cons_of_mem _ hm)
  | .items _ _ _ ht => ht.fresh

theorem EntersAmong.fresh {r : Run} {trail : Trail} {outer : String}
    {properties : List NamedProperty} {done : Finished} {owner : NodeId} {name : String} :
    r.EntersAmong trail outer properties done owner name →
      name ∉ (namesGiven trail done).map Prod.snd
  | .first _ ht => ht.fresh
  | .later _ ht hp => fun hm =>
    hp.fresh (((namesGiven_grows ht.keeps_done).map Prod.snd).subset hm)

end

mutual

/-- A class that is entered keeps its name if the walk ends well. -/
theorem EntersFrom.given {r : Run} {trail : Trail} {site : Site} {id : NodeId}
    {done done' : Finished} {t : TypeRef} {owner : NodeId} {name : String} :
    r.EntersFrom trail site id done owner name → r.TypeOf trail site id done t done' →
      (owner, name) ∈ namesGiven trail done'
  | .here hs hg hn _, h => by
    obtain ⟨types, done₁, -, -, rfl⟩ := h.of_object hs hg hn
    exact (namesGiven_leave trail done₁ id [] rfl).mem_iff.mpr List.mem_cons_self
  | .within hs hg hn _ hp, h => by
    obtain ⟨types, done₁, hp', -, rfl⟩ := h.of_object hs hg hn
    exact (namesGiven_leave trail done₁ id [] rfl).mem_iff.mpr (hp.given hp')
  | .items hs _ hf ht, h => by
    obtain ⟨element, ht', -⟩ := h.of_items hs hf
    exact ht.given ht'

theorem EntersAmong.given {r : Run} {trail : Trail} {outer : String}
    {properties : List NamedProperty} {done done' : Finished} {types : List Property}
    {id owner : NodeId} {name : String} :
    r.EntersAmong trail outer properties done owner name →
      r.PropertiesOf trail id outer properties done types done' →
      (owner, name) ∈ namesGiven trail done'
  | .first hf ht, h => by
    cases h with
    | cons hf' ht' hp' =>
      cases hf.symm.trans hf'
      exact (namesGiven_grows hp'.keeps_done).subset (ht.given ht')
  | .later hf ht hp, h => by
    cases h with
    | cons hf' ht' hp' =>
      cases hf.symm.trans hf'
      obtain ⟨-, rfl⟩ := ht.unique ht'
      exact hp.given hp'

end

theorem EntersBehind.fresh {r : Run} {definitions : List (String × NodeId)} {done : Finished}
    {owner : NodeId} {name : String} (h : r.EntersBehind definitions done owner name) :
    name ∉ (namesGiven {} done).map Prod.snd := by
  induction h with
  | first _ ht => exact ht.fresh
  | reference _ _ _ ih => exact ih
  | later _ ht _ ih =>
    intro hm
    exact ih (((namesGiven_grows ht.keeps_done).map Prod.snd).subset hm)

theorem EntersBehind.given {r : Run} {definitions : List (String × NodeId)}
    {done done' : Finished} {owner : NodeId} {name : String}
    (h : r.EntersBehind definitions done owner name) (hd : r.DefinitionsOf definitions done done') :
    (owner, name) ∈ namesGiven {} done' := by
  induction h generalizing done' with
  | first hf ht =>
    cases hd with
    | reference hf' hn' => cases hf.symm.trans hf'; exact absurd rfl hn'
    | own _ ht' hd' => exact (namesGiven_grows hd'.keeps_done).subset (ht.given ht')
  | reference hf hn _ ih =>
    cases hd with
    | reference _ _ hd' => exact ih hd'
    | own hf' => cases hf.symm.trans hf'; exact absurd rfl hn
  | later hf ht _ ih =>
    cases hd with
    | reference hf' hn' => cases hf.symm.trans hf'; exact absurd rfl hn'
    | own _ ht' hd' =>
      obtain ⟨-, rfl⟩ := ht.unique ht'
      exact ih hd'

/-! ## one class for a name -/

mutual

/-- By induction on the way to one of the two classes. Where the ways part, the class that is
entered first has its name when the walk comes to the other one, so there this is not free. -/
theorem EntersFrom.unique {r : Run} {trail : Trail} {site : Site} {id : NodeId} {done : Finished}
    {owner owner' : NodeId} {name : String} :
    r.EntersFrom trail site id done owner name → r.EntersFrom trail site id done owner' name →
      owner = owner'
  | .here hs _ hn _, h => by
    cases h with
    | here => rfl
    | within _ _ hn' _ hp' =>
      -- the other class is entered while this one is open
      cases hn.symm.trans hn'
      exact absurd List.mem_cons_self hp'.fresh
    | items hs' => cases hs.symm.trans hs'
  | .within hs _ hn _ hp, h => by
    cases h with
    | here _ _ hn' =>
      cases hn.symm.trans hn'
      exact absurd List.mem_cons_self hp.fresh
    | within hs' _ hn' _ hp' =>
      cases hs.symm.trans hs'
      cases hn.symm.trans hn'
      exact hp.unique hp'
    | items hs' => cases hs.symm.trans hs'
  | .items hs _ hf ht, h => by
    cases h with
    | here hs' | within hs' => cases hs.symm.trans hs'
    | items hs' _ hf' ht' =>
      cases hs.symm.trans hs'
      cases hf.symm.trans hf'
      exact ht.unique ht'

theorem EntersAmong.unique {r : Run} {trail : Trail} {outer : String}
    {properties : List NamedProperty} {done : Finished} {owner owner' : NodeId} {name : String} :
    r.EntersAmong trail outer properties done owner name →
      r.EntersAmong trail outer properties done owner' name → owner = owner'
  | .first hf ht, h => by
    cases h with
    | first hf' ht' =>
      cases hf.symm.trans hf'
      exact ht.unique ht'
    | later hf' ht' hp' =>
      -- the way to the other class goes past this one, whose name is given by then
      cases hf.symm.trans hf'
      exact absurd (List.mem_map_of_mem (ht.given ht')) hp'.fresh
  | .later hf ht hp, h => by
    cases h with
    | first hf' ht' =>
      cases hf.symm.trans hf'
      exact absurd (List.mem_map_of_mem (ht'.given ht)) hp.fresh
    | later hf' ht' hp' =>
      cases hf.symm.trans hf'
      obtain ⟨-, rfl⟩ := ht.unique ht'
      exact hp.unique hp'

end

theorem EntersBehind.unique {r : Run} {definitions : List (String × NodeId)} {done : Finished}
    {owner owner' : NodeId} {name : String} (h : r.EntersBehind definitions done owner name)
    (h' : r.EntersBehind definitions done owner' name) : owner = owner' := by
  induction h with
  | first hf ht =>
    cases h' with
    | first _ ht' => exact ht.unique ht'
    | reference hf' hn' => cases hf.symm.trans hf'; exact absurd rfl hn'
    | later _ ht' hd' => exact absurd (List.mem_map_of_mem (ht.given ht')) hd'.fresh
  | reference hf hn _ ih =>
    cases h' with
    | first hf' | later hf' => cases hf.symm.trans hf'; exact absurd rfl hn
    | reference _ _ hd' => exact ih hd'
  | later hf ht hd ih =>
    cases h' with
    | first _ ht' => exact absurd (List.mem_map_of_mem (ht'.given ht)) hd.fresh
    | reference hf' hn' => cases hf.symm.trans hf'; exact absurd rfl hn'
    | later _ ht' hd' =>
      obtain ⟨-, rfl⟩ := ht.unique ht'
      exact ih hd'

/-- No two classes are entered under one name. -/
theorem Enters.unique {r : Run} {owner owner' : NodeId} {name : String} (h : r.Enters owner name)
    (h' : r.Enters owner' name) : owner = owner' := by
  cases h with
  | root ht =>
    cases h' with
    | root ht' => exact ht.unique ht'
    | definition hd' h' => exact absurd (List.mem_map_of_mem (ht.given hd')) h'.fresh
  | definition hd h =>
    cases h' with
    | root ht' => exact absurd (List.mem_map_of_mem (ht'.given hd)) h.fresh
    | definition hd' h' =>
      obtain ⟨-, rfl⟩ := hd.unique hd'
      exact h.unique h'

/-! ## walks that end well -/

mutual

/-- The classes that are finished on the way have been entered. -/
theorem TypeOf.entered {r : Run} {trail : Trail} {site : Site} {id : NodeId}
    {done done' : Finished} {t : TypeRef} {owner : NodeId} {c : ClassModel} :
    r.TypeOf trail site id done t done' → (owner, .ofClass c) ∈ done' →
      (owner, .ofClass c) ∈ done ∨ r.EntersFrom trail site id done owner c.name
  | .oldEnum _ _, hm | .oldClass _ _, hm | .plain _, hm => .inl hm
  | .newEnum _ _ _ _, hm => by
    rcases List.mem_append.mp hm with hold | hnew
    · exact .inl hold
    · cases List.mem_singleton.mp hnew
  | .newClass hs hg hn ho hp, hm => by
    rcases List.mem_append.mp hm with hold | hnew
    · exact (hp.entered hold).imp_right fun h => .within hs hg hn ho h
    · cases List.mem_singleton.mp hnew
      exact .inr (.here hs hg hn ho)
  | .items hs ha hf ht, hm => (ht.entered hm).imp_right fun h => .items hs ha hf h

theorem PropertiesOf.entered {r : Run} {trail : Trail} {id : NodeId} {outer : String}
    {properties : List NamedProperty} {done done' : Finished} {types : List Property}
    {owner : NodeId} {c : ClassModel} :
    r.PropertiesOf trail id outer properties done types done' → (owner, .ofClass c) ∈ done' →
      (owner, .ofClass c) ∈ done ∨ r.EntersAmong trail outer properties done owner c.name
  | .nil, hm => .inl hm
  | .cons hf ht hp, hm => by
    rcases hp.entered hm with hold | hlater
    · exact (ht.entered hold).imp_right fun h => .first hf h
    · exact .inr (.later hf ht hlater)

end

theorem DefinitionsOf.entered {r : Run} {definitions : List (String × NodeId)}
    {done done' : Finished} (h : r.DefinitionsOf definitions done done') {owner : NodeId}
    {c : ClassModel} (hm : (owner, .ofClass c) ∈ done') :
    (owner, .ofClass c) ∈ done ∨ r.EntersBehind definitions done owner c.name := by
  induction h with
  | nil => exact .inl hm
  | reference hf hn _ ih => exact (ih hm).imp_right fun h => .reference hf hn h
  | own hf ht _ ih =>
    rcases ih hm with hold | hlater
    · exact (ht.entered hold).imp_right fun h => .first hf h
    · exact .inr (.later hf ht hlater)

/-- A walk that ends well has entered the classes among its models, under their names. -/
theorem enters_iff {r : Run} {done : Finished} (h : r.walk = .ok done) {owner : NodeId}
    {name : String} :
    r.Enters owner name ↔ ∃ c, (owner, .ofClass c) ∈ done ∧ c.name = name := by
  obtain ⟨t, done₀, ht, hd⟩ := walk_ok h
  have hdistinct := distinct_of_walk h
  constructor
  · intro hentered
    have hgiven : (owner, name) ∈ namesGiven {} done := by
      cases hentered with
      | root ht' => exact (namesGiven_grows hd.keeps_done).subset (ht'.given ht)
      | definition ht' hd' =>
        obtain ⟨-, rfl⟩ := ht.unique ht'
        exact hd'.given hd
    obtain ⟨⟨properties, hs⟩, -⟩ := hentered.named
    obtain ⟨c, hc, hname, -⟩ := class_of_given hdistinct (described_of_walk h) hs
      ((givenName?_eq_some_iff hdistinct).mpr hgiven)
    exact ⟨c, hc, hname⟩
  · rintro ⟨c, hc, rfl⟩
    rcases hd.entered hc with hroot | hdefinition
    · exact .root ((ht.entered hroot).resolve_left List.not_mem_nil)
    · exact .definition ht hdefinition

end Run

end SchemaModel

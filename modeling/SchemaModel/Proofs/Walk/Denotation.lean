import Mathlib.Data.List.Forall2
import SchemaModel.Proofs.Walk.Names

/-!
# What the types and models of a walk mean

Once the nodes of classes and enumerations have names, the graph alone says which type a node has
and what its model holds. `Denotes` and `Describes` say so without a walk: no site, no open array
and no order comes into them. A walk keeps the invariant that every finished model is described by
the names given so far, the names of the classes still open among them.

* `Denotes.unique`          a node has one type at most;
* `TypeOf.denotes`          the type that a walk finds is the one that the node has;
* `PropertiesOf.declared`   the properties of a class are the declared ones, in order;
* `described_of_walk`       every model of a walk is described by the names of all models.
-/

namespace SchemaModel

/-! ## types -/

/-- The type of a node without a reference, where `ν` names classes and enumerations. -/
inductive Denotes (g : Graph) (ν : NodeId → Option String) : NodeId → TypeRef → Prop
  | enumNamed {id values name} (hs : (g.node id).shape = .enumeration values)
      (hn : ν id = some name) : Denotes g ν id (.enumNamed name)
  | classNamed {id properties name} (hs : (g.node id).shape = .object properties)
      (hn : ν id = some name) : Denotes g ν id (.classNamed name)
  | sequence {id items target t} (hs : (g.node id).shape = .array (some items))
      (hf : g.follow items = .ok target) (ht : Denotes g ν target t) :
      Denotes g ν id (.sequence t)
  | plain {id t} (hs : (g.node id).shape.plain? = some t) : Denotes g ν id t

/-- the type behind all sequences -/
def TypeRef.leaf : TypeRef → TypeRef
  | .sequence element => element.leaf
  | t => t

namespace Denotes

variable {g : Graph} {ν ν' : NodeId → Option String} {id : NodeId} {t t' : TypeRef}

theorem mono (h : Denotes g ν id t) (he : Extends ν ν') : Denotes g ν' id t := by
  induction h with
  | enumNamed hs hn => exact .enumNamed hs (he _ _ hn)
  | classNamed hs hn => exact .classNamed hs (he _ _ hn)
  | sequence hs hf _ ih => exact .sequence hs hf ih
  | plain hs => exact .plain hs

/-! ### the type of a given shape -/

theorem of_enumeration {values : List String} (h : Denotes g ν id t)
    (hs : (g.node id).shape = .enumeration values) :
    ∃ name, ν id = some name ∧ t = .enumNamed name := by
  cases h with
  | enumNamed _ hn => exact ⟨_, hn, rfl⟩
  | classNamed hs' _ | sequence hs' _ _ => rw [hs] at hs'; cases hs'
  | plain hp => rw [hs] at hp; cases hp

theorem of_object {properties : List (String × NodeId)} (h : Denotes g ν id t)
    (hs : (g.node id).shape = .object properties) :
    ∃ name, ν id = some name ∧ t = .classNamed name := by
  cases h with
  | classNamed _ hn => exact ⟨_, hn, rfl⟩
  | enumNamed hs' _ | sequence hs' _ _ => rw [hs] at hs'; cases hs'
  | plain hp => rw [hs] at hp; cases hp

theorem of_array {items : NodeId} (h : Denotes g ν id t)
    (hs : (g.node id).shape = .array (some items)) :
    ∃ target element, g.follow items = .ok target ∧ Denotes g ν target element ∧
      t = .sequence element := by
  cases h with
  | sequence hs' hf ht =>
    rw [hs] at hs'
    cases hs'
    exact ⟨_, _, hf, ht, rfl⟩
  | enumNamed hs' _ | classNamed hs' _ => rw [hs] at hs'; cases hs'
  | plain hp => rw [hs] at hp; cases hp

theorem of_plain (h : Denotes g ν id t) (hp : (g.node id).shape.plain? = some t') : t = t' := by
  cases h with
  | enumNamed hs _ | classNamed hs _ | sequence hs _ _ => rw [hs] at hp; cases hp
  | plain hp' => exact Option.some.inj (hp'.symm.trans hp)

theorem unique (h : Denotes g ν id t) (h' : Denotes g ν id t') : t = t' := by
  induction h generalizing t' with
  | enumNamed hs hn =>
    obtain ⟨name, hn', rfl⟩ := h'.of_enumeration hs
    rw [Option.some.inj (hn.symm.trans hn')]
  | classNamed hs hn =>
    obtain ⟨name, hn', rfl⟩ := h'.of_object hs
    rw [Option.some.inj (hn.symm.trans hn')]
  | sequence hs hf _ ih =>
    obtain ⟨target, element, hf', he, rfl⟩ := h'.of_array hs
    cases hf.symm.trans hf'
    rw [ih he]
  | plain hp => exact (h'.of_plain hp).symm

/-! ### the types that have a model -/

theorem leaf_of_plain {s : Shape} (h : s.plain? = some t) (name : String) :
    t.leaf ≠ .classNamed name ∧ t.leaf ≠ .enumNamed name := by
  cases s with
  | string format =>
    cases h
    split <;> simp [TypeRef.leaf]
  | array items =>
    cases items with
    | none => cases h; simp [TypeRef.leaf]
    | some items => cases h
  | enumeration | object => cases h
  | integer | number | boolean | null | unconstrained => cases h; simp [TypeRef.leaf]

theorem class_of_leaf {name : String} (h : Denotes g ν id t) (hl : t.leaf = .classNamed name) :
    ∃ node properties, (g.node node).shape = .object properties ∧ ν node = some name := by
  induction h with
  | enumNamed => cases hl
  | classNamed hs hn =>
    cases hl
    exact ⟨_, _, hs, hn⟩
  | sequence _ _ _ ih => exact ih hl
  | plain hp => exact absurd hl (leaf_of_plain hp name).1

theorem enum_of_leaf {name : String} (h : Denotes g ν id t) (hl : t.leaf = .enumNamed name) :
    ∃ node values, (g.node node).shape = .enumeration values ∧ ν node = some name := by
  induction h with
  | enumNamed hs hn =>
    cases hl
    exact ⟨_, _, hs, hn⟩
  | classNamed => cases hl
  | sequence _ _ _ ih => exact ih hl
  | plain hp => exact absurd hl (leaf_of_plain hp name).2

end Denotes

/-! ## models -/

/-- A property of the class of `owner` is what its schema declares. -/
structure DeclaredAs (g : Graph) (ν : NodeId → Option String) (owner : NodeId)
    (declared : String × NodeId) (p : Property) : Prop where
  jsonName : p.jsonName = declared.1
  required : p.required = decide (declared.1 ∈ (g.node owner).required)
  /-- that of the schema in the property itself, not of one that it refers to -/
  description : p.description = (g.node declared.2).description
  type : ∃ target, g.follow declared.2 = .ok target ∧ Denotes g ν target p.type

theorem DeclaredAs.mono {g : Graph} {ν ν' : NodeId → Option String} {owner : NodeId}
    {declared : String × NodeId} {p : Property} (h : DeclaredAs g ν owner declared p)
    (he : Extends ν ν') : DeclaredAs g ν' owner declared p := by
  obtain ⟨target, hf, ht⟩ := h.type
  exact ⟨h.jsonName, h.required, h.description, target, hf, ht.mono he⟩

/-- the model of a node, all but what hints may choose: the names of properties and members, and
the description of an enumeration -/
inductive Describes (g : Graph) (s : Settings) (ν : NodeId → Option String) (id : NodeId) :
    Model → Prop
  | ofClass {c properties} (hs : (g.node id).shape = .object properties)
      (hn : c.namespaceName = s.namespaceName) (hd : c.description = (g.node id).description)
      (ho : c.overrides = s.overrides)
      (hp : List.Forall₂ (DeclaredAs g ν id) properties c.properties) :
      Describes g s ν id (.ofClass c)
  | ofEnum {e values} (hs : (g.node id).shape = .enumeration values)
      (hn : e.namespaceName = s.namespaceName)
      (hv : e.members.filterMap EnumMember.value = values) : Describes g s ν id (.ofEnum e)

theorem Describes.mono {g : Graph} {s : Settings} {ν ν' : NodeId → Option String} {id : NodeId}
    {m : Model} (h : Describes g s ν id m) (he : Extends ν ν') : Describes g s ν' id m := by
  cases h with
  | ofClass hs hn hd ho hp => exact .ofClass hs hn hd ho (hp.imp fun _ _ h => h.mono he)
  | ofEnum hs hn hv => exact .ofEnum hs hn hv

/-- The type of every property is that of a node. -/
theorem Describes.denotes_of_property {g : Graph} {s : Settings} {ν : NodeId → Option String}
    {id : NodeId} {c : ClassModel} (h : Describes g s ν id (.ofClass c)) {p : Property}
    (hp : p ∈ c.properties) : ∃ target, Denotes g ν target p.type := by
  cases h with
  | ofClass _ _ _ _ hall =>
    obtain ⟨declared, -, hdecl⟩ := mem_of_forall₂ hall p hp
    obtain ⟨target, -, ht⟩ := hdecl.type
    exact ⟨target, ht⟩

/-! ### members -/

/-- The members have the values of the schema, behind one without a value for a zero value. -/
theorem EnumSite.map_value_of_apply {site : EnumSite} {hint : EnumHint} {e : NamedEnum}
    (h : site.apply hint = .ok e) : e.members.map EnumMember.value =
      hint.zeroValue.toList.map (fun _ => none) ++ site.values.map some := by
  obtain ⟨-, hcount, hmembers⟩ := EnumSite.apply_ok h
  rw [hmembers, EnumSite.members]
  refine map_zipWith_right (fun _ _ => rfl) ?_
  simp [Naming.length_numbered, hcount]

/-- Whatever the hint, the members stand for the values of the schema, in order. -/
theorem EnumSite.values_of_apply {site : EnumSite} {hint : EnumHint} {e : NamedEnum}
    (h : site.apply hint = .ok e) : e.members.filterMap EnumMember.value = site.values := by
  have hvalues : e.members.filterMap EnumMember.value =
      (e.members.map EnumMember.value).filterMap id := by
    rw [List.filterMap_map]
    rfl
  rw [hvalues, map_value_of_apply h]
  cases hint.zeroValue <;> simp

/-! ## the invariant of a walk -/

/-- Every finished model is described by the names given so far. -/
def Described (r : Run) (trail : Trail) (done : Finished) : Prop :=
  ∀ entry ∈ done, Describes r.graph r.settings (givenName? trail done) entry.1 entry.2

theorem Described.finish {r : Run} {trail trail' : Trail} {done : Finished} {id : NodeId}
    {m : Model} (h : Described r trail done)
    (he : Extends (givenName? trail done) (givenName? trail' (done ++ [(id, m)])))
    (hm : Describes r.graph r.settings (givenName? trail' (done ++ [(id, m)])) id m) :
    Described r trail' (done ++ [(id, m)]) := by
  intro entry hentry
  rcases List.mem_append.mp hentry with hold | hnew
  · exact (h entry hold).mono he
  · rw [List.mem_singleton.mp hnew]
    exact hm

namespace Run

mutual

theorem TypeOf.denotes {r : Run} {trail : Trail} {site : Site} {id : NodeId}
    {done done' : Finished} {t : TypeRef} :
    r.TypeOf trail site id done t done' → Distinct (namesGiven trail done) →
      Denotes r.graph (givenName? trail done') id t
  | .oldEnum hs hg, _ => .enumNamed hs hg
  | .newEnum hs hg _ ho, hd => .enumNamed hs (givenName?_finish (hd.enter [] hg ho) rfl)
  | .oldClass hs hg, _ => .classNamed hs hg
  | .newClass hs hg _ ho hp, hd =>
    .classNamed hs (givenName?_finish (hp.distinct (hd.enter [] hg ho)) rfl)
  | .items hs _ hf ht, hd => .sequence hs hf (ht.denotes hd)
  | .plain hs, _ => .plain hs

theorem PropertiesOf.declared {r : Run} {trail : Trail} {owner : NodeId} {name : String}
    {properties : List NamedProperty} {done done' : Finished} {types : List Property} :
    r.PropertiesOf trail owner name properties done types done' →
      Distinct (namesGiven trail done) →
      List.Forall₂ (DeclaredAs r.graph (givenName? trail done') owner)
        (properties.map NamedProperty.declared) types
  | .nil, _ => .nil
  | .cons hf ht hp, hd =>
    .cons ⟨rfl, rfl, rfl, _, hf, (ht.denotes hd).mono (Extends.of_done hp.keeps_done)⟩
      (hp.declared (ht.distinct hd))

end

mutual

theorem TypeOf.described {r : Run} {trail : Trail} {site : Site} {id : NodeId}
    {done done' : Finished} {t : TypeRef} :
    r.TypeOf trail site id done t done' → Distinct (namesGiven trail done) →
      Described r trail done → Described r trail done'
  | .oldEnum _ _, _, h | .oldClass _ _, _, h | .plain _, _, h => h
  | .newEnum hs hg he ho, hd, h =>
    h.finish ((Extends.enter [] hd hg ho).trans (Extends.leave (hd.enter [] hg ho) rfl))
      (.ofEnum hs rfl (EnumSite.values_of_apply he))
  | .newClass hs hg _ ho hp, hd, h => by
    -- the properties are read while the class is open, so its own name is among those given
    have hd₁ := hd.enter [] hg ho
    have h₁ := hp.described hd₁ fun entry he => (h entry he).mono (Extends.enter [] hd hg ho)
    have hdecl := hp.declared hd₁
    rw [map_declared_namedProperties] at hdecl
    exact h₁.finish (Extends.leave (hp.distinct hd₁) rfl) (.ofClass hs rfl rfl rfl
      (hdecl.imp fun _ _ hq => hq.mono (Extends.leave (hp.distinct hd₁) rfl)))
  | .items _ _ _ ht, hd, h => ht.described hd h

theorem PropertiesOf.described {r : Run} {trail : Trail} {owner : NodeId} {name : String}
    {properties : List NamedProperty} {done done' : Finished} {types : List Property} :
    r.PropertiesOf trail owner name properties done types done' →
      Distinct (namesGiven trail done) → Described r trail done → Described r trail done'
  | .nil, _, h => h
  | .cons _ ht hp, hd, h => hp.described (ht.distinct hd) (ht.described hd h)

end

/-- At the end of a walk every model is described by the names of all models. -/
theorem described_of_walk {r : Run} {done : Finished} (h : r.walk = .ok done) :
    Described r {} done := by
  have hboth := invariant_of_walk
    (I := fun done => Distinct (namesGiven {} done) ∧ Described r {} done)
    ⟨distinct_start, fun _ he => absurd he List.not_mem_nil⟩
    (fun _ ht ⟨hd, hm⟩ => ⟨ht.distinct hd, ht.described hd hm⟩) h
  exact hboth.2

end Run

end SchemaModel

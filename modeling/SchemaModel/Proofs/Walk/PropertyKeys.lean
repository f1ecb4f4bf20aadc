import Mathlib
import SchemaModel.Proofs.Source.NameParts
import SchemaModel.Proofs.Walk.Arrival
import SchemaModel.Proofs.Walk.Entered
import SchemaModel.Proofs.Walk.Guarded

/-!
# The keys of properties

When a walk enters a class, it puts together a key for each of its properties: the name of the
class, a point, and the name that the property has by its own key in the schema. Hints for the
property are looked up there, and so are hints for a class or an enumeration behind it. Names of
classes and properties are letters and digits, so the point in a key is the only one and tells where
the name of the class ends; and no two classes are entered under one name. So a key stands for the
properties of one class that have one name.

* `propertyKey_eq_iff`           a key without more points is put together in one way;
* `UsesKey.unique`               a key that a walk uses stands for one class and one name;
* `usesKey_iff`                  in a run that ends well the keys are those of the models;
* `property_keys_unambiguous`    all of this, and that the keys of sites are such keys.
-/

namespace SchemaModel

/-! ## the point in a key -/

theorem Text.CapitalParts.point_not_mem {name : String} (h : Text.CapitalParts name) :
    '.' ∉ name.toList :=
  fun hm => absurd (h.wordParts.isPartChar_of_mem hm) (by decide)

theorem Naming.point_not_mem_typeName (s : String) : '.' ∉ (Naming.typeName s).toList :=
  (Naming.capitalParts_typeName s).point_not_mem

theorem IsTypeName.point_not_mem {name : String} (h : IsTypeName name) : '.' ∉ name.toList :=
  h.capitalParts.point_not_mem

/-- A key without a second point is put together of one name of a class and one of a property. -/
theorem Naming.propertyKey_eq_iff {a b p q : String} (ha : '.' ∉ a.toList) (hp : '.' ∉ p.toList) :
    propertyKey a p = propertyKey b q ↔ a = b ∧ p = q := by
  have hkey (c n : String) : (propertyKey c n).toList = c.toList ++ '.' :: n.toList := by
    rw [propertyKey, String.toList_append, String.toList_append, List.append_assoc]
    rfl
  rw [← String.toList_inj, hkey, hkey, List.append_cons_inj_of_notMem ha hp, String.toList_inj,
    String.toList_inj]
  tauto

namespace Run

/-! ## the keys that a walk uses -/

/-- The walk uses a key for the properties of the class of `owner` that are called `name` by their
keys in the schema. -/
def UsesKey (r : Run) (key : String) (owner : NodeId) (name : String) : Prop :=
  ∃ className, r.Enters owner className ∧ ∃ declared ∈ (r.graph.node owner).properties,
    Naming.typeName declared.1 = name ∧ Naming.propertyKey className name = key

/-- A key stands for one class and one name. -/
theorem UsesKey.unique {r : Run} {key : String} {owner owner' : NodeId} {name name' : String}
    (h : r.UsesKey key owner name) (h' : r.UsesKey key owner' name') :
    owner = owner' ∧ name = name' := by
  obtain ⟨className, hentered, declared, -, rfl, rfl⟩ := h
  obtain ⟨className', hentered', declared', -, rfl, hkey⟩ := h'
  rw [Naming.propertyKey_eq_iff hentered'.named.2.point_not_mem
    (Naming.point_not_mem_typeName declared'.1)] at hkey
  obtain ⟨rfl, hname⟩ := hkey
  exact ⟨hentered.unique hentered', hname.symm⟩

/-- A run that ends well uses the keys of the properties in its classes. -/
theorem usesKey_iff {r : Run} {done : Finished} (h : r.walk = .ok done) {key : String}
    {owner : NodeId} {name : String} :
    r.UsesKey key owner name ↔ ∃ c, (owner, .ofClass c) ∈ done ∧ ∃ p ∈ c.properties,
      Naming.typeName p.jsonName = name ∧ Naming.propertyKey c.name name = key := by
  have hdeclared {c : ClassModel} (hc : (owner, .ofClass c) ∈ done) :
      List.Forall₂ (DeclaredAs r.graph (givenName? {} done) owner)
        (r.graph.node owner).properties c.properties := by
    cases described_of_walk h _ hc with
    | ofClass hs _ _ _ hp => rwa [Graph.properties_of_shape hs]
  constructor
  · rintro ⟨className, hentered, declared, hmem, rfl, rfl⟩
    obtain ⟨c, hc, rfl⟩ := (enters_iff h).mp hentered
    obtain ⟨p, hp, hd⟩ := mem_of_forall₂ (hdeclared hc).flip declared hmem
    exact ⟨c, hc, p, hp, by rw [hd.jsonName], rfl⟩
  · rintro ⟨c, hc, p, hp, rfl, rfl⟩
    obtain ⟨declared, hmem, hd⟩ := mem_of_forall₂ (hdeclared hc) p hp
    exact ⟨c.name, (enters_iff h).mpr ⟨c, hc, rfl⟩, declared, hmem, by rw [hd.jsonName], rfl⟩

/-- The key of a site where a node is first reached is one that the run uses. -/
theorem usesKey_of_firstSite {r : Run} {done : Finished} (h : r.walk = .ok done) {id : NodeId}
    {site : Site} (hsite : r.firstSite? id = some site) {key : String}
    (hk : site.propertyKey = some key) : ∃ owner name, r.UsesKey key owner name := by
  have hway := (logged_of_walk h).ways _ (mem_of_lookup hsite)
  obtain ⟨c, hc, p, hp, hkey, -⟩ := property_of_way h hway hk
  obtain ⟨owner, hmem⟩ := mem_classes.mp hc
  exact ⟨owner, _, (usesKey_iff h).mpr ⟨c, hmem, p, hp, rfl, hkey.symm⟩⟩

/-- The key of a property tells the names of the class and of the property from which it is put
together. In one run a key stands for the properties of one class that have one name by their keys
in the schema, also if the run fails. In a run that ends well the keys are those of the properties
in its classes, and every key of a site where a node is first reached is one of them. -/
theorem property_keys_unambiguous :
    (∀ a b p q : String,
      Naming.propertyKey (Naming.typeName a) (Naming.typeName p) =
        Naming.propertyKey (Naming.typeName b) (Naming.typeName q) →
      Naming.typeName a = Naming.typeName b ∧ Naming.typeName p = Naming.typeName q) ∧
    ∀ r : Run,
      (∀ key owner owner' name name', r.UsesKey key owner name → r.UsesKey key owner' name' →
        owner = owner' ∧ name = name') ∧
      ∀ models, r.models = .ok models →
        (∀ key owner name, r.UsesKey key owner name ↔
          ∃ c, r.ModelOf owner (.ofClass c) ∧ ∃ p ∈ c.properties,
            Naming.typeName p.jsonName = name ∧ Naming.propertyKey c.name name = key) ∧
        ∀ id site key, r.firstSite? id = some site → site.propertyKey = some key →
          ∃ owner name, r.UsesKey key owner name := by
  constructor
  · intro a b p q h
    exact (Naming.propertyKey_eq_iff (Naming.point_not_mem_typeName a)
      (Naming.point_not_mem_typeName p)).mp h
  · intro r
    refine ⟨fun _ _ _ _ _ h h' => h.unique h', fun models hmodels => ?_⟩
    obtain ⟨-, done, hw, -⟩ := models_ok hmodels
    refine ⟨fun key owner name => ?_, fun id site key hsite hk => usesKey_of_firstSite hw hsite hk⟩
    rw [usesKey_iff hw]
    constructor
    · rintro ⟨c, hc, hp⟩
      exact ⟨c, ⟨done, hw, hc⟩, hp⟩
    · rintro ⟨c, ⟨done', hw', hc⟩, hp⟩
      cases hw.symm.trans hw'
      exact ⟨c, hc, hp⟩

/-! ## an example -/

/-- Two properties of the root have one name, and behind one of them is an object. -/
def twinGraph : Graph := ⟨#[
  { type := some .string, pointer := ["properties", "a_b"] },
  { type := some .string, pointer := ["properties", "aB", "properties", "c"] },
  { type := some .object, properties := [("c", 1)], pointer := ["properties", "aB"] },
  { type := some .object, properties := [("a_b", 0), ("aB", 2)] }]⟩

def twinRun (hints : Hints) : Run where
  graph := twinGraph
  hints
  settings := { namespaceName := "N", rootClassName := "record" }

def twinClass : ClassModel := ⟨"N", "Record", none,
  [⟨"AB1", "a_b", .string, false, none⟩, ⟨"AB2", "aB", .classNamed "AB", false, none⟩], false⟩

def twinFinished : Finished := [
  (2, .ofClass ⟨"N", "AB", none, [⟨"C", "c", .string, false, none⟩], false⟩),
  (3, .ofClass twinClass)]

theorem walk_twinRun : (twinRun {}).walk = .ok twinFinished :=
  walk_of_within rfl (by with_unfolding_all rfl)

/-- One key stands for both properties of the root, and for no other. -/
theorem keys_of_twinRun : (twinRun {}).models = .ok (twinFinished.map Prod.snd) ∧
    Naming.propertyKey (Naming.typeName "record") (Naming.typeName "a_b") =
      Naming.propertyKey (Naming.typeName "Record") (Naming.typeName "aB") ∧
    Naming.typeName "a_b" = Naming.typeName "aB" ∧
    (twinRun {}).UsesKey "Record.AB" 3 "AB" ∧
    (∀ owner name, (twinRun {}).UsesKey "Record.AB" owner name → 3 = owner ∧ "AB" = name) ∧
    (twinRun {}).firstSite? 2 = some ⟨some "Record.AB", "AB"⟩ ∧
    ∃ owner name, (twinRun {}).UsesKey "Record.AB" owner name := by
  have hmodels := models_of_walk rfl (by decide) walk_twinRun
  have hkey : Naming.propertyKey (Naming.typeName "record") (Naming.typeName "a_b") =
      Naming.propertyKey (Naming.typeName "Record") (Naming.typeName "aB") := by cbv
  have hsite : (twinRun {}).firstSite? 2 = some ⟨some "Record.AB", "AB"⟩ := by cbv
  obtain ⟨hsame, hruns⟩ := property_keys_unambiguous
  obtain ⟨hone, hends⟩ := hruns (twinRun {})
  obtain ⟨hkeys, hsites⟩ := hends _ hmodels
  have hused : (twinRun {}).UsesKey "Record.AB" 3 "AB" :=
    (hkeys _ _ _).mpr ⟨twinClass, ⟨twinFinished, walk_twinRun, by decide⟩,
      ⟨"AB1", "a_b", .string, false, none⟩, by decide, by cbv, by cbv⟩
  exact ⟨hmodels, hkey, (hsame _ _ _ _ hkey).2, hused, fun _ _ h => hone _ _ _ _ _ hused h, hsite,
    hsites _ _ _ hsite rfl⟩

/-- A hint under this key gives the object the name of the root, so the run fails. It has used the
key before. -/
example : let r := twinRun ⟨[("Record.AB", .className "record")]⟩
    r.models = .error (.typeNameConflict "Record" "#" "#/properties/aB") ∧
      r.UsesKey "Record.AB" 3 "AB" :=
  ⟨by cbv, "Record", .root (.here rfl rfl (by cbv) rfl), ("a_b", 0), by decide, by cbv, by cbv⟩

end Run

end SchemaModel

import Mathlib
import SchemaModel.Proofs.Graph.References
import SchemaModel.Proofs.Walk.Arrival

/-!
# What enumerations are called

An enumeration is called by the hint that is found first: under the key of the property through
which it is first reached, then under its definition. Hints of other kinds are passed over, but a
hint whose name is blank ends the search. Then a definition is called by its key, and for an
enumeration that is no definition the run fails, so it is never called by its property.

* `name_of_synthesize`          the name of an enumeration by what its hint gives;
* `findFirst?_hintKeys`         where the hint is looked for;
* `hinted_of_inline`            an enumeration that is no definition has a hint that names it;
* `enums_named_by_hints`        the names of all enumerations of a run.
-/

namespace SchemaModel

/-- the name that a hint gives, unless it is blank -/
def EnumHint.given? (hint : EnumHint) : Option String := hint.typeName.bind Text.nonBlank?

namespace EnumSite

variable {site : EnumSite} {hints : Hints} {e : NamedEnum}

/-- the hint that is found for an enumeration -/
def hint? (site : EnumSite) (hints : Hints) : Option EnumHint :=
  (hints.findFirst? Hint.enumeration? site.hintKeys).map Prod.snd

/-- The name is that of the hint, or else that of the definition. -/
theorem name_of_synthesize (h : site.synthesize hints = .ok e) :
    (((site.hint? hints).bind EnumHint.given?).or site.definition).map Naming.typeName =
      some e.typeName := by
  rw [← (EnumSite.apply_ok h).1, EnumSite.typeName?, EnumSite.hint?]
  cases (hints.findFirst? Hint.enumeration? site.hintKeys).map Prod.snd with
  | none => rfl
  | some hint => rfl

/-- A definition is looked up under its key and under the name of its type, also if this is one
text. -/
theorem findFirst?_hintKeys {variant : Hint → Option α} {raw : String}
    (hdef : site.definition = some raw) :
    hints.findFirst? variant site.hintKeys =
      hints.findFirst? variant (site.propertyKey.toList ++ [raw, Naming.typeName raw]) := by
  have htwice : ∀ f : String → Option (String × α),
      [raw].findSome? f = [raw, raw].findSome? f := by
    intro f
    rw [List.findSome?_cons, List.findSome?_cons]
    cases hf : f raw with
    | some found => rfl
    | none => rw [List.findSome?_cons, hf]
  rw [hintKeys, hdef]
  dsimp only
  split
  · next hraw =>
    rw [hraw, Hints.findFirst?, Hints.findFirst?, List.findSome?_append, List.findSome?_append,
      htwice]
  · rfl

/-- An enumeration that is no definition has a hint under the key of a property, which names it. -/
theorem hinted_of_inline (h : site.synthesize hints = .ok e) (hdef : site.definition = none) :
    ∃ key hint name, site.propertyKey = some key ∧
      hints.find? Hint.enumeration? key = some hint ∧ hint.given? = some name ∧
      e.typeName = Naming.typeName name := by
  have hname := name_of_synthesize h
  rw [hdef, Option.or_none, Option.map_eq_some_iff] at hname
  obtain ⟨name, hgiven, htype⟩ := hname
  obtain ⟨hint, hhint, hgiven⟩ := Option.bind_eq_some_iff.mp hgiven
  obtain ⟨⟨key, hint'⟩, hfound, rfl⟩ := Option.map_eq_some_iff.mp hhint
  rw [hintKeys, hdef, List.append_nil] at hfound
  obtain ⟨key', hkey', hfound⟩ := List.exists_of_findSome?_eq_some hfound
  obtain ⟨hint'', hfound, hpair⟩ := Option.map_eq_some_iff.mp hfound
  cases hpair
  exact ⟨key, hint', name, Option.mem_toList.mp hkey', hfound, hgiven, htype.symm⟩

end EnumSite

namespace Run

/-- An enumeration that no reference can address is first reached through a property, or the items
of arrays behind it, and it is called by the first hint for enumerations under the key of its class
and property, which gives a name that is not blank. A definition is called by the first such hint
under the key of the property through which it is first reached, under its own key, or under its
name as a type, if this hint gives a name, and by its own key otherwise. -/
theorem enums_named_by_hints {document : Json} {r : Run} {models : ModelSet}
    (hd : document.Distinct) (hg : Graph.ofJson document = .ok r.graph)
    (h : r.models = .ok models) :
    ∀ e ∈ models.enums, ∃ id site, r.ModelOf id (.ofEnum e) ∧ r.firstSite? id = some site ∧
      (¬ r.graph.Addressed id → ∃ c ∈ models.classes, ∃ p ∈ c.properties, ∃ hint name,
        p.type.leaf = .enumNamed e.name ∧
        site.propertyKey = some (Naming.propertyKey c.name (Naming.typeName p.jsonName)) ∧
        r.hints.find? Hint.enumeration?
          (Naming.propertyKey c.name (Naming.typeName p.jsonName)) = some hint ∧
        hint.given? = some name ∧ e.name = Naming.typeName name) ∧
      ∀ outer raw, r.graph.Addressed outer → (raw, id) ∈ (r.graph.node outer).definitions →
        e.name = Naming.typeName (((r.hints.findFirst? Hint.enumeration?
          (site.propertyKey.toList ++ [raw, Naming.typeName raw])).bind
            fun found => found.2.given?).getD raw) := by
  obtain ⟨-, done, hw, rfl⟩ := models_ok h
  intro e he
  obtain ⟨id, he⟩ := mem_enums.mp he
  obtain ⟨site, hsite, hway, hnamed⟩ := firstSite_of_walk hw he
  refine ⟨id, site, ⟨done, hw, he⟩, hsite, ?_⟩
  cases hnamed with
  | @ofEnum values e hs hsynth =>
  constructor
  · intro hinline
    have hdef : (r.graph.node id).pointer.definition? = none := by
      by_contra hne
      obtain ⟨name, hname⟩ := Option.ne_none_iff_exists'.mp hne
      exact hinline ((Graph.definition?_eq_some_iff hd hg).mp hname).1
    obtain ⟨key, hint, name, hkey, hfound, hgiven, htype⟩ :=
      EnumSite.hinted_of_inline hsynth hdef
    obtain ⟨c, hc, p, hp, rfl, t, ht, hleaf⟩ := property_of_way hw hway hkey
    obtain ⟨name', hname', rfl⟩ := ht.of_enumeration hs
    rw [givenName?_of_entry (distinct_of_walk hw) he] at hname'
    cases hname'
    exact ⟨c, hc, p, hp, hint, name, hleaf, hkey, hfound, hgiven, htype⟩
  · intro outer raw ho hm
    have hdef : (r.enumSite site id values).definition = some raw :=
      Graph.definition?_of_addressed hd hg ho hm
    have hname := EnumSite.name_of_synthesize hsynth
    rw [EnumSite.hint?, EnumSite.findFirst?_hintKeys hdef, hdef, Option.bind_map, Option.or_some,
      Option.map_some] at hname
    exact (Option.some.inj hname).symm

/-! ## an example -/

def colorText : String :=
  "\x7b\"properties\":\x7b" ++
  "\"a\":\x7b\"type\":\"array\",\"items\":\x7b\"enum\":[\"x\"]\x7d\x7d," ++
  "\"b\":\x7b\"$ref\":\"#/definitions/Kind\"\x7d\x7d," ++
  "\"definitions\":\x7b\"Kind\":\x7b\"enum\":[\"y\"]\x7d\x7d\x7d"

/-- an enumeration in the items of a property, and one that is a definition -/
def colorDocument : Json :=
  .object [
    ("properties", .object [
      ("a", .object [("type", .string "array"),
        ("items", .object [("enum", .array [.string "x"])])]),
      ("b", .object [("$ref", .string "#/definitions/Kind")])]),
    ("definitions", .object [("Kind", .object [("enum", .array [.string "y"])])])]

def colorGraph : Graph := ⟨#[
  { values := some ["x"], pointer := ["properties", "a", "items"] },
  { type := some .array, items := some 0, pointer := ["properties", "a"] },
  { reference := some (.fragment "#/definitions/Kind"), pointer := ["properties", "b"] },
  { values := some ["y"], pointer := ["definitions", "Kind"] },
  { properties := [("a", 1), ("b", 2)], definitions := [("Kind", 3)] }]⟩

/-- Under the key of the array stands a hint of another kind as well; the hint for the definition
under the key of its property gives a blank name, and the one under its own key is not looked at. -/
def colorRun : Run where
  graph := colorGraph
  hints := ⟨[
    ("Record.A", .propertyName "Z"),
    ("Record.A", .enumeration { typeName := some " color " }),
    ("Record.B", .enumeration { typeName := some " " }),
    ("Kind", .enumeration { typeName := some "Other" })]⟩
  settings := { namespaceName := "N", rootClassName := "Record" }

def colorEnum : EnumModel := ⟨"N", "Color", none, [⟨"X", some "x"⟩]⟩

def kindEnum : EnumModel := ⟨"N", "Kind", none, [⟨"Y", some "y"⟩]⟩

def colorClass : ClassModel := ⟨"N", "Record", none,
  [⟨"Z", "a", .sequence (.enumNamed "Color"), false, none⟩,
    ⟨"B", "b", .enumNamed "Kind", false, none⟩], false⟩

def colorFinished : Finished :=
  [(0, .ofEnum colorEnum), (3, .ofEnum kindEnum), (4, .ofClass colorClass)]

theorem walk_colorRun : colorRun.walk = .ok colorFinished :=
  walk_of_within rfl (by with_unfolding_all rfl)

/-- The node of each enumeration is known from the walk. -/
theorem node_of_colorRun {id : NodeId} {m : Model} (h : colorRun.ModelOf id m) :
    (id, m) ∈ colorFinished := by
  obtain ⟨done, hw, he⟩ := h
  cases walk_colorRun.symm.trans hw
  exact he

theorem enum_names_of_colorRun : Json.read colorText = .ok colorDocument ∧
    Graph.ofJson colorDocument = .ok colorGraph ∧
    colorRun.models = .ok (colorFinished.map Prod.snd) ∧
    ¬ colorGraph.Addressed 0 ∧ ("Kind", 3) ∈ (colorGraph.node colorGraph.root).definitions ∧
    (∃ hint name, colorRun.hints.find? Hint.enumeration? "Record.A" = some hint ∧
      hint.given? = some name ∧ "Color" = Naming.typeName name) ∧
    ∃ site, colorRun.firstSite? 3 = some site ∧
      "Kind" = Naming.typeName (((colorRun.hints.findFirst? Hint.enumeration?
        (site.propertyKey.toList ++ ["Kind", Naming.typeName "Kind"])).bind
          fun found => found.2.given?).getD "Kind") := by
  have hread : Json.read colorText = .ok colorDocument := by
    unfold Json.read colorText
    simp only [String.toList_append]
    repeat rw [String.toList_ofList]
    rfl
  have hd := Json.distinct_of_read hread
  have hg : Graph.ofJson colorDocument = .ok colorGraph := rfl
  have hmodels := models_of_walk rfl (by decide) walk_colorRun
  have hinline : ¬ colorGraph.Addressed 0 := by
    rw [Graph.addressed_iff hd hg]
    decide
  have hkind : ("Kind", 3) ∈ (colorGraph.node colorGraph.root).definitions := by decide
  have hall := enums_named_by_hints (r := colorRun) hd hg hmodels
  refine ⟨hread, hg, hmodels, hinline, hkind, ?_, ?_⟩
  · obtain ⟨id, site, hmodel, -, hnamed, -⟩ := hall colorEnum (by decide)
    obtain rfl : id = 0 := by
      simpa [colorFinished, colorEnum, kindEnum] using node_of_colorRun hmodel
    obtain ⟨c, hc, p, hp, hint, name, hleaf, -, hfound, hgiven, hname⟩ := hnamed hinline
    obtain rfl : c = colorClass := List.mem_singleton.mp hc
    have hkey : p.jsonName = "a" := by
      rcases List.mem_cons.mp hp with rfl | hp
      · rfl
      · rw [List.mem_singleton.mp hp] at hleaf
        exact absurd hleaf (by decide)
    rw [hkey] at hfound
    exact ⟨hint, name, hfound, hgiven, hname⟩
  · obtain ⟨id, site, hmodel, hsite, -, hnamed⟩ := hall kindEnum (by decide)
    obtain rfl : id = 3 := by
      simpa [colorFinished, colorEnum, kindEnum] using node_of_colorRun hmodel
    exact ⟨site, hsite, hnamed colorGraph.root "Kind" .root hkind⟩

end Run

end SchemaModel

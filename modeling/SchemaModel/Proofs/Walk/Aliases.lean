import Mathlib
import SchemaModel.Proofs.Graph.Chains
import SchemaModel.Proofs.Graph.References
import SchemaModel.Proofs.Walk.Reachable

/-!
# Definitions that are references

The walk leaves a definition of the root that is a reference to the definition that it leads to. If
this is the root or a definition of the root, the walk starts there as well, so its model is not
lost. But references also lead to definitions that are nested in definitions, and there the walk
does not start: such a one has a model only if properties or items lead to it.

* `addressed_of_follow`      a chain of references leads to the root or to a definition;
* `start_iff_not_nested`     the walk starts at those that are not nested;
* `model_of_definition_iff`   so these are the targets of definitions that have a model.
-/

namespace SchemaModel

namespace Graph

/-- a definition inside of a definition, at any depth -/
def Nested (g : Graph) (id : NodeId) : Prop :=
  ∃ outer name, g.Addressed outer ∧ outer ≠ g.root ∧ (name, id) ∈ (g.node outer).definitions

section
variable {document : Json} {g : Graph}

theorem addressed_of_followFrom (hd : document.Distinct) (h : ofJson document = .ok g)
    {seen : List NodeId} {id target : NodeId} (ha : g.Addressed id)
    (hf : g.followFrom seen id = .ok target) : g.Addressed target := by
  fun_induction followFrom g seen id with
  | case1 => cases hf; exact ha
  | case2 => cases hf
  | case3 _ _ _ _ _ _ hn ih => exact ih ((resolve_eq_ok_iff hd h).mp hn).2 hf
  | case4 => cases hf

/-- A chain of references that starts at a definition ends at the root or at a definition. -/
theorem addressed_of_follow (hd : document.Distinct) (h : ofJson document = .ok g)
    {id target : NodeId} (ha : g.Addressed id) (hf : g.follow id = .ok target) :
    g.Addressed target :=
  addressed_of_followFrom hd h ha hf

/-! ## where the walk starts -/

theorem not_nested_root (hd : document.Distinct) (h : ofJson document = .ok g) :
    ¬ g.Nested g.root := by
  rintro ⟨outer, name, ha, -, hm⟩
  have hp := (pointsTo_definition hd h (pointsTo_of_addressed hd h ha).1 hm).2
  rw [(pointsTo_root h).2] at hp
  exact List.append_ne_nil_of_right_ne_nil _ (by simp) hp.symm

theorem not_nested_definition (hd : document.Distinct) (h : ofJson document = .ok g)
    {d : String × NodeId} (hm : d ∈ (g.node g.root).definitions) : ¬ g.Nested d.2 := by
  rintro ⟨outer, name, ha, hne, hm'⟩
  have houter := (pointsTo_of_addressed hd h ha).1
  have hp := (pointsTo_definition hd h (pointsTo_root h).1 hm).2
  have hp' := (pointsTo_definition hd h houter hm').2
  -- both pointers are one, so the outer definition has that of the root
  rw [hp, (pointsTo_root h).2] at hp'
  have hlength := congrArg List.length hp'
  rw [List.length_append] at hlength
  have hnil : (g.node outer).pointer = [] := List.length_eq_zero_iff.mp (by simpa using hlength)
  exact hne (PointsTo.unique hd h ⟨houter, hnil⟩ (pointsTo_root h))

/-- The walk starts at the root and at the definitions without a reference, but not at those that
are nested. -/
theorem start_iff_not_nested (hd : document.Distinct) (h : ofJson document = .ok g) {id : NodeId}
    (ha : g.Addressed id) (hr : (g.node id).reference = none) : g.Start id ↔ ¬ g.Nested id := by
  constructor
  · intro hs
    cases hs with
    | root => exact not_nested_root hd h
    | definition hm _ => exact not_nested_definition hd h hm
  · intro hn
    cases ha with
    | root => exact .root
    | @definition outer name _ houter hm =>
      have hroot : outer = g.root := by
        by_contra hne
        exact hn ⟨outer, name, houter, hne, hm⟩
      rw [hroot] at hm
      exact .definition (d := (name, id)) hm hr

end

end Graph

namespace Run

theorem modelOf_iff_reachable {r : Run} {models : ModelSet} (h : r.models = .ok models)
    {id : NodeId} (hm : (r.graph.node id).HasModel) :
    (∃ m ∈ models, r.ModelOf id m) ↔ r.graph.Reachable id := by
  obtain ⟨hroot, done, hw, rfl⟩ := models_ok h
  have hnamed := isSome_givenName?_iff hw (reference_of_rootIsObject hroot) id
  rw [isSome_givenName?_iff_mem] at hnamed
  constructor
  · rintro ⟨m, -, done', hw', he⟩
    cases hw.symm.trans hw'
    exact (hnamed.mp (.inr (List.mem_map_of_mem he))).1
  · intro hr
    rcases hnamed.mpr ⟨hr, hm⟩ with hopen | hdone
    · cases hopen
    · obtain ⟨⟨i, m⟩, he, rfl⟩ := List.mem_map.mp hdone
      exact ⟨m, List.mem_map_of_mem he, done, hw, he⟩

/-- A definition of the root stands for an object or an enumeration. The models of the run hold its
model, unless it is a definition nested in a definition to which no property and no items lead from
the root or from a definition of the root that is no reference. -/
theorem model_of_definition_iff {document : Json} {r : Run} {models : ModelSet}
    (hd : document.Distinct) (hg : Graph.ofJson document = .ok r.graph)
    (h : r.models = .ok models) {d : String × NodeId}
    (hdef : d ∈ (r.graph.node r.graph.root).definitions) {id : NodeId}
    (hf : r.graph.follow d.2 = .ok id) (hm : (r.graph.node id).HasModel) :
    (∃ m ∈ models, r.ModelOf id m) ↔ ¬ r.graph.Nested id ∨
      ∃ start, r.graph.Start start ∧ Relation.TransGen r.graph.Step start id := by
  have ha : r.graph.Addressed id := Graph.addressed_of_follow hd hg (.definition .root hdef) hf
  rw [modelOf_iff_reachable h hm, ← Graph.start_iff_not_nested hd hg ha hm.1]
  constructor
  · rintro ⟨start, hs, hpath⟩
    rcases Relation.reflTransGen_iff_eq_or_transGen.mp hpath with rfl | hsteps
    · exact .inl hs
    · exact .inr ⟨start, hs, hsteps⟩
  · rintro (hs | ⟨start, hs, hsteps⟩)
    · exact ⟨id, hs, .refl⟩
    · exact ⟨start, hs, hsteps.to_reflTransGen⟩

/-! ## two documents -/

def aliasSettings : Settings := { namespaceName := "N", rootClassName := "Record" }

def usedAliasText : String :=
  "\x7b\"properties\":\x7b\"p\":\x7b\"$ref\":\"#/definitions/d\"\x7d\x7d," ++
  "\"definitions\":\x7b" ++
  "\"a\":\x7b\"definitions\":\x7b\"b\":\x7b\"type\":\"object\"\x7d\x7d\x7d," ++
  "\"c\":\x7b\"$ref\":\"#/definitions/d\"\x7d," ++
  "\"d\":\x7b\"$ref\":\"#/definitions/a/definitions/b\"\x7d\x7d\x7d"

/-- Two references lead to a nested definition, and a property leads there too. -/
def usedAlias : Json :=
  .object [
    ("properties", .object [("p", .object [("$ref", .string "#/definitions/d")])]),
    ("definitions", .object [
      ("a", .object [("definitions", .object [("b", .object [("type", .string "object")])])]),
      ("c", .object [("$ref", .string "#/definitions/d")]),
      ("d", .object [("$ref", .string "#/definitions/a/definitions/b")])])]

def usedAliasGraph : Graph := ⟨#[
  { reference := some (.fragment "#/definitions/d"), pointer := ["properties", "p"] },
  { type := some .object, pointer := ["definitions", "a", "definitions", "b"] },
  { definitions := [("b", 1)], pointer := ["definitions", "a"] },
  { reference := some (.fragment "#/definitions/d"), pointer := ["definitions", "c"] },
  { reference := some (.fragment "#/definitions/a/definitions/b"),
    pointer := ["definitions", "d"] },
  { properties := [("p", 0)], definitions := [("a", 2), ("c", 3), ("d", 4)] }]⟩

def usedAliasModels : ModelSet := [
  .ofClass ⟨"N", "B", none, [], false⟩,
  .ofClass ⟨"N", "Record", none, [⟨"P", "p", .classNamed "B", false, none⟩], false⟩]

set_option maxRecDepth 2000 in
/-- The definition `c` stands for the nested one, which has its model through the property. -/
theorem model_of_usedAlias : Json.read usedAliasText = .ok usedAlias ∧
    ∃ g, Graph.ofJson usedAlias = .ok g ∧ ∃ r : Run, r = ⟨g, {}, aliasSettings⟩ ∧
      r.models = .ok usedAliasModels ∧
      ("c", 3) ∈ (g.node g.root).definitions ∧ g.follow 3 = .ok 1 ∧ (g.node 1).HasModel ∧
      g.Nested 1 ∧ ∃ m ∈ usedAliasModels, r.ModelOf 1 m := by
  have hread : Json.read usedAliasText = .ok usedAlias := by
    unfold Json.read usedAliasText
    simp only [String.toList_append]
    repeat rw [String.toList_ofList]
    rfl
  have hg : Graph.ofJson usedAlias = .ok usedAliasGraph := rfl
  have hmodels : Run.models ⟨usedAliasGraph, {}, aliasSettings⟩ = .ok usedAliasModels :=
    models_of_within rfl rfl (by with_unfolding_all rfl)
  have hmem : ∀ d ∈ [("a", 2), ("c", 3)], d ∈ (usedAliasGraph.node usedAliasGraph.root).definitions :=
    by decide
  have hc : ("c", 3) ∈ (usedAliasGraph.node usedAliasGraph.root).definitions := hmem _ (by decide)
  have hd : usedAliasGraph.resolve (.fragment "#/definitions/d") = .ok 4 :=
    Graph.resolve_fragment (p := ["definitions", "d"]) (by decide) (by decide)
  have hb : usedAliasGraph.resolve (.fragment "#/definitions/a/definitions/b") = .ok 1 :=
    Graph.resolve_fragment (p := ["definitions", "a", "definitions", "b"]) (by decide) (by decide)
  have hchain : usedAliasGraph.Chain 4 [4] 1 := .next ⟨_, rfl, hb⟩ .here
  have hfollow : usedAliasGraph.follow 3 = .ok 1 :=
    Graph.follow_ok_iff.mpr ⟨⟨_, .next ⟨_, rfl, hd⟩ hchain⟩, rfl⟩
  have hmodel : (usedAliasGraph.node 1).HasModel := ⟨rfl, .inl ⟨_, rfl⟩⟩
  have hnested : usedAliasGraph.Nested 1 :=
    ⟨2, "b", .definition .root (hmem _ List.mem_cons_self), by decide, by decide⟩
  have hproperty : usedAliasGraph.follow 0 = .ok 1 :=
    Graph.follow_ok_iff.mpr ⟨⟨_, .next ⟨_, rfl, hd⟩ hchain⟩, rfl⟩
  have hstep : usedAliasGraph.Step usedAliasGraph.root 1 :=
    .property rfl rfl List.mem_cons_self hproperty
  exact ⟨hread, _, hg, _, rfl, hmodels, hc, hfollow, hmodel, hnested,
    (model_of_definition_iff (Json.distinct_of_read hread) hg hmodels hc hfollow hmodel).mpr
      (.inr ⟨_, .root, .single hstep⟩)⟩

def unusedAliasText : String :=
  "\x7b\"type\":\"object\",\"definitions\":\x7b" ++
  "\"a\":\x7b\"definitions\":\x7b\"b\":\x7b\"type\":\"object\"\x7d\x7d\x7d," ++
  "\"c\":\x7b\"$ref\":\"#/definitions/a/definitions/b\"\x7d\x7d\x7d"

def unusedAlias : Json :=
  .object [
    ("type", .string "object"),
    ("definitions", .object [
      ("a", .object [("definitions", .object [("b", .object [("type", .string "object")])])]),
      ("c", .object [("$ref", .string "#/definitions/a/definitions/b")])])]

def unusedAliasGraph : Graph := ⟨#[
  { type := some .object, pointer := ["definitions", "a", "definitions", "b"] },
  { definitions := [("b", 0)], pointer := ["definitions", "a"] },
  { reference := some (.fragment "#/definitions/a/definitions/b"),
    pointer := ["definitions", "c"] },
  { type := some .object, definitions := [("a", 1), ("c", 2)] }]⟩

set_option maxRecDepth 2000 in
/-- A reference leads to a nested definition, and nothing else does: it has no model. -/
theorem no_model_of_unusedAlias :
    Json.read unusedAliasText = .ok unusedAlias ∧
    ∃ g, Graph.ofJson unusedAlias = .ok g ∧
      Run.models ⟨g, {}, aliasSettings⟩ = .ok [.ofClass ⟨"N", "Record", none, [], false⟩] ∧
      ("c", 2) ∈ (g.node g.root).definitions ∧ g.follow 2 = .ok 0 ∧ (g.node 0).HasModel ∧
      ∀ m, ¬ Run.ModelOf ⟨g, {}, aliasSettings⟩ 0 m := by
  have hread : Json.read unusedAliasText = .ok unusedAlias := by
    unfold Json.read unusedAliasText
    simp only [String.toList_append]
    repeat rw [String.toList_ofList]
    rfl
  have hg : Graph.ofJson unusedAlias = .ok unusedAliasGraph := rfl
  have hwalk : Run.walk ⟨unusedAliasGraph, {}, aliasSettings⟩ =
      .ok [(3, .ofClass ⟨"N", "Record", none, [], false⟩)] :=
    walk_of_within rfl (by with_unfolding_all rfl)
  have hb : unusedAliasGraph.resolve (.fragment "#/definitions/a/definitions/b") = .ok 0 :=
    Graph.resolve_fragment (p := ["definitions", "a", "definitions", "b"]) (by decide) (by decide)
  have hfollow : unusedAliasGraph.follow 2 = .ok 0 :=
    Graph.follow_ok_iff.mpr ⟨⟨_, .next ⟨_, rfl, hb⟩ .here⟩, rfl⟩
  refine ⟨hread, _, hg, models_of_walk rfl (by decide) hwalk, by decide, hfollow,
    ⟨rfl, .inl ⟨_, rfl⟩⟩, ?_⟩
  rintro m ⟨done, hw, he⟩
  cases hwalk.symm.trans hw
  simp at he

end Run

end SchemaModel

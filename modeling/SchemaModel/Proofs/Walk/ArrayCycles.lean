import Mathlib
import SchemaModel.Proofs.Graph.Chains
import SchemaModel.Proofs.Walk.Failure
import SchemaModel.Proofs.Walk.Reachable

/-!
# Arrays of themselves

The items of an array can lead back to it with arrays only on the way. Such an array has no type,
and the walk refuses it: of the arrays that it has entered since the innermost class, each leads to
the node where it stands, so one that it meets again is on a cycle of arrays. Arrays that are shared
or nested, and cycles of arrays with an object on the way, are not refused.

* `InItself.goes_round`       a cycle of arrays is left nowhere;
* `not_denotes_of_inItself`   no type is a list of lists of itself;
* `TypeFails.inItself`        an array is refused on a cycle of arrays only;
* `array_cycles_refused`      the arrays that runs refuse are those on reachable cycles of arrays.
-/

namespace SchemaModel

namespace Graph

/-- from an array to what its items stand for -/
def ItemsStep (g : Graph) (a b : NodeId) : Prop :=
  ∃ items, (g.node a).reference = none ∧ (g.node a).shape = .array (some items) ∧
    g.follow items = .ok b

/-- an array on a cycle on which there are arrays only -/
def InItself (g : Graph) (id : NodeId) : Prop := Relation.TransGen g.ItemsStep id id

section
variable {g : Graph} {a b c : NodeId}

theorem ItemsStep.step (h : g.ItemsStep a b) : g.Step a b := by
  obtain ⟨items, hr, hs, hf⟩ := h
  exact .items hr hs hf

theorem ItemsStep.unique (hb : g.ItemsStep a b) (hc : g.ItemsStep a c) : b = c := by
  obtain ⟨items, -, hs, hf⟩ := hb
  obtain ⟨items', -, hs', hf'⟩ := hc
  cases hs.symm.trans hs'
  exact Except.ok.inj (hf.symm.trans hf')

/-- The next node of a cycle of arrays is on a cycle of arrays, too. -/
theorem InItself.next (h : g.InItself a) (hb : g.ItemsStep a b) : g.InItself b := by
  obtain ⟨c, hc, hback⟩ := Relation.TransGen.head'_iff.mp h
  cases hb.unique hc
  exact Relation.TransGen.tail' hback hb

/-- From a cycle of arrays, items lead to arrays with items only. -/
theorem InItself.goes_round (h : g.InItself a) (hb : Relation.ReflTransGen g.ItemsStep a b) :
    ∃ next, g.ItemsStep b next := by
  have hcycle : g.InItself b := by
    induction hb with
    | refl => exact h
    | tail _ hstep ih => exact ih.next hstep
  obtain ⟨next, hnext, -⟩ := Relation.TransGen.head'_iff.mp hcycle
  exact ⟨next, hnext⟩

/-- Behind an array are smaller types. -/
theorem Denotes.smaller_of_items {ν : NodeId → Option String} {t : TypeRef}
    (h : Relation.TransGen g.ItemsStep a b) (ha : Denotes g ν a t) :
    ∃ element, Denotes g ν b element ∧ sizeOf element < sizeOf t := by
  have hstep {a b : NodeId} {t : TypeRef} (hb : g.ItemsStep a b) (ha : Denotes g ν a t) :
      ∃ element, Denotes g ν b element ∧ sizeOf element < sizeOf t := by
    obtain ⟨items, -, hs, hf⟩ := hb
    obtain ⟨target, element, hf', he, rfl⟩ := ha.of_array hs
    cases hf.symm.trans hf'
    exact ⟨element, he, by simp⟩
  induction h with
  | single hb => exact hstep hb ha
  | tail _ hb ih =>
    obtain ⟨middle, hm, hless⟩ := ih
    obtain ⟨element, he, hless'⟩ := hstep hb hm
    exact ⟨element, he, hless'.trans hless⟩

/-- An array of itself has no type. -/
theorem not_denotes_of_inItself {ν : NodeId → Option String} {t : TypeRef} (h : g.InItself a) :
    ¬ Denotes g ν a t := by
  intro ha
  obtain ⟨element, he, hless⟩ := Denotes.smaller_of_items h ha
  cases he.unique ha
  exact absurd hless (lt_irrefl _)

end

end Graph

namespace Run

/-! ## what a run refuses -/

/-- The fault at a place is that of an array of itself, to which steps lead from `start`. -/
structure Refuses (r : Run) (start : NodeId) (p : String) (fault : Schema.Fault) : Prop where
  fault_eq : fault = .arrayOfItself
  place : ∃ id, Relation.ReflTransGen r.graph.Step start id ∧
    (r.graph.node id).pointer.text = p ∧ r.graph.InItself id

theorem Refuses.head {r : Run} {a b : NodeId} {p : String} {fault : Schema.Fault}
    (h : r.Refuses b p fault) (hstep : r.graph.Step a b) : r.Refuses a p fault := by
  obtain ⟨hfault, id, hpath, hp, hcycle⟩ := h
  exact ⟨hfault, id, .head hstep hpath, hp, hcycle⟩

section
variable {r : Run} {p : String} {fault : Schema.Fault}

mutual

/-- The arrays on the trail lead to the node where the walk stands. If this is one of them, it is an
array of itself. -/
theorem TypeFails.inItself {trail : Trail} {site : Site} {id : NodeId} {done : Finished} {e : Error}
    (he : e = .invalidSchema p fault) :
    r.TypeFails trail site id done e → (r.graph.node id).reference = none →
      (∀ a ∈ trail.arrays, Relation.TransGen r.graph.ItemsStep a id) → r.Refuses id p fault
  | .enumeration _ _ hmade, _, _ => by
    rcases EnumSite.synthesize_error hmade with rfl | ⟨_, _, rfl⟩ <;> cases he
  | .enumTaken _ _ _ _, _, _ | .classTaken _ _ _ _, _, _ => by cases he
  | .properties hs _ _ _ hp, hr, _ => by
    obtain ⟨declared, hd, target, hf, hrefused⟩ := hp.inItself he rfl
    rw [map_declared_namedProperties] at hd
    exact hrefused.head (.property hr hs hd hf)
  | .openArray _ ha, _, hopen => by
    cases he
    exact ⟨rfl, _, .refl, rfl, hopen _ ha⟩
  | .itemsNowhere _ _ hf, _, _ => by
    obtain ⟨_, _, rfl⟩ := Graph.follow_error hf
    cases he
  | .items hs _ hf ht, hr, hopen => by
    have hstep : r.graph.ItemsStep _ _ := ⟨_, hr, hs, hf⟩
    refine (ht.inItself he (Graph.reference_of_follow hf) fun a ha => ?_).head hstep.step
    rcases List.mem_cons.mp ha with rfl | ha
    · exact .single hstep
    · exact (hopen a ha).tail hstep

/-- No array is open when the walk enters a class. -/
theorem PropertiesFail.inItself {trail : Trail} {owner : NodeId} {name : String}
    {properties : List NamedProperty} {done : Finished} {e : Error}
    (he : e = .invalidSchema p fault) :
    r.PropertiesFail trail owner name properties done e → trail.arrays = [] →
      ∃ declared ∈ properties.map NamedProperty.declared, ∃ target,
        r.graph.follow declared.2 = .ok target ∧ r.Refuses target p fault
  | .nowhere hf, _ => by
    obtain ⟨_, _, rfl⟩ := Graph.follow_error hf
    cases he
  | .first hf ht, hnone => by
    refine ⟨_, List.mem_cons_self, _, hf,
      ht.inItself he (Graph.reference_of_follow hf) fun a ha => ?_⟩
    rw [hnone] at ha
    cases ha
  | .later _ _ hp, hnone => by
    obtain ⟨declared, hd, hrest⟩ := hp.inItself he hnone
    exact ⟨declared, List.mem_cons_of_mem _ hd, hrest⟩

end

theorem DefinitionsFail.inItself {definitions : List (String × NodeId)} {done : Finished}
    (h : r.DefinitionsFail definitions done (.invalidSchema p fault)) :
    ∃ d ∈ definitions, (r.graph.node d.2).reference = none ∧ r.Refuses d.2 p fault := by
  generalize he : Error.invalidSchema p fault = e at h
  induction h with
  | nowhere hf =>
    obtain ⟨_, _, rfl⟩ := Graph.follow_error hf
    cases he
  | first hf ht =>
    have hr := Graph.reference_of_follow hf
    exact ⟨_, List.mem_cons_self, hr, ht.inItself he.symm hr (List.forall_mem_nil _)⟩
  | reference _ _ _ ih | later _ _ _ ih =>
    obtain ⟨d, hd, hrest⟩ := ih he
    exact ⟨d, List.mem_cons_of_mem _ hd, hrest⟩

/-- A run calls a schema invalid only for a reachable array of itself. -/
theorem inItself_of_models (h : r.models = .error (.invalidSchema p fault)) :
    fault = .arrayOfItself ∧ ∃ id, r.graph.Reachable id ∧
      (r.graph.node id).pointer.text = p ∧ r.graph.InItself id := by
  obtain ⟨start, hstart, hfault, id, hpath, hp, hcycle⟩ :
      ∃ start, r.graph.Start start ∧ r.Refuses start p fault := by
    rcases models_error h with hcheck | hroot | ⟨hroot, hw⟩
    · cases Settings.check_error hcheck
    · cases hroot
    · rcases walk_error hw with ht | ⟨_, _, -, hd⟩
      · exact ⟨_, .root, ht.inItself rfl (reference_of_rootIsObject hroot) (List.forall_mem_nil _)⟩
      · obtain ⟨d, hd, hr, hrefused⟩ := hd.inItself
        exact ⟨_, .definition hd hr, hrefused⟩
  exact ⟨hfault, id, ⟨start, hstart, hpath⟩, hp, hcycle⟩

/-- A reachable array of itself has no type, so the run does not end well. -/
theorem not_models_of_inItself {id : NodeId} (hr : r.graph.Reachable id) (hc : r.graph.InItself id)
    (models : ModelSet) : r.models ≠ .ok models := by
  intro h
  obtain ⟨-, done, hw, -⟩ := models_ok h
  obtain ⟨t, ht⟩ := denotes_of_reachable hw hr
  exact Graph.not_denotes_of_inItself hc ht

end

/-- A run over a document calls a schema invalid only for an array whose items lead back to it with
arrays only on the way, and tells where it is. It does not end well if such an array is reachable.
An array whose items lead out of arrays is never refused, whether it is shared by properties, nested
in other arrays, or on a cycle with an object. -/
theorem array_cycles_refused {document : Json} {r : Run} (hd : document.Distinct)
    (hg : Graph.ofJson document = .ok r.graph) :
    (∀ p fault, r.models = .error (.invalidSchema p fault) →
      fault.message = "array items refer back to the array without passing through an object" ∧
      ∃ id, (∀ i, i < r.graph.size ∧ (r.graph.node i).pointer.text = p ↔ i = id) ∧
        r.graph.Reachable id ∧ r.graph.InItself id) ∧
    (∀ id, r.graph.Reachable id → r.graph.InItself id → ∀ models, r.models ≠ .ok models) ∧
    ∀ id out, id < r.graph.size → Relation.ReflTransGen r.graph.ItemsStep id out →
      (∀ next, ¬ r.graph.ItemsStep out next) →
      ∀ fault, r.models ≠ .error (.invalidSchema (r.graph.node id).pointer.text fault) := by
  have hplace {p fault} (h : r.models = .error (.invalidSchema p fault)) :
      ∃ id, (∀ i, i < r.graph.size ∧ (r.graph.node i).pointer.text = p ↔ i = id) ∧
        r.graph.Reachable id ∧ r.graph.InItself id := by
    obtain ⟨-, id, hr, rfl, hc⟩ := inItself_of_models h
    have hid : id < r.graph.size := by
      obtain ⟨next, items, -, hs, -⟩ := hc.goes_round .refl
      exact List.mem_range.mp (Graph.mem_range_of_shape hs nofun)
    refine ⟨id, fun i => ⟨fun ⟨hi, hp⟩ => ?_, ?_⟩, hr, hc⟩
    · exact Graph.id_of_pointer hd hg hi hid (Pointer.text_inj.mp hp)
    · rintro rfl
      exact ⟨hid, rfl⟩
  refine ⟨fun p fault h => ⟨?_, hplace h⟩, fun _ => not_models_of_inItself, ?_⟩
  · obtain ⟨rfl, -⟩ := inItself_of_models h
    rfl
  · intro id out hid hpath hout fault h
    obtain ⟨id', hat, -, hc⟩ := hplace h
    cases (hat id).mp ⟨hid, rfl⟩
    obtain ⟨next, hnext⟩ := hc.goes_round hpath
    exact hout next hnext

/-! ## a document with both kinds of cycles -/

def ringText : String :=
  "\x7b\"properties\":\x7b" ++
  "\"all\":\x7b\"type\":\"array\",\"items\":\x7b\"$ref\":\"#\"\x7d\x7d," ++
  "\"a\":\x7b\"$ref\":\"#/definitions/ring\"\x7d\x7d," ++
  "\"definitions\":\x7b\"ring\":\x7b\"type\":\"array\",\"items\":" ++
  "\x7b\"type\":\"array\",\"items\":\x7b\"$ref\":\"#/definitions/ring\"\x7d\x7d\x7d\x7d\x7d"

/-- An array of the root itself, and a definition that is an array of arrays of itself. -/
def ring : Json :=
  .object [
    ("properties", .object [
      ("all", .object [("type", .string "array"), ("items", .object [("$ref", .string "#")])]),
      ("a", .object [("$ref", .string "#/definitions/ring")])]),
    ("definitions", .object [
      ("ring", .object [("type", .string "array"), ("items", .object [("type", .string "array"),
        ("items", .object [("$ref", .string "#/definitions/ring")])])])])]

def ringGraph : Graph := ⟨#[
  { reference := some (.fragment "#"), pointer := ["properties", "all", "items"] },
  { type := some .array, items := some 0, pointer := ["properties", "all"] },
  { reference := some (.fragment "#/definitions/ring"), pointer := ["properties", "a"] },
  { reference := some (.fragment "#/definitions/ring"),
    pointer := ["definitions", "ring", "items", "items"] },
  { type := some .array, items := some 3, pointer := ["definitions", "ring", "items"] },
  { type := some .array, items := some 4, pointer := ["definitions", "ring"] },
  { properties := [("all", 1), ("a", 2)], definitions := [("ring", 5)] }]⟩

set_option maxRecDepth 2000 in
/-- The array of arrays of itself is refused, and the array of the root is not. -/
theorem array_cycles_of_ring : Json.read ringText = .ok ring ∧
    ∃ r : Run, Graph.ofJson ring = .ok r.graph ∧
      r.models = .error (.invalidSchema "/definitions/ring" .arrayOfItself) ∧
      (∃ id, (∀ i, i < r.graph.size ∧ (r.graph.node i).pointer.text = "/definitions/ring" ↔ i = id) ∧
        r.graph.Reachable id ∧ r.graph.InItself id) ∧
      r.graph.Reachable 5 ∧ r.graph.InItself 5 ∧ (∀ models, r.models ≠ .ok models) ∧
      r.graph.ItemsStep 1 6 ∧ (∀ next, ¬ r.graph.ItemsStep 6 next) ∧
      ∀ fault, r.models ≠ .error (.invalidSchema (r.graph.node 1).pointer.text fault) := by
  have hread : Json.read ringText = .ok ring := by
    unfold Json.read ringText
    simp only [String.toList_append]
    repeat rw [String.toList_ofList]
    rfl
  have hg : Graph.ofJson ring = .ok ringGraph := rfl
  have hmodels : Run.models ⟨ringGraph, {}, { namespaceName := "N", rootClassName := "R" }⟩ =
      .error (.invalidSchema "/definitions/ring" .arrayOfItself) :=
    models_of_within rfl rfl (by with_unfolding_all rfl)
  have hring {id : NodeId}
      (hr : (ringGraph.node id).reference = some (.fragment "#/definitions/ring")) :
      ringGraph.follow id = .ok 5 := by
    have hto := Graph.resolve_fragment (g := ringGraph) (s := "#/definitions/ring")
      (p := ["definitions", "ring"]) (by decide) (by decide)
    exact Graph.follow_ok_iff.mpr ⟨⟨_, .next ⟨_, hr, hto⟩ .here⟩, rfl⟩
  have htop : ringGraph.follow 0 = .ok 6 := by
    have hto := Graph.resolve_fragment (g := ringGraph) (s := "#") (p := []) (by decide) (by decide)
    exact Graph.follow_ok_iff.mpr ⟨⟨_, .next ⟨_, rfl, hto⟩ .here⟩, rfl⟩
  have hroot : ringGraph.Reachable 5 := by
    have ha : ("a", 2) ∈ [("all", 1), ("a", 2)] := by decide
    exact ⟨6, .root, .single (.property rfl rfl ha (hring rfl))⟩
  have hcycle : ringGraph.InItself 5 :=
    .tail (.single ⟨4, rfl, rfl, Graph.follow_self rfl⟩)
      ⟨3, rfl, rfl, hring rfl⟩
  have hall : ringGraph.ItemsStep 1 6 := ⟨0, rfl, rfl, htop⟩
  have hout : ∀ next, ¬ ringGraph.ItemsStep 6 next := by
    rintro next ⟨items, -, hs, -⟩
    cases hs
  obtain ⟨hrefused, hfails, hnever⟩ :=
    array_cycles_refused (r := ⟨ringGraph, {}, { namespaceName := "N", rootClassName := "R" }⟩)
      (Json.distinct_of_read hread) hg
  exact ⟨hread, _, hg, hmodels, (hrefused _ _ hmodels).2, hroot, hcycle, hfails 5 hroot hcycle,
    hall, hout, hnever 1 6 (by decide) (.single hall) hout⟩

end Run

end SchemaModel

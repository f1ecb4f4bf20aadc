import SchemaModel.Proofs.Walk.Order
import SchemaModel.Proofs.Walk.Reachable

/-!
# What hints leave alone

Documents hold keys, values and nested objects, but no names of classes, properties or members. The
wire form of a model keeps what documents show: every name of a class or enumeration in a type is
replaced by the place of the model it names, and the zero member is left out.

The models of two runs that differ in their hints stand at the same places for the same nodes, and
the type of a node is the same but for names. So their wire forms are equal.

* `findIdx?_finished`     a model stands at the place of its node;
* `Denotes.wire`          types of one node under two assignments of names have one wire form;
* `Describes.wire`        the same for models;
* `wire_of_hints`         the models of runs with different hints have one wire form.
-/

namespace SchemaModel

/-! ## wire forms -/

/-- a type with places of models in place of their names -/
inductive WireType where
  | boolean
  | integer
  | number
  | string
  | dateTime
  | any
  | classAt (place : Nat)
  | enumAt (place : Nat)
  | sequence (element : WireType)
  deriving DecidableEq, Repr

structure WireProperty where
  jsonName : String
  type : WireType
  required : Bool
  description : Option String
  deriving DecidableEq, Repr

inductive WireModel where
  | ofClass (namespaceName : String) (description : Option String)
      (properties : List WireProperty)
  /-- an enumeration and the schema values of its members -/
  | ofEnum (namespaceName : String) (values : List String)
  deriving DecidableEq, Repr

/-- A name without a place has no wire form. -/
def TypeRef.wire? (place? : String → Option Nat) : TypeRef → Option WireType
  | .boolean => some .boolean
  | .integer => some .integer
  | .number => some .number
  | .string => some .string
  | .dateTime => some .dateTime
  | .any => some .any
  | .classNamed name => (place? name).map .classAt
  | .enumNamed name => (place? name).map .enumAt
  | .sequence element => (element.wire? place?).map .sequence

def Property.wire? (place? : String → Option Nat) (p : Property) : Option WireProperty :=
  (p.type.wire? place?).map fun type => ⟨p.jsonName, type, p.required, p.description⟩

def Model.wire? (place? : String → Option Nat) : Model → Option WireModel
  | .ofClass c => (c.properties.mapM (Property.wire? place?)).map
      (.ofClass c.namespaceName c.description)
  | .ofEnum e => some (.ofEnum e.namespaceName (e.members.filterMap EnumMember.value))

/-- the place of the first model of a name -/
def ModelSet.place? (models : ModelSet) (name : String) : Option Nat :=
  List.findIdx? (fun m => m.name = name) models

def ModelSet.wire? (models : ModelSet) : Option (List WireModel) :=
  List.mapM (Model.wire? models.place?) models

/-! ## places -/

/-- A model stands at the place of its node. -/
theorem findIdx?_finished {done : Finished} (hids : (done.map Prod.fst).Nodup)
    (hnames : ((done.map Prod.snd).map Model.name).Nodup) {entry : NodeId × Model}
    (he : entry ∈ done) : ModelSet.place? (done.map Prod.snd) entry.2.name =
      some ((done.map Prod.fst).idxOf entry.1) := by
  unfold ModelSet.place?
  induction done with
  | nil => cases he
  | cons first rest ih =>
    obtain ⟨hid, hids⟩ := List.nodup_cons.mp hids
    obtain ⟨hname, hnames⟩ := List.nodup_cons.mp hnames
    rw [List.map_cons, List.map_cons, List.findIdx?_cons, List.idxOf_cons]
    rcases List.mem_cons.mp he with rfl | he
    · simp
    · have hi : first.1 ≠ entry.1 := fun e => hid (e ▸ List.mem_map_of_mem he)
      have hn : first.2.name ≠ entry.2.name := fun e =>
        hname (e ▸ List.mem_map_of_mem (List.mem_map_of_mem he))
      rw [decide_eq_false hn, beq_false_of_ne hi, ih hids hnames he]
      rfl

/-- Every name under `ν` has the place that its node has in `order`. -/
def Placed (order : List NodeId) (ν : NodeId → Option String) (place? : String → Option Nat) :
    Prop := ∀ id name, ν id = some name → place? name = some (order.idxOf id)

theorem Run.placed {done : Finished} (hd : Distinct (namesGiven {} done)) :
    Placed (done.map Prod.fst) (givenName? {} done) (ModelSet.place? (done.map Prod.snd)) := by
  intro id name hn
  obtain ⟨m, he, rfl⟩ := Run.entry_of_given hd hn
  exact findIdx?_finished hd.finished_nodes hd.finished_names he

/-! ## one wire form under two assignments of names -/

/-- Two lists that are matched to one list have the same image if matched elements have. -/
theorem mapM_agree {R : α → β → Prop} {S : α → γ → Prop} {f : β → Option δ} {f' : γ → Option δ}
    (hagree : ∀ a b c, R a b → S a c → ∃ d, f b = some d ∧ f' c = some d) {as : List α}
    {bs : List β} {cs : List γ} (hb : List.Forall₂ R as bs) (hc : List.Forall₂ S as cs) :
    ∃ ds, bs.mapM f = some ds ∧ cs.mapM f' = some ds := by
  induction hb generalizing cs with
  | nil =>
    cases hc
    exact ⟨[], rfl, rfl⟩
  | cons hab _ ih =>
    cases hc with
    | cons hac hrest =>
      obtain ⟨d, hf, hf'⟩ := hagree _ _ _ hab hac
      obtain ⟨ds, hm, hm'⟩ := ih hrest
      exact ⟨d :: ds, by simp [hf, hm], by simp [hf', hm']⟩

theorem Shape.wire_of_plain {s : Shape} {t : TypeRef} (h : s.plain? = some t) :
    ∃ w, ∀ place?, t.wire? place? = some w := by
  cases s with
  | string format =>
    cases h
    split <;> exact ⟨_, fun _ => rfl⟩
  | array items =>
    cases items with
    | none => cases h; exact ⟨_, fun _ => rfl⟩
    | some items => cases h
  | enumeration | object => cases h
  | integer | number | boolean | null | unconstrained => cases h; exact ⟨_, fun _ => rfl⟩

section
variable {g : Graph} {s : Settings} {order : List NodeId} {ν ν' : NodeId → Option String}
  {place? place'? : String → Option Nat} {id : NodeId}

theorem Placed.wire_classNamed {name : String} (hν : Placed order ν place?)
    (hn : ν id = some name) :
    (TypeRef.classNamed name).wire? place? = some (.classAt (order.idxOf id)) := by
  show (place? name).map WireType.classAt = _
  rw [hν id name hn]
  rfl

theorem Placed.wire_enumNamed {name : String} (hν : Placed order ν place?)
    (hn : ν id = some name) :
    (TypeRef.enumNamed name).wire? place? = some (.enumAt (order.idxOf id)) := by
  show (place? name).map WireType.enumAt = _
  rw [hν id name hn]
  rfl

theorem Denotes.wire (hν : Placed order ν place?) (hν' : Placed order ν' place'?) {t t' : TypeRef}
    (h : Denotes g ν id t) (h' : Denotes g ν' id t') :
    ∃ w, t.wire? place? = some w ∧ t'.wire? place'? = some w := by
  induction h generalizing t' with
  | enumNamed hs hn =>
    obtain ⟨name, hn', rfl⟩ := h'.of_enumeration hs
    exact ⟨_, hν.wire_enumNamed hn, hν'.wire_enumNamed hn'⟩
  | classNamed hs hn =>
    obtain ⟨name, hn', rfl⟩ := h'.of_object hs
    exact ⟨_, hν.wire_classNamed hn, hν'.wire_classNamed hn'⟩
  | sequence hs hf _ ih =>
    obtain ⟨target, element, hf', ht', rfl⟩ := h'.of_array hs
    cases hf.symm.trans hf'
    obtain ⟨w, hw, hw'⟩ := ih ht'
    refine ⟨.sequence w, ?_, ?_⟩
    · show (TypeRef.wire? place? _).map WireType.sequence = _
      rw [hw]
      rfl
    · show (element.wire? place'?).map WireType.sequence = _
      rw [hw']
      rfl
  | plain hp =>
    obtain rfl := h'.of_plain hp
    obtain ⟨w, hw⟩ := Shape.wire_of_plain hp
    exact ⟨w, hw _, hw _⟩

theorem DeclaredAs.wire_of_type {declared : String × NodeId} {p : Property} {w : WireType}
    (h : DeclaredAs g ν id declared p) (hw : p.type.wire? place? = some w) :
    p.wire? place? = some ⟨declared.1, w, decide (declared.1 ∈ (g.node id).required),
      (g.node declared.2).description⟩ := by
  show (p.type.wire? place?).map _ = _
  rw [hw, h.jsonName, h.required, h.description]
  rfl

theorem DeclaredAs.wire (hν : Placed order ν place?) (hν' : Placed order ν' place'?)
    {declared : String × NodeId} {p p' : Property} (h : DeclaredAs g ν id declared p)
    (h' : DeclaredAs g ν' id declared p') :
    ∃ w, p.wire? place? = some w ∧ p'.wire? place'? = some w := by
  obtain ⟨target, hf, ht⟩ := h.type
  obtain ⟨target', hf', ht'⟩ := h'.type
  cases hf.symm.trans hf'
  obtain ⟨w, hw, hw'⟩ := ht.wire hν hν' ht'
  exact ⟨_, h.wire_of_type hw, h'.wire_of_type hw'⟩

theorem Describes.wire (hν : Placed order ν place?) (hν' : Placed order ν' place'?) {m m' : Model}
    (h : Describes g s ν id m) (h' : Describes g s ν' id m') :
    ∃ w, m.wire? place? = some w ∧ m'.wire? place'? = some w := by
  cases h with
  | ofClass hs hn hd _ hp =>
    cases h' with
    | ofEnum hs' => cases hs.symm.trans hs'
    | ofClass hs' hn' hd' _ hp' =>
      cases hs.symm.trans hs'
      obtain ⟨ws, hw, hw'⟩ := mapM_agree (fun _ _ _ hd hd' => hd.wire hν hν' hd') hp hp'
      refine ⟨.ofClass s.namespaceName (g.node id).description ws, ?_, ?_⟩
      · show (List.mapM (Property.wire? place?) _).map _ = _
        rw [hw, hn, hd]
        rfl
      · show (List.mapM (Property.wire? place'?) _).map _ = _
        rw [hw', hn', hd']
        rfl
  | @ofEnum _ values hs hn hv =>
    cases h' with
    | ofClass hs' => cases hs.symm.trans hs'
    | ofEnum hs' hn' hv' =>
      cases hs.symm.trans hs'
      refine ⟨.ofEnum s.namespaceName values, ?_, ?_⟩
      · rw [Model.wire?, hn, hv]
      · rw [Model.wire?, hn', hv']

end

/-- Hints do not change the wire format: the models of two runs with the same graph and settings
have one wire form, in which every name has a place. -/
theorem wire_of_hints {graph : Graph} {settings : Settings} {hints hints' : Hints}
    {models models' : ModelSet} (h : Run.models ⟨graph, hints, settings⟩ = .ok models)
    (h' : Run.models ⟨graph, hints', settings⟩ = .ok models') :
    ∃ w, models.wire? = some w ∧ models'.wire? = some w := by
  obtain ⟨-, done, hw, rfl⟩ := Run.models_ok h
  obtain ⟨-, done', hw', rfl⟩ := Run.models_ok h'
  have hp := Run.placed (Run.distinct_of_walk hw)
  have hp' := Run.placed (Run.distinct_of_walk hw')
  have hm := Run.matched_of_walk hw
  have hm' := Run.matched_of_walk hw'
  -- both walks finish the same nodes in the same order
  rw [Run.walk_order hw] at hp hm
  rw [Run.walk_order hw'] at hp' hm'
  exact mapM_agree (fun _ _ _ hd hd' => hd.2.wire hp hp' hd'.2) hm hm'

/-- hints that rename what hints may rename, and add a zero member -/
def treeHints : Hints := ⟨[("Node", .className "Knot"), ("Tree.Root", .propertyName "Start"),
  ("Kind", .enumeration
    { typeName := some "Sort", members := some ["Tip", "Fork"], zeroValue := some "None" })]⟩

def hintedTreeModels : ModelSet := [
  .ofEnum ⟨"N", "Sort", none, [⟨"None", none⟩, ⟨"Tip", some "leaf"⟩, ⟨"Fork", some "branch"⟩]⟩,
  .ofClass ⟨"N", "Knot", none, [⟨"Kind", "kind", .enumNamed "Sort", true, none⟩,
    ⟨"Children", "children", .sequence (.classNamed "Knot"), false, none⟩], false⟩,
  .ofClass ⟨"N", "Tree", none, [⟨"Start", "root", .classNamed "Knot", false, none⟩], false⟩]

theorem models_hinted_treeRun : (treeRun treeHints).models = .ok hintedTreeModels :=
  Run.models_of_within rfl rfl (by with_unfolding_all rfl)

/-- The tree schema without hints, and with hints for both classes and the enumeration. -/
theorem wire_of_treeRun : (treeRun {}).models = .ok treeModels ∧
    (treeRun treeHints).models = .ok hintedTreeModels ∧
      ∃ w, treeModels.wire? = some w ∧ hintedTreeModels.wire? = some w :=
  ⟨models_treeRun, models_hinted_treeRun, wire_of_hints models_treeRun models_hinted_treeRun⟩

end SchemaModel

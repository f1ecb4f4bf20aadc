import SchemaModel.Proofs.Walk.Depth
import SchemaModel.Proofs.Walk.Reachable

/-!
# Models behind the types they use

A class is finished when its properties are read, so behind all models that these needed first. A
name in the type of a property can then belong to a model that is not finished only if its class is
still open. The open classes are those on the way to the class that is read, so such a class leads
back to it.

* `TypeOf.inOrder`               a walk keeps this order;
* `chain_of_path`                a way through the graph is a chain of references between classes;
* `models_in_dependency_order`   a model stands behind what it uses, cycles apart.
-/

namespace SchemaModel

/-! ## the order in which a walk finishes models -/

/-- Every name in the type of a property belongs to a model before the class, or to a node that
leads to the node of the class. -/
def InOrder (r : Run) (trail : Trail) (done : Finished) : Prop :=
  ∀ before id c, before ++ [(id, .ofClass c)] <+: done → ∀ p ∈ c.properties, ∀ name,
    p.type.named? = some name → name ∈ before.map (fun entry => entry.2.name) ∨
      ∃ node, givenName? trail done node = some name ∧
        Relation.ReflTransGen r.graph.Step node id

/-- A finished class is behind the models it names, or those that are not finished lead to it. -/
theorem InOrder.finish {r : Run} {trail trail' : Trail} {done : Finished} {id : NodeId} {m : Model}
    (h : InOrder r trail done)
    (he : Extends (givenName? trail done) (givenName? trail' (done ++ [(id, m)])))
    (hm : ∀ c, m = .ofClass c → ∀ p ∈ c.properties, ∀ name, p.type.named? = some name →
      name ∈ done.map (fun entry => entry.2.name) ∨
        ∃ node, givenName? trail' (done ++ [(id, m)]) node = some name ∧
          Relation.ReflTransGen r.graph.Step node id) :
    InOrder r trail' (done ++ [(id, m)]) := by
  intro before id' c hbefore p hp name hname
  rcases List.prefix_concat_iff.mp hbefore with hlast | hold
  · obtain ⟨rfl, hentry⟩ := List.append_inj' hlast rfl
    cases List.singleton_inj.mp hentry
    exact hm c rfl p hp name hname
  · rcases h before id' c hold p hp name hname with hb | ⟨node, hn, hpath⟩
    · exact .inl hb
    · exact .inr ⟨node, he node name hn, hpath⟩

theorem InOrder.mono {r : Run} {trail trail' : Trail} {done : Finished} (h : InOrder r trail done)
    (he : Extends (givenName? trail done) (givenName? trail' done)) : InOrder r trail' done := by
  intro before id c hbefore p hp name hname
  rcases h before id c hbefore p hp name hname with hb | ⟨node, hn, hpath⟩
  · exact .inl hb
  · exact .inr ⟨node, he node name hn, hpath⟩

theorem TypeRef.named?_eq_some_iff {t : TypeRef} {name : String} :
    t.named? = some name ↔ t.leaf = .classNamed name ∨ t.leaf = .enumNamed name := by
  induction t with
  | sequence _ ih => exact ih
  | classNamed | enumNamed => simp [named?, leaf]
  | boolean | integer | number | string | dateTime | any => simp [named?, leaf]

/-- A name in a type is that of a node. -/
theorem Denotes.node_of_named {g : Graph} {ν : NodeId → Option String} {id : NodeId} {t : TypeRef}
    (h : Denotes g ν id t) {name : String} (hn : t.named? = some name) :
    ∃ node, ν node = some name := by
  rcases TypeRef.named?_eq_some_iff.mp hn with hl | hl
  · obtain ⟨node, -, -, hν⟩ := h.class_of_leaf hl
    exact ⟨node, hν⟩
  · obtain ⟨node, -, -, hν⟩ := h.enum_of_leaf hl
    exact ⟨node, hν⟩

namespace Run

mutual

/-- The classes that are open lead to the node where the walk stands. -/
theorem TypeOf.inOrder {r : Run} {trail : Trail} {site : Site} {id : NodeId}
    {done done' : Finished} {t : TypeRef} :
    r.TypeOf trail site id done t done' → (r.graph.node id).reference = none →
      Distinct (namesGiven trail done) →
      (∀ o ∈ trail.classes, Relation.ReflTransGen r.graph.Step o.1 id) →
      InOrder r trail done → InOrder r trail done'
  | .oldEnum _ _, _, _, _, h | .oldClass _ _, _, _, _, h | .plain _, _, _, _, h => h
  | .newEnum _ hg _ ho, _, hd, _, h =>
    h.finish ((Extends.enter [] hd hg ho).trans (Extends.leave (hd.enter [] hg ho) rfl)) nofun
  | @TypeOf.newClass _ _ _ _ _ _ name _ _ hs hg _ ho hp, hr, hd, hopen, h => by
    have hd₁ := hd.enter [] hg ho
    have hd₂ := hp.distinct hd₁
    -- a step leads from the class itself to its properties, and so from all classes around it
    have hopen₁ : ∀ o ∈ (id, name) :: trail.classes,
        Relation.ReflTransGen r.graph.Step o.1 id :=
      List.forall_mem_cons.mpr ⟨.refl, hopen⟩
    have h₁ := hp.inOrder hd₁
      (fun o ho declared hdecl target hf => by
        rw [map_declared_namedProperties] at hdecl
        exact (hopen₁ o ho).tail (.property hr hs hdecl hf))
      (h.mono (Extends.enter [] hd hg ho))
    refine h₁.finish (Extends.leave hd₂ rfl) fun c hc p hpc n hn => ?_
    cases hc
    obtain ⟨declared, -, hdecl⟩ := mem_of_forall₂ (hp.declared hd₁) p hpc
    obtain ⟨target, -, ht⟩ := hdecl.type
    obtain ⟨node, hν⟩ := ht.node_of_named hn
    rcases List.mem_append.mp ((givenName?_eq_some_iff hd₂).mp hν) with hclass | hdone
    · exact .inr ⟨node, Extends.leave hd₂ rfl node n hν, hopen₁ _ hclass⟩
    · obtain ⟨entry, he, heq⟩ := List.mem_map.mp hdone
      cases heq
      exact .inl (List.mem_map_of_mem he)
  | .items hs _ hf ht, hr, hd, hopen, h =>
    ht.inOrder (Graph.reference_of_follow hf) hd
      (fun o ho => (hopen o ho).tail (.items hr hs hf)) h

theorem PropertiesOf.inOrder {r : Run} {trail : Trail} {owner : NodeId} {name : String}
    {properties : List NamedProperty} {done done' : Finished} {types : List Property} :
    r.PropertiesOf trail owner name properties done types done' →
      Distinct (namesGiven trail done) →
      (∀ o ∈ trail.classes, ∀ declared ∈ properties.map NamedProperty.declared, ∀ target,
        r.graph.follow declared.2 = .ok target →
          Relation.ReflTransGen r.graph.Step o.1 target) →
      InOrder r trail done → InOrder r trail done'
  | .nil, _, _, h => h
  | .cons hf ht hp, hd, hopen, h =>
    hp.inOrder (ht.distinct hd)
      (fun o ho declared hdecl => hopen o ho declared (List.mem_cons_of_mem _ hdecl))
      (ht.inOrder (Graph.reference_of_follow hf) hd
        (fun o ho => hopen o ho _ List.mem_cons_self _ hf) h)

end

theorem inOrder_start (r : Run) : InOrder r {} [] := by
  intro before id c h
  exact absurd (List.prefix_nil.mp h) (List.append_ne_nil_of_right_ne_nil _ (List.cons_ne_nil _ _))

theorem inOrder_of_walk {r : Run} {done : Finished} (h : r.walk = .ok done)
    (hroot : (r.graph.node r.graph.root).reference = none) : InOrder r {} done := by
  have hboth := invariant_of_walk
    (I := fun done => Distinct (namesGiven {} done) ∧ InOrder r {} done)
    ⟨distinct_start, inOrder_start r⟩
    (fun hb ht ⟨hd, ho⟩ =>
      ⟨ht.distinct hd, ht.inOrder (hb.reference_eq_none hroot) hd nofun ho⟩) h
  exact hboth.2

end Run

/-! ## references between models -/

/-- A property of the class `a` has the type `b`, or sequences of it. -/
def ModelSet.Refers (models : ModelSet) (a b : Model) : Prop :=
  a ∈ models ∧ b ∈ models ∧
    ∃ c, a = .ofClass c ∧ ∃ p ∈ c.properties, p.type.named? = some b.name

/-- A node lies in a model: it is the node of the model, or the type of a property is made of its
type. -/
inductive LiesIn (g : Graph) (ν : NodeId → Option String) : NodeId × Model → NodeId → Prop
  | own {id m} : LiesIn g ν (id, m) id
  | property {id c p node t} (hp : p ∈ c.properties) (ht : Denotes g ν node t)
      (hn : t.named? = p.type.named?) : LiesIn g ν (id, .ofClass c) node

namespace Run

section
variable {r : Run} {done : Finished} {entry : NodeId × Model} {node next : NodeId}

/-- An object that lies in a model has its own class, which the model refers to if it is another
one. -/
theorem class_of_liesIn (hd : Distinct (namesGiven {} done)) (hm : Described r {} done)
    (he : entry ∈ done) (h : LiesIn r.graph (givenName? {} done) entry node)
    {properties : List (String × NodeId)} (hs : (r.graph.node node).shape = .object properties) :
    ∃ c, (node, .ofClass c) ∈ done ∧
      Relation.ReflTransGen (ModelSet.Refers (done.map Prod.snd)) entry.2 (.ofClass c) ∧
      List.Forall₂ (DeclaredAs r.graph (givenName? {} done) node) properties c.properties := by
  cases h with
  | @own _ m =>
    cases hm _ he with
    | ofEnum hs' => cases hs.symm.trans hs'
    | @ofClass c _ hs' _ _ _ hp =>
      cases hs.symm.trans hs'
      exact ⟨c, he, .refl, hp⟩
  | @property _ c p _ t hp ht hn =>
    obtain ⟨name, hν, rfl⟩ := ht.of_object hs
    obtain ⟨c', he', rfl, hall⟩ := class_of_given hd hm hs hν
    have href : ModelSet.Refers (done.map Prod.snd) (.ofClass c) (.ofClass c') :=
      ⟨List.mem_map_of_mem he, List.mem_map_of_mem he', c, rfl, p, hp, hn.symm⟩
    exact ⟨c', he', .single href, hall⟩

/-- A step stays in the model or goes into one that a chain of references leads to. -/
theorem liesIn_of_step (hd : Distinct (namesGiven {} done)) (hm : Described r {} done)
    (he : entry ∈ done) (h : LiesIn r.graph (givenName? {} done) entry node)
    (hstep : r.graph.Step node next) : ∃ entry' ∈ done,
      Relation.ReflTransGen (ModelSet.Refers (done.map Prod.snd)) entry.2 entry'.2 ∧
        LiesIn r.graph (givenName? {} done) entry' next := by
  cases hstep with
  | property _ hs hp hf =>
    obtain ⟨c, he', hchain, hall⟩ := class_of_liesIn hd hm he h hs
    obtain ⟨p, hpc, hdecl⟩ := mem_of_forall₂ hall.flip _ hp
    obtain ⟨target, hf', ht⟩ := hdecl.type
    cases hf.symm.trans hf'
    exact ⟨_, he', hchain, .property hpc ht rfl⟩
  | items _ hs hf =>
    cases h with
    | own =>
      -- an array has no model
      cases hm _ he with
      | ofClass hs' => cases hs.symm.trans hs'
      | ofEnum hs' => cases hs.symm.trans hs'
    | property hp ht hn =>
      obtain ⟨target, element, hf', ht', rfl⟩ := ht.of_array hs
      cases hf.symm.trans hf'
      exact ⟨_, he, .refl, .property hp ht' hn⟩

/-- A way through the graph from the node of a model to that of a class is a chain of references. -/
theorem chain_of_path (hd : Distinct (namesGiven {} done)) (hm : Described r {} done)
    (he : entry ∈ done) {c : ClassModel} (hc : (node, .ofClass c) ∈ done)
    (hpath : Relation.ReflTransGen r.graph.Step entry.1 node) :
    Relation.ReflTransGen (ModelSet.Refers (done.map Prod.snd)) entry.2 (.ofClass c) := by
  have hlies : ∃ entry' ∈ done,
      Relation.ReflTransGen (ModelSet.Refers (done.map Prod.snd)) entry.2 entry'.2 ∧
        LiesIn r.graph (givenName? {} done) entry' node := by
    clear hc
    induction hpath with
    | refl => exact ⟨entry, he, .refl, .own⟩
    | tail _ hstep ih =>
      obtain ⟨entry₁, he₁, hchain₁, hlies₁⟩ := ih
      obtain ⟨entry₂, he₂, hchain₂, hlies₂⟩ := liesIn_of_step hd hm he₁ hlies₁ hstep
      exact ⟨entry₂, he₂, hchain₁.trans hchain₂, hlies₂⟩
  obtain ⟨entry', he', hchain, hlies⟩ := hlies
  cases hm _ hc with
  | ofClass hs =>
    obtain ⟨c', hc', hchain', -⟩ := class_of_liesIn hd hm he' hlies hs
    cases List.inj_on_of_nodup_map hd.finished_nodes hc hc' rfl
    exact hchain.trans hchain'

end

end Run

/-! ## the order of the models -/

theorem finished_eq_of_name {done : Finished} (hd : Distinct (namesGiven {} done))
    {entry entry' : NodeId × Model} (he : entry ∈ done) (he' : entry' ∈ done)
    (hn : entry.2.name = entry'.2.name) : entry = entry' := by
  have hnames := hd.finished_names
  rw [List.map_map] at hnames
  exact List.inj_on_of_nodup_map hnames he he' hn

/-- What a class names stands before it or leads back to it. -/
theorem InOrder.before_or_chain {r : Run} {done : Finished} (ho : InOrder r {} done)
    (hd : Distinct (namesGiven {} done)) (hm : Described r {} done) {before : Finished}
    {id : NodeId} {c : ClassModel} (hb : before ++ [(id, .ofClass c)] <+: done)
    {p : Property} (hp : p ∈ c.properties) {entry : NodeId × Model} (he : entry ∈ done)
    (hn : p.type.named? = some entry.2.name) : entry ∈ before ∨
      Relation.ReflTransGen (ModelSet.Refers (done.map Prod.snd)) entry.2 (.ofClass c) := by
  rcases ho before id c hb p hp _ hn with hmem | ⟨node, hν, hpath⟩
  · obtain ⟨entry', he', hname⟩ := List.mem_map.mp hmem
    have hsub : entry' ∈ done := hb.subset (List.mem_append_left _ he')
    obtain rfl := finished_eq_of_name hd hsub he hname
    exact .inl he'
  · obtain ⟨m, he', hname⟩ := Run.entry_of_given hd hν
    obtain rfl := finished_eq_of_name hd he' he hname
    exact .inr (Run.chain_of_path hd hm he (hb.subset (by simp)) hpath)

/-- The same for the places at which two models stand. -/
theorem InOrder.place_lt_or_chain {r : Run} {done : Finished} (ho : InOrder r {} done)
    (hd : Distinct (namesGiven {} done)) (hm : Described r {} done) {i j : Nat}
    (hi : i < done.length) (hj : j < done.length) (hne : i ≠ j)
    (h : ModelSet.Refers (done.map Prod.snd) done[i].2 done[j].2) :
    j < i ∨ Relation.TransGen (ModelSet.Refers (done.map Prod.snd)) done[j].2 done[i].2 := by
  have hnodes : done.Nodup := hd.finished_nodes.of_map
  obtain ⟨-, -, c, hc, p, hp, hn⟩ := h
  have hb : done.take i ++ [(done[i].1, .ofClass c)] <+: done := by
    rw [← hc]
    have htake := List.take_prefix (i + 1) done
    rwa [List.take_succ_eq_append_getElem hi] at htake
  rcases ho.before_or_chain hd hm hb hp (List.getElem_mem hj) hn with hbefore | hchain
  · obtain ⟨k, hk, hkj⟩ := List.mem_iff_getElem.mp hbefore
    rw [List.length_take] at hk
    rw [List.getElem_take] at hkj
    have hkj' : k = j := (hnodes.getElem_inj_iff).mp hkj
    left
    omega
  · rw [← hc] at hchain
    rcases Relation.reflTransGen_iff_eq_or_transGen.mp hchain with heq | htrans
    · have hentry : done[i] = done[j] := finished_eq_of_name hd (List.getElem_mem hi)
        (List.getElem_mem hj) (congrArg Model.name heq)
      exact absurd (hnodes.getElem_inj_iff.mp hentry) hne
    · exact .inr htrans

/-- A model set is in dependency order up to cycles: of two models of which the first, a class,
names the other in the type of a property, the other one stands before it or reaches it through a
chain of references between classes. Without cycles every model stands behind all that it uses. -/
theorem models_in_dependency_order {r : Run} {models : ModelSet} (h : r.models = .ok models) :
    (∀ i j, (hi : i < models.length) → (hj : j < models.length) → i ≠ j →
      models.Refers models[i] models[j] →
        j < i ∨ Relation.TransGen models.Refers models[j] models[i]) ∧
    ((∀ m, ¬ Relation.TransGen models.Refers m m) →
      ∀ i j, (hi : i < models.length) → (hj : j < models.length) →
        models.Refers models[i] models[j] → j < i) := by
  have hfirst : ∀ i j, (hi : i < models.length) → (hj : j < models.length) → i ≠ j →
      models.Refers models[i] models[j] →
        j < i ∨ Relation.TransGen models.Refers models[j] models[i] := by
    obtain ⟨hroot, done, hw, rfl⟩ := Run.models_ok h
    have ho := Run.inOrder_of_walk hw (Run.reference_of_rootIsObject hroot)
    intro i j hi hj hne href
    rw [List.getElem_map, List.getElem_map] at href ⊢
    exact ho.place_lt_or_chain (Run.distinct_of_walk hw) (Run.described_of_walk hw)
      (by simpa using hi) (by simpa using hj) hne href
  refine ⟨hfirst, fun hacyclic i j hi hj href => ?_⟩
  by_cases hij : i = j
  · subst hij
    exact absurd (.single href) (hacyclic _)
  · rcases hfirst i j hi hj hij href with hbefore | hchain
    · exact hbefore
    · exact absurd (.head href hchain) (hacyclic _)

/-! ## two examples -/

/-- A house has rooms and a pin for its door; a room has a pin for its own. -/
def houseRun : Run where
  graph := ⟨#[
    { reference := some (.fragment "#/definitions/Room"),
      pointer := ["properties", "rooms", "items"] },
    { type := some .array, items := some 0, pointer := ["properties", "rooms"] },
    { reference := some (.fragment "#/definitions/Pin"), pointer := ["properties", "door"] },
    { reference := some (.fragment "#/definitions/Pin"),
      pointer := ["definitions", "Room", "properties", "door"] },
    { type := some .object, properties := [("door", 3)], pointer := ["definitions", "Room"] },
    { type := some .object, pointer := ["definitions", "Pin"] },
    { type := some .object, properties := [("rooms", 1), ("door", 2)],
      definitions := [("Room", 4), ("Pin", 5)] }]⟩
  hints := {}
  settings := { namespaceName := "N", rootClassName := "House" }

def houseModels : ModelSet := [
  .ofClass ⟨"N", "Pin", none, [], false⟩,
  .ofClass ⟨"N", "Room", none, [⟨"Door", "door", .classNamed "Pin", false, none⟩], false⟩,
  .ofClass ⟨"N", "House", none,
    [⟨"Rooms", "rooms", .sequence (.classNamed "Room"), false, none⟩,
      ⟨"Door", "door", .classNamed "Pin", false, none⟩], false⟩]

theorem models_houseRun : houseRun.models = .ok houseModels :=
  Run.models_of_within rfl rfl (by with_unfolding_all rfl)

/-- Here references lead to shorter names, so there is no cycle. -/
theorem houseModels_acyclic (m : Model) : ¬ Relation.TransGen houseModels.Refers m m := by
  have hstep : ∀ a b, houseModels.Refers a b → b.name.length < a.name.length := by
    rintro a b ⟨ha, -, c, rfl, p, hp, hn⟩
    have hall : ∀ c ∈ houseModels.classes, ∀ p ∈ c.properties, ∀ name ∈ p.type.named?,
        name.length < c.name.length := by decide
    exact hall c (List.mem_filterMap.mpr ⟨_, ha, rfl⟩) p hp _ hn
  have hchain : ∀ a b, Relation.TransGen houseModels.Refers a b →
      b.name.length < a.name.length := by
    intro a b hab
    induction hab with
    | single h => exact hstep _ _ h
    | tail _ h ih => exact (hstep _ _ h).trans ih
  exact fun hm => Nat.lt_irrefl _ (hchain m m hm)

/-- Two classes that refer to each other. -/
def linkRun : Run where
  graph := ⟨#[
    { reference := some (.fragment "#/definitions/A"), pointer := ["properties", "start"] },
    { reference := some (.fragment "#/definitions/B"),
      pointer := ["definitions", "A", "properties", "next"] },
    { type := some .object, properties := [("next", 1)], pointer := ["definitions", "A"] },
    { reference := some (.fragment "#/definitions/A"),
      pointer := ["definitions", "B", "properties", "back"] },
    { type := some .object, properties := [("back", 3)], pointer := ["definitions", "B"] },
    { type := some .object, properties := [("start", 0)], definitions := [("A", 2), ("B", 4)] }]⟩
  hints := {}
  settings := { namespaceName := "N", rootClassName := "Link" }

def linkModels : ModelSet := [
  .ofClass ⟨"N", "B", none, [⟨"Back", "back", .classNamed "A", false, none⟩], false⟩,
  .ofClass ⟨"N", "A", none, [⟨"Next", "next", .classNamed "B", false, none⟩], false⟩,
  .ofClass ⟨"N", "Link", none, [⟨"Start", "start", .classNamed "A", false, none⟩], false⟩]

theorem models_linkRun : linkRun.models = .ok linkModels :=
  Run.models_of_within rfl rfl (by with_unfolding_all rfl)

/-- The class that comes first in the second set refers to the one behind it, which leads back. -/
theorem dependency_order_of_runs :
    (houseRun.models = .ok houseModels ∧
      ∀ i j, (hi : i < houseModels.length) → (hj : j < houseModels.length) →
        houseModels.Refers houseModels[i] houseModels[j] → j < i) ∧
    (linkRun.models = .ok linkModels ∧ linkModels.Refers linkModels[0] linkModels[1] ∧
      (1 < 0 ∨ Relation.TransGen linkModels.Refers linkModels[1] linkModels[0])) := by
  have href : linkModels.Refers linkModels[0] linkModels[1] :=
    ⟨List.getElem_mem _, List.getElem_mem _, _, rfl, _, List.mem_cons_self, rfl⟩
  exact ⟨⟨models_houseRun, (models_in_dependency_order models_houseRun).2 houseModels_acyclic⟩,
    models_linkRun, href,
    (models_in_dependency_order models_linkRun).1 0 1 (by decide) (by decide) (by decide) href⟩

end SchemaModel

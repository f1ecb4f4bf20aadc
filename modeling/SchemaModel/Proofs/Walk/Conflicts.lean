import Mathlib
import SchemaModel.Proofs.Walk.Arrival
import SchemaModel.Proofs.Walk.Failure
import SchemaModel.Proofs.Walk.Reachable

/-!
# Names that two nodes would have

A walk stops at a node that would get a name which is taken. The record of arrivals goes on where
the walk stops, so it says of both nodes where they are first reached. Up to that moment the walk
keeps what it knows: every name given, that of an open class as well as that of a finished model,
is the name of its node at the site in the record. The node where the walk stands has no name yet,
so it is not the one that has taken it.

* `arrive_grows`                 arrivals stand behind those before, and steps lead to them;
* `Known.nameAt_owner`           a taken name is that of its owner where this was reached;
* `TypeFails.clash`              a walk that stops for a name has reached two nodes of this name;
* `conflicts_between_two_nodes`  both nodes of a conflict, and that a run with such nodes fails.
-/

namespace SchemaModel

namespace Run

/-! ## arrivals behind a node -/

/-- The record `log'` starts with `log`, and the nodes behind it have the property `P`. -/
structure Grown (P : NodeId → Prop) (log log' : Arrivals) : Prop where
  front : log <+: log'
  behind : ∀ entry ∈ log', entry ∈ log ∨ P entry.1

section
variable {P Q : NodeId → Prop} {log log' log'' : Arrivals}

theorem Grown.refl (P : NodeId → Prop) (log : Arrivals) : Grown P log log :=
  ⟨List.prefix_rfl, fun _ he => .inl he⟩

theorem Grown.concat {id : NodeId} (h : P id) (site : Site) :
    Grown P log (log ++ [(id, site)]) := by
  refine ⟨List.prefix_append _ _, fun entry he => ?_⟩
  rcases List.mem_append.mp he with hold | hnew
  · exact .inl hold
  · rw [List.mem_singleton.mp hnew]
    exact .inr h

theorem Grown.trans (h : Grown P log log') (h' : Grown P log' log'') : Grown P log log'' :=
  ⟨h.front.trans h'.front, fun entry he => (h'.behind entry he).elim (h.behind entry) .inr⟩

theorem Grown.imp (h : Grown P log log') (hpq : ∀ id, P id → Q id) : Grown Q log log' :=
  ⟨h.front, fun entry he => (h.behind entry he).imp_right (hpq _)⟩

end

/-- an object or enumeration to which steps lead -/
def Behind (g : Graph) (start id : NodeId) : Prop :=
  Relation.ReflTransGen g.Step start id ∧ (g.node id).HasModel

theorem Behind.head {g : Graph} {a b id : NodeId} (hstep : g.Step a b) (h : Behind g b id) :
    Behind g a id :=
  ⟨.head hstep h.1, h.2⟩

mutual

theorem arrive_grows (r : Run) (within arrays : List NodeId) (site : Site) (id : NodeId)
    (log : Arrivals) (hr : (r.graph.node id).reference = none) :
    Grown (Behind r.graph id) log (r.arrive within arrays site id log) := by
  rw [arrive_eq]
  split
  next values hs =>
    split
    · exact .refl _ log
    · exact .concat ⟨.refl, hr, .inr ⟨values, hs⟩⟩ site
  next properties hs =>
    split
    · exact .refl _ log
    next hw =>
      refine (Grown.concat ⟨.refl, hr, .inl ⟨properties, hs⟩⟩ site).trans
        ((arriveAll_grows r (id :: within) [] _ properties _).imp ?_)
      rintro target ⟨declared, hd, start, hf, hb⟩
      exact hb.head (.property hr hs hd hf)
  next items hs =>
    split
    · exact .refl _ log
    next ha =>
      split
      next target hf =>
        refine (arrive_grows r within (id :: arrays) site.items target log
          (Graph.reference_of_follow hf)).imp fun _ hb => hb.head (.items hr hs hf)
      next => exact .refl _ log
  next => exact .refl _ log
-- the measure of `arrive`
termination_by (unseen (List.range r.graph.size) within,
  unseen (List.range r.graph.size) arrays, 0)
decreasing_by
  · exact Prod.Lex.left _ _ (unseen_cons_lt
      (Graph.mem_range_of_shape ‹_ = Shape.object _› nofun) fun hm => ‹¬ (_ ∨ _)› (.inl hm))
  · exact Prod.Lex.right _ (Prod.Lex.left _ _ (unseen_cons_lt
      (Graph.mem_range_of_shape ‹_ = Shape.array _› nofun) (by assumption)))

theorem arriveAll_grows (r : Run) (within arrays : List NodeId) (className : String)
    (properties : List (String × NodeId)) (log : Arrivals) :
    Grown (fun id => ∃ declared ∈ properties, ∃ start,
        r.graph.follow declared.2 = .ok start ∧ Behind r.graph start id) log
      (r.arriveAll within arrays className properties log) := by
  cases properties with
  | nil =>
    rw [arriveAll]
    exact .refl _ log
  | cons declared rest =>
    rw [arriveAll]
    split
    next target hf =>
      have hfirst := arrive_grows r within arrays (.ofProperty className declared.1) target log
        (Graph.reference_of_follow hf)
      have hrest := arriveAll_grows r within arrays className rest
        (r.arrive within arrays (.ofProperty className declared.1) target log)
      refine (hfirst.imp fun id hb => ⟨declared, List.mem_cons_self, target, hf, hb⟩).trans
        (hrest.imp ?_)
      rintro id ⟨d, hd, hb⟩
      exact ⟨d, List.mem_cons_of_mem _ hd, hb⟩
    next => exact .refl _ log
termination_by (unseen (List.range r.graph.size) within,
  unseen (List.range r.graph.size) arrays, properties.length + 1)

end

theorem arriveFrom_grows {r : Run} {definitions : List (String × NodeId)} {log : Arrivals} :
    Grown (fun id => ∃ d ∈ definitions, (r.graph.node d.2).reference = none ∧
      Behind r.graph d.2 id) log (r.arriveFrom definitions log) := by
  unfold arriveFrom
  induction definitions generalizing log with
  | nil => exact .refl _ log
  | cons d rest ih =>
    rw [List.foldl_cons]
    by_cases hr : (r.graph.node d.2).reference = none
    · rw [if_pos hr]
      refine ((arrive_grows r [] [] (definitionSite d) d.2 log hr).imp
        fun id hb => ⟨d, List.mem_cons_self, hr, hb⟩).trans (ih.imp ?_)
      rintro id ⟨d', hd, hrest⟩
      exact ⟨d', List.mem_cons_of_mem _ hd, hrest⟩
    · rw [if_neg hr]
      refine ih.imp ?_
      rintro id ⟨d', hd, hrest⟩
      exact ⟨d', List.mem_cons_of_mem _ hd, hrest⟩

/-- What is recorded can be reached and has a model. -/
theorem reachable_of_arrivals {r : Run} (hroot : r.rootIsObject = true) {id : NodeId}
    (h : id ∈ r.arrivals.map Prod.fst) :
    r.graph.Reachable id ∧ (r.graph.node id).HasModel := by
  obtain ⟨entry, he, rfl⟩ := List.mem_map.mp h
  rcases arriveFrom_grows.behind entry he with hfirst | ⟨d, hd, hr, hpath, hm⟩
  · rcases (arrive_grows r [] [] r.rootSite r.graph.root []
      (reference_of_rootIsObject hroot)).behind entry hfirst with hnone | ⟨hpath, hm⟩
    · cases hnone
    · exact ⟨⟨_, .root, hpath⟩, hm⟩
  · exact ⟨⟨_, .definition hd hr, hpath⟩, hm⟩

/-! ## names and their sites -/

/-- the name that a node gets when it is reached at a site -/
inductive NameAt (r : Run) (site : Site) (id : NodeId) : String → Prop
  | object {properties} (hs : (r.graph.node id).shape = .object properties) :
    NameAt r site id (className r.graph r.hints site id)
  | enumeration {values e} (hs : (r.graph.node id).shape = .enumeration values)
      (he : (r.enumSite site id values).synthesize r.hints = .ok e) : NameAt r site id e.typeName

/-- the name that a node gets where it is first reached -/
def GetsName (r : Run) (id : NodeId) (name : String) : Prop :=
  ∃ site, r.firstSite? id = some site ∧ r.NameAt site id name

/-- What a walk knows while classes are open: the names given are distinct, and each of them is that
of its node at the site in the record. -/
structure Known (r : Run) (trail : Trail) (done : Finished) (log : Arrivals) : Prop where
  distinct : Distinct (namesGiven trail done)
  described : Described r trail done
  logged : r.Logged trail done log
  opened : ∀ entry ∈ trail.classes, ∃ site, log.lookup entry.1 = some site ∧
    r.NameAt site entry.1 entry.2

section
variable {r : Run} {trail : Trail} {done done' : Finished} {log log' : Arrivals} {site : Site}
  {id owner : NodeId} {name : String} {t : TypeRef}

theorem known_start (r : Run) : r.Known {} [] [] where
  distinct := distinct_start
  described _ h := absurd h List.not_mem_nil
  logged := logged_start r
  opened _ h := absurd h List.not_mem_nil

theorem Known.within (h : r.Known trail done log) (arrays : List NodeId) :
    r.Known ⟨trail.classes, arrays⟩ done log :=
  ⟨h.distinct, h.described, h.logged.within arrays, h.opened⟩

/-- A class is entered, and the node is recorded. -/
theorem Known.enter (h : r.Known trail done log) (hg : givenName? trail done id = none)
    (ho : owner? trail done name = none) (hw : r.Way (givenName? trail done) site id)
    (hn : r.NameAt site id name) :
    r.Known ⟨(id, name) :: trail.classes, []⟩ done (log ++ [(id, site)]) where
  distinct := h.distinct.enter [] hg ho
  described entry he := (h.described entry he).mono (Extends.enter [] h.distinct hg ho)
  logged := h.logged.enter h.distinct hg ho hw
  opened := by
    rw [List.forall_mem_cons]
    refine ⟨⟨site, lookup_concat_self (h.logged.not_mem hg), hn⟩, fun entry he => ?_⟩
    obtain ⟨site', hl, hn'⟩ := h.opened entry he
    exact ⟨site', (List.prefix_append _ _).lookup_eq_some hl, hn'⟩

/-- A walk from a node that ends well keeps what is known. -/
theorem Known.after (h : r.Known trail done log) (ht : r.TypeOf trail site id done t done')
    (hw : r.Way (givenName? trail done) site id) :
    r.Known trail done' (r.arrive (trail.classes.map Prod.fst) trail.arrays site id log) := by
  obtain ⟨hgrown, hlogged⟩ := ht.logged h.distinct h.logged hw
  refine ⟨ht.distinct h.distinct, ht.described h.distinct h.described, hlogged, fun entry he => ?_⟩
  obtain ⟨site', hl, hn⟩ := h.opened entry he
  exact ⟨site', hgrown.lookup_eq_some hl, hn⟩

/-- The model of a node has the name that the node gets at the site in the record. -/
theorem NamedAt.nameAt {m : Model} {ν : NodeId → Option String} (hn : r.NamedAt site id m)
    (hd : Describes r.graph r.settings ν id m) : r.NameAt site id m.name := by
  cases hn with
  | @ofClass c hname =>
    cases hd with
    | ofClass hs =>
      rw [show (Model.ofClass c).name = c.name from rfl, hname]
      exact .object hs
  | ofEnum hs he => exact .enumeration hs he

theorem Known.named (h : r.Known trail done log) {entry : NodeId × String}
    (he : entry ∈ namesGiven trail done) :
    ∃ site, log.lookup entry.1 = some site ∧ r.NameAt site entry.1 entry.2 := by
  rcases List.mem_append.mp he with hopen | hdone
  · exact h.opened entry hopen
  · obtain ⟨finished, hm, rfl⟩ := List.mem_map.mp hdone
    obtain ⟨site, hl, hn⟩ := h.logged.models finished hm
    exact ⟨site, hl, hn.nameAt (h.described finished hm)⟩

theorem mem_namesGiven_of_owner? (ho : owner? trail done name = some owner) :
    (owner, name) ∈ namesGiven trail done := by
  rcases Option.or_eq_some_iff.mp ho with ho | ⟨-, ho⟩
  all_goals obtain ⟨entry, he, rfl⟩ := Option.map_eq_some_iff.mp ho
  · obtain rfl : entry.2 = name := by simpa using List.find?_some he
    exact List.mem_append_left _ (List.mem_of_find?_eq_some he)
  · obtain rfl : entry.2.name = name := by simpa using List.find?_some he
    exact List.mem_append_right _ (List.mem_map.mpr ⟨entry, List.mem_of_find?_eq_some he, rfl⟩)

/-- A name that is taken is that of its owner, at the site where this was first reached. -/
theorem Known.nameAt_owner (h : r.Known trail done log) (ho : owner? trail done name = some owner) :
    ∃ site, log.lookup owner = some site ∧ r.NameAt site owner name :=
  h.named (mem_namesGiven_of_owner? ho)

end

/-! ## walks that stop for a name -/

/-- In the record `log` two nodes stand that get the name `name` at their sites. They are called by
the fragments `first` and `second`, in the order in which they were reached. -/
inductive Clash (r : Run) (log : Arrivals) (name : String) : String → String → Prop
  | mk {front a b site site'} (hlog : front ++ [(b, site')] <+: log)
      (ha : front.lookup a = some site) (hb : b ∉ front.map Prod.fst)
      (hna : r.NameAt site a name) (hnb : r.NameAt site' b name) :
      Clash r log name (r.graph.node a).pointer.fragment (r.graph.node b).pointer.fragment

theorem Clash.mono {r : Run} {log log' : Arrivals} {name first second : String}
    (h : r.Clash log name first second) (hp : log <+: log') : r.Clash log' name first second := by
  cases h with
  | mk hlog ha hb hna hnb => exact .mk (hlog.trans hp) ha hb hna hnb

section
variable {r : Run} {name first second : String}

/-- A node without a name would get one that is taken. -/
theorem Known.clash {trail : Trail} {done : Finished} {log : Arrivals} {site : Site}
    {id owner : NodeId} (h : r.Known trail done log) (hg : givenName? trail done id = none)
    (ho : owner? trail done name = some owner) (hn : r.NameAt site id name) :
    r.Clash (log ++ [(id, site)]) name (r.graph.node owner).pointer.fragment
      (r.graph.node id).pointer.fragment := by
  obtain ⟨site', hl, hn'⟩ := h.nameAt_owner ho
  exact .mk List.prefix_rfl hl (h.logged.not_mem hg) hn' hn

mutual

/-- By induction on the way to the fault: what is known where the walk starts is known where it
stops, and the record goes on from there. -/
theorem TypeFails.clash {trail : Trail} {site : Site} {id : NodeId} {done : Finished} {e : Error}
    {log : Arrivals} (he : e = .typeNameConflict name first second) :
    r.TypeFails trail site id done e → (r.graph.node id).reference = none →
      r.Known trail done log → r.Way (givenName? trail done) site id →
      r.Clash (r.arrive (trail.classes.map Prod.fst) trail.arrays site id log) name first second
  | .enumeration _ _ hmade, _, _, _ => by
    rcases EnumSite.synthesize_error hmade with rfl | ⟨_, _, rfl⟩ <;> cases he
  | .enumTaken hs hg hmade ho, _, hk, _ => by
    cases he
    rw [arrive_of_enumeration hs, if_neg (hk.logged.not_mem hg)]
    exact hk.clash hg ho (.enumeration hs hmade)
  | .classTaken hs hg hn ho, _, hk, _ => by
    cases he
    rw [hk.logged.arrive_class hg hs]
    exact (hk.clash hg ho (hn ▸ .object hs)).mono (arriveAll_grows r _ _ _ _ _).front
  | .properties hs hg hn ho hp, _, hk, hw => by
    have hclash := hp.clash he (hk.enter hg ho hw (hn ▸ .object hs)) hs
      (by rw [map_declared_namedProperties]; exact List.Subset.refl _) (by simp [givenName?])
    rw [map_declared_namedProperties] at hclash
    rw [hk.logged.arrive_class hg hs, hn]
    exact hclash
  | .openArray _ _, _, _, _ => by cases he
  | .itemsNowhere _ _ hf, _, _, _ => by
    obtain ⟨_, _, rfl⟩ := Graph.follow_error hf
    cases he
  | .items hs ha hf ht, _, hk, hw => by
    rw [arrive_of_items hs ha hf]
    exact ht.clash he (Graph.reference_of_follow hf) (hk.within _) (.items hw hs hf)

theorem PropertiesFail.clash {trail : Trail} {owner : NodeId} {className : String}
    {properties : List NamedProperty} {done : Finished} {e : Error} {log : Arrivals}
    {declared : List (String × NodeId)} (he : e = .typeNameConflict name first second) :
    r.PropertiesFail trail owner className properties done e → r.Known trail done log →
      (r.graph.node owner).shape = .object declared →
      properties.map NamedProperty.declared ⊆ declared →
      givenName? trail done owner = some className →
      r.Clash (r.arriveAll (trail.classes.map Prod.fst) trail.arrays className
        (properties.map NamedProperty.declared) log) name first second
  | .nowhere hf, _, _, _, _ => by
    obtain ⟨_, _, rfl⟩ := Graph.follow_error hf
    cases he
  | .first hf ht, hk, hs, hsub, hn => by
    rw [List.map_cons] at hsub ⊢
    have hway := Way.property hs hn (List.cons_subset.mp hsub).1 hf
    have hclash := ht.clash he (Graph.reference_of_follow hf) hk hway
    rw [NamedProperty.declared, arriveAll, hf]
    exact hclash.mono (arriveAll_grows r _ _ _ _ _).front
  | .later hf ht hp, hk, hs, hsub, hn => by
    rw [List.map_cons] at hsub ⊢
    obtain ⟨hfirst, hrest⟩ := List.cons_subset.mp hsub
    have hway := Way.property hs hn hfirst hf
    have hclash := hp.clash he (hk.after ht hway) hs hrest
      (Extends.of_done ht.keeps_done _ _ hn)
    rw [NamedProperty.declared, arriveAll, hf]
    exact hclash

end

theorem DefinitionsFail.clash {definitions : List (String × NodeId)} {done : Finished} {e : Error}
    {log : Arrivals} (he : e = .typeNameConflict name first second)
    (h : r.DefinitionsFail definitions done e) (hk : r.Known {} done log)
    (hsub : definitions ⊆ (r.graph.node r.graph.root).definitions) :
    r.Clash (r.arriveFrom definitions log) name first second := by
  unfold arriveFrom
  induction h generalizing log with
  | nowhere hf =>
    obtain ⟨_, _, rfl⟩ := Graph.follow_error hf
    cases he
  | first hf ht =>
    have hr := Graph.reference_of_follow hf
    rw [List.foldl_cons, if_pos hr]
    exact (ht.clash he hr hk (.definition (List.cons_subset.mp hsub).1 hr)).mono
      arriveFrom_grows.front
  | reference hf hn _ ih =>
    rw [List.foldl_cons, if_neg (Graph.reference_ne_none hf hn)]
    exact ih he hk (List.cons_subset.mp hsub).2
  | later hf ht _ ih =>
    obtain ⟨hfirst, hrest⟩ := List.cons_subset.mp hsub
    have hr := Graph.reference_of_follow hf
    rw [List.foldl_cons, if_pos hr]
    exact ih he (hk.after ht (.definition hfirst hr)) hrest

/-- A run that fails for a name has reached two nodes of this name. -/
theorem clash_of_models (h : r.models = .error (.typeNameConflict name first second)) :
    r.rootIsObject = true ∧ r.Clash r.arrivals name first second := by
  rcases models_error h with hcheck | hroot | ⟨hroot, hw⟩
  · cases Settings.check_error hcheck
  · cases hroot
  · refine ⟨hroot, ?_⟩
    have hr := reference_of_rootIsObject hroot
    rcases walk_error hw with ht | ⟨_, _, ht, hd⟩
    · exact (ht.clash rfl hr (known_start r) .root).mono arriveFrom_grows.front
    · exact hd.clash rfl ((known_start r).after ht .root) (List.Subset.refl _)

end

/-! ## conflicts of a run -/

theorem NameAt.unique {r : Run} {site : Site} {id : NodeId} {name name' : String}
    (h : r.NameAt site id name) (h' : r.NameAt site id name') : name = name' := by
  cases h with
  | object hs =>
    cases h' with
    | object => rfl
    | enumeration hs' => cases hs.symm.trans hs'
  | enumeration hs he =>
    cases h' with
    | object hs' => cases hs.symm.trans hs'
    | enumeration hs' he' =>
      cases hs.symm.trans hs'
      cases he.symm.trans he'
      rfl

/-- The nodes of a clash get the name where they are first reached, and they are two. -/
theorem Clash.nodes {r : Run} {name first second : String}
    (h : r.Clash r.arrivals name first second) :
    ∃ a b, a ≠ b ∧ [a, b].Sublist (r.arrivals.map Prod.fst) ∧
      first = (r.graph.node a).pointer.fragment ∧ second = (r.graph.node b).pointer.fragment ∧
      r.GetsName a name ∧ r.GetsName b name := by
  cases h with
  | @mk front a b site site' hlog ha hb hna hnb =>
    have hmem : a ∈ front.map Prod.fst := List.mem_map_of_mem (mem_of_lookup ha)
    have hab : a ≠ b := by
      rintro rfl
      exact hb hmem
    have hlogged := hlog.map Prod.fst
    rw [List.map_append, List.map_singleton] at hlogged
    refine ⟨a, b, hab, ?_, rfl, rfl, ⟨site, ?_, hna⟩, site', ?_, hnb⟩
    · exact ((List.singleton_sublist.mpr hmem).append (List.Sublist.refl [b])).trans
        hlogged.sublist
    · exact ((List.prefix_append _ _).trans hlog).lookup_eq_some ha
    · exact hlog.lookup_eq_some (lookup_concat_self hb)

/-- In a run that ends well, the name that a node gets is that of its model. -/
theorem name_of_getsName {r : Run} {done : Finished} (hw : r.walk = .ok done) {id : NodeId}
    {name : String} (h : r.GetsName id name) : (id, name) ∈ namesGiven {} done := by
  obtain ⟨site, hsite, hname⟩ := h
  obtain ⟨m, hm, hnamed⟩ := model_of_firstSite hw hsite
  rw [hname.unique (hnamed.nameAt (described_of_walk hw _ hm))]
  exact List.mem_map.mpr ⟨_, hm, rfl⟩

/-- A run over a document fails for a name only if two different objects or enumerations that it can
reach get this name, each where it is first reached. They are reported with their fragments, the one
that is reached first before the other, so no conflict is one of a node with itself. And a run in
which two nodes get one name does not end well. -/
theorem conflicts_between_two_nodes {document : Json} {r : Run} (hd : document.Distinct)
    (hg : Graph.ofJson document = .ok r.graph) :
    (∀ name first second, r.models = .error (.typeNameConflict name first second) →
      first ≠ second ∧ ∃ a b, a ≠ b ∧
        first = "#" ++ (r.graph.node a).pointer.text ∧
        second = "#" ++ (r.graph.node b).pointer.text ∧
        [a, b].Sublist (r.arrivals.map Prod.fst) ∧
        ∀ id ∈ [a, b], r.graph.Reachable id ∧ (r.graph.node id).HasModel ∧
          r.GetsName id name) ∧
    ∀ a b name, a ≠ b → r.GetsName a name → r.GetsName b name →
      ∀ models, r.models ≠ .ok models := by
  constructor
  · intro name first second h
    obtain ⟨hroot, hclash⟩ := clash_of_models h
    obtain ⟨a, b, hab, horder, rfl, rfl, hna, hnb⟩ := hclash.nodes
    have hreached {id : NodeId} (hm : id ∈ [a, b]) :
        r.graph.Reachable id ∧ (r.graph.node id).HasModel :=
      reachable_of_arrivals hroot (horder.subset hm)
    have hinside {id : NodeId} (hm : id ∈ [a, b]) : id < r.graph.size := by
      obtain ⟨-, -, ⟨properties, hs⟩ | ⟨values, hs⟩⟩ := hreached hm
      all_goals exact List.mem_range.mp (Graph.mem_range_of_shape hs (by simp))
    refine ⟨fun he => hab ?_, a, b, hab, Pointer.fragment_eq _, Pointer.fragment_eq _, horder,
      fun id hm => ⟨(hreached hm).1, (hreached hm).2, ?_⟩⟩
    · exact Graph.id_of_pointer hd hg (hinside (by simp)) (hinside (by simp))
        (Pointer.fragment_inj.mp he)
    · rcases List.mem_pair.mp hm with rfl | rfl
      · exact hna
      · exact hnb
  · intro a b name hab ha hb models h
    obtain ⟨-, done, hw, -⟩ := models_ok h
    have hnames := (distinct_of_walk hw).names
    exact hab (congrArg Prod.fst (List.inj_on_of_nodup_map hnames (name_of_getsName hw ha)
      (name_of_getsName hw hb) rfl))

/-! ## an example -/

def townText : String :=
  "\x7b\"properties\":\x7b" ++
  "\"me\":\x7b\"$ref\":\"#\"\x7d," ++
  "\"a\":\x7b\"$ref\":\"#/definitions/alias\"\x7d," ++
  "\"Town\":\x7b\"enum\":[\"x\"]\x7d\x7d," ++
  "\"definitions\":\x7b\"alias\":\x7b\"$ref\":\"#/definitions/town\"\x7d," ++
  "\"town\":\x7b\"type\":\"object\"\x7d\x7d\x7d"

/-- The root is reached again, a definition is reached through an alias, and an enumeration is named
like it. -/
def townDocument : Json :=
  .object [
    ("properties", .object [
      ("me", .object [("$ref", .string "#")]),
      ("a", .object [("$ref", .string "#/definitions/alias")]),
      ("Town", .object [("enum", .array [.string "x"])])]),
    ("definitions", .object [
      ("alias", .object [("$ref", .string "#/definitions/town")]),
      ("town", .object [("type", .string "object")])])]

def townGraph : Graph := ⟨#[
  { reference := some (.fragment "#"), pointer := ["properties", "me"] },
  { reference := some (.fragment "#/definitions/alias"), pointer := ["properties", "a"] },
  { values := some ["x"], pointer := ["properties", "Town"] },
  { reference := some (.fragment "#/definitions/town"), pointer := ["definitions", "alias"] },
  { type := some .object, pointer := ["definitions", "town"] },
  { properties := [("me", 0), ("a", 1), ("Town", 2)],
    definitions := [("alias", 3), ("town", 4)] }]⟩

/-- A hint gives the enumeration the name that the definition has by its key. -/
def townRun : Run where
  graph := townGraph
  hints := ⟨[("R.Town", .enumeration { typeName := some "town" })]⟩
  settings := { namespaceName := "N", rootClassName := "R" }

theorem conflict_of_townRun : Json.read townText = .ok townDocument ∧
    Graph.ofJson townDocument = .ok townGraph ∧
    townRun.models = .error (.typeNameConflict "Town" "#/definitions/town" "#/properties/Town") ∧
    (∃ a b, a ≠ b ∧ "#/definitions/town" = "#" ++ (townGraph.node a).pointer.text ∧
      "#/properties/Town" = "#" ++ (townGraph.node b).pointer.text ∧
      [a, b].Sublist (townRun.arrivals.map Prod.fst) ∧
      ∀ id ∈ [a, b], townGraph.Reachable id ∧ (townGraph.node id).HasModel ∧
        townRun.GetsName id "Town") ∧
    townRun.GetsName 4 "Town" ∧ townRun.GetsName 2 "Town" ∧
    ∀ models, townRun.models ≠ .ok models := by
  have hread : Json.read townText = .ok townDocument := by
    unfold Json.read townText
    simp only [String.toList_append]
    repeat rw [String.toList_ofList]
    rfl
  have hg : Graph.ofJson townDocument = .ok townGraph := rfl
  have hmodels : townRun.models =
      .error (.typeNameConflict "Town" "#/definitions/town" "#/properties/Town") :=
    models_of_within rfl rfl (by with_unfolding_all rfl)
  obtain ⟨hconflict, hfails⟩ :=
    conflicts_between_two_nodes (r := townRun) (Json.distinct_of_read hread) hg
  have harrivals : townRun.arrivals = [(5, ⟨none, "R"⟩), (4, ⟨some "R.A", "A"⟩),
      (2, ⟨some "R.Town", "Town"⟩)] := by cbv
  have htown : townRun.GetsName 4 "Town" := by
    refine ⟨⟨some "R.A", "A"⟩, by rw [firstSite?, harrivals]; rfl, ?_⟩
    rw [show "Town" = className townGraph townRun.hints ⟨some "R.A", "A"⟩ 4 by cbv]
    exact .object rfl
  have henum : townRun.GetsName 2 "Town" :=
    ⟨⟨some "R.Town", "Town"⟩, by rw [firstSite?, harrivals]; rfl,
      .enumeration (e := ⟨"Town", none, [⟨"X", some "x"⟩]⟩) rfl (by cbv)⟩
  exact ⟨hread, hg, hmodels, (hconflict _ _ _ hmodels).2, htown, henum,
    hfails 4 2 "Town" (by decide) htown henum⟩

end Run

end SchemaModel

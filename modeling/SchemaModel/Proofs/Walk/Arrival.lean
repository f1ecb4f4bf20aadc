import Mathlib
import SchemaModel.Proofs.Walk.Links

/-!
# Where nodes are first reached

What a node is called depends on the site where the walk reaches it first. `Run.arrive` goes the way
of a walk and records the objects and enumerations with their sites as they are met, each once; it
never stops, and it knows of names only those that sites are made of. A walk that ends well has
named every node at the site in this record.

* `TypeOf.logged`        a walk from a node records the nodes that it names;
* `logged_of_walk`       at the end the models are those of the recorded nodes, at their sites;
* `property_of_way`      a site with a key is that of a property of a class, or of items behind it.
-/

namespace SchemaModel

/-- nodes with the sites where they are first reached, in this order -/
abbrev Arrivals := List (NodeId × Site)

namespace Run

mutual

/-- The arrivals after a node was reached at a site; `within` are the objects around it and `arrays`
the arrays since the innermost of them. -/
def arrive (r : Run) (within arrays : List NodeId) (site : Site) (id : NodeId) (log : Arrivals) :
    Arrivals :=
  match _hs : (r.graph.node id).shape with
  | .enumeration _ => if id ∈ log.map Prod.fst then log else log ++ [(id, site)]
  | .object properties =>
    if _hw : id ∈ within ∨ id ∈ log.map Prod.fst then log
    else r.arriveAll (id :: within) [] (className r.graph r.hints site id) properties
      (log ++ [(id, site)])
  | .array (some items) =>
    if _ha : id ∈ arrays then log
    else
      match r.graph.follow items with
      | .ok target => r.arrive within (id :: arrays) site.items target log
      | .error _ => log
  | _ => log
termination_by (unseen (List.range r.graph.size) within,
  unseen (List.range r.graph.size) arrays, 0)
decreasing_by
  · exact Prod.Lex.left _ _
      (unseen_cons_lt (Graph.mem_range_of_shape _hs nofun) fun hw => _hw (.inl hw))
  · exact Prod.Lex.right _
      (Prod.Lex.left _ _ (unseen_cons_lt (Graph.mem_range_of_shape _hs nofun) _ha))

/-- the same for the properties of a class, one after the other -/
def arriveAll (r : Run) (within arrays : List NodeId) (className : String) :
    List (String × NodeId) → Arrivals → Arrivals
  | [], log => log
  | (jsonName, child) :: rest, log =>
    match r.graph.follow child with
    | .ok target =>
      r.arriveAll within arrays className rest
        (r.arrive within arrays (.ofProperty className jsonName) target log)
    | .error _ => log
termination_by properties => (unseen (List.range r.graph.size) within,
  unseen (List.range r.graph.size) arrays, properties.length + 1)

end

/-- the way on which a definition of the root is reached when nothing else leads to it -/
def definitionSite (d : String × NodeId) : Site := { inlineName := Naming.typeName d.1 }

/-- the arrivals at definitions of the root, one after the other -/
def arriveFrom (r : Run) (definitions : List (String × NodeId)) (log : Arrivals) : Arrivals :=
  definitions.foldl (fun log d =>
    if (r.graph.node d.2).reference = none then r.arrive [] [] (definitionSite d) d.2 log
    else log) log

/-- the objects and enumerations in the order in which they are reached -/
def arrivals (r : Run) : Arrivals :=
  r.arriveFrom (r.graph.node r.graph.root).definitions (r.arrive [] [] r.rootSite r.graph.root [])

/-- where a node is first reached -/
def firstSite? (r : Run) (id : NodeId) : Option Site := r.arrivals.lookup id

/-- The arrivals at a node by its shape, with nothing kept of why the recursion ends. -/
theorem arrive_eq (r : Run) (within arrays : List NodeId) (site : Site) (id : NodeId)
    (log : Arrivals) : r.arrive within arrays site id log =
      match (r.graph.node id).shape with
      | .enumeration _ => if id ∈ log.map Prod.fst then log else log ++ [(id, site)]
      | .object properties =>
        if id ∈ within ∨ id ∈ log.map Prod.fst then log
        else r.arriveAll (id :: within) [] (className r.graph r.hints site id) properties
          (log ++ [(id, site)])
      | .array (some items) =>
        if id ∈ arrays then log
        else
          match r.graph.follow items with
          | .ok target => r.arrive within (id :: arrays) site.items target log
          | .error _ => log
      | _ => log := by
  rw [arrive]
  cases (r.graph.node id).shape with
  | array items => cases items <;> rfl
  | enumeration | object | string | integer | number | boolean | null | unconstrained => rfl

section
variable {r : Run} {within arrays : List NodeId} {site : Site} {id : NodeId} {log : Arrivals}

theorem arrive_of_enumeration {values : List String}
    (hs : (r.graph.node id).shape = .enumeration values) :
    r.arrive within arrays site id log =
      if id ∈ log.map Prod.fst then log else log ++ [(id, site)] := by
  rw [arrive_eq, hs]

theorem arrive_of_object {properties : List (String × NodeId)}
    (hs : (r.graph.node id).shape = .object properties) :
    r.arrive within arrays site id log =
      if id ∈ within ∨ id ∈ log.map Prod.fst then log
      else r.arriveAll (id :: within) [] (className r.graph r.hints site id) properties
        (log ++ [(id, site)]) := by
  rw [arrive_eq, hs]

theorem arrive_of_items {items target : NodeId} (hs : (r.graph.node id).shape = .array (some items))
    (ha : id ∉ arrays) (hf : r.graph.follow items = .ok target) :
    r.arrive within arrays site id log = r.arrive within (id :: arrays) site.items target log := by
  rw [arrive_eq, hs]
  dsimp only
  rw [if_neg ha, hf]

theorem arrive_of_plain {t : TypeRef} (hs : (r.graph.node id).shape.plain? = some t) :
    r.arrive within arrays site id log = log := by
  rw [arrive_eq]
  split
  · next h => rw [h] at hs; cases hs
  · next h => rw [h] at hs; cases hs
  · next h => rw [h] at hs; cases hs
  · rfl

end

/-! ## sites and names -/

/-- A node can be reached at a site: the root and the definitions of the root, the properties of
nodes that have a name under `ν`, and the items of arrays. -/
inductive Way (r : Run) (ν : NodeId → Option String) : Site → NodeId → Prop
  | root : Way r ν r.rootSite r.graph.root
  | definition {d} (hd : d ∈ (r.graph.node r.graph.root).definitions)
      (hr : (r.graph.node d.2).reference = none) : Way r ν (definitionSite d) d.2
  | property {owner name properties declared target}
      (hs : (r.graph.node owner).shape = .object properties) (hn : ν owner = some name)
      (hp : declared ∈ properties) (hf : r.graph.follow declared.2 = .ok target) :
      Way r ν (.ofProperty name declared.1) target
  | items {site id items target} (h : Way r ν site id)
      (hs : (r.graph.node id).shape = .array (some items))
      (hf : r.graph.follow items = .ok target) : Way r ν site.items target

theorem Way.mono {r : Run} {ν ν' : NodeId → Option String} {site : Site} {id : NodeId}
    (h : r.Way ν site id) (he : Extends ν ν') : r.Way ν' site id := by
  induction h with
  | root => exact .root
  | definition hd hr => exact .definition hd hr
  | property hs hn hp hf => exact .property hs (he _ _ hn) hp hf
  | items _ hs hf ih => exact .items ih hs hf

/-- the model of a node, named as the site says -/
inductive NamedAt (r : Run) (site : Site) (id : NodeId) : Model → Prop
  | ofClass {c} (hn : c.name = className r.graph r.hints site id) : NamedAt r site id (.ofClass c)
  | ofEnum {values e} (hs : (r.graph.node id).shape = .enumeration values)
      (he : (r.enumSite site id values).synthesize r.hints = .ok e) :
      NamedAt r site id
        (.ofEnum ⟨r.settings.namespaceName, e.typeName, e.description, e.members⟩)

/-- What a record says about a walk: the nodes in it are those that have a name, they can be reached
at their sites, and the models that are finished are named there. -/
structure Logged (r : Run) (trail : Trail) (done : Finished) (log : Arrivals) : Prop where
  named : ∀ id, id ∈ log.map Prod.fst ↔ (givenName? trail done id).isSome
  ways : ∀ entry ∈ log, r.Way (givenName? trail done) entry.2 entry.1
  models : ∀ entry ∈ done, ∃ site, log.lookup entry.1 = some site ∧
    r.NamedAt site entry.1 entry.2

section
variable {r : Run} {trail : Trail} {done : Finished} {log log' : Arrivals} {site : Site}
  {id : NodeId} {name : String} {m : Model}

theorem logged_start (r : Run) : r.Logged {} [] [] where
  named _ := iff_of_false List.not_mem_nil nofun
  ways _ h := absurd h List.not_mem_nil
  models _ h := absurd h List.not_mem_nil

/-- The record looks at the classes of a trail only. -/
theorem Logged.within (h : r.Logged trail done log) (arrays : List NodeId) :
    r.Logged ⟨trail.classes, arrays⟩ done log :=
  ⟨h.named, h.ways, h.models⟩

theorem Logged.not_mem (h : r.Logged trail done log) (hg : givenName? trail done id = none) :
    id ∉ log.map Prod.fst := by
  rw [h.named, hg]
  exact Bool.false_ne_true

/-- The record of a walk that enters a class goes on behind the node. -/
theorem Logged.arrive_class (h : r.Logged trail done log) (hg : givenName? trail done id = none)
    {properties : List (String × NodeId)} (hs : (r.graph.node id).shape = .object properties) :
    r.arrive (trail.classes.map Prod.fst) trail.arrays site id log =
      r.arriveAll (id :: trail.classes.map Prod.fst) [] (className r.graph r.hints site id)
        properties (log ++ [(id, site)]) := by
  have hout : ¬ (id ∈ trail.classes.map Prod.fst ∨ id ∈ log.map Prod.fst) :=
    not_or.mpr ⟨not_mem_of_givenName? hg, h.not_mem hg⟩
  rw [arrive_of_object hs, if_neg hout]

theorem lookup_concat_self (hm : id ∉ log.map Prod.fst) :
    (log ++ [(id, site)]).lookup id = some site := by
  rw [List.lookup_append, List.lookup_eq_none_iff.mpr, Option.none_or, List.lookup_cons_self]
  intro entry he
  exact bne_iff_ne.mpr fun e => hm (List.mem_map.mpr ⟨entry, he, e.symm⟩)

theorem NamedAt.lookup_mono (h : ∃ site, log.lookup id = some site ∧ r.NamedAt site id m)
    (hp : log <+: log') : ∃ site, log'.lookup id = some site ∧ r.NamedAt site id m := by
  obtain ⟨site, hl, hn⟩ := h
  exact ⟨site, hp.lookup_eq_some hl, hn⟩

/-- A class is entered, and the node is recorded. -/
theorem Logged.enter (h : r.Logged trail done log) (hd : Distinct (namesGiven trail done))
    (hg : givenName? trail done id = none) (ho : owner? trail done name = none)
    (hw : r.Way (givenName? trail done) site id) :
    r.Logged ⟨(id, name) :: trail.classes, []⟩ done (log ++ [(id, site)]) := by
  have he := Extends.enter [] hd hg ho
  refine ⟨fun i => ?_, fun entry hm => ?_, fun entry hm => ?_⟩
  · rw [List.map_append, List.mem_append, h.named, isSome_givenName?_iff_mem,
      isSome_givenName?_iff_mem]
    simp only [List.map_cons, List.map_nil, List.mem_cons, List.not_mem_nil]
    tauto
  · rcases List.mem_append.mp hm with hold | hnew
    · exact (h.ways entry hold).mono he
    · rw [List.mem_singleton.mp hnew]
      exact hw.mono he
  · exact NamedAt.lookup_mono (h.models entry hm) (List.prefix_append _ _)

/-- The class is left, and its model is named at the site in the record. -/
theorem Logged.leave (h : r.Logged ⟨(id, name) :: trail.classes, []⟩ done log)
    (hd : Distinct (namesGiven ⟨(id, name) :: trail.classes, []⟩ done)) (hm : m.name = name)
    (hl : log.lookup id = some site) (hn : r.NamedAt site id m) :
    r.Logged trail (done ++ [(id, m)]) log := by
  refine ⟨fun i => ?_, fun entry he => (h.ways entry he).mono (Extends.leave hd hm), ?_⟩
  · rw [h.named, isSome_givenName?_iff_mem, isSome_givenName?_iff_mem, List.map_append,
      List.mem_append]
    simp only [List.map_cons, List.map_nil, List.mem_cons, List.not_mem_nil]
    tauto
  · intro entry he
    rcases List.mem_append.mp he with hold | hnew
    · exact h.models entry hold
    · rw [List.mem_singleton.mp hnew]
      exact ⟨site, hl, hn⟩

end

/-! ## walks keep the record -/

mutual

/-- A walk from a node records the nodes that it names, behind those recorded before. -/
theorem TypeOf.logged {r : Run} {trail : Trail} {site : Site} {id : NodeId}
    {done done' : Finished} {t : TypeRef} {log : Arrivals} :
    r.TypeOf trail site id done t done' → Distinct (namesGiven trail done) →
      r.Logged trail done log → r.Way (givenName? trail done) site id →
      log <+: r.arrive (trail.classes.map Prod.fst) trail.arrays site id log ∧
        r.Logged trail done' (r.arrive (trail.classes.map Prod.fst) trail.arrays site id log)
  | .oldEnum hs hg, _, h, _ => by
    rw [arrive_of_enumeration hs, if_pos ((h.named id).mpr (Option.isSome_of_eq_some hg))]
    exact ⟨List.prefix_rfl, h⟩
  | .oldClass hs hg, _, h, _ => by
    rw [arrive_of_object hs, if_pos (.inr ((h.named id).mpr (Option.isSome_of_eq_some hg)))]
    exact ⟨List.prefix_rfl, h⟩
  | .newEnum hs hg he ho, hd, h, hw => by
    rw [arrive_of_enumeration hs, if_neg (h.not_mem hg)]
    exact ⟨List.prefix_append _ _, (h.enter hd hg ho hw).leave (hd.enter [] hg ho) rfl
      (lookup_concat_self (h.not_mem hg)) (.ofEnum hs he)⟩
  | .newClass hs hg hn ho hp, hd, h, hw => by
    have hd₁ := hd.enter [] hg ho
    rw [h.arrive_class hg hs, hn]
    obtain ⟨hgrown, hlogged⟩ := hp.logged hd₁ (h.enter hd hg ho hw) hs
      (by rw [map_declared_namedProperties]; exact List.Subset.refl _) (by simp [givenName?])
    rw [map_declared_namedProperties] at hgrown hlogged
    exact ⟨(List.prefix_append _ _).trans hgrown, hlogged.leave (hp.distinct hd₁) rfl
      (hgrown.lookup_eq_some (lookup_concat_self (h.not_mem hg))) (.ofClass hn.symm)⟩
  | .items hs ha hf ht, hd, h, hw => by
    obtain ⟨hgrown, hlogged⟩ := ht.logged hd (h.within _) (.items hw hs hf)
    rw [arrive_of_items hs ha hf]
    exact ⟨hgrown, hlogged.within trail.arrays⟩
  | .plain hs, _, h, _ => by
    rw [arrive_of_plain hs]
    exact ⟨List.prefix_rfl, h⟩

theorem PropertiesOf.logged {r : Run} {trail : Trail} {owner : NodeId} {name : String}
    {properties : List NamedProperty} {done done' : Finished} {types : List Property}
    {log : Arrivals} {declared : List (String × NodeId)} :
    r.PropertiesOf trail owner name properties done types done' →
      Distinct (namesGiven trail done) → r.Logged trail done log →
      (r.graph.node owner).shape = .object declared →
      properties.map NamedProperty.declared ⊆ declared →
      givenName? trail done owner = some name →
      log <+: r.arriveAll (trail.classes.map Prod.fst) trail.arrays name
          (properties.map NamedProperty.declared) log ∧
        r.Logged trail done' (r.arriveAll (trail.classes.map Prod.fst) trail.arrays name
          (properties.map NamedProperty.declared) log)
  | .nil, _, h, _, _, _ => by
    rw [List.map_nil, arriveAll]
    exact ⟨List.prefix_rfl, h⟩
  | .cons hf ht hp, hd, h, hs, hsub, hn => by
    rw [List.map_cons] at hsub ⊢
    obtain ⟨hfirst, hrest⟩ := List.cons_subset.mp hsub
    have hway := Way.property hs hn hfirst hf
    obtain ⟨hgrown, hlogged⟩ := ht.logged hd h hway
    obtain ⟨hgrown', hlogged'⟩ := hp.logged (ht.distinct hd) hlogged hs hrest
      (Extends.of_done ht.keeps_done _ _ hn)
    rw [NamedProperty.declared, arriveAll, hf]
    exact ⟨hgrown.trans hgrown', hlogged'⟩

end

theorem DefinitionsOf.logged {r : Run} {definitions : List (String × NodeId)}
    {done done' : Finished} (h : r.DefinitionsOf definitions done done') {log : Arrivals}
    (hd : Distinct (namesGiven {} done)) (hl : r.Logged {} done log)
    (hsub : definitions ⊆ (r.graph.node r.graph.root).definitions) :
    r.Logged {} done' (r.arriveFrom definitions log) := by
  unfold arriveFrom
  induction h generalizing log with
  | nil => exact hl
  | reference hf hn _ ih =>
    rw [List.foldl_cons, if_neg (Graph.reference_ne_none hf hn)]
    exact ih hd hl (List.cons_subset.mp hsub).2
  | own hf ht _ ih =>
    obtain ⟨hfirst, hrest⟩ := List.cons_subset.mp hsub
    have hr := Graph.reference_of_follow hf
    rw [List.foldl_cons, if_pos hr]
    exact ih (ht.distinct hd) (ht.logged hd hl (.definition hfirst hr)).2 hrest

/-- A walk that ends well has named every node where it is first reached. -/
theorem logged_of_walk {r : Run} {done : Finished} (h : r.walk = .ok done) :
    r.Logged {} done r.arrivals := by
  obtain ⟨t, done₀, ht, hd⟩ := walk_ok h
  exact hd.logged (ht.distinct distinct_start)
    (ht.logged distinct_start (logged_start r) .root).2 (List.Subset.refl _)

theorem firstSite_of_walk {r : Run} {done : Finished} (h : r.walk = .ok done) {id : NodeId}
    {m : Model} (hm : (id, m) ∈ done) : ∃ site, r.firstSite? id = some site ∧
      r.Way (givenName? {} done) site id ∧ r.NamedAt site id m := by
  have hl := logged_of_walk h
  obtain ⟨site, hsite, hn⟩ := hl.models _ hm
  exact ⟨site, hsite, hl.ways _ (mem_of_lookup hsite), hn⟩

/-- A node that is reached has a model, which is named where it is first reached. -/
theorem model_of_firstSite {r : Run} {done : Finished} (h : r.walk = .ok done) {id : NodeId}
    {site : Site} (hsite : r.firstSite? id = some site) :
    ∃ m, (id, m) ∈ done ∧ r.NamedAt site id m := by
  have hl := logged_of_walk h
  have hreached : id ∈ r.arrivals.map Prod.fst := List.mem_map_of_mem (mem_of_lookup hsite)
  rw [hl.named, isSome_givenName?_iff_mem] at hreached
  obtain ⟨⟨_, m⟩, hm, rfl⟩ := List.mem_map.mp (hreached.resolve_left List.not_mem_nil)
  obtain ⟨site', hsite', hnamed⟩ := hl.models _ hm
  cases hsite.symm.trans hsite'
  exact ⟨m, hm, hnamed⟩

/-! ## the property of a site -/

/-- A site has a key if it is that of a property, or of the items of arrays behind a property. The
key is that of the class and the property, and the type of the property has the type of the node
behind its sequences. -/
theorem property_of_way {r : Run} {done : Finished} (h : r.walk = .ok done) {site : Site}
    {id : NodeId} (hw : r.Way (givenName? {} done) site id) {key : String}
    (hk : site.propertyKey = some key) :
    ∃ c ∈ ModelSet.classes (done.map Prod.snd), ∃ p ∈ c.properties,
      key = Naming.propertyKey c.name (Naming.typeName p.jsonName) ∧
      ∃ t, Denotes r.graph (givenName? {} done) id t ∧ p.type.leaf = t.leaf := by
  induction hw with
  | root | definition => cases hk
  | @property owner name properties declared target hs hn hp hf =>
    cases hk
    obtain ⟨c, hc, rfl, hall⟩ :=
      class_of_given (distinct_of_walk h) (described_of_walk h) hs hn
    obtain ⟨p, hp', hdecl⟩ := mem_of_forall₂ hall.flip declared hp
    obtain ⟨target', hf', ht⟩ := hdecl.type
    cases hf.symm.trans hf'
    exact ⟨c, mem_classes.mpr ⟨owner, hc⟩, p, hp', by rw [hdecl.jsonName], p.type, ht, rfl⟩
  | items _ hs hf ih =>
    obtain ⟨c, hc, p, hp, hkey, t, ht, hleaf⟩ := ih hk
    obtain ⟨target', element, hf', he, rfl⟩ := ht.of_array hs
    cases hf.symm.trans hf'
    exact ⟨c, hc, p, hp, hkey, element, he, hleaf⟩

end Run

end SchemaModel

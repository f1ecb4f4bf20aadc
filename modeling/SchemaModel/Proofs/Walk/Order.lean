import SchemaModel.Proofs.Walk.Names

/-!
# The order of the models

Hints and settings choose names, and names decide whether a walk ends well. They do not choose the
way: `Graph.visit` goes through the nodes as a walk does and looks at the graph alone. A walk that
ends well has finished the nodes that `visit` lists, in this order.

* `TypeOf.visit`   a walk from a node finishes what `visit` lists;
* `walk_order`     the whole walk finishes the nodes of `Graph.order`.
-/

namespace SchemaModel

namespace Graph

mutual

/-- The nodes that are finished after a node was visited; `within` are the objects around it and
`arrays` the arrays since the innermost of them. -/
def visit (g : Graph) (within arrays : List NodeId) (id : NodeId) (done : List NodeId) :
    List NodeId :=
  match _hs : (g.node id).shape with
  | .enumeration _ => if id ∈ within ∨ id ∈ done then done else done ++ [id]
  | .object properties =>
    if _hw : id ∈ within ∨ id ∈ done then done
    else g.visitAll (id :: within) [] (properties.map Prod.snd) done ++ [id]
  | .array (some items) =>
    if _ha : id ∈ arrays then done
    else
      match g.follow items with
      | .ok target => g.visit within (id :: arrays) target done
      | .error _ => done
  | _ => done
termination_by (unseen (List.range g.size) within, unseen (List.range g.size) arrays, 0)
decreasing_by
  · exact Prod.Lex.left _ _
      (unseen_cons_lt (mem_range_of_shape _hs nofun) fun hw => _hw (.inl hw))
  · exact Prod.Lex.right _
      (Prod.Lex.left _ _ (unseen_cons_lt (mem_range_of_shape _hs nofun) _ha))

/-- the same for the schemas of properties, one after the other -/
def visitAll (g : Graph) (within arrays : List NodeId) :
    List NodeId → List NodeId → List NodeId
  | [], done => done
  | child :: rest, done =>
    match g.follow child with
    | .ok target => g.visitAll within arrays rest (g.visit within arrays target done)
    | .error _ => done
termination_by children => (unseen (List.range g.size) within,
  unseen (List.range g.size) arrays, children.length + 1)

end

/-- the nodes in the order in which their models are finished -/
def order (g : Graph) : List NodeId :=
  (g.node g.root).definitions.foldl
    (fun done d => if (g.node d.2).reference = none then g.visit [] [] d.2 done else done)
    (g.visit [] [] g.root [])

/-- The nodes finished behind a node by its shape, with nothing kept of why the recursion ends. -/
theorem visit_eq (g : Graph) (within arrays : List NodeId) (id : NodeId) (done : List NodeId) :
    g.visit within arrays id done =
      match (g.node id).shape with
      | .enumeration _ => if id ∈ within ∨ id ∈ done then done else done ++ [id]
      | .object properties =>
        if id ∈ within ∨ id ∈ done then done
        else g.visitAll (id :: within) [] (properties.map Prod.snd) done ++ [id]
      | .array (some items) =>
        if id ∈ arrays then done
        else
          match g.follow items with
          | .ok target => g.visit within (id :: arrays) target done
          | .error _ => done
      | _ => done := by
  rw [visit]
  cases (g.node id).shape with
  | array items => cases items <;> rfl
  | enumeration | object | string | integer | number | boolean | null | unconstrained => rfl

section
variable {g : Graph} {within arrays done : List NodeId} {id : NodeId}

theorem visit_of_enumeration {values : List String}
    (hs : (g.node id).shape = .enumeration values) :
    g.visit within arrays id done =
      if id ∈ within ∨ id ∈ done then done else done ++ [id] := by
  rw [visit_eq, hs]

theorem visit_of_object {properties : List (String × NodeId)}
    (hs : (g.node id).shape = .object properties) :
    g.visit within arrays id done =
      if id ∈ within ∨ id ∈ done then done
      else g.visitAll (id :: within) [] (properties.map Prod.snd) done ++ [id] := by
  rw [visit_eq, hs]

theorem visit_of_items {items target : NodeId} (hs : (g.node id).shape = .array (some items))
    (ha : id ∉ arrays) (hf : g.follow items = .ok target) :
    g.visit within arrays id done = g.visit within (id :: arrays) target done := by
  rw [visit_eq, hs]
  dsimp only
  rw [if_neg ha, hf]

theorem visit_of_plain {t : TypeRef} (hs : (g.node id).shape.plain? = some t) :
    g.visit within arrays id done = done := by
  rw [visit_eq]
  split
  · next h => rw [h] at hs; cases hs
  · next h => rw [h] at hs; cases hs
  · next h => rw [h] at hs; cases hs
  · rfl

end

end Graph

namespace Run

section
variable {trail : Trail} {done : Finished} {id : NodeId}

theorem mem_of_given {name : String} (hg : givenName? trail done id = some name) :
    id ∈ trail.classes.map Prod.fst ∨ id ∈ done.map Prod.fst :=
  isSome_givenName?_iff_mem.mp (Option.isSome_of_eq_some hg)

theorem not_mem_of_unnamed (hg : givenName? trail done id = none) :
    ¬ (id ∈ trail.classes.map Prod.fst ∨ id ∈ done.map Prod.fst) := by
  intro hm
  have hs := isSome_givenName?_iff_mem.mpr hm
  rw [hg] at hs
  cases hs

end

/-- The schemas of the properties of a class are those of the declared ones, in order. -/
theorem map_child_namedProperties (hints : Hints) (className : String)
    (properties : List (String × NodeId)) :
    (namedProperties hints className properties).map NamedProperty.child =
      properties.map Prod.snd := by
  have h := congrArg (List.map Prod.snd) (map_declared_namedProperties hints className properties)
  rw [List.map_map] at h
  exact h

mutual

/-- A walk from a node finishes what `visit` lists. -/
theorem TypeOf.visit {r : Run} {trail : Trail} {site : Site} {id : NodeId}
    {done done' : Finished} {t : TypeRef} :
    r.TypeOf trail site id done t done' →
      r.graph.visit (trail.classes.map Prod.fst) trail.arrays id (done.map Prod.fst) =
        done'.map Prod.fst
  | .oldEnum hs hg => by
    rw [Graph.visit_of_enumeration hs, if_pos (mem_of_given hg)]
  | .oldClass hs hg => by
    rw [Graph.visit_of_object hs, if_pos (mem_of_given hg)]
  | .newEnum hs hg _ _ => by
    rw [Graph.visit_of_enumeration hs, if_neg (not_mem_of_unnamed hg), List.map_append]
    rfl
  | .newClass hs hg _ _ hp => by
    have hall := hp.visitAll
    rw [map_child_namedProperties] at hall
    rw [Graph.visit_of_object hs, if_neg (not_mem_of_unnamed hg), List.map_append]
    exact congrArg (· ++ [_]) hall
  | .items hs ha hf ht => by
    rw [Graph.visit_of_items hs ha hf]
    exact ht.visit
  | .plain hs => Graph.visit_of_plain hs

theorem PropertiesOf.visitAll {r : Run} {trail : Trail} {owner : NodeId} {name : String}
    {properties : List NamedProperty} {done done' : Finished} {types : List Property} :
    r.PropertiesOf trail owner name properties done types done' →
      r.graph.visitAll (trail.classes.map Prod.fst) trail.arrays
        (properties.map NamedProperty.child) (done.map Prod.fst) = done'.map Prod.fst
  | .nil => by rw [List.map_nil, Graph.visitAll]
  | .cons hf ht hp => by
    rw [List.map_cons, Graph.visitAll, hf]
    show r.graph.visitAll _ _ _ (r.graph.visit _ _ _ _) = _
    rw [ht.visit, hp.visitAll]

end

theorem DefinitionsOf.visit {r : Run} {definitions : List (String × NodeId)}
    {done done' : Finished} (h : r.DefinitionsOf definitions done done') :
    definitions.foldl (fun done d =>
        if (r.graph.node d.2).reference = none then r.graph.visit [] [] d.2 done else done)
      (done.map Prod.fst) = done'.map Prod.fst := by
  induction h with
  | nil => rfl
  | reference hf hn _ ih =>
    rw [List.foldl_cons, if_neg (Graph.reference_ne_none hf hn)]
    exact ih
  | own hf ht _ ih =>
    rw [List.foldl_cons, if_pos (Graph.reference_of_follow hf)]
    have hv := ht.visit
    rw [← ih, ← hv]
    rfl

/-- The nodes of the models, and their order, are chosen by the graph alone. -/
theorem walk_order {r : Run} {done : Finished} (h : r.walk = .ok done) :
    done.map Prod.fst = r.graph.order := by
  obtain ⟨t, done₀, ht, hd⟩ := walk_ok h
  have hv := ht.visit
  rw [← hd.visit, ← hv]
  rfl

end Run

end SchemaModel

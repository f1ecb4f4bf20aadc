import Mathlib.Data.List.Nodup
import Mathlib.Tactic.ByContra
import SchemaModel.Proofs.Walk.Depth

/-!
# Chains of references

A reference leads to at most one node, so the nodes to which the references behind a node lead form
a chain. It ends at a schema that is no reference, or at a reference that leads nowhere, or it comes
back to a node that it has passed. These are the three results of following it, and none of them
takes more references than the graph has nodes, and one.

* `goes_on_of_loop`       a chain that comes back to a node has no end;
* `outcome_followFrom`    what following a chain gives has one of three reasons;
* `follow_of_end`         where a chain ends, all its nodes have the result of the last;
* `followWithin_eq`       a limit of steps that is not reached;
* `follow_by_chain`       the result of following a chain, by the chain.
-/

namespace SchemaModel

open Limited

namespace Graph

/-- the reference of `a` leads to `b` -/
def Link (g : Graph) (a b : NodeId) : Prop :=
  ∃ r, (g.node a).reference = some r ∧ g.resolve r = .ok b

/-- The references from `id` on lead to `last`, over the nodes `passed`, in this order. -/
inductive Chain (g : Graph) : NodeId → List NodeId → NodeId → Prop
  | here {id} : Chain g id [] id
  | next {id target passed last} (hl : g.Link id target) (h : Chain g target passed last) :
      Chain g id (id :: passed) last

/-- The end of a chain of references, with no more references followed than so many. -/
def followWithin (g : Graph) : Nat → List NodeId → NodeId → Limited NodeId
  | steps, seen, id =>
    match (g.node id).reference with
    | none => return id
    | some r =>
      match steps with
      | 0 => giveUp
      | steps + 1 =>
        if id ∈ seen then lift (.error (.unresolvedReference r.text .loop))
        else
          match g.resolve r with
          | .ok target => g.followWithin steps (id :: seen) target
          | .error e => lift (.error e)

section
variable {g : Graph} {id last last' : NodeId} {passed passed' : List NodeId}

/-! ## two chains from one node -/

theorem Link.unique {a b c : NodeId} (hb : g.Link a b) (hc : g.Link a c) : b = c := by
  obtain ⟨r, hr, hb⟩ := hb
  obtain ⟨r', hr', hc⟩ := hc
  cases hr.symm.trans hr'
  exact Except.ok.inj (hb.symm.trans hc)

theorem not_link_of_none {a b : NodeId} (hr : (g.node a).reference = none) : ¬ g.Link a b := by
  rintro ⟨r, hr', -⟩
  cases hr.symm.trans hr'

theorem not_link_of_error {a b : NodeId} {r : Reference} {e : Error}
    (hr : (g.node a).reference = some r) (he : g.resolve r = .error e) : ¬ g.Link a b := by
  rintro ⟨r', hr', hb⟩
  cases hr.symm.trans hr'
  cases he.symm.trans hb

/-- Of two chains from one node, one goes on where the other ends. -/
theorem Chain.compare (h : g.Chain id passed last) (h' : g.Chain id passed' last') :
    (∃ more, passed' = passed ++ more ∧ g.Chain last more last') ∨
      ∃ more, passed = passed' ++ more ∧ g.Chain last' more last := by
  induction h generalizing passed' with
  | here => exact .inl ⟨passed', rfl, h'⟩
  | next hl h ih =>
    cases h' with
    | here => exact .inr ⟨_, rfl, .next hl h⟩
    | next hl' h' =>
      cases hl.unique hl'
      rcases ih h' with ⟨more, rfl, hmore⟩ | ⟨more, rfl, hmore⟩
      · exact .inl ⟨more, rfl, hmore⟩
      · exact .inr ⟨more, rfl, hmore⟩

/-- The chain to a node that it passes. -/
theorem Chain.of_append {front behind : List NodeId} {a : NodeId}
    (h : g.Chain id (front ++ a :: behind) last) :
    g.Chain id front a ∧ g.Chain a (a :: behind) last := by
  induction front generalizing id with
  | nil =>
    cases h with
    | next hl h => exact ⟨.here, .next hl h⟩
  | cons b front ih =>
    cases h with
    | next hl h =>
      obtain ⟨hfront, hbehind⟩ := ih h
      exact ⟨.next hl hfront, hbehind⟩

/-- A chain that has come to a node without a link goes no further. -/
theorem Chain.stays (h : g.Chain id passed last) (hn : ∀ target, ¬ g.Link id target) :
    passed = [] ∧ last = id := by
  cases h with
  | here => exact ⟨rfl, rfl⟩
  | next hl _ => exact absurd hl (hn _)

theorem Chain.extends_to_end (h : g.Chain id passed last) (h' : g.Chain id passed' last')
    (hn : ∀ target, ¬ g.Link last' target) :
    ∃ more, passed' = passed ++ more ∧ g.Chain last more last' := by
  rcases h.compare h' with hmore | ⟨more, rfl, hmore⟩
  · exact hmore
  · obtain ⟨rfl, rfl⟩ := hmore.stays hn
    exact ⟨[], by simp, .here⟩

/-- The nodes passed on the way to a node without a link are always the same. -/
theorem Chain.passed_unique (h : g.Chain id passed last) (h' : g.Chain id passed' last)
    (hn : ∀ target, ¬ g.Link last target) : passed = passed' := by
  obtain ⟨more, rfl, hmore⟩ := h.extends_to_end h' hn
  obtain ⟨rfl, -⟩ := hmore.stays hn
  rw [List.append_nil]

/-- A chain that comes back to a node it has passed goes on from everywhere. -/
theorem goes_on_of_loop (h : g.Chain id passed last) (hloop : last ∈ passed)
    (h' : g.Chain id passed' last') : ∃ target, g.Link last' target := by
  by_contra hn
  rw [not_exists] at hn
  -- to the end it would be as far from the first visit of `last` as from the second
  obtain ⟨front, behind, rfl⟩ := List.append_of_mem hloop
  obtain ⟨hfront, -⟩ := h.of_append
  obtain ⟨more, hpassed, hmore⟩ := h.extends_to_end h' hn
  obtain ⟨more', hpassed', hmore'⟩ := hfront.extends_to_end h' hn
  cases hmore.passed_unique hmore' hn
  have hlength := congrArg List.length (hpassed.symm.trans hpassed')
  simp only [List.length_append, List.length_cons] at hlength
  omega

/-- The node to which a chain first comes back is always the same. -/
theorem Chain.loop_unique (h : g.Chain id passed last) (hloop : last ∈ passed)
    (hnodup : passed.Nodup) (h' : g.Chain id passed' last') (hloop' : last' ∈ passed')
    (hnodup' : passed'.Nodup) : last = last' := by
  have hfirst : ∀ {passed passed' last last'}, last ∈ passed → passed'.Nodup →
      (∃ more, passed' = passed ++ more ∧ g.Chain last more last') → last = last' := by
    rintro passed passed' last last' hloop hnodup ⟨more, rfl, hmore⟩
    cases hmore with
    | here => rfl
    | next => exact absurd rfl (List.nodup_append.mp hnodup |>.2.2 _ hloop _ List.mem_cons_self)
  rcases h.compare h' with hmore | hmore
  · exact hfirst hloop hnodup' hmore
  · exact (hfirst hloop' hnodup hmore).symm

end

/-! ## what following a chain gives -/

/-- The results of following the chain of a node, with `seen` passed before. -/
inductive Outcome (g : Graph) (seen : List NodeId) (id : NodeId) : Except Error NodeId → Prop
  /-- a schema that is no reference -/
  | schema {passed last} (h : g.Chain id passed last) (hr : (g.node last).reference = none) :
      Outcome g seen id (.ok last)
  /-- the first node that is met again -/
  | loop {passed last r} (h : g.Chain id passed last) (hr : (g.node last).reference = some r)
      (hloop : last ∈ passed ∨ last ∈ seen) (hnodup : (passed ++ seen).Nodup) :
      Outcome g seen id (.error (.unresolvedReference r.text .loop))
  /-- a reference that leads nowhere -/
  | nowhere {passed last r e} (h : g.Chain id passed last)
      (hr : (g.node last).reference = some r) (he : g.resolve r = .error e) :
      Outcome g seen id (.error e)

/-- By recursion as the chain goes: each step moves a node from the chain ahead to those passed. -/
theorem outcome_followFrom (g : Graph) (seen : List NodeId) (id : NodeId) (hs : seen.Nodup) :
    g.Outcome seen id (g.followFrom seen id) := by
  fun_induction followFrom g seen id with
  | case1 seen id hr => exact .schema .here hr
  | case2 seen id r hr hmem => exact .loop .here hr (.inr hmem) hs
  | case3 seen id r hr hmem target hn ih =>
    have hl : g.Link id target := ⟨r, hr, hn⟩
    have hmoved (passed : List NodeId) : (passed ++ id :: seen).Perm (id :: passed ++ seen) :=
      List.perm_middle
    have hrest := ih (List.nodup_cons.mpr ⟨hmem, hs⟩)
    generalize g.followFrom (id :: seen) target = result at hrest
    cases hrest with
    | schema h hr => exact .schema (.next hl h) hr
    | @loop passed _ _ h hr hloop hnodup =>
      refine .loop (.next hl h) hr ?_ ((hmoved passed).nodup_iff.mp hnodup)
      exact List.mem_append.mp ((hmoved passed).mem_iff.mp (List.mem_append.mpr hloop))
    | nowhere h hr he => exact .nowhere (.next hl h) hr he
  | case4 seen id r hr _ e hn => exact .nowhere .here hr hn

theorem outcome_follow (g : Graph) (id : NodeId) : g.Outcome [] id (g.follow id) :=
  outcome_followFrom g [] id List.nodup_nil

section
variable {g : Graph} {id last : NodeId} {passed : List NodeId}

theorem follow_of_error {r : Reference} {e : Error} (hr : (g.node id).reference = some r)
    (he : g.resolve r = .error e) : g.follow id = .error e := by
  rw [follow, followFrom]
  split
  · next hn => cases hn.symm.trans hr
  · next r' hr' =>
    cases hr.symm.trans hr'
    rw [dif_neg List.not_mem_nil, he]

/-- Where a chain ends, all its nodes have the result of the last. -/
theorem follow_of_end (h : g.Chain id passed last) (hn : ∀ target, ¬ g.Link last target) :
    g.follow id = g.follow last := by
  have hend {passed' last'} (h' : g.Chain id passed' last') (hn' : ∀ target, ¬ g.Link last' target) :
      last' = last := by
    obtain ⟨more, -, hmore⟩ := h'.extends_to_end h hn
    exact (hmore.stays hn').2.symm
  have hresult := outcome_follow g id
  generalize g.follow id = result at hresult
  cases hresult with
  | schema h' hr =>
    cases hend h' fun _ => not_link_of_none hr
    exact (follow_self hr).symm
  | loop h' _ hloop _ =>
    obtain ⟨target, hl⟩ := goes_on_of_loop h' (hloop.resolve_right List.not_mem_nil) h
    exact absurd hl (hn target)
  | nowhere h' hr he =>
    cases hend h' fun _ => not_link_of_error hr he
    exact (follow_of_error hr he).symm

theorem follow_of_loop {r : Reference} (h : g.Chain id passed last) (hloop : last ∈ passed)
    (hnodup : passed.Nodup) (hr : (g.node last).reference = some r) :
    g.follow id = .error (.unresolvedReference r.text .loop) := by
  have hresult := outcome_follow g id
  generalize g.follow id = result at hresult
  cases hresult with
  | schema h' hr' =>
    obtain ⟨target, hl⟩ := goes_on_of_loop h hloop h'
    exact absurd hl (not_link_of_none hr')
  | loop h' hr' hloop' hnodup' =>
    rw [List.append_nil] at hnodup'
    cases h.loop_unique hloop hnodup h' (hloop'.resolve_right List.not_mem_nil) hnodup'
    cases hr.symm.trans hr'
    rfl
  | nowhere h' hr' he =>
    obtain ⟨target, hl⟩ := goes_on_of_loop h hloop h'
    exact absurd hl (not_link_of_error hr' he)

end

/-- A single reference does not loop. -/
theorem resolve_ne_loop (g : Graph) (r : Reference) (text : String) :
    g.resolve r ≠ .error (.unresolvedReference text .loop) := by
  intro h
  unfold resolve at h
  split at h
  · cases h
  · split at h
    · cases h
    · split at h
      · split at h
        · cases h
        · cases h
      · cases h

/-! ## how many references are followed -/

/-- Each step sees a node that was not seen, so it is enough to have more steps than unseen nodes.
-/
theorem followWithin_eq (g : Graph) (steps : Nat) (seen : List NodeId) (id : NodeId)
    (hsteps : unseen (List.range g.size) seen < steps) :
    g.followWithin steps seen id = lift (g.followFrom seen id) := by
  induction steps generalizing seen id with
  | zero => exact absurd hsteps (Nat.not_lt_zero _)
  | succ steps ih =>
    rw [followWithin, followFrom]
    cases hr : (g.node id).reference with
    | none =>
      dsimp only
      rfl
    | some r =>
      dsimp only
      by_cases hmem : id ∈ seen
      · rw [if_pos hmem, dif_pos hmem]
      · rw [if_neg hmem, dif_neg hmem]
        cases hn : g.resolve r with
        | error e => rfl
        | ok target =>
          refine ih (id :: seen) target ?_
          have := unseen_cons_lt (List.mem_range.mpr (lt_size_of_reference hr)) hmem
          omega

/-! ## the results -/

section
variable {g : Graph} {id : NodeId}

theorem follow_ok_iff {n : NodeId} : g.follow id = .ok n ↔
    (∃ passed, g.Chain id passed n) ∧ (g.node n).reference = none := by
  constructor
  · intro h
    have hresult := outcome_follow g id
    rw [h] at hresult
    cases hresult with
    | schema h hr => exact ⟨⟨_, h⟩, hr⟩
  · rintro ⟨⟨passed, h⟩, hr⟩
    rw [follow_of_end h fun _ => not_link_of_none hr, follow_self hr]

theorem follow_error_iff {e : Error} : g.follow id = .error e ↔
    (∃ passed a r, g.Chain id passed a ∧ passed.Nodup ∧ a ∈ passed ∧
      (g.node a).reference = some r ∧ e = .unresolvedReference r.text .loop) ∨
    ∃ passed a r, g.Chain id passed a ∧ (g.node a).reference = some r ∧
      g.resolve r = .error e := by
  constructor
  · intro h
    have hresult := outcome_follow g id
    rw [h] at hresult
    cases hresult with
    | loop hc hr hloop hnodup =>
      rw [List.append_nil] at hnodup
      exact .inl ⟨_, _, _, hc, hnodup, hloop.resolve_right List.not_mem_nil, hr, rfl⟩
    | nowhere hc hr he => exact .inr ⟨_, _, _, hc, hr, he⟩
  · rintro (⟨passed, a, r, h, hnodup, hloop, hr, rfl⟩ | ⟨passed, a, r, h, hr, he⟩)
    · exact follow_of_loop h hloop hnodup hr
    · rw [follow_of_end h fun _ => not_link_of_error hr he, follow_of_error hr he]

/-- References loop if and only if each of them leads somewhere and a node is met again. -/
theorem follow_loops_iff : (∃ text, g.follow id = .error (.unresolvedReference text .loop)) ↔
    (∀ passed a r, g.Chain id passed a → (g.node a).reference = some r →
      ∃ b, g.resolve r = .ok b) ∧
    ∃ passed a, g.Chain id passed a ∧ a ∈ passed := by
  constructor
  · rintro ⟨text, h⟩
    rcases follow_error_iff.mp h with ⟨passed, a, r, h, -, hloop, -, -⟩ | ⟨_, _, r, -, -, he⟩
    · refine ⟨fun passed' a' r' h' hr' => ?_, passed, a, h, hloop⟩
      obtain ⟨b, r, hr, hb⟩ := goes_on_of_loop h hloop h'
      cases hr.symm.trans hr'
      exact ⟨b, hb⟩
    · exact absurd he (resolve_ne_loop g r text)
  · rintro ⟨hlinks, passed, a, h, hloop⟩
    cases hresult : g.follow id with
    | ok n =>
      obtain ⟨⟨passed', h'⟩, hr⟩ := follow_ok_iff.mp hresult
      obtain ⟨b, hl⟩ := goes_on_of_loop h hloop h'
      exact absurd hl (not_link_of_none hr)
    | error e =>
      rcases follow_error_iff.mp hresult with ⟨_, _, r, -, -, -, -, rfl⟩ | ⟨_, _, r, h', hr, he⟩
      · exact ⟨r.text, rfl⟩
      · obtain ⟨b, hb⟩ := hlinks _ _ r h' hr
        cases he.symm.trans hb

end

/-- Following the references from a node ends after no more of them than the graph has nodes, and
one. It gives the schema at the end of their chain, which is no reference and stands for itself. If
all of them lead somewhere and the chain comes back to a node, they loop, and the first of them that
is met again is reported. Otherwise it gives the error of the one that leads nowhere, behind which
there are no others. -/
theorem follow_by_chain (g : Graph) (id : NodeId) :
    g.followWithin (g.size + 1) [] id = lift (g.follow id) ∧
    (∀ n, g.follow id = .ok n ↔
      (∃ passed, g.Chain id passed n) ∧ (g.node n).reference = none) ∧
    (∀ n, g.follow id = .ok n → g.follow n = .ok n) ∧
    ((∃ text, g.follow id = .error (.unresolvedReference text .loop)) ↔
      (∀ passed a r, g.Chain id passed a → (g.node a).reference = some r →
        ∃ b, g.resolve r = .ok b) ∧
      ∃ passed a, g.Chain id passed a ∧ a ∈ passed) ∧
    (∀ e, g.follow id = .error e ↔
      (∃ passed a r, g.Chain id passed a ∧ passed.Nodup ∧ a ∈ passed ∧
        (g.node a).reference = some r ∧ e = .unresolvedReference r.text .loop) ∨
      ∃ passed a r, g.Chain id passed a ∧ (g.node a).reference = some r ∧
        g.resolve r = .error e) := by
  refine ⟨?_, fun _ => follow_ok_iff, fun n h => follow_self (reference_of_follow h),
    follow_loops_iff, fun _ => follow_error_iff⟩
  have hunseen : unseen (List.range g.size) [] ≤ (List.range g.size).length :=
    List.countP_le_length
  rw [List.length_range] at hunseen
  exact followWithin_eq g (g.size + 1) [] id (Nat.lt_succ_of_le hunseen)

/-- Definitions of which `a` leads to a schema over `b`, and `d` to `e` and `f`, which lead to each
other; `g` leads nowhere. -/
def chainGraph : Graph := ⟨#[
  { reference := some (.fragment "#/definitions/b"), pointer := ["definitions", "a"] },
  { reference := some (.fragment "#/definitions/c"), pointer := ["definitions", "b"] },
  { type := some .boolean, pointer := ["definitions", "c"] },
  { reference := some (.fragment "#/definitions/e"), pointer := ["definitions", "d"] },
  { reference := some (.fragment "#/definitions/f"), pointer := ["definitions", "e"] },
  { reference := some (.fragment "#/definitions/e"), pointer := ["definitions", "f"] },
  { reference := some (.fragment "#/definitions/h"), pointer := ["definitions", "g"] },
  { type := some .object,
    definitions := [("a", 0), ("b", 1), ("c", 2), ("d", 3), ("e", 4), ("f", 5), ("g", 6)] }]⟩

/-- The three results: the schema at the end, the first reference that is met again, and the one
that leads nowhere. -/
theorem follow_in_chainGraph :
    chainGraph.followWithin 9 [] 0 = lift (chainGraph.follow 0) ∧
    chainGraph.Chain 0 [0, 1] 2 ∧ (chainGraph.node 2).reference = none ∧
    chainGraph.follow 0 = .ok 2 ∧ chainGraph.follow 2 = .ok 2 ∧
    chainGraph.Chain 3 [3, 4, 5] 4 ∧
    chainGraph.follow 3 = .error (.unresolvedReference "#/definitions/f" .loop) ∧
    (∀ passed a r, chainGraph.Chain 3 passed a → (chainGraph.node a).reference = some r →
      ∃ b, chainGraph.resolve r = .ok b) ∧
    chainGraph.follow 6 = .error (.unresolvedReference "#/definitions/h" .noSuchDefinition) := by
  have hlink {a b : NodeId} (r : Reference) (hr : (chainGraph.node a).reference = some r)
      (hb : chainGraph.resolve r = .ok b) : chainGraph.Link a b := ⟨r, hr, hb⟩
  have hb : chainGraph.resolve (.fragment "#/definitions/b") = .ok 1 :=
    resolve_fragment (p := ["definitions", "b"]) (by decide) (by decide)
  have hc : chainGraph.resolve (.fragment "#/definitions/c") = .ok 2 :=
    resolve_fragment (p := ["definitions", "c"]) (by decide) (by decide)
  have he : chainGraph.resolve (.fragment "#/definitions/e") = .ok 4 :=
    resolve_fragment (p := ["definitions", "e"]) (by decide) (by decide)
  have hf : chainGraph.resolve (.fragment "#/definitions/f") = .ok 5 :=
    resolve_fragment (p := ["definitions", "f"]) (by decide) (by decide)
  have hlost : chainGraph.resolve (.fragment "#/definitions/h") =
      .error (.unresolvedReference "#/definitions/h" .noSuchDefinition) :=
    resolve_fragment (p := ["definitions", "h"]) (by decide) (by decide)
  have hend : chainGraph.Chain 0 [0, 1] 2 :=
    .next (hlink _ rfl hb) (.next (hlink _ rfl hc) .here)
  have hround : chainGraph.Chain 3 [3, 4, 5] 4 :=
    .next (hlink _ rfl he) (.next (hlink _ rfl hf) (.next (hlink _ rfl he) .here))
  obtain ⟨hwithin, hok, hself, -, -⟩ := follow_by_chain chainGraph 0
  obtain ⟨-, -, -, hloops, hmet⟩ := follow_by_chain chainGraph 3
  obtain ⟨-, -, -, -, herror⟩ := follow_by_chain chainGraph 6
  have hschema := (hok 2).mpr ⟨⟨_, hend⟩, rfl⟩
  have hloop := (hmet (.unresolvedReference "#/definitions/f" .loop)).mpr
    (.inl ⟨_, _, _, hround, by decide, by decide, rfl, rfl⟩)
  exact ⟨hwithin, hend, rfl, hschema, hself 2 hschema, hround, hloop, (hloops.mp ⟨_, hloop⟩).1,
    (herror _).mpr (.inr ⟨_, _, _, .here, rfl, hlost⟩)⟩

end Graph

end SchemaModel

import Mathlib.Data.List.Nodup
import Mathlib.Data.Set.Insert
import Mathlib.Logic.Relation
import SchemaModel.Source.File

/-!
# Structs that would hold themselves

A class holds another one if the type of a field is directly this class; a sequence in between does
not count. A field is written with a box exactly where the class in it leads back to its owner, so
the fields written without one lead from no class back to itself.

* `reaches_of_leadsFrom`     what the search finds is reachable;
* `closed_of_leadsFrom`      what it does not find lies outside a set that no step leaves;
* `leadsTo_iff`              so the search decides reachability;
* `boxed_iff_leads_back`     the boxes stand where they are needed, and they suffice.
-/

namespace SchemaModel

theorem ClassModel.mem_held {c : ClassModel} {name : String} :
    name ∈ c.held ↔ ∃ p ∈ c.properties, p.type = .classNamed name := by
  rw [held, List.mem_filterMap]
  constructor
  · rintro ⟨p, hp, ht⟩
    refine ⟨p, hp, ?_⟩
    split at ht
    · next hclass =>
      cases ht
      exact hclass
    · cases ht
  · rintro ⟨p, hp, ht⟩
    exact ⟨p, hp, by rw [ht]⟩

namespace ModelSet

/-- A field of the class `owner` is directly a class `target`. -/
def Holds (models : ModelSet) (owner target : String) : Prop :=
  ∃ c ∈ models.classes, c.name = owner ∧ ∃ p ∈ c.properties, p.type = .classNamed target

variable {models : ModelSet} {target : String}

/-! ## the search -/

theorem getClass?_eq_some_iff (h : models.classNames.Nodup) {name : String} {c : ClassModel} :
    models.getClass? name = some c ↔ c ∈ models.classes ∧ c.name = name := by
  constructor
  · intro hc
    exact ⟨List.mem_of_find?_eq_some hc, by simpa using List.find?_some hc⟩
  · rintro ⟨hc, rfl⟩
    obtain ⟨first, hfirst⟩ : ∃ first, models.getClass? c.name = some first := by
      rw [getClass?, ← Option.isSome_iff_exists, List.find?_isSome]
      exact ⟨c, hc, by simp⟩
    have hname : first.name = c.name := by simpa using List.find?_some hfirst
    have he : first = c :=
      List.inj_on_of_nodup_map h (List.mem_of_find?_eq_some hfirst) hc hname
    rw [hfirst, he]

/-- What the search finds is reachable from one of the classes that wait. -/
theorem reaches_of_leadsFrom {seen waiting : List String}
    (h : models.leadsFrom target seen waiting = true) :
    ∃ name ∈ waiting, Relation.ReflTransGen models.Holds name target := by
  fun_induction leadsFrom models target seen waiting with
  | case1 => cases h
  | case2 => exact ⟨_, List.mem_cons_self, .refl⟩
  | case3 _ _ _ _ _ ih | case4 _ _ _ _ _ _ _ ih =>
    obtain ⟨name, hm, hpath⟩ := ih h
    exact ⟨name, List.mem_cons_of_mem _ hm, hpath⟩
  | case5 seen name waiting _ c hc _ ih =>
    obtain ⟨next, hm, hpath⟩ := ih h
    rcases List.mem_append.mp hm with hheld | hwaits
    · have hname : c.name = name := by simpa using List.find?_some hc
      have hstep : models.Holds name next :=
        ⟨c, List.mem_of_find?_eq_some hc, hname, ClassModel.mem_held.mp hheld⟩
      exact ⟨name, List.mem_cons_self, .head hstep hpath⟩
    · exact ⟨next, List.mem_cons_of_mem _ hwaits, hpath⟩

/-- The names `past` were taken from the list without meeting the target, and a step from one of
them leads to another one or to a name that waits. -/
structure Searched (models : ModelSet) (target : String) (past : Set String)
    (waiting : List String) : Prop where
  target : target ∉ past
  step : ∀ a ∈ past, ∀ b, models.Holds a b → b ∈ past ∨ b ∈ waiting

/-- A name is taken from the list, and what it holds is put there. -/
theorem Searched.take {past : Set String} {name : String} {next waiting : List String}
    (h : Searched models target past (name :: waiting)) (hne : name ≠ target)
    (hnext : ∀ b, models.Holds name b → b ∈ insert name past ∨ b ∈ next ++ waiting) :
    Searched models target (insert name past) (next ++ waiting) where
  target hm := hm.elim (fun e => hne e.symm) h.target
  step a ha b hab := by
    rcases ha with rfl | ha
    · exact hnext b hab
    · rcases h.step a ha b hab with hb | hb
      · exact .inl (.inr hb)
      · rcases List.mem_cons.mp hb with rfl | hb
        · exact .inl (.inl rfl)
        · exact .inr (List.mem_append_right _ hb)

theorem Searched.not_reaches {past : Set String} (h : Searched models target past []) {a : String}
    (ha : a ∈ past) : ¬ Relation.ReflTransGen models.Holds a target := by
  intro hpath
  have hstays : ∀ b, Relation.ReflTransGen models.Holds a b → b ∈ past := by
    intro b hb
    induction hb with
    | refl => exact ha
    | tail _ hstep ih => exact (h.step _ ih _ hstep).resolve_right List.not_mem_nil
  exact h.target (hstays target hpath)

/-- A closed set with the name that was taken from the list, and with all that waits now. -/
theorem Searched.closed_cons {past : Set String} {name : String} {waiting waiting' : List String}
    (hw : waiting ⊆ waiting') (h : ∃ closed, Searched models target closed [] ∧
      insert name past ⊆ closed ∧ ∀ a ∈ waiting', a ∈ closed) :
    ∃ closed, Searched models target closed [] ∧ past ⊆ closed ∧
      ∀ a ∈ name :: waiting, a ∈ closed := by
  obtain ⟨closed, hclosed, hsub, hwait⟩ := h
  exact ⟨closed, hclosed, fun a ha => hsub (.inr ha),
    List.forall_mem_cons.mpr ⟨hsub (.inl rfl), fun a ha => hwait a (hw ha)⟩⟩

/-- A search that fails ends with a set that no step leaves. -/
theorem closed_of_leadsFrom (hnames : models.classNames.Nodup) {seen waiting : List String}
    (h : models.leadsFrom target seen waiting = false) {past : Set String}
    (hseen : ∀ a ∈ seen, a ∈ past) (hpast : Searched models target past waiting) :
    ∃ closed, Searched models target closed [] ∧ past ⊆ closed ∧ ∀ a ∈ waiting, a ∈ closed := by
  fun_induction leadsFrom models target seen waiting generalizing past with
  | case1 seen => exact ⟨past, hpast, subset_rfl, nofun⟩
  | case2 => cases h
  | case3 seen name waiting hne hnone ih =>
    -- `name` is no class, so no step starts there
    have hlast : ∀ b, ¬ models.Holds name b := by
      rintro b ⟨c, hc, hname, -⟩
      rw [(getClass?_eq_some_iff hnames).mpr ⟨hc, hname⟩] at hnone
      cases hnone
    have htaken : Searched models target (insert name past) ([] ++ waiting) :=
      hpast.take hne fun b hb => absurd hb (hlast b)
    exact Searched.closed_cons (List.Subset.refl _) (ih h (fun a ha => .inr (hseen a ha)) htaken)
  | case4 seen name waiting hne _ _ hs ih =>
    -- `name` is among `past`, with all that it holds
    have htaken : Searched models target (insert name past) ([] ++ waiting) :=
      hpast.take hne fun b hb => by
        rcases hpast.step name (hseen name hs) b hb with hb | hb
        · exact .inl (.inr hb)
        · exact (List.mem_cons.mp hb).imp .inl id
    exact Searched.closed_cons (List.Subset.refl _) (ih h (fun a ha => .inr (hseen a ha)) htaken)
  | case5 seen name waiting hne c hc _ ih =>
    have htaken : Searched models target (insert name past) (c.held ++ waiting) :=
      hpast.take hne fun b hb => by
        obtain ⟨c', hc', hname', hheld⟩ := hb
        rw [(getClass?_eq_some_iff hnames).mpr ⟨hc', hname'⟩] at hc
        cases hc
        exact .inr (List.mem_append_left _ (ClassModel.mem_held.mpr hheld))
    exact Searched.closed_cons (List.subset_append_right _ _)
      (ih h (List.forall_mem_cons.mpr ⟨.inl rfl, fun a ha => .inr (hseen a ha)⟩) htaken)

/-- The search decides whether a class leads to another one. -/
theorem leadsTo_iff (hnames : models.classNames.Nodup) {source : String} :
    models.leadsTo source target = true ↔ Relation.ReflTransGen models.Holds source target := by
  constructor
  · intro h
    obtain ⟨name, hm, hpath⟩ := reaches_of_leadsFrom h
    rw [List.mem_singleton.mp hm] at hpath
    exact hpath
  · intro hpath
    by_contra h
    have hstart : Searched models target ∅ [source] := ⟨nofun, nofun⟩
    obtain ⟨closed, hclosed, -, hwait⟩ :=
      closed_of_leadsFrom hnames (Bool.eq_false_iff.mpr h) nofun hstart
    exact hclosed.not_reaches (hwait source List.mem_cons_self) hpath

end ModelSet

/-! ## the fields -/

namespace Source

/-- the line that declares the field of a property, with a type as it is written -/
def declaration (p : Property) (type : String) : String :=
  if p.required then "    pub " ++ Naming.fieldName p.name ++ ": " ++ type ++ ","
  else "    pub " ++ Naming.fieldName p.name ++ ": Option<" ++ type ++ ">,"

/-- The last line of a field declares it. -/
theorem getLast?_fieldLines (models : ModelSet) (owner : String) (p : Property) :
    (fieldLines models owner p).getLast? =
      some (declaration p (fieldTypeText models owner p.type)) := by
  unfold fieldLines declaration
  cases p.required with
  | true => exact List.getLast?_concat
  | false =>
    rw [List.getLast?_append]
    rfl

theorem declaration_inj {p : Property} {type type' : String} :
    declaration p type = declaration p type' ↔ type = type' := by
  unfold declaration
  split <;> simp

theorem box_ne (name : String) : "Box<" ++ name ++ ">" ≠ name := by
  intro h
  have hl := congrArg String.length h
  rw [String.length_append, String.length_append] at hl
  have hb : "Box<".length = 4 := rfl
  omega

/-- A class is written in a box if and only if it leads back to the owner of the field. -/
theorem boxed_iff_leadsTo (models : ModelSet) (owner : String) {p : Property} {target : String}
    (ht : p.type = .classNamed target) :
    (fieldLines models owner p).getLast? = some (declaration p ("Box<" ++ target ++ ">")) ↔
      models.leadsTo target owner = true := by
  rw [getLast?_fieldLines, Option.some.injEq, declaration_inj, ht]
  show (if models.leadsTo target owner then _ else target) = _ ↔ _
  split
  · next h => exact iff_of_true rfl h
  · next h => exact iff_of_false (box_ne target).symm h

/-- Otherwise it is written without one. -/
theorem unboxed_iff_not_leadsTo (models : ModelSet) (owner : String) {p : Property}
    {target : String} (ht : p.type = .classNamed target) :
    (fieldLines models owner p).getLast? = some (declaration p target) ↔
      ¬ models.leadsTo target owner = true := by
  rw [getLast?_fieldLines, Option.some.injEq, declaration_inj, ht]
  show (if models.leadsTo target owner then _ else target) = _ ↔ _
  split
  · next h => exact iff_of_false (box_ne target) (not_not.mpr h)
  · next h => exact iff_of_true rfl h

end Source

namespace ModelSet

/-- A field of the class `owner` is directly a class `target` and is written without a box. -/
def HoldsUnboxed (models : ModelSet) (owner target : String) : Prop :=
  ∃ c ∈ models.classes, c.name = owner ∧ ∃ p ∈ c.properties, p.type = .classNamed target ∧
    (Source.fieldLines models owner p).getLast? = some (Source.declaration p target)

theorem HoldsUnboxed.holds {models : ModelSet} {owner target : String}
    (h : models.HoldsUnboxed owner target) : models.Holds owner target := by
  obtain ⟨c, hc, hname, p, hp, ht, -⟩ := h
  exact ⟨c, hc, hname, p, hp, ht⟩

/-- What is written without a box does not lead back. -/
theorem HoldsUnboxed.not_reaches {models : ModelSet} (hnames : models.classNames.Nodup)
    {owner target : String} (h : models.HoldsUnboxed owner target) :
    ¬ Relation.ReflTransGen models.Holds target owner := by
  obtain ⟨c, -, -, p, -, ht, hline⟩ := h
  rw [← leadsTo_iff hnames]
  exact (Source.unboxed_iff_not_leadsTo models owner ht).mp hline

/-- A field whose type is directly a class is declared with a box if and only if this class leads
back to the owner of the field by such fields. So the fields declared without a box form no cycle:
no struct holds itself by value. -/
theorem boxed_iff_leads_back {models : ModelSet} (h : models.classNames.Nodup) :
    (∀ c ∈ models.classes, ∀ p ∈ c.properties, ∀ target, p.type = .classNamed target →
      ((Source.fieldLines models c.name p).getLast? =
          some (Source.declaration p ("Box<" ++ target ++ ">")) ↔
        Relation.ReflTransGen models.Holds target c.name)) ∧
      ∀ name, ¬ Relation.TransGen models.HoldsUnboxed name name := by
  constructor
  · intro c _ p _ target ht
    rw [Source.boxed_iff_leadsTo models c.name ht, leadsTo_iff h]
  · intro name hcycle
    obtain ⟨next, hstep, hback⟩ := Relation.TransGen.head'_iff.mp hcycle
    have hpath : Relation.ReflTransGen models.Holds next name :=
      hback.lift id fun _ _ hheld => hheld.holds
    exact hstep.not_reaches h hpath

/-! ## an example -/

def ringLeft : ClassModel where
  namespaceName := "N"
  name := "Left"
  description := none
  properties := [⟨"Right", "right", .classNamed "Right", false, none⟩,
    ⟨"Leaf", "leaf", .classNamed "Leaf", true, none⟩]
  overrides := false

def ringRight : ClassModel where
  namespaceName := "N"
  name := "Right"
  description := none
  properties := [⟨"Left", "left", .classNamed "Left", false, none⟩,
    ⟨"Leaf", "leaf", .classNamed "Leaf", true, none⟩,
    ⟨"All", "all", .sequence (.classNamed "Right"), true, none⟩]
  overrides := false

/-- Two classes that hold each other, and one that both hold. -/
def ringModels : ModelSet :=
  [.ofClass ⟨"N", "Leaf", none, [], false⟩, .ofClass ringLeft, .ofClass ringRight]

/-- The class on the right leads back to the one on the left, so it is boxed there. -/
theorem boxed_in_ring : ringModels.classNames.Nodup ∧
    (∃ p ∈ ringLeft.properties, p.type = .classNamed "Right" ∧
      (Source.fieldLines ringModels "Left" p).getLast? =
        some (Source.declaration p ("Box<" ++ "Right" ++ ">"))) ∧
    ¬ Relation.TransGen ringModels.HoldsUnboxed "Left" "Left" := by
  have hnames : ringModels.classNames.Nodup := by decide
  have hback : ringModels.Holds "Right" "Left" :=
    ⟨ringRight, by decide, rfl, _, List.mem_cons_self, rfl⟩
  have hall := boxed_iff_leads_back hnames
  exact ⟨hnames, ⟨_, List.mem_cons_self, rfl, (hall.1 ringLeft (by decide) _ List.mem_cons_self
    "Right" rfl).mpr (.single hback)⟩, hall.2 "Left"⟩

end ModelSet

end SchemaModel

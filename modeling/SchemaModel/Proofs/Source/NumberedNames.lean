import Mathlib
import SchemaModel.Proofs.Source.Fields

/-!
# Names that are numbered

Of the names of a list, those that occur once stay as they are, and the occurrences of the others
are numbered. The occurrences of one name become distinct names. But a repeated name with its number
can be another name of the list, with its own number or without one: nothing looks at the names that
stay as they are, nor at those that another name becomes. Then two properties of a class, or two
members of an enumeration, have one name.

* `mem_occurrences`       every occurrence of a name has an ordinal of its own;
* `numbered_eq`           a list of names becomes the labels of its occurrences;
* `nodup_numbered_iff`    they are distinct if and only if no two names clash;
* `not_clash_of_digits`   names clash only if one is another one with digits behind it;
* `numbered_names`        what becomes of a list of names, and so of properties and members.
-/

namespace SchemaModel

namespace Naming

/-- the names of a list, each with the number of its occurrences in `before` and in front of it -/
def occurrencesFrom (before : List String) : List String → List (String × Nat)
  | [] => []
  | name :: rest => (name, before.count name) :: occurrencesFrom (name :: before) rest

/-- what an occurrence of a name becomes in the list `names` -/
def label (names : List String) (occurrence : String × Nat) : String :=
  if 1 < names.count occurrence.1 then occurrence.1 ++ toString (occurrence.2 + 1)
  else occurrence.1

/-- One of the occurrences of a repeated name becomes what one of another name becomes. -/
def Clash (names : List String) : Prop :=
  ∃ a ∈ names, ∃ b ∈ names, a ≠ b ∧ 1 < names.count a ∧ ∃ k < names.count a, ∃ l < names.count b,
    a ++ toString (k + 1) = if 1 < names.count b then b ++ toString (l + 1) else b

instance (names : List String) : Decidable (Clash names) :=
  inferInstanceAs (Decidable (∃ a ∈ names, ∃ b ∈ names, a ≠ b ∧ 1 < names.count a ∧
    ∃ k < names.count a, ∃ l < names.count b,
      a ++ toString (k + 1) = if 1 < names.count b then b ++ toString (l + 1) else b))

/-! ## occurrences -/

theorem mem_occurrencesFrom {before names : List String} {name : String} {k : Nat} :
    (name, k) ∈ occurrencesFrom before names ↔
      before.count name ≤ k ∧ k < before.count name + names.count name := by
  induction names generalizing before with
  | nil => simp [occurrencesFrom]
  | cons first rest ih =>
    rw [occurrencesFrom, List.mem_cons, ih, Prod.mk.injEq, List.count_cons, List.count_cons]
    by_cases h : first = name
    · subst h
      simp only [true_and, beq_self_eq_true, if_true]
      omega
    · have hne : ¬ name = first := fun he => h he.symm
      simp only [hne, false_and, false_or, beq_iff_eq, h, if_false]
      omega

theorem mem_occurrences {names : List String} {name : String} {k : Nat} :
    (name, k) ∈ occurrencesFrom [] names ↔ k < names.count name := by
  rw [mem_occurrencesFrom]
  simp

theorem nodup_occurrencesFrom (before names : List String) :
    (occurrencesFrom before names).Nodup := by
  induction names generalizing before with
  | nil => exact List.nodup_nil
  | cons first rest ih =>
    refine List.nodup_cons.mpr ⟨fun hm => ?_, ih (first :: before)⟩
    -- the occurrences behind the first one of a name have higher ordinals
    have hle := (mem_occurrencesFrom.mp hm).1
    rw [List.count_cons_self] at hle
    omega

theorem getElem?_occurrencesFrom (before names : List String) (i : Nat) :
    (occurrencesFrom before names)[i]? =
      names[i]?.map fun name => (name, before.count name + (names.take i).count name) := by
  induction names generalizing before i with
  | nil => rfl
  | cons first rest ih =>
    cases i with
    | zero => simp [occurrencesFrom]
    | succ i =>
      rw [occurrencesFrom, List.getElem?_cons_succ, List.getElem?_cons_succ, ih]
      congr 1
      funext name
      rw [List.take_succ_cons, List.count_cons, List.count_cons, Nat.add_right_comm,
        Nat.add_assoc]

theorem numberedFrom_eq (all before names : List String) :
    numberedFrom all before names = (occurrencesFrom before names).map (label all) := by
  induction names generalizing before with
  | nil => rfl
  | cons first rest ih =>
    rw [numberedFrom, ih]
    rfl

/-- A list of names becomes the labels of its occurrences. -/
theorem numbered_eq (names : List String) :
    numbered names = (occurrencesFrom [] names).map (label names) :=
  numberedFrom_eq names [] names

theorem getElem?_numbered {names : List String} {i : Nat} {name : String}
    (h : names[i]? = some name) :
    (numbered names)[i]? = some (if names.count name = 1 then name
      else name ++ toString ((names.take i).count name + 1)) := by
  have hpos : 0 < names.count name := List.count_pos_iff.mpr (List.mem_of_getElem? h)
  rw [numbered_eq, List.getElem?_map, getElem?_occurrencesFrom, h, Option.map_some,
    Option.map_some, List.count_nil, Nat.zero_add, label]
  dsimp only
  by_cases hone : names.count name = 1
  · rw [if_neg (by omega), if_pos hone]
  · rw [if_pos (by omega), if_neg hone]

/-! ## labels that are distinct -/

theorem append_toString_inj {name : String} {k l : Nat} :
    name ++ toString k = name ++ toString l ↔ k = l := by
  rw [String.append_right_inj]
  exact Nat.repr_inj

theorem clash_of_label {names : List String} {a b : String} {k l : Nat} (hne : a ≠ b)
    (ha : 1 < names.count a) (hk : k < names.count a) (hl : l < names.count b)
    (h : label names (a, k) = label names (b, l)) : Clash names := by
  rw [label, if_pos ha] at h
  exact ⟨a, List.count_pos_iff.mp (by omega), b, List.count_pos_iff.mp (by omega), hne, ha, k, hk,
    l, hl, h⟩

/-- The names that a list becomes are distinct if and only if no two names clash. -/
theorem nodup_numbered_iff (names : List String) : (numbered names).Nodup ↔ ¬ Clash names := by
  rw [numbered_eq, List.nodup_map_iff_inj_on (nodup_occurrencesFrom [] names)]
  constructor
  · rintro hinj ⟨a, -, b, -, hne, ha, k, hk, l, hl, h⟩
    have hlabel : label names (a, k) = label names (b, l) := by
      rw [label, if_pos ha]
      exact h
    exact hne (congrArg Prod.fst
      (hinj _ (mem_occurrences.mpr hk) _ (mem_occurrences.mpr hl) hlabel))
  · rintro hclash ⟨a, k⟩ hk ⟨b, l⟩ hl h
    rw [mem_occurrences] at hk hl
    by_cases hne : a = b
    · subst hne
      by_cases ha : 1 < names.count a
      · rw [label, label, if_pos ha, if_pos ha] at h
        cases Nat.add_right_cancel (append_toString_inj.mp h)
        rfl
      · obtain rfl : k = l := by omega
        rfl
    · by_cases ha : 1 < names.count a
      · exact absurd (clash_of_label hne ha hk hl h) hclash
      · by_cases hb : 1 < names.count b
        · exact absurd (clash_of_label (Ne.symm hne) hb hl hk h.symm) hclash
        · rw [label, label, if_neg ha, if_neg hb] at h
          exact absurd h hne

/-- If a text is two names with digits behind them, then one of the names is the other one with
digits behind it. -/
theorem digits_between {a b : String} {s t : List Char} (hne : a ≠ b)
    (h : a.toList ++ s = b.toList ++ t) (hs : ∀ c ∈ s, c.isDigit = true)
    (ht : ∀ c ∈ t, c.isDigit = true) :
    ∃ digits, digits ≠ [] ∧ (∀ c ∈ digits, c.isDigit = true) ∧
      (b = a ++ String.ofList digits ∨ a = b ++ String.ofList digits) := by
  have hlonger {a b : String} {more : List Char} (h : b.toList = a.toList ++ more) :
      b = a ++ String.ofList more := by
    rw [← String.toList_inj, String.toList_append, String.toList_ofList, h]
  have hmore {a b : String} {more : List Char} (hne : a ≠ b) (h : b = a ++ String.ofList more) :
      more ≠ [] := by
    rintro rfl
    exact hne (by rw [h]; simp)
  rcases List.append_eq_append_iff.mp h with ⟨more, hb, rfl⟩ | ⟨more, ha, rfl⟩
  · exact ⟨more, hmore hne (hlonger hb), fun c hc => hs c (List.mem_append_left _ hc),
      .inl (hlonger hb)⟩
  · exact ⟨more, hmore (Ne.symm hne) (hlonger ha), fun c hc => ht c (List.mem_append_left _ hc),
      .inr (hlonger ha)⟩

theorem isDigit_of_mem_toString {n : Nat} {c : Char} (hc : c ∈ (toString n).toList) :
    c.isDigit = true :=
  Nat.isDigit_of_mem_toDigits (by decide) (by decide) (Nat.toList_repr ▸ hc)

/-- Names clash only if one of them is another, repeated one with digits behind it. -/
theorem not_clash_of_digits {names : List String}
    (h : ∀ a, 1 < names.count a → ∀ digits, digits ≠ [] → (∀ c ∈ digits, c.isDigit = true) →
      a ++ String.ofList digits ∉ names) : ¬ Clash names := by
  rintro ⟨a, hma, b, hmb, hne, ha, k, -, l, -, hlabel⟩
  split at hlabel
  · next hb =>
    have hlist := congrArg String.toList hlabel
    rw [String.toList_append, String.toList_append] at hlist
    obtain ⟨digits, hnonempty, hdigits, rfl | rfl⟩ := digits_between hne hlist
      (fun _ => isDigit_of_mem_toString) fun _ => isDigit_of_mem_toString
    · exact h a ha digits hnonempty hdigits hmb
    · exact h b hb digits hnonempty hdigits hma
  · refine h a ha (toString (k + 1)).toList (fun hnil => hne ?_)
      (fun _ => isDigit_of_mem_toString) ?_
    · rw [← hlabel, String.toList_eq_nil_iff.mp hnil, String.append_empty]
    · rw [String.ofList_toList, hlabel]
      exact hmb

end Naming

open Naming

/-! ## lists, properties and members -/

/-- A list of names becomes a list of as many. A name that occurs once stays as it is, and the
occurrences of the others are numbered in order. The names are distinct if and only if no two of
them clash, and so whenever none of them is a repeated one with digits behind it. The same holds of
the properties of a class and of the members of an enumeration. -/
theorem numbered_names (names : List String) :
    (numbered names).length = names.length ∧
    (∀ i name, names[i]? = some name → (numbered names)[i]? =
      some (if names.count name = 1 then name
        else name ++ toString ((names.take i).count name + 1))) ∧
    ((numbered names).Nodup ↔ ¬ Clash names) ∧
    ((∀ a, 1 < names.count a → ∀ digits, digits ≠ [] → (∀ c ∈ digits, c.isDigit = true) →
      a ++ String.ofList digits ∉ names) → (numbered names).Nodup) ∧
    (∀ (r : Run) models, r.models = .ok models → ∀ c ∈ models.classes,
      (c.properties.map fun p => propertyName r.hints c.name p.jsonName) = names →
      ((c.properties.map Property.name).Nodup ↔ ¬ Clash names)) ∧
    ∀ (site : EnumSite) hint e, site.apply hint = .ok e →
      (hint.zeroValue.toList ++ hint.members.getD site.values).map memberName = names →
      ((e.members.map EnumMember.name).Nodup ↔ ¬ Clash names) := by
  refine ⟨length_numbered names, fun _ _ => getElem?_numbered, nodup_numbered_iff names,
    fun h => (nodup_numbered_iff names).mpr (not_clash_of_digits h), ?_, ?_⟩
  · intro r models h c hc hgiven
    obtain ⟨m, hm, hclass⟩ := List.mem_filterMap.mp hc
    cases Run.spelled_of_models h hm with
    | ofEnum => cases hclass
    | ofClass _ hnames =>
      cases hclass
      rw [hnames, hgiven]
      exact nodup_numbered_iff names
  · intro site hint e h hgiven
    rw [EnumSite.map_name_of_apply h, hgiven]
    exact nodup_numbered_iff names

def switchSite (values : List String) : EnumSite where
  propertyKey := none
  definition := some "switch"
  pointer := "/definitions/switch"
  description := none
  values := values

/-- Repeated names that do not clash. -/
theorem numbered_switch :
    numbered ["On", "Off", "On"] = ["On1", "Off", "On2"] ∧
    (numbered ["On", "Off", "On"])[1]? = some "Off" ∧
    (numbered ["On", "Off", "On"])[2]? = some "On2" ∧ (numbered ["On", "Off", "On"]).Nodup ∧
    (recordRun ["a_b", "aB"]).models = .ok (recordModels [("AB1", "a_b"), ("AB2", "aB")]) ∧
    (∀ c ∈ (recordModels [("AB1", "a_b"), ("AB2", "aB")]).classes,
      (c.properties.map Property.name).Nodup) ∧
    ∃ e, (switchSite ["on", "On", "off"]).apply { zeroValue := some "none" } = .ok e ∧
      e.members.map EnumMember.name = ["None", "On1", "On2", "Off"] ∧
      (e.members.map EnumMember.name).Nodup := by
  obtain ⟨-, hentries, -, hdistinct, -⟩ := numbered_names ["On", "Off", "On"]
  obtain ⟨-, -, -, -, hclasses, -⟩ := numbered_names ["AB", "AB"]
  obtain ⟨-, -, -, -, -, henums⟩ := numbered_names ["None", "On", "On", "Off"]
  have hplain : ∀ name ∈ ["On", "Off", "On"], ∀ c ∈ name.toList, c.isDigit = false := by simp
  have hnodup := hdistinct fun a _ digits hne hd hm => by
    obtain ⟨c, hc⟩ := List.exists_mem_of_ne_nil digits hne
    have hname : c ∈ (a ++ String.ofList digits).toList := by
      rw [String.toList_append, String.toList_ofList]
      exact List.mem_append_right _ hc
    exact Bool.false_ne_true ((hplain _ hm c hname).symm.trans (hd c hc))
  have hmodels : (recordRun ["a_b", "aB"]).models =
      .ok (recordModels [("AB1", "a_b"), ("AB2", "aB")]) :=
    Run.models_of_within rfl rfl (by with_unfolding_all rfl)
  have hmade : (switchSite ["on", "On", "off"]).apply { zeroValue := some "none" } =
      .ok ⟨"Switch", none, [⟨"None", none⟩, ⟨"On1", some "on"⟩, ⟨"On2", some "On"⟩,
        ⟨"Off", some "off"⟩]⟩ := by cbv
  refine ⟨by decide, hentries 1 "Off" rfl, hentries 2 "On" rfl, hnodup, hmodels,
    fun c hc => (hclasses _ _ hmodels c hc ?_).mpr ?_, _, hmade, rfl,
    (henums _ _ _ hmade ?_).mpr ?_⟩
  · cases List.mem_singleton.mp hc
    decide
  · decide
  · decide
  · decide

/-- The first of two names `a` becomes the third name, `a1`; so do a property and a member. -/
theorem numbered_twice :
    numbered ["a", "a", "a1"] = ["a1", "a2", "a1"] ∧ ¬ (numbered ["a", "a", "a1"]).Nodup ∧
    (recordRun ["a", "A", "a1"]).models =
      .ok (recordModels [("A1", "a"), ("A2", "A"), ("A1", "a1")]) ∧
    ∃ e, (switchSite ["a", "A", "a1"]).apply {} = .ok e ∧
      e.members.map EnumMember.name = ["A1", "A2", "A1"] := by
  have hnames : numbered ["a", "a", "a1"] = ["a1", "a2", "a1"] := by decide
  refine ⟨hnames, ?_, by cbv, _, rfl, by cbv⟩
  rw [hnames]
  decide

end SchemaModel

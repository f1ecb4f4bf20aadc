import Mathlib
import SchemaModel.Proofs.Source.NumberedNames
import SchemaModel.Proofs.Text.Blank
import SchemaModel.Proofs.Walk.Denotation

/-!
# What becomes of an enumeration and its hint

An enumeration with a hint, or without one, has one of three outcomes. The name is looked for first,
then the names of the members are counted, and there is no further fault. The members then stand for
the values one by one: the names are made of the texts that the hint lists, or of the values
themselves, and are numbered where they are repeated, but none of this moves a name to another
value. A zero member has no value and stands in front, so all others stand one place further.

* `typeName?_eq_none_iff`   when an enumeration has no name;
* `apply_cases`             the three outcomes;
* `getElem?_members`        a member has the name of its text and the value at its place;
* `exists_member_of_value`  the member of a value, behind the zero member;
* `outcome_of_apply`        the outcomes of an enumeration, and its members.
-/

namespace SchemaModel.EnumSite

open Naming

/-- Neither a hint nor a definition names the enumeration. A blank name is none. -/
def Nameless (site : EnumSite) (hint : Option EnumHint) : Prop :=
  site.definition = none ∧ ∀ h ∈ hint, ∀ name ∈ h.typeName, Text.allBlank name

/-- the texts after which the members for the values are named -/
def memberTexts (site : EnumSite) (hint : Option EnumHint) : List String :=
  (hint.bind EnumHint.members).getD site.values

/-- The name of the member for a text among other texts. If the name is repeated, its ordinal
stands behind it. -/
def memberLabel (texts : List String) (i : Nat) (text : String) : String :=
  if (texts.map memberName).count (memberName text) = 1 then memberName text
  else memberName text ++ toString (((texts.take i).map memberName).count (memberName text) + 1)

variable {site : EnumSite} {hint : Option EnumHint}

/-! ## outcomes -/

/-- An enumeration has no name if nothing gives it one. -/
theorem typeName?_eq_none_iff : site.typeName? (hint.getD {}) = none ↔ site.Nameless hint := by
  have hgiven : (hint.getD {}).typeName.bind Text.nonBlank? = none ↔
      ∀ h ∈ hint, ∀ name ∈ h.typeName, Text.allBlank name := by
    simp only [← Text.nonBlank?_eq_none_iff]
    cases hint <;> simp
  rw [typeName?, Option.map_eq_none_iff, Option.or_eq_none_iff, hgiven, and_comm]
  rfl

theorem getD_members : (hint.getD {}).members.getD site.values = site.memberTexts hint := by
  cases hint <;> rfl

/-- Without a list of names in a hint there are as many texts as values. -/
theorem forall_listed_iff : (∀ names, hint.bind EnumHint.members = some names →
      names.length = site.values.length) ↔
    (site.memberTexts hint).length = site.values.length := by
  rw [memberTexts]
  cases hint.bind EnumHint.members <;> simp

theorem exists_listed_iff {P : Nat → Prop} :
    (∃ names, hint.bind EnumHint.members = some names ∧ names.length ≠ site.values.length ∧
      P names.length) ↔
    (site.memberTexts hint).length ≠ site.values.length ∧ P (site.memberTexts hint).length := by
  rw [memberTexts]
  cases hint.bind EnumHint.members <;> simp

/-- An enumeration has no name, or another number of names than of values, or it is made. -/
theorem apply_cases (site : EnumSite) (hint : Option EnumHint) :
    (site.Nameless hint ∧ site.apply (hint.getD {}) = .error (.namelessEnum site.place)) ∨
    ¬ site.Nameless hint ∧
      (((site.memberTexts hint).length ≠ site.values.length ∧ ∃ typeName,
        site.apply (hint.getD {}) = .error
          (.memberCount typeName (site.memberTexts hint).length site.values.length)) ∨
      ((site.memberTexts hint).length = site.values.length ∧
        ∃ e, site.apply (hint.getD {}) = .ok e)) := by
  rw [← typeName?_eq_none_iff]
  unfold apply
  rw [getD_members]
  cases site.typeName? (hint.getD {}) with
  | none => exact .inl ⟨rfl, rfl⟩
  | some typeName =>
    refine .inr ⟨nofun, ?_⟩
    dsimp only
    split
    · next hcount => exact .inl ⟨hcount, typeName, rfl⟩
    · next hcount => exact .inr ⟨not_not.mp hcount, _, rfl⟩

/-! ## members -/

/-- A member has the name of its text and the value at its place. -/
theorem getElem?_members {zero : Option String} {names : List String} {i : Nat} {text : String}
    {value : Option String} (ht : (zero.toList ++ names)[i]? = some text)
    (hv : (zero.toList.map (fun _ => none) ++ site.values.map some)[i]? = some value) :
    (site.members zero names)[i]? = some ⟨memberLabel (zero.toList ++ names) i text, value⟩ := by
  have hname : (numbered ((zero.toList ++ names).map memberName))[i]? =
      some (memberLabel (zero.toList ++ names) i text) := by
    rw [getElem?_numbered (List.getElem?_map.trans (congrArg _ ht)), ← List.map_take]
    rfl
  rw [members, List.getElem?_zipWith, hname, hv]

/-- The member for a value stands behind the zero member, and is named after the text in the place
of the value. -/
theorem exists_member_of_value {zero : Option String} {names : List String}
    (hlength : names.length = site.values.length) {i : Nat} {value : String}
    (hv : site.values[i]? = some value) : ∃ text, names[i]? = some text ∧
      (site.members zero names)[zero.toList.length + i]? =
        some ⟨memberLabel (zero.toList ++ names) (zero.toList.length + i) text, some value⟩ := by
  have hi : i < names.length := hlength ▸ (List.getElem?_eq_some_iff.mp hv).1
  obtain ⟨text, htext⟩ : ∃ text, names[i]? = some text := ⟨_, List.getElem?_eq_getElem hi⟩
  refine ⟨text, htext, getElem?_members ?_ ?_⟩
  · rw [List.getElem?_append_right (Nat.le_add_right _ i), Nat.add_sub_cancel_left, htext]
  · rw [List.getElem?_append_right (by simp), List.length_map, Nat.add_sub_cancel_left,
      List.getElem?_map, hv]
    rfl

/-- Without a name an enumeration fails, whatever its hint lists. With a name it fails if its hint
lists another number of members than there are values, and otherwise it does not. Then its members
have the values of the schema, in their order and behind a member without a value if the hint has a
zero value. The member for a value is named after the text in its place, and the zero member after
the zero value. -/
theorem outcome_of_apply (site : EnumSite) (hint : Option EnumHint) :
    (∀ key, site.apply (hint.getD {}) = .error (.namelessEnum key) ↔
      site.Nameless hint ∧ key = site.place) ∧
    (∀ listed declared, (∃ typeName,
        site.apply (hint.getD {}) = .error (.memberCount typeName listed declared)) ↔
      ¬ site.Nameless hint ∧ ∃ names, hint.bind EnumHint.members = some names ∧
        names.length ≠ site.values.length ∧ listed = names.length ∧
        declared = site.values.length) ∧
    ((∃ e, site.apply (hint.getD {}) = .ok e) ↔
      ¬ site.Nameless hint ∧ ∀ names, hint.bind EnumHint.members = some names →
        names.length = site.values.length) ∧
    ∀ e, site.apply (hint.getD {}) = .ok e →
      let zero := (hint.bind EnumHint.zeroValue).toList
      let texts := zero ++ site.memberTexts hint
      e.members.map EnumMember.value = zero.map (fun _ => none) ++ site.values.map some ∧
      (∀ text ∈ zero, e.members[0]? = some ⟨memberLabel texts 0 text, none⟩) ∧
      ∀ i value, site.values[i]? = some value → ∃ text, (site.memberTexts hint)[i]? = some text ∧
        e.members[zero.length + i]? =
          some ⟨memberLabel texts (zero.length + i) text, some value⟩ := by
  refine ⟨fun key => ?_, fun listed declared => ?_, ?_, fun e h => ?_⟩
  · rcases apply_cases site hint with ⟨hn, h⟩ | ⟨hn, ⟨-, _, h⟩ | ⟨-, _, h⟩⟩
    · simp [h, hn, eq_comm]
    · simp [h, hn]
    · simp [h, hn]
  · rw [exists_listed_iff (P := fun n => listed = n ∧ declared = site.values.length)]
    rcases apply_cases site hint with ⟨hn, h⟩ | ⟨hn, ⟨hne, _, h⟩ | ⟨he, _, h⟩⟩
    · simp [h, hn]
    · simp [h, hn, hne, eq_comm]
    · simp [h, he]
  · rw [forall_listed_iff]
    rcases apply_cases site hint with ⟨hn, h⟩ | ⟨hn, ⟨hne, _, h⟩ | ⟨he, _, h⟩⟩
    · simp [h, hn]
    · simp [h, hne]
    · simp [h, hn, he]
  · have hvalues := map_value_of_apply h
    obtain ⟨-, hlength, hmembers⟩ := apply_ok h
    have hzero : (hint.getD {}).zeroValue = hint.bind EnumHint.zeroValue := by
      cases hint <;> rfl
    rw [getD_members] at hlength hmembers
    rw [hzero] at hvalues hmembers
    refine ⟨hvalues, fun text ht => ?_, fun i value hv => ?_⟩
    · rw [hmembers, Option.mem_toList.mp ht]
      exact getElem?_members rfl rfl
    · rw [hmembers]
      exact exists_member_of_value hlength hv

def lightSite (definition : Option String) : EnumSite where
  propertyKey := some "Lamp.Light"
  definition := definition
  pointer := "/definitions/light"
  description := none
  values := ["on", "off"]

/-- A zero value in front of two members that have one name; too few names; a blank name. -/
theorem outcome_of_light :
    (∃ e, (lightSite (some "light")).apply { zeroValue := some "?", members := some ["x", "X"] } =
        .ok e ∧ e.members.map EnumMember.value = [none, some "on", some "off"] ∧
        e.members[2]? = some ⟨"X2", some "off"⟩) ∧
    (∃ typeName, (lightSite (some "light")).apply { members := some ["x"] } =
        .error (.memberCount typeName 1 2)) ∧
    (lightSite none).apply { typeName := some " ", members := some ["x"] } =
      .error (.namelessEnum "Lamp.Light") := by
  have hnamed (hint : Option EnumHint) : ¬ (lightSite (some "light")).Nameless hint := nofun
  obtain ⟨-, -, hok, hmembers⟩ := outcome_of_apply (lightSite (some "light"))
    (some { zeroValue := some "?", members := some ["x", "X"] })
  obtain ⟨-, hcount, -⟩ := outcome_of_apply (lightSite (some "light"))
    (some { members := some ["x"] })
  obtain ⟨hnameless, -⟩ := outcome_of_apply (lightSite none)
    (some { typeName := some " ", members := some ["x"] })
  refine ⟨?_, ?_, ?_⟩
  · obtain ⟨e, he⟩ := hok.mpr ⟨hnamed _, fun names hn => by cases hn; rfl⟩
    obtain ⟨hvalues, -, hpairs⟩ := hmembers e he
    obtain ⟨text, htext, hmember⟩ := hpairs 1 "off" rfl
    cases htext
    refine ⟨e, he, hvalues, hmember.trans ?_⟩
    decide
  · exact (hcount 1 2).mpr ⟨hnamed _, ["x"], rfl, by decide, rfl, rfl⟩
  · refine (hnameless _).mpr ⟨⟨rfl, fun h hh name hn => ?_⟩, rfl⟩
    cases hh
    cases hn
    decide

end SchemaModel.EnumSite

import Mathlib
import SchemaModel.Proofs.Source.Instances

/-!
# Equality and hash of generated classes

Two instances of a class that are equal feed a hasher the same data exactly if they are alike: what
is hashed by itself says no more than what is compared, but a debug text shows the signs of zeros
and the order of keys, which are not compared. The induction is on the type of the values; lists and
instances follow from what is known about their elements and fields.

* `Value.hashedAs_list`, `Value.feedsAs_struct`   lists and instances, from their parts;
* `Value.hashedAs_of_equal`                       equal values of one type;
* `hash_of_equal_instances`                       the classes of a run.
-/

namespace SchemaModel

open Source Text
open Naming (fieldName)

/-- Both are there, and whatever stands behind them, they are one exactly if `p`. -/
def SplitsIff? (x y : Option (List α)) (p : Prop) : Prop :=
  ∃ a b, x = some a ∧ y = some b ∧ SplitsIff a b p

namespace SplitsIff?

variable {x y : Option (List α)} {x' y' : Option (List α)} {p q : Prop}

theorem of_splits {a b : List α} (h : SplitsIff a b p) : SplitsIff? (some a) (some b) p :=
  ⟨a, b, rfl, rfl, h⟩

theorem same (a : List α) (hp : p) : SplitsIff? (some a) (some a) p :=
  of_splits ((SplitsIff.same a).of_iff (iff_of_true trivial hp))

theorem map {β : Type} {f g : List α → List β} (h : SplitsIff? x y p)
    (hf : ∀ a b, SplitsIff a b p → SplitsIff (f a) (g b) p) : SplitsIff? (x.map f) (y.map g) p := by
  obtain ⟨a, b, rfl, rfl, hab⟩ := h
  exact of_splits (hf a b hab)

theorem of_iff (h : SplitsIff? x y p) (hpq : p ↔ q) : SplitsIff? x y q := by
  obtain ⟨a, b, rfl, rfl, hab⟩ := h
  exact of_splits (hab.of_iff hpq)

theorem joined (h : SplitsIff? x y p) (h' : SplitsIff? x' y' q) :
    SplitsIff? (joined x x') (joined y y') (p ∧ q) := by
  obtain ⟨a, b, rfl, rfl, hab⟩ := h
  obtain ⟨a', b', rfl, rfl, hab'⟩ := h'
  exact of_splits (hab.append fun _ => hab')

end SplitsIff?

namespace Value

/-- The debug texts of both differ exactly if they are not alike. -/
def ShowsAs (v v' : Value) : Prop := SplitsIff? v.debug? v'.debug? (v.Alike v')

/-- The data of both differ exactly if they are not alike. -/
def FeedsAs (written : String → Overrides) (v v' : Value) : Prop :=
  SplitsIff? (v.feed? written) (v'.feed? written) (v.Alike v')

/-- what two values of a type show or feed, whichever of them their hash is made of -/
structure HashedAs (written : String → Overrides) (type : TypeRef) (v v' : Value) : Prop where
  shown : type.hashesByText = true → ShowsAs v v'
  fed : type.hashesByText = false → FeedsAs written v v'

/-! ## lists -/

variable {written : String → Overrides}

theorem itemsEqual_iff {items items' : List Value} : itemsEqual written items items' = true ↔
    List.Forall₂ (fun v v' => v.equal written v' = true) items items' := by
  induction items generalizing items' with
  | nil => cases items' <;> simp [itemsEqual]
  | cons item rest ih => cases items' <;> simp [itemsEqual, ih]

theorem showsAs_items {items items' : List Value} (h : List.Forall₂ ShowsAs items items') :
    SplitsIff? (itemsDebug? items) (itemsDebug? items') (ItemsAlike items items') := by
  induction h with
  | nil => exact .same [] trivial
  | cons h hrest ih =>
    rw [itemsDebug?, itemsDebug?, ItemsAlike, separator_eq hrest.length_eq]
    exact h.joined (ih.map fun _ _ => SplitsIff.behind _)

theorem feedsAs_items {items items' : List Value}
    (h : List.Forall₂ (FeedsAs written) items items') :
    SplitsIff? (itemsFeed? written items) (itemsFeed? written items') (ItemsAlike items items') := by
  induction h with
  | nil => exact .same [] trivial
  | cons h _ ih =>
    rw [itemsFeed?, itemsFeed?, ItemsAlike]
    exact h.joined ih

/-! ## fields -/

theorem fieldsShown_eq (fields : List (String × Value)) : fieldsShown written fields =
    fields.map fun f => (f.1, ⟨f.2.feed? written, f.2.debug?⟩) := by
  induction fields with
  | nil => rfl
  | cons f rest ih => rw [fieldsShown, ih, List.map_cons]

theorem fieldsEqual_eq (fields : List (String × Value)) :
    fieldsEqual written fields = fields.map fun f => (f.1, f.2.equal written) := by
  induction fields with
  | nil => rfl
  | cons f rest ih => rw [fieldsEqual, ih, List.map_cons]

theorem lookup_map_snd {α β : Type} {fields : List (String × α)}
    (hk : (fields.map Prod.fst).Nodup) {field : String} {v : α} (h : (field, v) ∈ fields)
    (g : α → β) : (fields.map fun f => (f.1, g f.2)).lookup field = some (g v) := by
  refine (lookup_eq_some_iff_mem ?_).mpr (List.mem_map.mpr ⟨_, h, rfl⟩)
  rwa [List.map_map]

section
variable {c : ClassModel} {fields fields' : List (String × Value)} {p : Property} {v v' : Value}

theorem lookup_shown (h : FieldsOf c fields)
    (hm : (p, v) ∈ c.properties.zip (fields.map Prod.snd)) :
    (fieldsShown written fields).lookup (fieldName p.name) =
      some ⟨v.feed? written, v.debug?⟩ := by
  rw [fieldsShown_eq]
  exact lookup_map_snd h.nodup_keys (h.mem hm) fun v => Shown.mk (v.feed? written) v.debug?

/-- Equal instances have equal values for each property. -/
theorem equal_of_struct {name : String} (hw : written name = fieldByField c)
    (he : equal written (.struct name fields) (.struct name fields') = true)
    (h : FieldsOf c fields) (h' : FieldsOf c fields')
    (hm : (p, v) ∈ c.properties.zip (fields.map Prod.snd))
    (hm' : (p, v') ∈ c.properties.zip (fields'.map Prod.snd)) : v.equal written v' = true := by
  have hfield : fieldName p.name ∈ c.fields :=
    List.mem_map.mpr ⟨p, (List.of_mem_zip hm).1, rfl⟩
  rw [equal, hw, fieldsEqual_eq] at he
  have hall := List.all_eq_true.mp (Bool.and_eq_true_iff.mp he).2 (fieldName p.name, fieldName p.name)
    (List.mem_map.mpr ⟨_, hfield, rfl⟩)
  dsimp only at hall
  rw [lookup_map_snd h.nodup_keys (h.mem hm),
    (lookup_eq_some_iff_mem h'.nodup_keys).mpr (h'.mem hm')] at hall
  exact hall

end

section
variable {shown shown' : List (String × Shown)} {properties : List Property}
  {fields fields' : List (String × Value)}

/-- A property is hashed by itself or by its text, so its values feed data that differ exactly if
they are not alike. -/
theorem feeds_stepOf {p : Property} {v v' : Value}
    (hs : shown.lookup (fieldName p.name) = some ⟨v.feed? written, v.debug?⟩)
    (hs' : shown'.lookup (fieldName p.name) = some ⟨v'.feed? written, v'.debug?⟩)
    (h : HashedAs written p.type v v') :
    SplitsIff? ((stepOf p).feed? shown) ((stepOf p).feed? shown') (v.Alike v') := by
  cases ht : p.type.hashesByText with
  | true =>
    rw [stepOf, if_pos ht, HashStep.feed?, HashStep.feed?, hs, hs']
    refine (h.shown ht).map fun t t' hsplit => ?_
    exact (SplitsIff.singleton _ _).of_iff (by rw [Piece.text.injEq, hsplit.eq_iff])
  | false =>
    rw [stepOf, if_neg (by simp [ht]), HashStep.feed?, HashStep.feed?, hs, hs']
    exact h.fed ht

theorem feeds_steps (hl : fields.length = properties.length)
    (hl' : fields'.length = properties.length)
    (hs : ∀ p v, (p, v) ∈ properties.zip (fields.map Prod.snd) →
      shown.lookup (fieldName p.name) = some ⟨v.feed? written, v.debug?⟩)
    (hs' : ∀ p v, (p, v) ∈ properties.zip (fields'.map Prod.snd) →
      shown'.lookup (fieldName p.name) = some ⟨v.feed? written, v.debug?⟩)
    (h : ∀ p v v', (p, v) ∈ properties.zip (fields.map Prod.snd) →
      (p, v') ∈ properties.zip (fields'.map Prod.snd) → HashedAs written p.type v v') :
    SplitsIff? (feedSteps? shown (properties.map stepOf))
      (feedSteps? shown' (properties.map stepOf)) (FieldsAlike fields fields') := by
  induction properties generalizing fields fields' with
  | nil =>
    rw [List.length_eq_zero_iff.mp hl]
    exact .same [] trivial
  | cons p rest ih =>
    cases fields with
    | nil => cases hl
    | cons f fields =>
      cases fields' with
      | nil => cases hl'
      | cons f' fields' =>
        obtain ⟨_, v⟩ := f
        obtain ⟨_, v'⟩ := f'
        have hstep := feeds_stepOf (hs p v List.mem_cons_self) (hs' p v' List.mem_cons_self)
          (h p v v' List.mem_cons_self List.mem_cons_self)
        have hrest := ih (Nat.succ.inj hl) (Nat.succ.inj hl')
          (fun p v hm => hs p v (List.mem_cons_of_mem _ hm))
          (fun p v hm => hs' p v (List.mem_cons_of_mem _ hm))
          fun p v v' hm hm' => h p v v' (List.mem_cons_of_mem _ hm) (List.mem_cons_of_mem _ hm')
        rw [List.map_cons, feedSteps?, feedSteps?, FieldsAlike]
        exact hstep.joined hrest

end

/-! ## values of a type -/

theorem HashedAs.of_shown {type : TypeRef} {v v' : Value} (ht : type.hashesByText = true)
    (h : ShowsAs v v') : HashedAs written type v v' :=
  ⟨fun _ => h, fun hf => absurd (ht.symm.trans hf) (by decide)⟩

theorem HashedAs.of_fed {type : TypeRef} {v v' : Value} (ht : type.hashesByText = false)
    (h : FeedsAs written v v') : HashedAs written type v v' :=
  ⟨fun hf => absurd (hf.symm.trans ht) (by decide), fun _ => h⟩

/-- A value without numbers and free values feeds what it is. -/
theorem feedsAs_self {v : Value} {data : List Piece} (hf : v.feed? written = some data)
    (ha : v.Alike v) : FeedsAs written v v := by
  rw [FeedsAs, hf]
  exact .same data ha

/-- Equal lists are hashed as their elements are. -/
theorem hashedAs_list {element : TypeRef} {items items' : List Value}
    (h : ∀ v ∈ items, ∀ v' ∈ items', v.equal written v' = true → HashedAs written element v v')
    (he : equal written (.list items) (.list items') = true) :
    HashedAs written (.sequence element) (.list items) (.list items') := by
  have hequal := itemsEqual_iff.mp he
  have hhashed : List.Forall₂ (HashedAs written element) items items' := by
    obtain ⟨hl, hzip⟩ := List.forall₂_iff_zip.mp hequal
    refine List.forall₂_iff_zip.mpr ⟨hl, fun hm => ?_⟩
    obtain ⟨hv, hv'⟩ := List.of_mem_zip hm
    exact h _ hv _ hv' (hzip hm)
  refine ⟨fun ht => ?_, fun ht => ?_⟩
  · rw [ShowsAs, debug?, debug?, Alike]
    exact (showsAs_items (hhashed.imp fun _ _ h => h.shown ht)).map fun _ _ h => h.enclosed _ _
  · rw [FeedsAs, feed?, feed?, Alike, hequal.length_eq]
    exact (feedsAs_items (hhashed.imp fun _ _ h => h.fed ht)).map fun _ _ => .behind [_]

variable {models : ModelSet}

/-- Equal instances of one class feed data that differ exactly if the instances are not alike, as
soon as the values of their fields do. -/
theorem feedsAs_struct {name : String} {c : ClassModel} {fields fields' : List (String × Value)}
    (hw : written name = fieldByField c) (hs : FieldsOf c fields) (hs' : FieldsOf c fields')
    (he : equal written (.struct name fields) (.struct name fields') = true)
    (h : ∀ p v v', (p, v) ∈ c.properties.zip (fields.map Prod.snd) →
      (p, v') ∈ c.properties.zip (fields'.map Prod.snd) → v.equal written v' = true →
      HashedAs written p.type v v') :
    FeedsAs written (.struct name fields) (.struct name fields') := by
  have hsteps : SplitsIff? (feedSteps? (fieldsShown written fields) (c.properties.map stepOf))
      (feedSteps? (fieldsShown written fields') (c.properties.map stepOf))
      (FieldsAlike fields fields') :=
    feeds_steps hs.length hs'.length (fun p v hm => lookup_shown hs hm)
      (fun p v hm => lookup_shown hs' hm)
      fun p v v' hm hm' => h p v v' hm hm' (equal_of_struct hw he hs hs' hm hm')
  rw [FeedsAs, feed?, feed?, Alike, hw, fieldByField, feedSteps?, feedSteps?]
  exact ((SplitsIff?.same [_] trivial).joined hsteps).of_iff (by rw [true_and])

/-- Equal values of one type have debug texts, or feed data, that differ exactly if the values are
not alike. -/
theorem hashedAs_of_equal
    (hw : ∀ name c, models.getClass? name = some c → written name = fieldByField c) {type : FieldType}
    {v v' : Value} (h : IsOf models type v) (h' : IsOf models type v')
    (he : v.equal written v' = true) : HashedAs written type.type v v' := by
  induction h generalizing v' with
  | boolean b =>
    cases h' with
    | boolean b' =>
      obtain rfl := of_decide_eq_true he
      exact .of_fed rfl (feedsAs_self rfl trivial)
  | integer n =>
    cases h' with
    | integer n' =>
      obtain rfl := of_decide_eq_true he
      exact .of_fed rfl (feedsAs_self rfl trivial)
  | number x =>
    cases h' with
    | number x' => exact .of_shown rfl (.of_splits (Number.splits_debug he))
  | string s =>
    cases h' with
    | string s' =>
      obtain rfl := of_decide_eq_true he
      exact .of_fed rfl (feedsAs_self rfl trivial)
  | dateTime day second fraction =>
    cases h' with
    | dateTime day' second' fraction' =>
      obtain ⟨⟨rfl, rfl⟩, rfl⟩ : (day = day' ∧ second = second') ∧ fraction = fraction' := by
        simpa [equal] using he
      exact .of_fed rfl (feedsAs_self rfl trivial)
  | any hj =>
    cases h' with
    | any hj' => exact .of_shown rfl (.of_splits (Json.splits_debug _ hj he))
  | enumNamed =>
    cases h' with
    | enumNamed =>
      obtain rfl := of_decide_eq_true he
      exact .of_fed rfl (feedsAs_self rfl trivial)
  | classNamed hc hs _ ih =>
    cases h' with
    | classNamed hc' hs' hf' =>
      obtain rfl := Option.some.inj (hc.symm.trans hc')
      refine .of_fed rfl (feedsAs_struct (hw _ _ hc) hs hs' he fun p v v' hm hm' hv => ?_)
      have hfield := ih p v hm (hf' p v' hm') hv
      rwa [Property.type_fieldType] at hfield
  | sequence _ ih =>
    cases h' with
    | sequence hi' => exact hashedAs_list (fun v hv v' hv' => ih v hv (hi' v' hv')) he
  | absent type =>
    cases h' with
    | absent =>
      exact ⟨fun _ => .same "None".toList trivial, fun _ => feedsAs_self rfl trivial⟩
    | present => cases he
  | present _ ih =>
    cases h' with
    | absent => cases he
    | present hv' =>
      have hhashed := ih hv' he
      exact ⟨fun ht => (hhashed.shown ht).map fun _ _ h => h.enclosed _ _,
        fun ht => (hhashed.fed ht).map fun _ _ => SplitsIff.behind [Piece.tag 1]⟩

end Value

/-! ## the classes of a run -/

variable {r : Run} {models : ModelSet} {c : ClassModel}

/-- A setting decides for all classes of a run whether an equality and a hash are written. -/
theorem overrides_eq_settings (h : r.models = .ok models) (hc : c ∈ models.classes) :
    c.overrides = r.settings.overrides := by
  obtain ⟨-, done, hw, rfl⟩ := Run.models_ok h
  obtain ⟨id, he⟩ := mem_classes.mp hc
  cases Run.described_of_walk hw _ he with
  | ofClass _ _ _ ho _ => exact ho

theorem overridesOf_class (h : r.models = .ok models) (ho : r.settings.overrides = true)
    {name : String} (hc : models.getClass? name = some c) :
    models.overridesOf name = fieldByField c := by
  have hmem : c ∈ models.classes := List.mem_of_find?_eq_some hc
  obtain ⟨m, hm, hclass⟩ := List.mem_filterMap.mp hmem
  rw [Model.class?_eq_some_iff.mp hclass] at hm
  rw [ModelSet.overridesOf, hc]
  exact readOverrides_overrideLines ((overrides_eq_settings h hmem).trans ho)
    (capitalParts_of_class (Run.spelled_of_models h hm)).2

/-- Two instances of a class that are equal by the equality that is written for it both feed data by
the hash that is written for it. The data are the same exactly if the instances are alike: if no
zero is negative in one of them only, and all objects have their keys in the same order. -/
theorem hash_of_equal_instances (h : r.models = .ok models) (hc : c ∈ models.classes)
    (ho : c.overrides = true) {a b : Value} (ha : IsOf models (.always (.classNamed c.name)) a)
    (hb : IsOf models (.always (.classNamed c.name)) b)
    (he : a.equal models.overridesOf b = true) :
    ∃ data data', a.feed? models.overridesOf = some data ∧
      b.feed? models.overridesOf = some data' ∧ (data = data' ↔ a.Alike b) := by
  have hsettings : r.settings.overrides = true := (overrides_eq_settings h hc).symm.trans ho
  have hhashed := Value.hashedAs_of_equal (fun _ _ => overridesOf_class h hsettings) ha hb he
  obtain ⟨data, data', hdata, hdata', hsplit⟩ := hhashed.fed rfl
  exact ⟨data, data', hdata, hdata', hsplit.eq_iff⟩

/-! ## two classes -/

/-- a class for lists, each with a number, texts and the rest behind it -/
def listRun : Run where
  graph := ⟨#[
    { type := some .number, pointer := ["properties", "x"] },
    { type := some .string, pointer := ["properties", "tags", "items"] },
    { type := some .array, items := some 1, pointer := ["properties", "tags"] },
    { reference := some (.fragment "#"), pointer := ["properties", "next"] },
    { type := some .object, properties := [("x", 0), ("tags", 2), ("next", 3)],
      required := ["x"] }]⟩
  hints := {}
  settings := { namespaceName := "N", rootClassName := "Record", overrides := true }

def listClass : ClassModel := ⟨"N", "Record", none, [⟨"X", "x", .number, true, none⟩,
  ⟨"Tags", "tags", .sequence .string, false, none⟩,
  ⟨"Next", "next", .classNamed "Record", false, none⟩], true⟩

def zero (negative : Bool) : Value := .number (.finite ⟨negative, 0, Json.Double.minExponent⟩)

/-- an instance with another one behind it, which has a zero -/
def zeroBehind (negative : Bool) : Value := .struct "Record" [("x", zero false), ("tags", .absent),
  ("next", .present (.struct "Record" [("x", zero negative),
    ("tags", .present (.list [.text "a"])), ("next", .absent)]))]

theorem fields_listClass : listClass.fields = ["x", "tags", "next"] := by decide

theorem isOf_listClass {x tags next : Value}
    (hx : IsOf [.ofClass listClass] (.always .number) x)
    (ht : IsOf [.ofClass listClass] (.optional (.sequence .string)) tags)
    (hn : IsOf [.ofClass listClass] (.optional (.classNamed "Record")) next) :
    IsOf [.ofClass listClass] (.always (.classNamed "Record"))
      (.struct "Record" [("x", x), ("tags", tags), ("next", next)]) := by
  have hd : listClass.fields.Nodup := by
    rw [fields_listClass]
    decide
  refine .classNamed (c := listClass) rfl ⟨fields_listClass.symm, hd⟩ fun p v hm => ?_
  rcases List.mem_cons.mp hm with hm | hm
  · cases hm
    exact hx
  rcases List.mem_cons.mp hm with hm | hm
  · cases hm
    exact ht
  · cases List.mem_singleton.mp hm
    exact hn

theorem isOf_zeroBehind (negative : Bool) :
    IsOf [.ofClass listClass] (.always (.classNamed "Record")) (zeroBehind negative) := by
  have htags : IsOf [.ofClass listClass] (.always (.sequence .string)) (.list [.text "a"]) := by
    refine .sequence fun v hv => ?_
    rw [List.mem_singleton.mp hv]
    exact .string "a"
  have hbehind := isOf_listClass (.number (.finite ⟨negative, 0, Json.Double.minExponent⟩))
    (.present htags) (.absent _)
  exact isOf_listClass (.number _) (.absent _) (.present hbehind)

/-- Two lists are equal, but their hashes tell a zero inside from another one. -/
theorem hashes_of_listRun : listRun.models = .ok [.ofClass listClass] ∧
    (zeroBehind false).equal (ModelSet.overridesOf [.ofClass listClass]) (zeroBehind true) = true ∧
    ∃ data data',
      (zeroBehind false).feed? (ModelSet.overridesOf [.ofClass listClass]) = some data ∧
      (zeroBehind true).feed? (ModelSet.overridesOf [.ofClass listClass]) = some data' ∧
      data ≠ data' := by
  have hmodels : listRun.models = .ok [.ofClass listClass] :=
    Run.models_of_within rfl rfl (by with_unfolding_all rfl)
  have hwritten := overridesOf_class hmodels rfl (show ModelSet.getClass? [.ofClass listClass]
    "Record" = some listClass from rfl)
  rw [fieldByField, fields_listClass] at hwritten
  have hequal : (zeroBehind false).equal (ModelSet.overridesOf [.ofClass listClass])
      (zeroBehind true) = true := by
    simp [zeroBehind, zero, Value.equal, Value.fieldsEqual, Value.itemsEqual, hwritten,
      List.lookup_cons, Number.equal, Json.Double.equal]
  obtain ⟨data, data', hdata, hdata', hiff⟩ := hash_of_equal_instances hmodels
    (c := listClass) List.mem_cons_self rfl (isOf_zeroBehind false) (isOf_zeroBehind true) hequal
  refine ⟨hmodels, hequal, data, data', hdata, hdata', fun hsame => ?_⟩
  -- the signs of the zeros behind are not the same
  obtain ⟨-, -, ⟨hsigns, -⟩, -⟩ := hiff.mp hsame
  exact Bool.false_ne_true hsigns

def zeroSettings : Settings :=
  { namespaceName := "N", rootClassName := "Record", overrides := true }

def zeroSchema : String :=
  "\x7b\"type\": \"object\", \"properties\": \x7b\"x\": \x7b\"type\": \"number\"\x7d\x7d, " ++
  "\"required\": [\"x\"]\x7d"

def zeroClass : ClassModel := ⟨"N", "Record", none, [⟨"X", "x", .number, true, none⟩], true⟩

def zeroInstance (negative : Bool) : Value := .struct "Record" [("x", zero negative)]

/-- Two zeros in a class for one number are equal, but one of them has a sign in the text that is
hashed. -/
theorem hashes_of_zeros : ModelSet.ofText zeroSettings none zeroSchema = .ok [.ofClass zeroClass] ∧
    zeroClass.overrides = true ∧
    (∀ negative, IsOf [.ofClass zeroClass] (.always (.classNamed "Record"))
      (zeroInstance negative)) ∧
    (zeroInstance false).equal (ModelSet.overridesOf [.ofClass zeroClass])
      (zeroInstance true) = true ∧
    (zeroInstance false).feed? (ModelSet.overridesOf [.ofClass zeroClass]) =
      some [.word 17, .text ['0', '.', '0']] ∧
    (zeroInstance true).feed? (ModelSet.overridesOf [.ofClass zeroClass]) =
      some [.word 17, .text ['-', '0', '.', '0']] := by
  have hmodels : ModelSet.ofText zeroSettings none zeroSchema = .ok [.ofClass zeroClass] := by cbv
  have hfields : zeroClass.fields = ["x"] := by decide
  have hd : zeroClass.fields.Nodup := by
    rw [hfields]
    decide
  have hwritten : ModelSet.overridesOf [.ofClass zeroClass] "Record" =
      ⟨[("x", "x")], [.word 17, .text "x"]⟩ := by
    have hparts : ∀ p ∈ zeroClass.properties, CapitalParts p.name := by
      intro p hp
      rw [List.mem_singleton.mp hp]
      exact ⟨'X', [], rfl, by decide, fun _ => by decide, List.forall_mem_nil _⟩
    show readOverrides (overrideLines zeroClass) = _
    rw [readOverrides_overrideLines rfl hparts]
    decide
  have hdebug : ∀ negative, (zero negative).debug? = some (signed negative ['0', '.', '0']) := by
    intro negative
    have hmantissa : (⟨negative, 0, Json.Double.minExponent⟩ : Json.Double).mantissa = 0 := rfl
    rw [zero, Value.debug?, Number.debug, Json.Double.debug_of_zero hmantissa]
  refine ⟨hmodels, rfl, fun negative => ?_, ?_, ?_, ?_⟩
  · refine .classNamed (c := zeroClass) rfl ⟨hfields.symm, hd⟩ fun p v hm => ?_
    cases List.mem_singleton.mp hm
    exact .number _
  · rw [zeroInstance, zeroInstance, Value.equal, hwritten]
    rfl
  · rw [zeroInstance, Value.feed?, hwritten, Value.fieldsShown, hdebug]
    rfl
  · rw [zeroInstance, Value.feed?, hwritten, Value.fieldsShown, hdebug]
    rfl

end SchemaModel

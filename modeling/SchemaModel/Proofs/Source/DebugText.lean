import Mathlib
import SchemaModel.Json.Printer
import SchemaModel.Proofs.Json.Distinct
import SchemaModel.Proofs.Text.Delimited

/-!
# Numbers and free values, compared and shown

Two zeros are equal whatever their signs, and two objects are equal whatever the order of their
fields. The debug text of a value shows signs and order. So equal values have one text exactly if
their zeros have the same signs and their objects the same order, and in longer texts they can be
told apart just so.

* `Json.equal`, `Json.debug`   free values, compared and shown;
* `Json.Alike`                 signs of zeros and order of fields agree;
* `Number.splits_debug`, `Json.splits_debug`   equal values have one text exactly if they are alike.
-/

namespace SchemaModel

/-- a body of digits with its sign -/
def signed (negative : Bool) (body : List Char) : List Char :=
  if negative then '-' :: body else body

theorem splits_signed (a b : Bool) (body : List Char) :
    SplitsIff (signed a ('0' :: body)) (signed b ('0' :: body)) (a = b) := by
  cases a <;> cases b
  case false.false | true.true => exact (SplitsIff.same _).of_iff (by simp)
  case false.true => exact (SplitsIff.of_head_ne (by decide) body ('0' :: body)).of_iff (by simp)
  case true.false => exact (SplitsIff.of_head_ne (by decide) ('0' :: body) body).of_iff (by simp)

/-- a body with a text in front of it and a character behind it -/
def enclosed (front : String) (body : List Char) (back : Char) : List Char :=
  front.toList ++ (body ++ [back])

theorem SplitsIff.enclosed {body body' : List Char} {p : Prop} (h : SplitsIff body body' p)
    (front : String) (back : Char) :
    SplitsIff (SchemaModel.enclosed front body back) (SchemaModel.enclosed front body' back) p :=
  (h.before [back]).behind front.toList

/-- what stands behind an item, in front of the others -/
def separator (others : List α) : List Char := if others.length = 0 then [] else [',', ' ']

theorem separator_eq {others others' : List α} (h : others.length = others'.length) :
    separator others = separator others' := by
  rw [separator, separator, h]

/-! ## doubles -/

namespace Json.Double

/-- Every number has one form as a double, but for zero, which has two. -/
def equal (x y : Double) : Bool := x = y || (x.mantissa = 0 && y.mantissa = 0)

/-- digits with the point behind the first one, and a power of ten without a plus sign -/
def exponential (digits : List Char) (exponent : Int) : List Char :=
  let mantissa := match digits with
    | c :: d :: rest => c :: '.' :: d :: rest
    | short => short
  mantissa ++ 'e' :: signed (exponent < 0) (Nat.toDigits 10 exponent.natAbs)

/-- The debug text: with a point from `0.0001` on and below `1e16`, and with an exponent
elsewhere. -/
def debug (x : Double) : List Char :=
  let (n, place) := x.shortest
  let digits := Nat.toDigits 10 n
  let exponent := place + digits.length - 1
  signed x.negative (if -4 ≤ exponent ∧ exponent < 16 then positional digits (exponent + 1)
    else exponential digits exponent)

theorem shortest_of_zero {x : Double} (h : x.mantissa = 0) : x.shortest = (0, 0) := if_pos h

theorem debug_of_zero {x : Double} (h : x.mantissa = 0) :
    x.debug = signed x.negative ['0', '.', '0'] := by
  rw [debug, shortest_of_zero h]
  rfl

theorem text_of_zero {x : Double} (h : x.mantissa = 0) :
    x.text.toList = signed x.negative ['0', '.', '0'] := by
  rw [text, shortest_of_zero h]
  exact String.toList_ofList

/-- A text that shows the sign of zero tells equal doubles apart by their signs. -/
theorem splits_of_zero {text : Double → List Char}
    (h : ∀ x : Double, x.mantissa = 0 → text x = signed x.negative ['0', '.', '0'])
    {x y : Double} (he : x.equal y = true) :
    SplitsIff (text x) (text y) (x.negative = y.negative) := by
  rcases Bool.or_eq_true_iff.mp he with hxy | hzero
  · rw [of_decide_eq_true hxy]
    exact (SplitsIff.same _).of_iff (by simp)
  · obtain ⟨hx, hy⟩ := Bool.and_eq_true_iff.mp hzero
    rw [h x (of_decide_eq_true hx), h y (of_decide_eq_true hy)]
    exact splits_signed x.negative y.negative ['.', '0']

end Json.Double

/-- a number of a generated class -/
inductive Number where
  | finite (x : Json.Double)
  | infinite (negative : Bool)
  | nan
  deriving DecidableEq, Repr

namespace Number

/-- What is no number is not equal to itself. -/
def equal : Number → Number → Bool
  | .finite x, .finite y => x.equal y
  | .infinite a, .infinite b => a = b
  | _, _ => false

def debug : Number → List Char
  | .finite x => x.debug
  | .infinite negative => signed negative ['i', 'n', 'f']
  | .nan => ['N', 'a', 'N']

/-- the two have the same sign -/
def Alike : Number → Number → Prop
  | .finite x, .finite y => x.negative = y.negative
  | _, _ => True

/-- Equal numbers have one text exactly if their signs agree. -/
theorem splits_debug {x y : Number} (h : x.equal y = true) :
    SplitsIff x.debug y.debug (x.Alike y) := by
  cases x <;> cases y
  case finite.finite x y => exact Json.Double.splits_of_zero (fun _ => Json.Double.debug_of_zero) h
  case infinite.infinite a b =>
    rw [of_decide_eq_true h]
    exact .same _
  all_goals cases h

end Number

/-! ## free values -/

namespace Json

mutual

/-- Objects are equal if they have the same keys and equal values under them. -/
def equal : Json → Json → Bool
  | .null, .null => true
  | .bool a, .bool b => a = b
  | .int m, .int n => m = n
  | .double x, .double y => x.equal y
  | .string s, .string t => s = t
  | .array items, .array items' => itemsEqual items items'
  | .object fields, .object fields' =>
    fields.length = fields'.length && fieldsEqual fields fields'
  | _, _ => false

def itemsEqual : List Json → List Json → Bool
  | [], [] => true
  | item :: rest, item' :: rest' => item.equal item' && itemsEqual rest rest'
  | _, _ => false

/-- The second fields have equal values under the keys of the first ones. -/
def fieldsEqual : List (String × Json) → List (String × Json) → Bool
  | [], _ => true
  | (key, value) :: rest, fields' =>
    ((fields'.lookup key).any fun value' => value.equal value') && fieldsEqual rest fields'

end

mutual

def debug : Json → List Char
  | .null => "Null".toList
  | .bool b => enclosed "Bool(" (toString b).toList ')'
  | .int n => enclosed "Number(" (toString n).toList ')'
  | .double x => enclosed "Number(" x.text.toList ')'
  | .string s => enclosed "String(" (Text.quoted s).toList ')'
  | .array items => enclosed "Array [" (itemsDebug items) ']'
  | .object fields => enclosed "Object \x7b" (fieldsDebug fields) '\x7d'

def itemsDebug : List Json → List Char
  | [] => []
  | item :: rest => item.debug ++ (separator rest ++ itemsDebug rest)

def fieldsDebug : List (String × Json) → List Char
  | [] => []
  | (key, value) :: rest =>
    (Text.quoted key).toList ++ (": ".toList ++ value.debug ++ (separator rest ++ fieldsDebug rest))

end

mutual

/-- Where both have a number, the signs agree, and where both have an object, the keys do, in
order. -/
def Alike : Json → Json → Prop
  | .double x, .double y => x.negative = y.negative
  | .array items, .array items' => ItemsAlike items items'
  | .object fields, .object fields' => FieldsAlike fields fields'
  | _, _ => True

def ItemsAlike : List Json → List Json → Prop
  | item :: rest, item' :: rest' => item.Alike item' ∧ ItemsAlike rest rest'
  | _, _ => True

def FieldsAlike : List (String × Json) → List (String × Json) → Prop
  | (key, value) :: rest, (key', value') :: rest' =>
    key = key' ∧ value.Alike value' ∧ FieldsAlike rest rest'
  | _, _ => True

end

/-- A field whose key is not asked for changes nothing. -/
theorem fieldsEqual_cons {fields fields' : List (String × Json)} {key : String} {value : Json}
    (h : key ∉ fields.map Prod.fst) :
    fieldsEqual fields ((key, value) :: fields') = fieldsEqual fields fields' := by
  induction fields with
  | nil => rw [fieldsEqual, fieldsEqual]
  | cons field rest ih =>
    obtain ⟨hne, hrest⟩ := not_or.mp (List.mem_cons.not.mp h)
    rw [fieldsEqual, fieldsEqual, ih hrest, List.lookup_cons, beq_false_of_ne (Ne.symm hne)]

theorem length_eq_of_itemsEqual {items items' : List Json} (h : itemsEqual items items' = true) :
    items.length = items'.length := by
  induction items generalizing items' with
  | nil =>
    cases items' with
    | nil => rfl
    | cons => simp [itemsEqual] at h
  | cons item rest ih =>
    cases items' with
    | nil => simp [itemsEqual] at h
    | cons item' rest' =>
      rw [itemsEqual] at h
      rw [List.length_cons, List.length_cons, ih (Bool.and_eq_true_iff.mp h).2]

/-- what has no numbers with a point and no order of fields in it -/
def IsPlain : Json → Prop
  | .null | .bool _ | .int _ | .string _ => True
  | .double _ | .array _ | .object _ => False

/-- Equal values without numbers and fields are one value. -/
theorem splits_of_plain {j j' : Json} (h : j.IsPlain) (he : j.equal j' = true) :
    SplitsIff j.debug j'.debug (j.Alike j') := by
  have hsame : j = j' ∧ j.Alike j' := by
    cases j with
    | double | array | object => cases h
    | null | bool | int | string => cases j' <;> simp_all [equal, Alike]
  rw [← hsame.1]
  exact (SplitsIff.same _).of_iff (iff_of_true trivial (hsame.1 ▸ hsame.2))

theorem eq_double_of_equal {x : Double} {j' : Json} (h : equal (.double x) j' = true) :
    ∃ y, j' = .double y ∧ x.equal y = true := by
  cases j' with
  | double y => exact ⟨y, rfl, h⟩
  | null | bool | int | string | array | object => exact absurd h Bool.false_ne_true

theorem eq_array_of_equal {items : List Json} {j' : Json} (h : equal (.array items) j' = true) :
    ∃ items', j' = .array items' ∧ itemsEqual items items' = true := by
  cases j' with
  | array items' => exact ⟨items', rfl, h⟩
  | null | bool | int | double | string | object => exact absurd h Bool.false_ne_true

theorem eq_object_of_equal {fields : List (String × Json)} {j' : Json}
    (h : equal (.object fields) j' = true) : ∃ fields', j' = .object fields' ∧
      fields.length = fields'.length ∧ fieldsEqual fields fields' = true := by
  cases j' with
  | object fields' =>
    obtain ⟨hlength, hfields⟩ := Bool.and_eq_true_iff.mp h
    exact ⟨fields', rfl, of_decide_eq_true hlength, hfields⟩
  | null | bool | int | double | string | array => exact absurd h Bool.false_ne_true

mutual

/-- Equal values have one text exactly if they are alike. -/
theorem splits_debug : ∀ (j : Json) {j' : Json}, j.Distinct → j.equal j' = true →
    SplitsIff j.debug j'.debug (j.Alike j')
  | .null, _, _, he => splits_of_plain trivial he
  | .bool _, _, _, he => splits_of_plain trivial he
  | .int _, _, _, he => splits_of_plain trivial he
  | .string _, _, _, he => splits_of_plain trivial he
  | .double x, j', _, he => by
    obtain ⟨y, rfl, hxy⟩ := eq_double_of_equal he
    rw [debug, debug, Alike]
    exact (Double.splits_of_zero (fun _ => Double.text_of_zero) hxy).enclosed _ _
  | .array items, j', .array hd, he => by
    obtain ⟨items', rfl, hi⟩ := eq_array_of_equal he
    rw [debug, debug, Alike]
    exact (splits_itemsDebug items hd hi).enclosed _ _
  | .object fields, j', .object hk hd, he => by
    obtain ⟨fields', rfl, hl, hf⟩ := eq_object_of_equal he
    rw [debug, debug, Alike]
    exact (splits_fieldsDebug fields hk hd hl hf).enclosed _ _

theorem splits_itemsDebug : ∀ (items : List Json) {items' : List Json}, (∀ j ∈ items, j.Distinct) →
    itemsEqual items items' = true →
    SplitsIff (itemsDebug items) (itemsDebug items') (ItemsAlike items items')
  | [], [], _, _ => (SplitsIff.same _).of_iff (by simp [ItemsAlike])
  | [], _ :: _, _, he => by simp [itemsEqual] at he
  | _ :: _, [], _, he => by simp [itemsEqual] at he
  | item :: rest, item' :: rest', hd, he => by
    rw [itemsEqual] at he
    obtain ⟨hitem, hrest⟩ := Bool.and_eq_true_iff.mp he
    obtain ⟨hd₁, hd₂⟩ := List.forall_mem_cons.mp hd
    rw [itemsDebug, itemsDebug, ItemsAlike, separator_eq (length_eq_of_itemsEqual hrest)]
    exact (splits_debug item hd₁ hitem).append fun _ => (splits_itemsDebug rest hd₂ hrest).behind _

/-- The fields stand in the order of their keys: where the first keys agree, they have equal values,
and the others are compared without them. -/
theorem splits_fieldsDebug : ∀ (fields : List (String × Json)) {fields' : List (String × Json)},
    (fields.map Prod.fst).Nodup → (∀ f ∈ fields, f.2.Distinct) →
    fields.length = fields'.length → fieldsEqual fields fields' = true →
    SplitsIff (fieldsDebug fields) (fieldsDebug fields') (FieldsAlike fields fields')
  | [], [], _, _, _, _ => (SplitsIff.same _).of_iff (by simp [FieldsAlike])
  | [], _ :: _, _, _, hl, _ => by cases hl
  | _ :: _, [], _, _, hl, _ => by cases hl
  | (key, value) :: rest, (key', value') :: rest', hk, hd, hl, he => by
    obtain ⟨hkey, hk⟩ := List.nodup_cons.mp hk
    obtain ⟨hd₁, hd₂⟩ := List.forall_mem_cons.mp hd
    replace hl := Nat.succ.inj hl
    rw [fieldsDebug, fieldsDebug, FieldsAlike, separator_eq hl]
    refine (Text.splits_quoted key key').append fun hkeys => ?_
    subst hkeys
    rw [fieldsEqual, fieldsEqual_cons hkey, List.lookup_cons_self] at he
    obtain ⟨hvalue, hrest⟩ := Bool.and_eq_true_iff.mp he
    exact ((splits_debug value hd₁ hvalue).behind _).append fun _ =>
      (splits_fieldsDebug rest hk hd₂ hl hrest).behind _

end

end Json

end SchemaModel

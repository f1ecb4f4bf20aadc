import Mathlib
import SchemaModel.Model.Hash

/-!
# One change to a class changes its hash

Each step of a hash multiplies by an odd number, which loses nothing on words, and then adds a part
or has xored a byte in before. So a hash keeps what any one of its parts is, whatever the others
are: a byte of a text, a text or a flag of a property, a property of a class. When one text of a
class is replaced, the hash of the class changes if and only if the hash of the text does.

* `add_left_inj`, `add_right_inj`   a part, and what came before it, can be told from the sum;
* `text_ne_of_oneByteApart`         one byte of a text changes its hash;
* `hashCode_iff_of_retexted`        one text of a class, however deep in it;
* `hashCode_ne_of_flipped`          one flag of a class or a property;
* `hashCode_of_one_change`          all of it.
-/

namespace SchemaModel

namespace Hash

/-- two texts whose UTF-8 forms have the same length and differ in one byte -/
def OneByteApart (s t : String) : Prop :=
  s.utf8ByteSize = t.utf8ByteSize ∧
    (s.toByteArray.data.toList.zip t.toByteArray.data.toList).countP (fun (a, b) => a ≠ b) = 1

instance (s t : String) : Decidable (OneByteApart s t) :=
  inferInstanceAs (Decidable (_ ∧ _))

/-! ## parts -/

/-- A number that has an inverse can be cancelled. -/
theorem mul_left_inj_of_inverse {m inverse a b : UInt32} (h : m * inverse = 1) :
    a * m = b * m ↔ a = b := by
  refine ⟨fun he => ?_, congrArg (· * m)⟩
  calc a = a * m * inverse := by rw [UInt32.mul_assoc, h, UInt32.mul_one]
    _ = b * m * inverse := by rw [he]
    _ = b := by rw [UInt32.mul_assoc, h, UInt32.mul_one]

@[simp] theorem add_left_inj {h h' part : UInt32} : add h part = add h' part ↔ h = h' := by
  rw [add, add, UInt32.add_left_inj]
  exact mul_left_inj_of_inverse (show multiplier * 0xBDEF7BDF = 1 by decide)

@[simp] theorem add_right_inj {h part part' : UInt32} :
    add h part = add h part' ↔ part = part' := UInt32.add_right_inj _

@[simp] theorem addText_left_inj {h h' : UInt32} {s : String} :
    addText h s = addText h' s ↔ h = h' := add_left_inj

@[simp] theorem addText_right_inj {h : UInt32} {s t : String} :
    addText h s = addText h t ↔ text s = text t := add_right_inj

@[simp] theorem addText?_left_inj {h h' : UInt32} {s : Option String} :
    addText? h s = addText? h' s ↔ h = h' := add_left_inj

@[simp] theorem addText?_some_inj {h : UInt32} {s t : String} :
    addText? h (some s) = addText? h (some t) ↔ text s = text t := add_right_inj

@[simp] theorem addBool_left_inj {h h' : UInt32} {b : Bool} :
    addBool h b = addBool h' b ↔ h = h' := add_left_inj

@[simp] theorem addBool_right_inj {h : UInt32} {b b' : Bool} :
    addBool h b = addBool h b' ↔ b = b' := by
  rw [addBool, addBool, add_right_inj]
  cases b <;> cases b' <;> decide

@[simp] theorem foldl_add_inj {h h' : UInt32} {parts : List UInt32} :
    parts.foldl add h = parts.foldl add h' ↔ h = h' := by
  induction parts generalizing h h' with
  | nil => rfl
  | cons part rest ih => rw [List.foldl_cons, List.foldl_cons, ih, add_left_inj]

/-! ## bytes -/

theorem mul_prime_inj {a b : UInt32} : a * 0x01000193 = b * 0x01000193 ↔ a = b :=
  mul_left_inj_of_inverse (show 0x01000193 * 0x359C449B = 1 by decide)

theorem bytesFrom_cons (h : UInt32) (b : UInt8) (bytes : List UInt8) :
    bytesFrom h (b :: bytes) = bytesFrom ((h ^^^ b.toUInt32) * 0x01000193) bytes := rfl

theorem bytesFrom_inj {h h' : UInt32} {bytes : List UInt8} :
    bytesFrom h bytes = bytesFrom h' bytes ↔ h = h' := by
  induction bytes generalizing h h' with
  | nil => rfl
  | cons b rest ih =>
    rw [bytesFrom_cons, bytesFrom_cons, ih, mul_prime_inj, UInt32.xor_left_inj]

theorem bytesFrom_cons_inj {h : UInt32} {a b : UInt8} {bytes : List UInt8} :
    bytesFrom h (a :: bytes) = bytesFrom h (b :: bytes) ↔ a = b := by
  rw [bytesFrom_cons, bytesFrom_cons, bytesFrom_inj, mul_prime_inj, UInt32.xor_right_inj,
    UInt8.toUInt32_inj]

theorem eq_of_countP_zip {s t : List UInt8} (hl : s.length = t.length)
    (hnone : (s.zip t).countP (fun (a, b) => a ≠ b) = 0) : s = t := by
  rw [← List.forall₂_eq_eq_eq, List.forall₂_iff_zip]
  exact ⟨hl, fun hm => by simpa using List.countP_eq_zero.mp hnone _ hm⟩

/-- Bytes that differ once have different hashes. -/
theorem bytesFrom_ne {h : UInt32} {s t : List UInt8} (hl : s.length = t.length)
    (hone : (s.zip t).countP (fun (a, b) => a ≠ b) = 1) : bytesFrom h s ≠ bytesFrom h t := by
  induction s generalizing t h with
  | nil => cases hone
  | cons a s ih =>
    cases t with
    | nil => cases hl
    | cons b t =>
      have hrest : s.length = t.length := Nat.succ.inj hl
      rw [List.zip_cons_cons, List.countP_cons] at hone
      by_cases hab : a = b
      · subst hab
        rw [bytesFrom_cons, bytesFrom_cons]
        exact ih hrest (by simpa using hone)
      · -- the bytes behind the change are the same
        obtain rfl : s = t := eq_of_countP_zip hrest (by simpa [hab] using hone)
        rw [ne_eq, bytesFrom_cons_inj]
        exact hab

/-- The bytes that are hashed are those of the text. -/
theorem flatMap_utf8EncodeChar (s : String) :
    s.toList.flatMap String.utf8EncodeChar = s.toByteArray.data.toList := by
  rw [← String.utf8Encode_toList]
  simp [List.utf8Encode]

/-- One byte of a text changes its hash. -/
theorem text_ne_of_oneByteApart {s t : String} (h : OneByteApart s t) : text s ≠ text t := by
  obtain ⟨hl, hone⟩ := h
  rw [text, text, flatMap_utf8EncodeChar, flatMap_utf8EncodeChar]
  exact bytesFrom_ne hl hone

end Hash

open Hash

/-! ## one text -/

/-- two types with `s` and `t` for the name that they refer to -/
inductive TypeRef.Retexted (s t : String) : TypeRef → TypeRef → Prop
  | classNamed : Retexted s t (.classNamed s) (.classNamed t)
  | enumNamed : Retexted s t (.enumNamed s) (.enumNamed t)
  | sequence {a b : TypeRef} (h : Retexted s t a b) : Retexted s t (.sequence a) (.sequence b)

/-- two properties with `s` and `t` for one text, and the same for all else -/
inductive Property.Retexted (s t : String) : Property → Property → Prop
  | name (p : Property) : Retexted s t { p with name := s } { p with name := t }
  | jsonName (p : Property) : Retexted s t { p with jsonName := s } { p with jsonName := t }
  | type {a b : TypeRef} (p : Property) (h : a.Retexted s t b) :
      Retexted s t { p with type := a } { p with type := b }
  | description (p : Property) :
      Retexted s t { p with description := some s } { p with description := some t }

/-- two classes with `s` and `t` for one text, and the same for all else -/
inductive ClassModel.Retexted (s t : String) : ClassModel → ClassModel → Prop
  | namespaceName (c : ClassModel) :
      Retexted s t { c with namespaceName := s } { c with namespaceName := t }
  | name (c : ClassModel) : Retexted s t { c with name := s } { c with name := t }
  | description (c : ClassModel) :
      Retexted s t { c with description := some s } { c with description := some t }
  | property {p q : Property} (c : ClassModel) (front behind : List Property)
      (h : p.Retexted s t q) :
      Retexted s t { c with properties := front ++ p :: behind }
        { c with properties := front ++ q :: behind }

section
variable {s t : String}

theorem TypeRef.Retexted.hashCode_iff {a b : TypeRef} (h : a.Retexted s t b) :
    a.hashCode = b.hashCode ↔ text s = text t := by
  induction h with
  | classNamed => exact addText_right_inj
  | enumNamed => exact addText_right_inj
  | sequence _ ih => exact add_right_inj.trans ih

theorem Property.Retexted.hashCode_iff {p q : Property} (h : p.Retexted s t q) :
    p.hashCode = q.hashCode ↔ text s = text t := by
  cases h with
  | name => simp [Property.hashCode]
  | jsonName => simp [Property.hashCode]
  | type p ht => simp [Property.hashCode, ht.hashCode_iff]
  | description => simp [Property.hashCode]

/-- The properties of a class with another property in the place of one. -/
theorem ClassModel.hashCode_property_iff {c : ClassModel} {front behind : List Property}
    {p q : Property} :
    ({ c with properties := front ++ p :: behind } : ClassModel).hashCode =
      ({ c with properties := front ++ q :: behind } : ClassModel).hashCode ↔
      p.hashCode = q.hashCode := by
  simp [ClassModel.hashCode]

theorem ClassModel.Retexted.hashCode_iff {a b : ClassModel} (h : a.Retexted s t b) :
    a.hashCode = b.hashCode ↔ text s = text t := by
  cases h with
  | namespaceName => simp [ClassModel.hashCode]
  | name => simp [ClassModel.hashCode]
  | description => simp [ClassModel.hashCode]
  | property c front behind hp => exact hashCode_property_iff.trans hp.hashCode_iff

end

/-! ## one flag -/

/-- two classes with `b` and `!b` for one flag, and the same for all else -/
inductive ClassModel.Flipped (b : Bool) : ClassModel → ClassModel → Prop
  | overrides (c : ClassModel) : Flipped b { c with overrides := b } { c with overrides := !b }
  | required (c : ClassModel) (front behind : List Property) (p : Property) :
      Flipped b { c with properties := front ++ { p with required := b } :: behind }
        { c with properties := front ++ { p with required := !b } :: behind }

theorem ClassModel.Flipped.hashCode_ne {flag : Bool} {a b : ClassModel} (h : a.Flipped flag b) :
    a.hashCode ≠ b.hashCode := by
  cases h with
  | overrides => simp [ClassModel.hashCode]
  | required c front behind p =>
    rw [ne_eq, hashCode_property_iff]
    simp [Property.hashCode]

/-! ## one change -/

/-- When one text of a class is replaced, the hash of the class changes if and only if the hash of
the text does, and so always when one byte of the text changes. When one flag is turned, the hash
of the class always changes. -/
theorem ClassModel.hashCode_of_one_change {a b : ClassModel} :
    (∀ s t, a.Retexted s t b →
      (a.hashCode = b.hashCode ↔ text s = text t) ∧
      (OneByteApart s t → a.hashCode ≠ b.hashCode)) ∧
    ∀ flag, a.Flipped flag b → a.hashCode ≠ b.hashCode :=
  ⟨fun _ _ h => ⟨h.hashCode_iff, fun hone he =>
    text_ne_of_oneByteApart hone (h.hashCode_iff.mp he)⟩, fun _ h => h.hashCode_ne⟩

/-- a class with a property for lists of lists of another one -/
def shelf (element : String) (required overrides : Bool) : ClassModel where
  namespaceName := "N"
  name := "Shelf"
  description := none
  properties := [⟨"Id", "id", .string, true, none⟩,
    ⟨"Books", "books", .sequence (.sequence (.classNamed element)), required, none⟩]
  overrides := overrides

/-- Texts with one hash, texts that are one byte apart, and both flags. -/
theorem hashCode_of_shelf :
    (shelf "costarring" true true).hashCode = (shelf "liquid" true true).hashCode ∧
    OneByteApart "Book" "Boot" ∧
    (shelf "Book" true true).hashCode ≠ (shelf "Boot" true true).hashCode ∧
    (shelf "Book" true true).hashCode ≠ (shelf "Book" false true).hashCode ∧
    (shelf "Book" true true).hashCode ≠ (shelf "Book" true false).hashCode := by
  have hretexted (s t : String) : (shelf s true true).Retexted s t (shelf t true true) :=
    .property (shelf s true true) [⟨"Id", "id", .string, true, none⟩] []
      (.type ⟨"Books", "books", .any, true, none⟩ (.sequence (.sequence .classNamed)))
  have hrequired : (shelf "Book" true true).Flipped true (shelf "Book" false true) :=
    .required (shelf "Book" true true) [⟨"Id", "id", .string, true, none⟩] []
      ⟨"Books", "books", .sequence (.sequence (.classNamed "Book")), true, none⟩
  have hoverrides : (shelf "Book" true true).Flipped true (shelf "Book" true false) :=
    .overrides (shelf "Book" true true)
  have hone : OneByteApart "Book" "Boot" := by decide
  exact ⟨(ClassModel.hashCode_of_one_change.1 _ _ (hretexted _ _)).1.mpr (by decide), hone,
    (ClassModel.hashCode_of_one_change.1 _ _ (hretexted _ _)).2 hone,
    ClassModel.hashCode_of_one_change.2 _ hrequired,
    ClassModel.hashCode_of_one_change.2 _ hoverrides⟩

end SchemaModel

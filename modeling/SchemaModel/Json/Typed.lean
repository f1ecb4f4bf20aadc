import SchemaModel.Json.Printer
import SchemaModel.Text.Quoted

/-!
# Fields of a given type

Readers that take a value as a text, a map or a sequence, and the message for a value of another
type. An optional field may be absent or null.

* `asTexts_eq_ok_iff`   a sequence of texts is read exactly from the strings it holds.
-/

namespace SchemaModel.Json

/-- the type that a field must have -/
inductive Shape where
  | text
  | map
  | sequence
  deriving DecidableEq, Repr

def Shape.name : Shape → String
  | text => "a string"
  | map => "a map"
  | sequence => "a sequence"

/-- a value of another type than its field must have -/
structure Mismatch where
  found : Json
  expected : Shape
  deriving Repr

/-- what a message calls a value -/
def describe : Json → String
  | null => "null"
  | bool true => "boolean `true`"
  | bool false => "boolean `false`"
  | int n => "integer `" ++ toString n ++ "`"
  | double x => "floating point `" ++ x.text ++ "`"
  | string s => "string " ++ Text.quoted s
  | array _ => "sequence"
  | object _ => "map"

def Mismatch.message (m : Mismatch) : String :=
  "invalid type: " ++ m.found.describe ++ ", expected " ++ m.expected.name

/-! ## readers -/

def asText : Json → Except Mismatch String
  | string s => .ok s
  | other => .error ⟨other, .text⟩

def asFields : Json → Except Mismatch (List (String × Json))
  | object fields => .ok fields
  | other => .error ⟨other, .map⟩

def asItems : Json → Except Mismatch (List Json)
  | array items => .ok items
  | other => .error ⟨other, .sequence⟩

/-- a sequence whose items are texts -/
def asTexts (j : Json) : Except Mismatch (List String) := do
  (← j.asItems).mapM asText

/-- A value of an optional field. A null stands for an absent field. -/
def optional (read : Json → Except Mismatch α) : Json → Except Mismatch (Option α)
  | null => .ok none
  | j => some <$> read j

/-! ## fields of an object -/

/-- the fault of a result -/
def faultOf : Except ε α → Option ε
  | .ok _ => none
  | .error e => some e

/-- the text under a key -/
def textAt? (key : String) (fields : List (String × Json)) : Option String :=
  match fields.lookup key with
  | some (.string s) => some s
  | _ => none

/-- the texts in the sequence under a key -/
def textsAt? (key : String) (fields : List (String × Json)) : Option (List String) :=
  match fields.lookup key with
  | some (.array items) => some (items.filterMap fun
    | .string s => some s
    | _ => none)
  | _ => none

/-! ## what the readers accept -/

theorem asText_eq_ok_iff {j : Json} {s : String} : j.asText = .ok s ↔ j = .string s := by
  cases j <;> simp [asText]

theorem asFields_eq_ok_iff {j : Json} {fields : List (String × Json)} :
    j.asFields = .ok fields ↔ j = .object fields := by
  cases j <;> simp [asFields]

theorem asItems_eq_ok_iff {j : Json} {items : List Json} :
    j.asItems = .ok items ↔ j = .array items := by
  cases j <;> simp [asItems]

theorem mapM_asText_eq_ok_iff {items : List Json} {ss : List String} :
    items.mapM asText = .ok ss ↔ items = ss.map .string := by
  induction items generalizing ss with
  | nil => cases ss <;> simp [pure, Except.pure]
  | cons item rest ih =>
    cases item <;> cases ss <;>
      simp only [List.mapM_cons, asText, bind, Except.bind, List.map_cons, List.map_nil,
        List.cons.injEq, reduceCtorEq, false_and]
    all_goals
      cases h : List.mapM asText rest
      all_goals
        simp only [pure, Except.pure, Except.ok.injEq, List.cons.injEq, reduceCtorEq,
          Json.string.injEq, false_iff, not_and]
    · intro _ he
      rw [ih.mpr he] at h
      cases h
    · exact and_congr Iff.rfl ⟨fun e => ih.mp (e ▸ h), fun e => by rw [ih.mpr e] at h; cases h; rfl⟩

theorem asTexts_eq_ok_iff {j : Json} {ss : List String} :
    j.asTexts = .ok ss ↔ j = .array (ss.map .string) := by
  cases j <;> simp [asTexts, asItems, bind, Except.bind, mapM_asText_eq_ok_iff]

end SchemaModel.Json

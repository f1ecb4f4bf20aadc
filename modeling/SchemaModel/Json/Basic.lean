import SchemaModel.Json.Double

/-!
# JSON values

An object is the list of its fields in document order. A reader never gives two fields of one key.
-/

namespace SchemaModel

inductive Json where
  | null
  | bool (b : Bool)
  /-- an integer of 64 bits, with or without sign -/
  | int (n : Int)
  | double (x : Json.Double)
  | string (s : String)
  | array (items : List Json)
  | object (fields : List (String × Json))
  deriving Repr

namespace Json

/-- Sets a field. A key already there keeps its place. -/
def setField (key : String) (value : Json) : List (String × Json) → List (String × Json)
  | [] => [(key, value)]
  | (k, v) :: rest => if k = key then (key, value) :: rest else (k, v) :: setField key value rest

/-- Takes a field out. The last field moves into its place. -/
def takeField (key : String) (fields : List (String × Json)) : List (String × Json) :=
  match fields.getLast? with
  | none => []
  | some last =>
    if last.1 = key then fields.dropLast
    else fields.dropLast.map fun field => if field.1 = key then last else field

theorem keys_setField (key : String) (value : Json) (fields : List (String × Json)) :
    (setField key value fields).map Prod.fst =
      if key ∈ fields.map Prod.fst then fields.map Prod.fst
      else fields.map Prod.fst ++ [key] := by
  induction fields with
  | nil => simp [setField]
  | cons field rest ih =>
    obtain ⟨k, v⟩ := field
    by_cases h : k = key
    · simp [setField, h]
    · rw [setField, if_neg h]
      simp only [List.map_cons, ih, List.mem_cons, Ne.symm h, false_or]
      split <;> simp

/-- A field is set without giving two fields of one key. -/
theorem nodup_keys_setField {key : String} {value : Json} {fields : List (String × Json)}
    (h : (fields.map Prod.fst).Nodup) : ((setField key value fields).map Prod.fst).Nodup := by
  rw [keys_setField]
  split
  · exact h
  · next hk =>
    exact List.nodup_append.mpr ⟨h, by simp, fun a ha b hb => by
      rw [List.mem_singleton.mp hb]
      exact fun e => hk (e ▸ ha)⟩

end Json

end SchemaModel

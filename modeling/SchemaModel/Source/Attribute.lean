/-!
# Texts in attributes

A text in an attribute stands between quotes; a quote or a backslash in it has a backslash in front.

* `readLiteral_escape`   a text reads back, whatever follows its closing quote.
-/

namespace SchemaModel.Source

/-- a text as it stands between quotes -/
def escape : List Char → List Char
  | [] => []
  | c :: rest => if c = '\\' ∨ c = '"' then '\\' :: c :: escape rest else c :: escape rest

/-- The text in front of the first quote that has no backslash before it, and what follows this
quote. -/
def readLiteral : List Char → Option (List Char × List Char)
  | [] => none
  | '"' :: rest => some ([], rest)
  | ['\\'] => none
  | '\\' :: c :: rest => (readLiteral rest).map fun (s, behind) => (c :: s, behind)
  | c :: rest => (readLiteral rest).map fun (s, behind) => (c :: s, behind)

theorem readLiteral_escape (s behind : List Char) :
    readLiteral (escape s ++ '"' :: behind) = some (s, behind) := by
  induction s with
  | nil => simp [escape, readLiteral]
  | cons c rest ih =>
    by_cases h : c = '\\' ∨ c = '"'
    · simp [escape, h, readLiteral, ih]
    · rw [escape, if_neg h, List.cons_append, readLiteral.eq_def]
      split <;> simp_all

/-- the attribute that says under which text a field or variant is written -/
def rename (s : String) : String :=
  "    #[serde(rename = \"" ++ String.ofList (escape s.toList) ++ "\")]"

end SchemaModel.Source

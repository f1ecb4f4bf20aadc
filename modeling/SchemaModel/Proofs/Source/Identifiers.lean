import SchemaModel.Naming
import SchemaModel.Proofs.Text.Words

/-!
# Identifiers of fields and modules

A name in snake case consists of letters, digits and `_`, so no character such as `#` or `/` gets
into it. A field or module therefore is a keyword behind `r#`, or a text that is no keyword and has
no `#` in it, and nothing is lost when the mark of raw identifiers is dropped.

* `unmarked_snake`           a name in snake case holds no such character;
* `isIdentifier_fieldName`   the two forms of the identifier of a field or module;
* `IsIdentifier.plain_inj`   identifiers stay distinct without the mark of raw ones;
* `fieldName_eq_raw_iff`     which names become a raw identifier.
-/

namespace SchemaModel

namespace Text

/-! ## characters of names -/

/-- the characters of ASCII between the blank and the digits -/
def isMark (c : Char) : Bool := 33 ≤ c.toNat && c.toNat < 48

/-- no character of a text is a mark -/
def Unmarked (s : String) : Prop := ∀ c ∈ s.toList, isMark c = false

instance : DecidablePred Unmarked := fun s => List.decidableBAll (isMark · = false) s.toList

theorem Unmarked.append {s t : String} (hs : Unmarked s) (ht : Unmarked t) :
    Unmarked (s ++ t) := by
  intro c hc
  rw [String.toList_append, List.mem_append] at hc
  exact hc.elim (hs c) (ht c)

theorem not_isMark_of_isWordChar {c : Char} (h : isWordChar c = true) : isMark c = false := by
  by_cases hascii : c.toNat < 128
  · have hall : ∀ n < 128, isWordChar (Char.ofNat n) = true → isMark (Char.ofNat n) = false := by
      decide
    have hmark := hall _ hascii (by rwa [Char.ofNat_toNat])
    rwa [Char.ofNat_toNat] at hmark
  · rw [isMark, Bool.and_eq_false_iff, decide_eq_false_iff_not, decide_eq_false_iff_not]
    omega

/-- A name in snake case holds no mark. -/
theorem unmarked_snake (s : String) : Unmarked (snake s) := by
  intro c hc
  rcases mem_snake hc with rfl | hword
  · rfl
  · exact not_isMark_of_isWordChar hword

end Text

namespace Naming

/-! ## the identifier of a name -/

theorem guarded_eq (name : String) :
    guarded '_' name = name ∨ guarded '_' name = "_" ++ name := by
  unfold guarded
  split
  · next hname => exact .inr (by rw [String.toList_eq_nil_iff.mp hname]; rfl)
  · split
    · exact .inr rfl
    · exact .inl rfl

theorem unmarked_guarded {name : String} (h : Text.Unmarked name) :
    Text.Unmarked (guarded '_' name) := by
  rcases guarded_eq name with hg | hg
  · rwa [hg]
  · rw [hg]
    exact .append (by decide) h

theorem unmarked_of_mem_keywords {k : String} (hk : k ∈ keywords) : Text.Unmarked k := by
  have hall : ∀ k ∈ keywords, Text.Unmarked k := by decide
  exact hall k hk

theorem underscore_not_mem_of_mem_keywords {k : String} (hk : k ∈ keywords) : '_' ∉ k.toList := by
  have hall : ∀ k ∈ keywords, '_' ∉ k.toList := by decide
  exact hall k hk

/-- a keyword as a raw identifier, or a text that is no keyword and holds no mark -/
def IsIdentifier (name : String) : Prop :=
  (∃ k ∈ keywords, name = "r#" ++ k) ∨ name ∉ keywords ∧ Text.Unmarked name

/-- With `_` in it a text is no keyword. -/
theorem isIdentifier_of_underscore {name : String} (h : '_' ∈ name.toList)
    (hmark : Text.Unmarked name) : IsIdentifier name :=
  .inr ⟨fun hk => underscore_not_mem_of_mem_keywords hk h, hmark⟩

theorem isIdentifier_fieldName (s : String) : IsIdentifier (fieldName s) := by
  have hmark := unmarked_guarded (Text.unmarked_snake s)
  unfold fieldName
  dsimp only
  split
  · exact isIdentifier_of_underscore (by simp) (hmark.append (by decide))
  · split
    · next hk => exact .inl ⟨_, hk, rfl⟩
    · next hk => exact .inr ⟨hk, hmark⟩

/-! ## identifiers without the mark of raw ones -/

theorem dropRaw_of_not_mem {s : List Char} (h : '#' ∉ s) : dropRaw s = s := by
  unfold dropRaw
  split
  · exact absurd (by simp) h
  · rfl

theorem plain_of_unmarked {name : String} (h : Text.Unmarked name) : plain name = name := by
  have hraw : '#' ∉ name.toList := fun hm => absurd (h '#' hm) (by decide)
  rw [plain, dropRaw_of_not_mem hraw, String.ofList_toList]

theorem plain_raw {k : String} (h : k ∈ keywords) : plain ("r#" ++ k) = k := by
  have hall : ∀ k ∈ keywords, plain ("r#" ++ k) = k := by decide
  exact hall k h

theorem IsIdentifier.unmarked_plain {name : String} (h : IsIdentifier name) :
    Text.Unmarked (plain name) := by
  rcases h with ⟨k, hk, rfl⟩ | ⟨-, hmark⟩
  · rw [plain_raw hk]
    exact unmarked_of_mem_keywords hk
  · rwa [plain_of_unmarked hmark]

/-- Two identifiers that differ only by the mark of raw ones are the same. -/
theorem IsIdentifier.plain_inj {a b : String} (ha : IsIdentifier a) (hb : IsIdentifier b)
    (h : plain a = plain b) : a = b := by
  rcases ha with ⟨k, hk, rfl⟩ | ⟨hka, hma⟩
  · rw [plain_raw hk] at h
    rcases hb with ⟨l, hl, rfl⟩ | ⟨hkb, hmb⟩
    · rw [h, plain_raw hl]
    · rw [plain_of_unmarked hmb] at h
      exact absurd (h ▸ hk) hkb
  · rw [plain_of_unmarked hma] at h
    rcases hb with ⟨l, hl, rfl⟩ | ⟨hkb, hmb⟩
    · rw [plain_raw hl] at h
      exact absurd (h ▸ hl) hka
    · rwa [plain_of_unmarked hmb] at h

theorem IsIdentifier.plain_eq_iff {name k : String} (h : IsIdentifier name) (hk : k ∈ keywords) :
    plain name = k ↔ name = "r#" ++ k := by
  constructor
  · intro hp
    exact h.plain_inj (.inl ⟨k, hk, rfl⟩) (hp.trans (plain_raw hk).symm)
  · rintro rfl
    exact plain_raw hk

/-- Without the mark there remains the name in snake case, or one with `_` behind it where no raw
identifier exists. -/
theorem plain_fieldName_eq (s : String) :
    plain (fieldName s) =
      if guarded '_' (Text.snake s) ∈ pathKeywords then guarded '_' (Text.snake s) ++ "_"
      else guarded '_' (Text.snake s) := by
  have hmark := unmarked_guarded (Text.unmarked_snake s)
  unfold fieldName
  dsimp only
  split
  · exact plain_of_unmarked (hmark.append (by decide))
  · split
    · next hk => exact plain_raw hk
    · exact plain_of_unmarked hmark

theorem plain_fieldName (s : String) :
    plain (fieldName s) = guarded '_' (Text.snake s) ∨
      plain (fieldName s) = guarded '_' (Text.snake s) ++ "_" := by
  rw [plain_fieldName_eq]
  split
  · exact .inr rfl
  · exact .inl rfl

/-- A field or module is the raw identifier of a keyword if and only if its name in snake case is
this keyword. -/
theorem fieldName_eq_raw_iff {s k : String} (hk : k ∈ keywords) (hp : k ∉ pathKeywords) :
    fieldName s = "r#" ++ k ↔ Text.snake s = k := by
  have hself : ∀ k ∈ keywords, guarded '_' k = k := by decide
  constructor
  · intro h
    have hplain : plain (fieldName s) = k := by rw [h, plain_raw hk]
    -- `_` is in no keyword, so nothing was put in front or behind
    have hunderscore : '_' ∉ (plain (fieldName s)).toList :=
      hplain ▸ underscore_not_mem_of_mem_keywords hk
    rcases plain_fieldName s with hs | hs
    · rcases guarded_eq (Text.snake s) with hg | hg
      · rw [← hplain, hs, hg]
      · exact absurd (by simp [hs, hg]) hunderscore
    · exact absurd (by simp [hs]) hunderscore
  · rintro rfl
    rw [fieldName, hself _ hk]
    simp only [if_neg hp, if_pos hk]

end Naming

end SchemaModel

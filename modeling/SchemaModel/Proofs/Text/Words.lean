import SchemaModel.Proofs.Text.Casing

/-!
# Words of names

The words of a text are not empty and hold letters and digits only. So `_` is in none of them, and
the words of a name in snake case can be read off it: two texts have the same name in snake case if
and only if their words differ in case at most.

* `isAlphanumeric_of_mem_words`   what words are made of;
* `words_ne_nil`                  a text with a letter or digit has a word;
* `snake_inj`                     when two names in snake case are the same;
* `upperCamel_spec`, `snake_spec`   the characters of names in both cases.
-/

namespace SchemaModel.Text

/-! ## cutting -/

/-- No word is empty: one that ends before a character has ended in an upper case letter. -/
theorem ne_nil_of_mem_caseWords {seen : LetterCase} {word s w : List Char}
    (h : seen = .upper → word ≠ []) (hw : w ∈ caseWords seen word s) : w ≠ [] := by
  fun_induction caseWords seen word s with
  | case1 => cases hw
  | case2 seen word c =>
    rw [List.mem_singleton.mp hw]
    simp
  | case3 seen word c next rest _ ih =>
    rcases List.mem_cons.mp hw with rfl | hw
    · simp
    · exact ih (by simp) hw
  | case4 seen word c next rest _ hcut ih =>
    rcases List.mem_cons.mp hw with rfl | hw
    · exact h hcut.1
    · exact ih (by simp) hw
  | case5 seen word c next rest _ _ ih => exact ih (fun _ => by simp) hw

theorem ne_nil_of_mem_words {s w : List Char} (hw : w ∈ words s) : w ≠ [] := by
  obtain ⟨piece, -, hw⟩ := List.mem_flatMap.mp hw
  have hstart : LetterCase.none = .upper → ([] : List Char) ≠ [] := nofun
  exact ne_nil_of_mem_caseWords hstart hw

/-- Words consist of letters and digits. -/
theorem isAlphanumeric_of_mem_words {s w : List Char} (hw : w ∈ words s) {c : Char}
    (hc : c ∈ w) : isAlphanumeric c = true := by
  obtain ⟨piece, hpiece, hw⟩ := List.mem_flatMap.mp hw
  have hne : piece ≠ [] := by
    rintro rfl
    exact absurd hw List.not_mem_nil
  have hcp : c ∈ piece := by
    have hflat := List.mem_flatten.mpr ⟨w, hw, hc⟩
    rwa [flatten_caseWords .none [] piece hne] at hflat
  simpa using not_of_mem_pieces hpiece hcp

theorem exists_piece_of_mem {p : Char → Bool} {s : List Char} {c : Char} (hc : c ∈ s)
    (hp : p c = false) : ∃ piece ∈ pieces p s, c ∈ piece := by
  induction s with
  | nil => cases hc
  | cons d rest ih =>
    rw [pieces_cons]
    split
    · next hd =>
      have hrest : c ∈ rest := by
        rcases List.mem_cons.mp hc with rfl | hc
        · rw [hp] at hd
          cases hd
        · exact hc
      obtain ⟨piece, hpiece, hin⟩ := ih hrest
      exact ⟨piece, List.mem_cons_of_mem _ hpiece, hin⟩
    · cases hpieces : pieces p rest with
      | nil => exact absurd hpieces (pieces_ne_nil p rest)
      | cons first others =>
        rw [List.modifyHead_cons]
        rcases List.mem_cons.mp hc with rfl | hc
        · exact ⟨_, List.mem_cons_self, List.mem_cons_self⟩
        · obtain ⟨piece, hpiece, hin⟩ := ih hc
          rw [hpieces] at hpiece
          rcases List.mem_cons.mp hpiece with rfl | hpiece
          · exact ⟨_, List.mem_cons_self, List.mem_cons_of_mem _ hin⟩
          · exact ⟨piece, List.mem_cons_of_mem _ hpiece, hin⟩

/-- A text with a letter or digit in it has a word. -/
theorem words_ne_nil {s : List Char} {c : Char} (hc : c ∈ s) (halpha : isAlphanumeric c = true) :
    words s ≠ [] := by
  obtain ⟨piece, hpiece, hin⟩ := exists_piece_of_mem (p := fun d => !isAlphanumeric d) hc
    (by rw [halpha]; rfl)
  have hne : piece ≠ [] := List.ne_nil_of_mem hin
  intro hnone
  have hcut : caseWords .none [] piece = [] := List.flatMap_eq_nil_iff.mp hnone piece hpiece
  have hflat := flatten_caseWords .none [] piece hne
  rw [hcut] at hflat
  exact hne hflat.symm

/-! ## words in another case -/

/-- A word in lower case: its first character, if it is ASCII, is a lower case letter or a digit. -/
theorem lowerWord_spec {w : List Char} (hne : w ≠ [])
    (hw : ∀ c ∈ w, isAlphanumeric c = true) :
    ∃ d rest, lowerWord w = d :: rest ∧ (d.toNat < 128 → isLowDigit d = true) ∧
      ∀ e ∈ rest, isWordChar e = true := by
  fun_induction lowerWord w with
  | case1 => exact absurd rfl hne
  | case2 => exact ⟨'ς', [], rfl, by decide, nofun⟩
  | case3 c rest _ ih =>
    obtain ⟨d, more, hd, hlow, hmore⟩ := toLower_spec (hw c List.mem_cons_self)
    refine ⟨d, more ++ lowerWord rest, by rw [hd]; rfl, hlow, fun e he => ?_⟩
    rcases List.mem_append.mp he with he | he
    · exact hmore e he
    · by_cases hrest : rest = []
      · subst hrest
        cases he
      · obtain ⟨f, others, hf, hflow, hothers⟩ :=
          ih hrest fun c hc => hw c (List.mem_cons_of_mem _ hc)
        rw [hf] at he
        rcases List.mem_cons.mp he with rfl | he
        · exact isWordChar_of_ascii fun hascii => isAlphanum_of_isLowDigit (hflow hascii)
        · exact hothers e he

theorem isWordChar_of_mem_lowerWord {w : List Char} (hw : ∀ c ∈ w, isAlphanumeric c = true)
    {d : Char} (hd : d ∈ lowerWord w) : isWordChar d = true := by
  have hne : w ≠ [] := by
    rintro rfl
    cases hd
  obtain ⟨first, rest, hword, hlow, hrest⟩ := lowerWord_spec hne hw
  rw [hword] at hd
  rcases List.mem_cons.mp hd with rfl | hd
  · exact isWordChar_of_ascii fun hascii => isAlphanum_of_isLowDigit (hlow hascii)
  · exact hrest d hd

/-- A word with a capital starts with a letter or digit, and if this is ASCII, it is an upper case
letter or a digit. -/
theorem capitalWord_spec {w : List Char} (hne : w ≠ [])
    (hw : ∀ c ∈ w, isAlphanumeric c = true) :
    ∃ d rest, capitalWord w = d :: rest ∧ isAlphanumeric d = true ∧
      (d.toNat < 128 → isHighDigit d = true) ∧ ∀ e ∈ rest, isWordChar e = true := by
  cases w with
  | nil => exact absurd rfl hne
  | cons c rest =>
    obtain ⟨d, more, hd, halpha, hhigh, hmore⟩ := toUpper_spec (hw c List.mem_cons_self)
    refine ⟨d, more ++ lowerWord rest, by rw [capitalWord, hd]; rfl, halpha, hhigh, fun e he => ?_⟩
    rcases List.mem_append.mp he with he | he
    · exact hmore e he
    · exact isWordChar_of_mem_lowerWord (fun c hc => hw c (List.mem_cons_of_mem _ hc)) he

/-! ## joining -/

theorem mem_intercalate {sep : List Char} {parts : List (List Char)} {c : Char}
    (h : c ∈ sep.intercalate parts) : c ∈ sep ∨ ∃ part ∈ parts, c ∈ part := by
  induction parts with
  | nil => cases h
  | cons part rest ih =>
    by_cases hrest : rest = []
    · subst hrest
      rw [List.intercalate_singleton] at h
      exact .inr ⟨part, List.mem_cons_self, h⟩
    · rw [List.intercalate_cons_of_ne_nil hrest, List.mem_append, List.mem_append] at h
      rcases h with (h | h) | h
      · exact .inr ⟨part, List.mem_cons_self, h⟩
      · exact .inl h
      · exact (ih h).imp_right fun ⟨p, hp, hc⟩ => ⟨p, List.mem_cons_of_mem _ hp, hc⟩

/-- Parts that are not empty join to a text that is not empty, if there are any. -/
theorem eq_nil_of_intercalate {sep : List Char} {parts : List (List Char)}
    (h : ∀ w ∈ parts, w ≠ []) (hnone : sep.intercalate parts = []) : parts = [] := by
  cases parts with
  | nil => rfl
  | cons part rest =>
    have hpart := h part List.mem_cons_self
    by_cases hrest : rest = []
    · rw [hrest, List.intercalate_singleton] at hnone
      exact absurd hnone hpart
    · rw [List.intercalate_cons_of_ne_nil hrest] at hnone
      simp [hpart] at hnone

/-- Parts that are not empty and hold no separator can be told from what joins them. -/
theorem intercalate_inj {sep : Char} {a b : List (List Char)}
    (ha : ∀ w ∈ a, w ≠ [] ∧ sep ∉ w) (hb : ∀ w ∈ b, w ≠ [] ∧ sep ∉ w) :
    [sep].intercalate a = [sep].intercalate b ↔ a = b := by
  refine ⟨fun h => ?_, fun h => h ▸ rfl⟩
  by_cases hnil : a = []
  · subst hnil
    exact (eq_nil_of_intercalate (fun w hw => (hb w hw).1) h.symm).symm
  · have hnil' : b ≠ [] := by
      rintro rfl
      exact hnil (eq_nil_of_intercalate (fun w hw => (ha w hw).1) h)
    rw [← List.splitOn_intercalate sep (fun w hw => (ha w hw).2) hnil, h,
      List.splitOn_intercalate sep (fun w hw => (hb w hw).2) hnil']

/-- the words of a text without their case -/
def foldedWords (s : String) : List (List Char) := (words s.toList).map lowerWord

theorem of_mem_foldedWords {s : String} {w : List Char} (hw : w ∈ foldedWords s) :
    w ≠ [] ∧ ∀ c ∈ w, isWordChar c = true := by
  obtain ⟨word, hword, rfl⟩ := List.mem_map.mp hw
  have halpha : ∀ c ∈ word, isAlphanumeric c = true :=
    fun c hc => isAlphanumeric_of_mem_words hword hc
  obtain ⟨d, rest, hd, -, -⟩ := lowerWord_spec (ne_nil_of_mem_words hword) halpha
  exact ⟨by rw [hd]; exact List.cons_ne_nil d rest,
    fun c hc => isWordChar_of_mem_lowerWord halpha hc⟩

/-- Two names in snake case are the same if and only if their words differ in case at most. -/
theorem snake_inj {s t : String} : snake s = snake t ↔ foldedWords s = foldedWords t := by
  have hparts : ∀ u : String, ∀ w ∈ foldedWords u, w ≠ [] ∧ '_' ∉ w := fun u w hw => by
    obtain ⟨hne, hword⟩ := of_mem_foldedWords hw
    exact ⟨hne, fun hm => absurd (hword '_' hm) (by decide)⟩
  rw [snake, snake, String.ofList_inj]
  exact intercalate_inj (hparts s) (hparts t)

/-! ## the characters of names -/

/-- A name in snake case holds letters, digits and `_` if it is ASCII. -/
theorem mem_snake {s : String} {c : Char} (hc : c ∈ (snake s).toList) :
    c = '_' ∨ isWordChar c = true := by
  rw [snake, String.toList_ofList] at hc
  rcases mem_intercalate hc with hc | ⟨part, hpart, hc⟩
  · exact .inl (List.mem_singleton.mp hc)
  · exact .inr ((of_mem_foldedWords hpart).2 c hc)

/-- A text with a letter or digit has a name in snake case that starts, in ASCII, with a lower case
letter or a digit. -/
theorem snake_spec {s : String} {c : Char} (hc : c ∈ s.toList) (halpha : isAlphanumeric c = true) :
    ∃ d rest, (snake s).toList = d :: rest ∧ (d.toNat < 128 → isLowDigit d = true) := by
  have hne := words_ne_nil hc halpha
  rw [snake, String.toList_ofList]
  cases hwords : words s.toList with
  | nil => exact absurd hwords hne
  | cons word others =>
    have hword : word ∈ words s.toList := hwords ▸ List.mem_cons_self
    obtain ⟨d, rest, hd, hlow, -⟩ := lowerWord_spec (ne_nil_of_mem_words hword)
      fun c hc => isAlphanumeric_of_mem_words hword hc
    by_cases hothers : others.map lowerWord = []
    · refine ⟨d, rest, ?_, hlow⟩
      rw [List.map_cons, hothers, List.intercalate_singleton, hd]
    · refine ⟨d, rest ++ ['_'] ++ ['_'].intercalate (others.map lowerWord), ?_, hlow⟩
      rw [List.map_cons, List.intercalate_cons_of_ne_nil hothers, hd]
      rfl

theorem mem_upperCamel {s : String} {c : Char} (hc : c ∈ (upperCamel s).toList) :
    isWordChar c = true := by
  rw [upperCamel, String.toList_ofList] at hc
  obtain ⟨word, hword, hc⟩ := List.mem_flatMap.mp hc
  obtain ⟨d, rest, hd, halpha, -, hrest⟩ := capitalWord_spec (ne_nil_of_mem_words hword)
    fun c hc => isAlphanumeric_of_mem_words hword hc
  rw [hd] at hc
  rcases List.mem_cons.mp hc with rfl | hc
  · exact isWordChar_of_isAlphanumeric halpha
  · exact hrest c hc

/-- A name in upper camel case is empty, or it starts with a letter or digit that is no lower case
letter of ASCII. -/
theorem upperCamel_spec (s : String) : (upperCamel s).toList = [] ∨
    ∃ d rest, (upperCamel s).toList = d :: rest ∧ isAlphanumeric d = true ∧
      (d.toNat < 128 → isHighDigit d = true) := by
  rw [upperCamel, String.toList_ofList]
  cases hwords : words s.toList with
  | nil => exact .inl rfl
  | cons word others =>
    have hword : word ∈ words s.toList := hwords ▸ List.mem_cons_self
    obtain ⟨d, rest, hd, halpha, hhigh, -⟩ := capitalWord_spec (ne_nil_of_mem_words hword)
      fun c hc => isAlphanumeric_of_mem_words hword hc
    refine .inr ⟨d, rest ++ others.flatMap capitalWord, ?_, halpha, hhigh⟩
    rw [List.flatMap_cons, hd]
    rfl

end SchemaModel.Text

import SchemaModel.Pointer

/-!
# Texts of pointers

A pointer is read back from its text: no escaped key holds a `/`, so the text falls into the keys
that it was made of, whatever these are. Two pointers with one text are the same.

* `ofFragment?_eq_some_iff`   a pointer is read exactly from its own fragment;
* `text_inj`                  pointers are told apart by their texts;
* `escaped_iff_pieces`        a text is escaped if and only if its pieces between `/` are;
* `fragments_are_codec`       what is read from fragments, and what fragments are.
-/

namespace SchemaModel.Pointer

/-- the part of a text that one key makes up -/
def keyText (key : String) : List Char := '/' :: escape key.toList

theorem toList_foldl_push (p : Pointer) (s : String) :
    (p.foldl push s).toList = s.toList ++ p.flatMap keyText := by
  induction p generalizing s with
  | nil => rw [List.foldl_nil, List.flatMap_nil, List.append_nil]
  | cons key rest ih =>
    have hpush : (push s key).toList = s.toList ++ keyText key := by
      rw [push, String.toList_append, String.toList_append, String.toList_ofList,
        String.toList_ofList, List.append_assoc]
      rfl
    rw [List.foldl_cons, ih, hpush, List.flatMap_cons, List.append_assoc]

theorem toList_text (p : Pointer) : p.text.toList = p.flatMap keyText := toList_foldl_push p ""

theorem toList_fragment (p : Pointer) : p.fragment.toList = '#' :: p.flatMap keyText :=
  toList_foldl_push p "#"

/-- A fragment is the text of a pointer behind a `#`. -/
theorem fragment_eq (p : Pointer) : p.fragment = "#" ++ p.text := by
  rw [← String.toList_inj, String.toList_append, toList_fragment, toList_text]
  rfl

/-- The text falls into the escaped keys. -/
theorem pieces_keyTexts (key : String) (rest : Pointer) :
    Text.pieces (· == '/') (escape key.toList ++ rest.flatMap keyText) =
      (key :: rest).map fun k => escape k.toList := by
  have hpiece : ∀ k : String, Text.pieces (· == '/') (escape k.toList) = [escape k.toList] :=
    fun k => Text.pieces_of_forall fun c hc => beq_false_of_ne fun he =>
      not_mem_escape k.toList (he ▸ hc)
  induction rest generalizing key with
  | nil => rw [List.flatMap_nil, List.append_nil, hpiece, List.map_singleton]
  | cons next rest ih =>
    rw [List.flatMap_cons, keyText, List.cons_append,
      Text.pieces_append_cons (p := (· == '/')) rfl, hpiece, ih,
      List.singleton_append]
    rfl

theorem mapM_unescape (p : Pointer) :
    (p.map fun key => escape key.toList).mapM
      (fun key => (unescape key).map String.ofList) = some p := by
  induction p with
  | nil => rfl
  | cons key rest ih =>
    rw [List.map_cons, List.mapM_cons, unescape_escape, ih, Option.map_some, String.ofList_toList]
    rfl

/-- A fragment is read as the pointer that it addresses. -/
theorem ofFragment?_fragment (p : Pointer) : ofFragment? p.fragment = some p := by
  cases p with
  | nil => rfl
  | cons key rest =>
    have hlist : (fragment (key :: rest)).toList =
        '#' :: '/' :: (escape key.toList ++ rest.flatMap keyText) := by
      rw [toList_fragment, List.flatMap_cons, keyText, List.cons_append]
    unfold ofFragment?
    rw [hlist]
    show (Text.pieces (· == '/') (escape key.toList ++ rest.flatMap keyText)).mapM _ = _
    rw [pieces_keyTexts, mapM_unescape]

/-- The pieces of a text, with the separators put back in front of them. -/
theorem flatMap_pieces (s : List Char) :
    (Text.pieces (· == '/') s).flatMap ('/' :: ·) = '/' :: s := by
  induction s with
  | nil => rfl
  | cons c rest ih =>
    rw [Text.pieces_cons]
    split
    · next hc => rw [List.flatMap_cons, ih, beq_iff_eq.mp hc, List.cons_append, List.nil_append]
    · cases hp : Text.pieces (· == '/') rest with
      | nil => exact absurd hp (Text.pieces_ne_nil _ rest)
      | cons w ws =>
        rw [hp, List.flatMap_cons, List.cons_append] at ih
        rw [List.modifyHead_cons, List.flatMap_cons, List.cons_append, List.cons_append,
          List.tail_eq_of_cons_eq ih]

theorem flatMap_keyText {ws : List (List Char)} (hs : ∀ w ∈ ws, '/' ∉ w) {p : Pointer}
    (h : (ws.mapM fun w => (unescape w).map String.ofList) = some p) :
    p.flatMap keyText = ws.flatMap ('/' :: ·) := by
  induction ws generalizing p with
  | nil =>
    cases h
    rfl
  | cons w ws ih =>
    obtain ⟨hw, hws⟩ := List.forall_mem_cons.mp hs
    rw [List.mapM_cons] at h
    obtain ⟨key, hkey, h⟩ := Option.bind_eq_some_iff.mp h
    obtain ⟨rest, hrest, h⟩ := Option.bind_eq_some_iff.mp h
    obtain ⟨t, ht, rfl⟩ := Option.map_eq_some_iff.mp hkey
    cases h
    have htext : keyText (String.ofList t) = '/' :: w := by
      rw [keyText, String.toList_ofList, escape_unescape ht hw]
    rw [List.flatMap_cons, List.flatMap_cons, htext, ih hws hrest]

/-- A pointer is read exactly from its own fragment. -/
theorem ofFragment?_eq_some_iff {s : String} {p : Pointer} :
    ofFragment? s = some p ↔ s = p.fragment := by
  refine ⟨fun h => ?_, fun h => h ▸ ofFragment?_fragment p⟩
  rw [← String.toList_inj, toList_fragment]
  unfold ofFragment? at h
  split at h
  · next hs =>
    cases h
    exact hs
  · next rest hs =>
    have hpieces : ∀ w ∈ Text.pieces (· == '/') rest, '/' ∉ w := fun w hw hm =>
      absurd (Text.not_of_mem_pieces (p := (· == '/')) hw hm) (by decide)
    rw [hs, flatMap_keyText hpieces h, flatMap_pieces]
  · cases h

theorem fragment_inj {p q : Pointer} : p.fragment = q.fragment ↔ p = q := by
  refine ⟨fun h => ?_, fun h => h ▸ rfl⟩
  have hread := ofFragment?_fragment p
  rw [ofFragment?_eq_some_iff.mpr h] at hread
  exact (Option.some.inj hread).symm

/-- the pointer behind a text, read as a fragment is read behind its `#` -/
def ofText? (s : String) : Option Pointer := ofFragment? ("#" ++ s)

theorem ofText?_text (p : Pointer) : ofText? p.text = some p := by
  rw [ofText?, ← fragment_eq, ofFragment?_fragment]

theorem text_inj {p q : Pointer} : p.text = q.text ↔ p = q := by
  refine ⟨fun h => ?_, fun h => h ▸ rfl⟩
  have hread := ofText?_text p
  rw [h, ofText?_text] at hread
  exact (Option.some.inj hread).symm

/-! ## which texts are fragments -/

/-- Every `~` stands before `0` or `1`. -/
def Escaped (s : List Char) : Prop :=
  ∀ behind, '~' :: behind <:+ s → behind.head? = some '0' ∨ behind.head? = some '1'

theorem escaped_nil : Escaped [] := fun _ h => absurd (List.suffix_nil.mp h) (List.cons_ne_nil _ _)

theorem escaped_cons {c : Char} {s : List Char} : Escaped (c :: s) ↔
    (c = '~' → s.head? = some '0' ∨ s.head? = some '1') ∧ Escaped s := by
  constructor
  · intro h
    constructor
    · rintro rfl
      exact h s (List.suffix_refl _)
    · exact fun behind hs => h behind (List.suffix_cons_iff.mpr (.inr hs))
  · rintro ⟨hc, hs⟩ behind hsuffix
    rcases List.suffix_cons_iff.mp hsuffix with he | hsuffix
    · cases he
      exact hc rfl
    · exact hs behind hsuffix

/-- An escaped text reads back, and no other one. -/
theorem isSome_unescape (s : List Char) : (unescape s).isSome ↔ Escaped s := by
  fun_induction unescape s with
  | case1 => exact iff_of_true rfl escaped_nil
  | case2 rest ih | case3 rest ih => simp [escaped_cons, ih]
  | case4 rest h₀ h₁ =>
    refine iff_of_false Bool.false_ne_true fun h => ?_
    rcases (escaped_cons.mp h).1 rfl with hd | hd
    · exact h₀ _ (List.head?_eq_some_iff.mp hd).choose_spec
    · exact h₁ _ (List.head?_eq_some_iff.mp hd).choose_spec
  | case5 c rest _ _ h₂ ih =>
    have hc : c ≠ '~' := fun e => h₂ e
    simp [escaped_cons, ih, hc]

/-- The first character of a text is that of its first piece, unless it is a separator. -/
theorem head?_pieces (s : List Char) :
    ((Text.pieces (· == '/') s).head?.bind List.head?) = s.head?.filter (· != '/') := by
  cases s with
  | nil => rfl
  | cons c rest =>
    rw [Text.pieces_cons]
    split
    · next hc =>
      rw [beq_iff_eq.mp hc]
      rfl
    · next hc =>
      obtain ⟨w, ws, hp⟩ := List.exists_cons_of_ne_nil (Text.pieces_ne_nil (· == '/') rest)
      have hkeep : (c != '/') = true := by simpa using hc
      rw [hp, List.modifyHead_cons, List.head?_cons, List.head?_cons, Option.bind_some,
        List.head?_cons, Option.filter_some_pos (p := (· != '/')) hkeep]

/-- No `/` stands behind a `~`, so a text is escaped exactly if its pieces are. -/
theorem escaped_iff_pieces (s : List Char) :
    Escaped s ↔ ∀ w ∈ Text.pieces (· == '/') s, Escaped w := by
  induction s with
  | nil => simp [Text.pieces_nil, escaped_nil]
  | cons c rest ih =>
    rw [Text.pieces_cons, escaped_cons, ih]
    split
    · next hc =>
      have hnot : c ≠ '~' := by
        rintro rfl
        cases hc
      simp [hnot, escaped_nil]
    · obtain ⟨w, ws, hp⟩ := List.exists_cons_of_ne_nil (Text.pieces_ne_nil (· == '/') rest)
      have hhead := head?_pieces rest
      rw [hp, List.head?_cons, Option.bind_some] at hhead
      have hsame : ∀ d, d ≠ '/' → (w.head? = some d ↔ rest.head? = some d) := by
        intro d hd
        rw [hhead, Option.filter_eq_some_iff]
        simp [hd]
      rw [hp, List.modifyHead_cons, List.forall_mem_cons, List.forall_mem_cons, escaped_cons,
        hsame '0' (by decide), hsame '1' (by decide), and_assoc]

theorem isSome_mapM_unescape (ws : List (List Char)) :
    (ws.mapM fun w => (unescape w).map String.ofList).isSome ↔ ∀ w ∈ ws, Escaped w := by
  induction ws with
  | nil => simp
  | cons w ws ih =>
    rw [List.forall_mem_cons, ← ih, ← isSome_unescape, List.mapM_cons]
    cases unescape w with
    | none => simp
    | some key =>
      cases ws.mapM fun w => (unescape w).map String.ofList <;> simp

/-- A fragment is a `#` alone, or one before a `/` and an escaped text. -/
theorem isSome_ofFragment? (s : String) : (ofFragment? s).isSome ↔
    s.toList = ['#'] ∨ ∃ rest, s.toList = '#' :: '/' :: rest ∧ Escaped rest := by
  unfold ofFragment?
  split
  · next hs => simp [hs]
  · next rest hs => simp [hs, isSome_mapM_unescape, ← escaped_iff_pieces]
  · next h₀ h₁ =>
    refine iff_of_false Bool.false_ne_true ?_
    rintro (hs | ⟨rest, hs, -⟩)
    · exact h₀ hs
    · exact h₁ rest hs

/-- Reading fragments and writing them are inverse to each other: keys that are put behind a `#`
read back, whatever they are, keys that are read make up the text again, and what is not read is no
fragment. The texts that are read are `#` and those that start with `#/` and have a `0` or `1`
behind every `~`. -/
theorem fragments_are_codec :
    (∀ p : Pointer, ofFragment? (p.foldl push "#") = some p) ∧
    (∀ s p, ofFragment? s = some p ↔ p.foldl push "#" = s) ∧
    (∀ s, ofFragment? s = none ↔ ∀ p : Pointer, p.foldl push "#" ≠ s) ∧
    ∀ s, (ofFragment? s).isSome ↔
      s.toList = ['#'] ∨ ∃ rest, s.toList = '#' :: '/' :: rest ∧ Escaped rest := by
  have hread : ∀ s p, ofFragment? s = some p ↔ p.foldl push "#" = s :=
    fun s p => ofFragment?_eq_some_iff.trans eq_comm
  refine ⟨ofFragment?_fragment, hread, fun s => ?_, isSome_ofFragment?⟩
  rw [Option.eq_none_iff_forall_ne_some]
  exact forall_congr' fun p => not_congr (hread s p)

/-- An escaped `~` is not read once more with what follows it, and a key may be empty. -/
example : ofFragment? "#/a~1b//~01" = some ["a/b", "", "~1"] := by decide

end SchemaModel.Pointer

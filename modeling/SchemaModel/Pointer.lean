import SchemaModel.Text.Split

/-!
# Pointers into a document

A pointer is the list of keys that leads from the root of a document to one of its values. In text
a `/` stands before every key, and inside a key `~` is written `~0` and `/` is written `~1`. A
fragment is the text of a pointer behind a `#`.

* `unescape_escape`    an escaped key reads back;
* `escape_unescape`    what reads as a key is its escaped form.
-/

namespace SchemaModel

/-- the keys from the root of a document down to a value -/
abbrev Pointer := List String

namespace Pointer

/-! ## keys -/

def escape : List Char → List Char
  | [] => []
  | '~' :: rest => '~' :: '0' :: escape rest
  | '/' :: rest => '~' :: '1' :: escape rest
  | c :: rest => c :: escape rest

/-- The key behind its escaped form. A `~` must stand before `0` or `1`. -/
def unescape : List Char → Option (List Char)
  | [] => some []
  | '~' :: '0' :: rest => (unescape rest).map ('~' :: ·)
  | '~' :: '1' :: rest => (unescape rest).map ('/' :: ·)
  | '~' :: _ => none
  | c :: rest => (unescape rest).map (c :: ·)

theorem escape_tilde (rest : List Char) : escape ('~' :: rest) = '~' :: '0' :: escape rest := rfl

theorem escape_slash (rest : List Char) : escape ('/' :: rest) = '~' :: '1' :: escape rest := rfl

theorem escape_cons {c : Char} (ht : c ≠ '~') (hs : c ≠ '/') (rest : List Char) :
    escape (c :: rest) = c :: escape rest := by
  rw [escape] <;> simp_all

theorem unescape_zero (rest : List Char) :
    unescape ('~' :: '0' :: rest) = (unescape rest).map ('~' :: ·) := rfl

theorem unescape_one (rest : List Char) :
    unescape ('~' :: '1' :: rest) = (unescape rest).map ('/' :: ·) := rfl

theorem unescape_cons {c : Char} (hc : c ≠ '~') (rest : List Char) :
    unescape (c :: rest) = (unescape rest).map (c :: ·) := by
  rw [unescape] <;> simp_all

theorem unescape_escape (s : List Char) : unescape (escape s) = some s := by
  induction s with
  | nil => rfl
  | cons c rest ih =>
    by_cases ht : c = '~'
    · rw [ht, escape_tilde, unescape_zero, ih, Option.map_some]
    · by_cases hs : c = '/'
      · rw [hs, escape_slash, unescape_one, ih, Option.map_some]
      · rw [escape_cons ht hs, unescape_cons ht, ih, Option.map_some]

/-- An escaped key holds no `/`. -/
theorem not_mem_escape (s : List Char) : '/' ∉ escape s := by
  induction s with
  | nil => exact List.not_mem_nil
  | cons c rest ih =>
    by_cases ht : c = '~'
    · simp [ht, escape_tilde, ih]
    · by_cases hs : c = '/'
      · simp [hs, escape_slash, ih]
      · simp [escape_cons ht hs, ih, Ne.symm hs]

theorem escape_unescape {s t : List Char} (h : unescape s = some t) (hs : '/' ∉ s) :
    escape t = s := by
  fun_induction unescape s generalizing t with
  | case1 => cases h; rfl
  | case2 rest ih =>
    obtain ⟨u, hu, rfl⟩ := Option.map_eq_some_iff.mp h
    rw [escape_tilde, ih hu fun hm => hs (by simp [hm])]
  | case3 rest ih =>
    obtain ⟨u, hu, rfl⟩ := Option.map_eq_some_iff.mp h
    rw [escape_slash, ih hu fun hm => hs (by simp [hm])]
  | case4 => cases h
  | case5 c rest _ _ ht ih =>
    obtain ⟨u, hu, rfl⟩ := Option.map_eq_some_iff.mp h
    have hslash : c ≠ '/' := fun e => hs (by simp [e])
    rw [escape_cons ht hslash, ih hu fun hm => hs (by simp [hm])]

/-! ## texts -/

/-- the text of a pointer with one more key -/
def push (path key : String) : String :=
  path ++ "/" ++ String.ofList (escape key.toList)

/-- the text of a pointer; that of the root is empty -/
def text (p : Pointer) : String := p.foldl push ""

/-- the fragment that addresses a pointer -/
def fragment (p : Pointer) : String := p.foldl push "#"

/-- The key behind its escaped form, as texts. -/
def readKey? (s : String) : Option String := (unescape s.toList).map String.ofList

/-- The pointer behind a fragment. It is empty or starts with `/`, and every key is escaped. -/
def ofFragment? (s : String) : Option Pointer :=
  match s.toList with
  | ['#'] => some []
  | '#' :: '/' :: rest =>
    (Text.pieces (· == '/') rest).mapM fun key => (unescape key).map String.ofList
  | _ => none

end Pointer

end SchemaModel

import Mathlib
import SchemaModel.Error
import SchemaModel.Proofs.Model.HashChange
import SchemaModel.Proofs.Text.Delimited
import SchemaModel.Reference

/-!
# Equality of references

A reference is compared, hashed and shown in three ways: its URL is compared and hashed without its
fragment, which is looked at apart, and shown with the fragment in its place. Equality is that of
what is hashed. A hasher is told which kind of reference follows before any text, and texts end by
themselves, so even the bytes that it is fed with in a row tell references apart.

* `same_iff_key`                 equal references are those with one key;
* `Key.splits_bytes`             a key is told apart by the bytes for the hasher;
* `not_fragment_of_url`          no URL is read from the text of a fragment;
* `references_compared`          equality, hash and text of references that are read.
-/

namespace SchemaModel

/-! ## data for a hasher -/

/-- one call that feeds a hasher -/
inductive HashWrite where
  | byte (b : UInt8)
  /-- which variant follows -/
  | tag (n : Nat)
  | text (s : String)
  deriving DecidableEq, Repr

namespace HashWrite

/-- The bytes of a call. A tag has eight bytes, the lowest one first, and behind the bytes of a text
stands one that no text has. -/
def bytes : HashWrite → List UInt8
  | byte b => [b]
  | tag n => (List.range 8).map fun i => UInt8.ofNat (n / 256 ^ i)
  | text s => s.toList.flatMap String.utf8EncodeChar ++ [255]

theorem mark_ne_ofNat {n : Nat} (h : n < 255) : (255 : UInt8) ≠ UInt8.ofNat n := by
  intro he
  have hn : 255 = n % 256 := by simpa using congrArg UInt8.toNat he
  omega

/-- The byte 255 is not used in UTF-8. -/
theorem mark_not_mem_utf8EncodeChar (c : Char) : 255 ∉ String.utf8EncodeChar c := by
  have hbytes : ∀ b ∈ String.utf8EncodeChar c, ∃ n < 255, b = UInt8.ofNat n := by
    unfold String.utf8EncodeChar
    dsimp only
    split_ifs
    all_goals
      simp only [List.forall_mem_cons, List.not_mem_nil, false_imp_iff, implies_true, and_true]
    · exact ⟨_, by omega, rfl⟩
    · exact ⟨⟨_, by omega, rfl⟩, ⟨_, by omega, rfl⟩⟩
    · exact ⟨⟨_, by omega, rfl⟩, ⟨_, by omega, rfl⟩, ⟨_, by omega, rfl⟩⟩
    · exact ⟨⟨_, by omega, rfl⟩, ⟨_, by omega, rfl⟩, ⟨_, by omega, rfl⟩, ⟨_, by omega, rfl⟩⟩
  intro hm
  obtain ⟨n, hn, he⟩ := hbytes 255 hm
  exact mark_ne_ofNat hn he

theorem splits_text (s t : String) : SplitsIff (text s).bytes (text t).bytes (s = t) := by
  have hmark : ∀ s : String, 255 ∉ s.toList.flatMap String.utf8EncodeChar := by
    intro s hm
    obtain ⟨c, -, hc⟩ := List.mem_flatMap.mp hm
    exact mark_not_mem_utf8EncodeChar c hc
  refine (SplitsIff.of_mark (hmark s) (hmark t)).of_iff ?_
  rw [Hash.flatMap_utf8EncodeChar, Hash.flatMap_utf8EncodeChar, Array.toList_inj,
    ← ByteArray.ext_iff, String.toByteArray_inj]

/-- The two variants of a type are told apart. -/
theorem splits_tag (behind behind' : List UInt8) :
    SplitsIff ((tag 0).bytes ++ behind) ((tag 1).bytes ++ behind') False :=
  SplitsIff.of_head_ne (by decide) _ _

/-- Behind the same call the others are told apart as they are alone. -/
theorem splits_cons {p : Prop} (w : HashWrite) {writes writes' : List HashWrite}
    (h : SplitsIff (writes.flatMap bytes) (writes'.flatMap bytes) p) :
    SplitsIff ((w :: writes).flatMap bytes) ((w :: writes').flatMap bytes) p := by
  rw [List.flatMap_cons, List.flatMap_cons]
  exact h.behind w.bytes

theorem splits_last (s t : String) :
    SplitsIff ([text s].flatMap bytes) ([text t].flatMap bytes) (s = t) := by
  rw [List.flatMap_singleton, List.flatMap_singleton]
  exact splits_text s t

end HashWrite

open HashWrite

/-- what an optional text feeds a hasher with -/
def optionWrites : Option String → List HashWrite
  | none => [.tag 0]
  | some s => [.tag 1, .text s]

def Uri.Key.writes : Uri.Key → List HashWrite
  | absolute text fragment => .byte 0 :: .text text :: optionWrites fragment
  | relative text => [.byte 1, .text text]

def Reference.Key.writes : Reference.Key → List HashWrite
  | fragment s => [.tag 0, .text s]
  | uri key => .tag 1 :: key.writes

/-- the calls by which a reference feeds a hasher -/
def Reference.writes (r : Reference) : List HashWrite := r.key.writes

/-- the bytes that a reference feeds a hasher with, in a row -/
def Reference.hashedBytes (r : Reference) : List UInt8 := r.writes.flatMap HashWrite.bytes

theorem splits_optionWrites (f g : Option String) :
    SplitsIff ((optionWrites f).flatMap bytes) ((optionWrites g).flatMap bytes) (f = g) := by
  cases f with
  | none =>
    cases g with
    | none => exact (SplitsIff.same _).of_iff (by simp)
    | some t => exact (splits_tag [] _).of_iff (by simp)
  | some s =>
    cases g with
    | none => exact (splits_tag [] _).symm.of_iff (by simp)
    | some t => exact (splits_cons _ (splits_last s t)).of_iff (by simp)

theorem Uri.Key.splits_bytes (k k' : Uri.Key) :
    SplitsIff (k.writes.flatMap bytes) (k'.writes.flatMap bytes) (k = k') := by
  cases k with
  | absolute s f =>
    cases k' with
    | absolute t g =>
      have h : SplitsIff ((.text s :: optionWrites f).flatMap bytes)
          ((.text t :: optionWrites g).flatMap bytes) (s = t ∧ f = g) :=
        (splits_text s t).append fun _ => splits_optionWrites f g
      exact (splits_cons _ h).of_iff (by simp)
    | relative t => exact (SplitsIff.of_head_ne (by decide) _ _).of_iff (by simp)
  | relative s =>
    cases k' with
    | absolute t g => exact (SplitsIff.of_head_ne (by decide) _ _).of_iff (by simp)
    | relative t => exact (splits_cons _ (splits_last s t)).of_iff (by simp)

theorem Reference.Key.splits_bytes (k k' : Reference.Key) :
    SplitsIff (k.writes.flatMap bytes) (k'.writes.flatMap bytes) (k = k') := by
  cases k with
  | fragment s =>
    cases k' with
    | fragment t => exact (splits_cons _ (splits_last s t)).of_iff (by simp)
    | uri key => exact (splits_tag _ _).of_iff (by simp)
  | uri key =>
    cases k' with
    | fragment t => exact (splits_tag _ _).symm.of_iff (by simp)
    | uri key' => exact (splits_cons _ (key.splits_bytes key')).of_iff (by simp)

/-! ## equality -/

theorem Uri.same_iff_key (u v : Uri) : u.same v = true ↔ u.key = v.key := by
  cases u <;> cases v <;> simp [same, key]

namespace Reference

variable {a b : Reference}

/-- Equal references are those with one key. -/
theorem same_iff_key (a b : Reference) : a.same b = true ↔ a.key = b.key := by
  cases a <;> cases b <;> simp [same, key, Uri.same_iff_key]

/-- A hasher is fed with the same bytes in a row by the same keys only. -/
theorem hashedBytes_inj : a.hashedBytes = b.hashedBytes ↔ a.key = b.key :=
  (Key.splits_bytes a.key b.key).eq_iff

theorem writes_inj : a.writes = b.writes ↔ a.key = b.key :=
  ⟨fun h => hashedBytes_inj.mp (congrArg (List.flatMap HashWrite.bytes) h), congrArg Key.writes⟩

theorem equivalence_same : Equivalence fun a b : Reference => a.same b = true := by
  simp only [same_iff_key]
  exact ⟨fun _ => rfl, Eq.symm, Eq.trans⟩

/-- a URI with a scheme -/
def isAbsolute : Reference → Bool
  | fragment _ => false
  | uri u => u.isAbsolute

/-- Equal references are of one kind. -/
theorem kind_of_same (h : a.same b = true) :
    a.isFragment = b.isFragment ∧ a.isAbsolute = b.isAbsolute := by
  rw [same_iff_key] at h
  match a, b, h with
  | fragment _, fragment _, _ => exact ⟨rfl, rfl⟩
  | uri (.absolute _), uri (.absolute _), _ => exact ⟨rfl, rfl⟩
  | uri (.relative _), uri (.relative _), _ => exact ⟨rfl, rfl⟩

/-- Equal URIs have one fragment. -/
theorem fragment?_of_same {u v : Uri} (h : (uri u).same (uri v) = true) :
    u.fragment? = v.fragment? := by
  rw [same_iff_key] at h
  match u, v, h with
  | .absolute u, .absolute v, h =>
    have hf : u.fragment = v.fragment := (Uri.Key.absolute.inj (Key.uri.inj h)).2
    rw [Uri.fragment?, Uri.fragment?, hf]
  | .relative s, .relative t, h =>
    rw [Uri.Key.relative.inj (Key.uri.inj h)]

/-! ## reading -/

/-- The three ways to read a text: as a fragment, as a URL, or as it is. -/
inductive ReadAs (s : String) : Reference → Prop
  | fragment (hs : s.toList.head? = some '#') : ReadAs s (.fragment s)
  | absolute {u} (hs : s.toList.head? ≠ some '#') (hu : Url.read s = .ok u) :
      ReadAs s (.uri (.absolute u))
  | relative (hs : s.toList.head? ≠ some '#') (hu : Url.read s = .error .relative)
      (hc : Url.checkRelative s = .ok ()) : ReadAs s (.uri (.relative s))

theorem read_eq_ok_iff {s : String} : read s = .ok a ↔ ReadAs s a := by
  constructor
  · intro h
    unfold read at h
    split at h
    · next hs =>
      cases h
      exact .fragment hs
    · next hs =>
      split at h
      · next u hu =>
        cases h
        exact .absolute hs hu
      · next hu =>
        obtain ⟨⟨⟩, hc, h⟩ := bind_ok h
        cases h
        exact .relative hs hu hc
      · cases h
  · intro h
    unfold read
    cases h with
    | fragment hs => rw [if_pos hs]
    | absolute hs hu => rw [if_neg hs, hu]
    | relative hs hu hc =>
      rw [if_neg hs, hu]
      dsimp only
      rw [hc]
      rfl

theorem cleaned_of_mark (rest : List Char) :
    ∃ behind, Url.cleaned ('#' :: rest) = '#' :: behind := by
  have hmark : Url.isOuter '#' = false := by decide
  unfold Url.cleaned
  rw [List.dropWhile_cons_of_neg (by simp [hmark]), List.reverse_cons, List.dropWhile_append]
  split
  · exact ⟨[], by simp [hmark, Url.isDropped]⟩
  · rw [List.reverse_append]
    exact ⟨_, List.filter_cons_of_pos (by decide)⟩

theorem cutScheme?_of_mark (rest : List Char) : Url.cutScheme? ('#' :: rest) = none := by
  unfold Url.cutScheme?
  rfl

/-- A `#` at the beginning of a text is kept, and it is no letter. -/
theorem not_fragment_of_url {s : String} {u : Url} (h : Url.read s = .ok u) :
    s.toList.head? ≠ some '#' := by
  intro hs
  obtain ⟨rest, hrest⟩ := List.head?_eq_some_iff.mp hs
  obtain ⟨cleaned, hcleaned⟩ := cleaned_of_mark rest
  unfold Url.read at h
  rw [hrest, hcleaned, cutScheme?_of_mark] at h
  cases h

theorem ReadAs.text_reads {s : String} (h : ReadAs s a)
    (hurl : ∀ u, Url.read s = .ok u → Url.read u.text = .ok u) : ReadAs a.text a := by
  cases h with
  | fragment hs => exact .fragment hs
  | absolute hs hu => exact .absolute (not_fragment_of_url (hurl _ hu)) (hurl _ hu)
  | relative hs hu hc => exact .relative hs hu hc

/-- References without a scheme are equal if they are read from one text. -/
theorem ReadAs.same_iff {s t : String} (ha : ReadAs s a) (hb : ReadAs t b)
    (hra : a.isAbsolute = false) (hrb : b.isAbsolute = false) : a.same b = true ↔ s = t := by
  rw [same_iff_key]
  cases ha with
  | absolute => cases hra
  | fragment hs =>
    cases hb with
    | absolute => cases hrb
    | fragment => simp [key]
    | relative ht =>
      refine iff_of_false (by simp [key]) ?_
      rintro rfl
      exact ht hs
  | relative hs =>
    cases hb with
    | absolute => cases hrb
    | fragment ht =>
      refine iff_of_false (by simp [key]) ?_
      rintro rfl
      exact hs ht
    | relative => simp [key, Uri.key]

/-- References that are read are equal if and only if they feed a hasher with the same data, in the
same calls or with the same bytes in a row. This is an equivalence. Equal references are of one
kind, a fragment, a URL or a relative URI, and equal URIs have one fragment, where an empty one is
not the same as none. Without a scheme they are equal if they are read from one text. The text of a
reference is read as an equal one, that of a URL if it is read as this URL. -/
theorem references_compared {s t : String} (ha : read s = .ok a) (hb : read t = .ok b)
    (hurl : ∀ u, Url.read s = .ok u → Url.read u.text = .ok u) :
    (a.same b = true ↔ a.writes = b.writes) ∧
    (a.same b = true ↔ a.hashedBytes = b.hashedBytes) ∧
    (Equivalence fun x y : Reference => x.same y = true) ∧
    (a.same b = true → a.isFragment = b.isFragment ∧ a.isAbsolute = b.isAbsolute) ∧
    (a.isAbsolute = false → b.isAbsolute = false → (a.same b = true ↔ s = t)) ∧
    (∀ u v, a = .uri u → b = .uri v → a.same b = true → u.fragment? = v.fragment?) ∧
    ∃ c, read a.text = .ok c ∧ a.same c = true := by
  have hra := read_eq_ok_iff.mp ha
  refine ⟨?_, ?_, equivalence_same, kind_of_same, hra.same_iff (read_eq_ok_iff.mp hb), ?_, a,
    read_eq_ok_iff.mpr (hra.text_reads hurl), equivalence_same.refl a⟩
  · rw [same_iff_key, writes_inj]
  · rw [same_iff_key, hashedBytes_inj]
  · rintro u v rfl rfl h
    exact fragment?_of_same h

/-! ## an example -/

/-- what is read from `D:x#` -/
def emptyFragmentUrl : Url where
  scheme := "d"
  authority := none
  path := "x"
  flat := true
  query := none
  fragment := some ""

/-- the same without a fragment -/
def noFragmentUrl : Url := { emptyFragmentUrl with fragment := none }

/-- A URL with an empty fragment is not the same as without one, nor is their data for a hasher. Its
text is read as the same URL, although the scheme was written otherwise. -/
theorem emptyFragment_compared :
    read "D:x#" = .ok (.uri (.absolute emptyFragmentUrl)) ∧
    read "d:x" = .ok (.uri (.absolute noFragmentUrl)) ∧
    (∀ u, Url.read "D:x#" = .ok u → Url.read u.text = .ok u) ∧
    (uri (.absolute emptyFragmentUrl)).same (.uri (.absolute noFragmentUrl)) = false ∧
    (uri (.absolute emptyFragmentUrl)).hashedBytes ≠ (uri (.absolute noFragmentUrl)).hashedBytes ∧
    ∃ c, read emptyFragmentUrl.text = .ok c ∧
      (uri (.absolute emptyFragmentUrl)).same c = true := by
  have hread : Url.read "D:x#" = .ok emptyFragmentUrl := by cbv
  have ha : read "D:x#" = .ok (.uri (.absolute emptyFragmentUrl)) := by cbv
  have hb : read "d:x" = .ok (.uri (.absolute noFragmentUrl)) := by cbv
  have hurl : ∀ u, Url.read "D:x#" = .ok u → Url.read u.text = .ok u := by
    intro u hu
    cases hread.symm.trans hu
    cbv
  obtain ⟨-, hbytes, -, -, -, hfragment, hagain⟩ := references_compared ha hb hurl
  have hne : ¬ (uri (.absolute emptyFragmentUrl)).same (.uri (.absolute noFragmentUrl)) = true :=
    fun hsame => absurd (hfragment _ _ rfl rfl hsame) (by decide)
  exact ⟨ha, hb, hurl, Bool.eq_false_iff.mpr hne, fun he => hne (hbytes.mpr he), hagain⟩

end Reference

end SchemaModel

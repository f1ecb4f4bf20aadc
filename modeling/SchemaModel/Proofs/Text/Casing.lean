import SchemaModel.Text.Word

/-!
# Letters whose case is changed

Names are made of letters and digits in another case. Another case may bring in combining marks, so
what comes out is not always a letter. But the first character that comes out is one in the case
that was asked for, and an ASCII character among the others is a letter or a digit again.

* `caseImage_holds`   what holds of the rows of a table holds of its images;
* `toLower_spec`      the lower case of a letter or digit;
* `toUpper_spec`      its upper case.
-/

namespace SchemaModel.Text

/-! ## characters of words -/

/-- a letter or digit, or any character beyond ASCII -/
def isWordChar (c : Char) : Bool := 128 ≤ c.toNat || c.isAlphanum

/-- a letter in lower case or a digit -/
def isLowDigit (c : Char) : Bool := c.isLower || c.isDigit

/-- a letter in upper case or a digit -/
def isHighDigit (c : Char) : Bool := c.isUpper || c.isDigit

theorem isWordChar_of_ascii {c : Char} (h : c.toNat < 128 → c.isAlphanum = true) :
    isWordChar c = true := by
  unfold isWordChar
  by_cases hascii : c.toNat < 128
  · rw [h hascii, Bool.or_true]
  · rw [decide_eq_true (Nat.le_of_not_lt hascii), Bool.true_or]

theorem isWordChar_of_isAlphanumeric {c : Char} (h : isAlphanumeric c = true) :
    isWordChar c = true := by
  refine isWordChar_of_ascii fun hascii => ?_
  rwa [isAlphanumeric, if_pos hascii] at h

theorem isAlphanum_of_isLowDigit {c : Char} (h : isLowDigit c = true) : c.isAlphanum = true := by
  rw [isLowDigit, Bool.or_eq_true] at h
  show (c.isUpper || c.isLower || c.isDigit) = true
  rcases h with h | h <;> simp [h]

theorem isAlphanum_of_isHighDigit {c : Char} (h : isHighDigit c = true) : c.isAlphanum = true := by
  rw [isHighDigit, Bool.or_eq_true] at h
  show (c.isUpper || c.isLower || c.isDigit) = true
  rcases h with h | h <;> simp [h]

/-! ## code points and their images -/

theorem toNat_ofNat {n : Nat} (h : n.isValidChar) : (Char.ofNat n).toNat = n := by
  rw [Char.ofNat, dif_pos h]
  rfl

/-- the code point of a character that is of a class if it is ASCII -/
def AsciiCode (p : Char → Bool) (n : Nat) : Prop :=
  n.isValidChar ∧ (n < 128 → p (Char.ofNat n) = true)

instance (p : Char → Bool) : DecidablePred (AsciiCode p) := fun _ => instDecidableAnd

theorem AsciiCode.ofNat {p : Char → Bool} {n : Nat} (h : AsciiCode p n)
    (hascii : (Char.ofNat n).toNat < 128) : p (Char.ofNat n) = true := by
  rw [toNat_ofNat h.1] at hascii
  exact h.2 hascii

theorem asciiCode_toNat {p : Char → Bool} {c : Char} (h : 128 ≤ c.toNat) : AsciiCode p c.toNat :=
  ⟨c.valid, fun hascii => absurd hascii (Nat.not_lt.mpr h)⟩

/-- What holds of a code point and of all that the rows give holds of its image. -/
theorem caseImage_holds {P : Nat → Prop} {n : Nat} {rows : List (Nat × Nat × Nat × Nat)}
    (hn : P n) (hrows : ∀ row ∈ rows, ∀ k ≤ row.2.1 - row.1, k % row.2.2.1 = 0 →
      P (row.2.2.2 + k)) : P (caseImage n rows) := by
  fun_induction caseImage n rows with
  | case1 => exact hn
  | case2 first last step image rows h =>
    have himage := hrows _ List.mem_cons_self (n - first) (Nat.sub_le_sub_right h.2.1 _) h.2.2
    rwa [Nat.add_comm] at himage
  | case3 _ _ _ _ rows _ ih => exact ih fun row hrow => hrows row (List.mem_cons_of_mem _ hrow)

/-- All images of a row lie beyond ASCII, or it moves one code point only. -/
def RowIs (p : Char → Bool) (row : Nat × Nat × Nat × Nat) : Prop :=
  128 ≤ row.2.2.2 ∧ row.2.2.2.isValidChar ∧ (row.2.2.2 + (row.2.1 - row.1)).isValidChar ∧
      (0xD800 ≤ row.2.2.2 ∨ row.2.2.2 + (row.2.1 - row.1) < 0xD800) ∨
    row.1 = row.2.1 ∧ AsciiCode p row.2.2.2

instance (p : Char → Bool) : DecidablePred (RowIs p) := fun _ => instDecidableOr

theorem RowIs.asciiCode {p : Char → Bool} {row : Nat × Nat × Nat × Nat} (h : RowIs p row) {k : Nat}
    (hk : k ≤ row.2.1 - row.1) : AsciiCode p (row.2.2.2 + k) := by
  rcases h with ⟨hbeyond, hfirst, hlast, hside⟩ | ⟨hone, hcode⟩
  · refine ⟨?_, fun hascii => absurd hascii (by omega)⟩
    unfold Nat.isValidChar at hfirst hlast ⊢
    omega
  · have hzero : k = 0 := by omega
    subst hzero
    exact hcode

/-- An image of several characters starts with one of a kind, and those behind it are letters or
digits if they are ASCII. -/
def ImageIs (P : Nat → Prop) : List Nat → Prop
  | [] => False
  | n :: rest => P n ∧ ∀ m ∈ rest, AsciiCode Char.isAlphanum m

instance (P : Nat → Prop) [DecidablePred P] : DecidablePred (ImageIs P)
  | [] => instDecidableFalse
  | _ :: _ => instDecidableAnd

/-- the image of a code point beyond ASCII, which a table of long images may hold -/
def foreignImage (long : List (Nat × List Nat)) (rows : List (Nat × Nat × Nat × Nat)) (n : Nat) :
    List Char :=
  match long.lookup n with
  | some image => image.map Char.ofNat
  | none => [Char.ofNat (caseImage n rows)]

theorem foreignImage_spec {P : Nat → Prop} {long : List (Nat × List Nat)}
    {rows : List (Nat × Nat × Nat × Nat)} {n : Nat} (hn : P n)
    (hlong : ∀ row ∈ long, ImageIs P row.2)
    (hrows : ∀ row ∈ rows, ∀ k ≤ row.2.1 - row.1, k % row.2.2.1 = 0 → P (row.2.2.2 + k)) :
    ∃ m rest, foreignImage long rows n = Char.ofNat m :: rest ∧ P m ∧
      ∀ e ∈ rest, isWordChar e = true := by
  unfold foreignImage
  split
  · next image himage =>
    obtain ⟨l₁, l₂, hl, -⟩ := List.lookup_eq_some_iff.mp himage
    have hkind := hlong (n, image) (by simp [hl])
    cases image with
    | nil => exact hkind.elim
    | cons m rest =>
      refine ⟨m, _, rfl, hkind.1, fun e he => ?_⟩
      obtain ⟨code, hcode, rfl⟩ := List.mem_map.mp he
      exact isWordChar_of_ascii (hkind.2 code hcode).ofNat
  · exact ⟨_, [], rfl, caseImage_holds hn hrows, nofun⟩

/-! ## lower case -/

/-- The lower case of a letter or digit: its first character, if it is ASCII, is a lower case letter
or a digit. -/
theorem toLower_spec {c : Char} (hc : isAlphanumeric c = true) :
    ∃ d rest, toLower c = d :: rest ∧ (d.toNat < 128 → isLowDigit d = true) ∧
      ∀ e ∈ rest, isWordChar e = true := by
  unfold toLower
  split
  · next hascii =>
    have hall : ∀ n < 128, (Char.ofNat n).isAlphanum = true →
        isLowDigit (Char.ofNat n).toLower = true := by decide
    rw [isAlphanumeric, if_pos hascii] at hc
    have hlow := hall _ hascii (by rwa [Char.ofNat_toNat])
    rw [Char.ofNat_toNat] at hlow
    exact ⟨_, [], rfl, fun _ => hlow, nofun⟩
  · next hforeign =>
    have hlong : ∀ row ∈ CasingTable.lowerLong, ImageIs (AsciiCode isLowDigit) row.2 := by decide
    have hrows : ∀ row ∈ CasingTable.lower, RowIs isLowDigit row := by decide +kernel
    obtain ⟨n, rest, himage, hn, hrest⟩ := foreignImage_spec
      (asciiCode_toNat (Nat.le_of_not_lt hforeign)) hlong
      fun row hrow k hk _ => (hrows row hrow).asciiCode hk
    exact ⟨_, rest, himage, hn.ofNat, hrest⟩

/-! ## upper case -/

/-- an interval of letters and digits holds all code points from `first` to `last` -/
def covered (first last : Nat) : Bool :=
  LetterTable.alphanumeric.any fun row => Nat.ble row.1 first && Nat.ble last row.2

theorem covered_of_le {first last n m : Nat} (h : covered first last = true) (hn : first ≤ n)
    (hm : m ≤ last) : covered n m = true := by
  unfold covered at h ⊢
  rw [List.any_eq_true] at h ⊢
  obtain ⟨row, hrow, hin⟩ := h
  rw [Bool.and_eq_true, Nat.ble_eq, Nat.ble_eq] at hin
  refine ⟨row, hrow, ?_⟩
  rw [Bool.and_eq_true, Nat.ble_eq, Nat.ble_eq]
  omega

/-- the code point of a letter or digit that is no lower case letter of ASCII -/
def HighCode (n : Nat) : Prop := AsciiCode isHighDigit n ∧ (n < 128 ∨ covered n n = true)

instance : DecidablePred HighCode := fun _ => instDecidableAnd

theorem HighCode.isAlphanumeric {n : Nat} (h : HighCode n) :
    isAlphanumeric (Char.ofNat n) = true := by
  unfold Text.isAlphanumeric
  split
  · next hascii => exact isAlphanum_of_isHighDigit (h.1.ofNat hascii)
  · next hforeign =>
    rw [toNat_ofNat h.1.1] at hforeign ⊢
    have hcovered := h.2.resolve_left hforeign
    unfold covered at hcovered
    rw [List.any_eq_true] at hcovered ⊢
    obtain ⟨row, hrow, hin⟩ := hcovered
    rw [Bool.and_eq_true, Nat.ble_eq, Nat.ble_eq] at hin
    exact ⟨row, hrow, by simpa [inInterval] using hin⟩

theorem highCode_toNat {c : Char} (hforeign : 128 ≤ c.toNat) (hc : isAlphanumeric c = true) :
    HighCode c.toNat := by
  refine ⟨asciiCode_toNat hforeign, .inr ?_⟩
  rw [isAlphanumeric, if_neg (Nat.not_lt.mpr hforeign), List.any_eq_true] at hc
  obtain ⟨row, hrow, hin⟩ := hc
  rw [inInterval, Bool.and_eq_true, decide_eq_true_eq, decide_eq_true_eq] at hin
  rw [covered, List.any_eq_true]
  refine ⟨row, hrow, ?_⟩
  rwa [Bool.and_eq_true, Nat.ble_eq, Nat.ble_eq]

/-- All images of a row are letters, as an interval or one by one. -/
def rowCovered (row : Nat × Nat × Nat × Nat) : Bool :=
  Nat.blt row.2.2.2 128 && Nat.beq row.1 row.2.1 ||
    covered row.2.2.2 (row.2.2.2 + (row.2.1 - row.1)) ||
    (List.range (row.2.1 - row.1 + 1)).all fun k =>
      !Nat.beq (k % row.2.2.1) 0 || covered (row.2.2.2 + k) (row.2.2.2 + k)

theorem covered_of_rowCovered {row : Nat × Nat × Nat × Nat} (h : rowCovered row = true) {k : Nat}
    (hk : k ≤ row.2.1 - row.1) (hstep : k % row.2.2.1 = 0) :
    row.2.2.2 + k < 128 ∨ covered (row.2.2.2 + k) (row.2.2.2 + k) = true := by
  unfold rowCovered at h
  rw [Bool.or_eq_true, Bool.or_eq_true, Bool.and_eq_true, Nat.beq_eq, Nat.blt_eq] at h
  rcases h with (⟨hascii, hone⟩ | hinterval) | heach
  · exact .inl (by omega)
  · exact .inr (covered_of_le hinterval (Nat.le_add_right _ _) (Nat.add_le_add_left hk _))
  · have hat := List.all_eq_true.mp heach k (List.mem_range.mpr (Nat.lt_succ_of_le hk))
    simpa [hstep] using Or.inr hat

/-- The upper case of a letter or digit starts with a letter or digit, and if this is ASCII, it is
an upper case letter or a digit. -/
theorem toUpper_spec {c : Char} (hc : isAlphanumeric c = true) :
    ∃ d rest, toUpper c = d :: rest ∧ isAlphanumeric d = true ∧
      (d.toNat < 128 → isHighDigit d = true) ∧ ∀ e ∈ rest, isWordChar e = true := by
  unfold toUpper
  split
  · next hascii =>
    have hall : ∀ n < 128, (Char.ofNat n).isAlphanum = true →
        isHighDigit (Char.ofNat n).toUpper = true ∧
          isAlphanumeric (Char.ofNat n).toUpper = true := by decide
    rw [isAlphanumeric, if_pos hascii] at hc
    have hhigh := hall _ hascii (by rwa [Char.ofNat_toNat])
    rw [Char.ofNat_toNat] at hhigh
    exact ⟨_, [], rfl, hhigh.2, fun _ => hhigh.1, nofun⟩
  · next hforeign =>
    have hlong : ∀ row ∈ CasingTable.upperLong, ImageIs HighCode row.2 := by decide +kernel
    have hrows : ∀ row ∈ CasingTable.upper, RowIs isHighDigit row := by decide +kernel
    have hcovered : ∀ row ∈ CasingTable.upper, rowCovered row = true := by decide +kernel
    obtain ⟨n, rest, himage, hn, hrest⟩ := foreignImage_spec
      (highCode_toNat (Nat.le_of_not_lt hforeign) hc) hlong
      fun row hrow k hk hstep => ⟨(hrows row hrow).asciiCode hk,
        covered_of_rowCovered (hcovered row hrow) hk hstep⟩
    exact ⟨_, rest, himage, hn.isAlphanumeric, hn.1.ofNat, hrest⟩

end SchemaModel.Text

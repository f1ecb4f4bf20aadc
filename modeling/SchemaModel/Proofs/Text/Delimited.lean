import Mathlib
import SchemaModel.Text.Quoted

/-!
# Beginnings that end by themselves

Two lists can be told apart at the beginning of longer ones if one of them ends where the other does
or they differ before. A list that is put together of such beginnings is made of the same ones only
if it is the same list. Texts in quotes are such beginnings: a character is shown by itself or
behind a backslash, and a quote ends the text.

* `SplitsIff.append`   two parts, of which the second are told apart when the first are one;
* `splits_showChar`    a character is told apart by what is shown for it;
* `splits_quoted`      so is a text in quotes.
-/

namespace SchemaModel

/-- Whatever stands behind them, two beginnings are one exactly if `p`, and then the rest is one. -/
def SplitsIff (x y : List α) (p : Prop) : Prop :=
  ∀ rest rest', x ++ rest = y ++ rest' ↔ p ∧ rest = rest'

namespace SplitsIff

variable {x y x' y' : List α} {p q : Prop}

theorem same (x : List α) : SplitsIff x x True := by
  intro rest rest'
  rw [List.append_cancel_left_eq, true_and]

theorem of_iff (h : SplitsIff x y p) (hpq : p ↔ q) : SplitsIff x y q := by
  intro rest rest'
  rw [h rest rest', hpq]

theorem append (h : SplitsIff x y p) (h' : p → SplitsIff x' y' q) :
    SplitsIff (x ++ x') (y ++ y') (p ∧ q) := by
  intro rest rest'
  rw [List.append_assoc, List.append_assoc, h, and_assoc]
  exact and_congr_right fun hp => h' hp rest rest'

theorem eq_iff (h : SplitsIff x y p) : x = y ↔ p := by
  have hnil := h [] []
  rwa [List.append_nil, List.append_nil, and_iff_left rfl] at hnil

theorem symm (h : SplitsIff x y p) : SplitsIff y x p := by
  intro rest rest'
  rw [eq_comm, h, eq_comm (a := rest)]

/-- The same list stands in front of both. -/
theorem behind (front : List α) (h : SplitsIff x y p) : SplitsIff (front ++ x) (front ++ y) p :=
  ((same front).append fun _ => h).of_iff (by rw [true_and])

/-- The same list stands behind both. -/
theorem before (h : SplitsIff x y p) (back : List α) : SplitsIff (x ++ back) (y ++ back) p :=
  (h.append fun _ => same back).of_iff (by rw [and_true])

theorem of_head_ne {a b : α} (h : a ≠ b) (x y : List α) : SplitsIff (a :: x) (b :: y) False := by
  intro rest rest'
  rw [List.cons_append, List.cons_append, List.cons.injEq]
  exact iff_of_false (fun he => h he.1) fun hf => hf.1

theorem singleton (a b : α) : SplitsIff [a] [b] (a = b) := by
  intro rest rest'
  rw [List.singleton_append, List.singleton_append, List.cons.injEq]

/-- lists up to the first mark -/
theorem of_mark {mark : α} (hx : mark ∉ x) (hy : mark ∉ y) :
    SplitsIff (x ++ [mark]) (y ++ [mark]) (x = y) := by
  induction x generalizing y with
  | nil =>
    cases y with
    | nil => exact (same [mark]).of_iff (by simp)
    | cons b y => exact (of_head_ne (List.ne_of_not_mem_cons hy) [] _).of_iff (by simp)
  | cons a x ih =>
    cases y with
    | nil => exact (of_head_ne (List.ne_of_not_mem_cons hx).symm _ []).of_iff (by simp)
    | cons b y =>
      by_cases hab : a = b
      · rw [hab]
        exact ((ih (List.not_mem_of_not_mem_cons hx) (List.not_mem_of_not_mem_cons hy)).behind
          [b]).of_iff (by simp)
      · exact (of_head_ne hab _ _).of_iff (by simp [hab])

end SplitsIff

namespace Text

/-! ## hexadecimal digits -/

theorem digitChar_inj : ∀ m < 16, ∀ n < 16, Nat.digitChar m = Nat.digitChar n → m = n := by decide

theorem toDigits_inj {m n : Nat} (h : Nat.toDigits 16 m = Nat.toDigits 16 n) : m = n := by
  induction m using Nat.strongRecOn generalizing n with
  | ind m ih =>
    rw [Nat.toDigits_eq_if (by decide), Nat.toDigits_eq_if (n := n) (by decide)] at h
    split at h
    · next hm =>
      split at h
      · next hn => exact digitChar_inj m hm n hn (List.singleton_inj.mp h)
      · have hlength := congrArg List.length h
        simp at hlength
    · next hm =>
      split at h
      · have hlength := congrArg List.length h
        simp at hlength
      · next hn =>
        obtain ⟨hfront, hlast⟩ := List.append_inj' h rfl
        have hdiv := ih (m / 16) (by omega) hfront
        have hmod := digitChar_inj _ (Nat.mod_lt m (by decide)) _ (Nat.mod_lt n (by decide))
          (List.singleton_inj.mp hlast)
        omega

theorem brace_not_mem_toDigits (n : Nat) : '\x7d' ∉ Nat.toDigits 16 n := by
  have hdigit : ∀ m < 16, Nat.digitChar m ≠ '\x7d' := by decide
  induction n using Nat.strongRecOn with
  | ind n ih =>
    rw [Nat.toDigits_eq_if (by decide)]
    split
    · next hn => exact fun hm => hdigit n hn (List.mem_singleton.mp hm).symm
    · rw [List.mem_append, not_or]
      exact ⟨ih (n / 16) (by omega), fun hm =>
        hdigit _ (Nat.mod_lt n (by decide)) (List.mem_singleton.mp hm).symm⟩

/-! ## characters -/

/-- the character that a mark behind a backslash stands for -/
def shortForm? : Char → Option Char
  | '0' => some (Char.ofNat 0)
  | 't' => some '\t'
  | 'r' => some '\r'
  | 'n' => some '\n'
  | '"' => some '"'
  | '\\' => some '\\'
  | _ => none

/-- A character is shown by itself, by a mark behind a backslash, or by its code point. -/
theorem showChar_cases (c : Char) : (showChar c = [c] ∧ c ≠ '\\' ∧ c ≠ '"') ∨
    (∃ mark, showChar c = ['\\', mark] ∧ shortForm? mark = some c) ∨ showChar c = showCode c := by
  unfold showChar
  split
  · next h => exact .inr (.inl ⟨'0', rfl, by rw [← Char.ofNat_toNat c, h]; rfl⟩)
  split
  · next h => exact .inr (.inl ⟨'t', rfl, by rw [h]; rfl⟩)
  split
  · next h => exact .inr (.inl ⟨'r', rfl, by rw [h]; rfl⟩)
  split
  · next h => exact .inr (.inl ⟨'n', rfl, by rw [h]; rfl⟩)
  split
  · next h => exact .inr (.inl ⟨c, rfl, by rcases h with rfl | rfl <;> rfl⟩)
  next hmark =>
    rw [not_or] at hmark
    split
    · exact .inl ⟨rfl, hmark.2, hmark.1⟩
    split
    · exact .inr (.inr rfl)
    · exact .inl ⟨rfl, hmark.2, hmark.1⟩

theorem splits_showCode (c d : Char) : SplitsIff (showCode c) (showCode d) (c = d) := by
  have hdigits := SplitsIff.of_mark (brace_not_mem_toDigits c.toNat) (brace_not_mem_toDigits d.toNat)
  refine (hdigits.behind ['\\', 'u', '\x7b']).of_iff ⟨fun h => ?_, fun h => by rw [h]⟩
  exact Char.toNat_inj.mp (toDigits_inj h)

/-- A character that is shown by itself is told apart from one behind a backslash. -/
theorem splits_self {c : Char} (hback : c ≠ '\\') (behind : List Char) :
    SplitsIff [c] ('\\' :: behind) False :=
  .of_head_ne hback [] behind

theorem splits_mark_showCode {mark c d : Char} (hshort : shortForm? mark = some c) :
    SplitsIff ['\\', mark] (showCode d) False := by
  have hmark : mark ≠ 'u' := by
    rintro rfl
    cases hshort
  exact (SplitsIff.of_head_ne hmark [] _).behind ['\\']

theorem splits_showChar (c d : Char) : SplitsIff (showChar c) (showChar d) (c = d) := by
  by_cases hcd : c = d
  · rw [hcd]
    exact (SplitsIff.same _).of_iff (by simp)
  suffices h : SplitsIff (showChar c) (showChar d) False from h.of_iff (iff_of_false id hcd)
  rcases showChar_cases c with ⟨hc, hback, -⟩ | ⟨mark, hc, hshort⟩ | hc <;>
    rcases showChar_cases d with ⟨hd, hback', -⟩ | ⟨mark', hd, hshort'⟩ | hd <;> rw [hc, hd]
  case inl.inl => exact .of_head_ne hcd [] []
  case inl.inr.inl | inl.inr.inr => exact splits_self hback _
  case inr.inl.inl | inr.inr.inl => exact (splits_self hback' _).symm
  case inr.inl.inr.inl =>
    have hmark : mark ≠ mark' := by
      rintro rfl
      exact hcd (Option.some.inj (hshort.symm.trans hshort'))
    exact (SplitsIff.of_head_ne hmark [] []).behind ['\\']
  case inr.inl.inr.inr => exact splits_mark_showCode hshort
  case inr.inr.inr.inl => exact (splits_mark_showCode hshort').symm
  case inr.inr.inr.inr => exact (splits_showCode c d).of_iff (iff_of_false hcd id)

/-! ## texts in quotes -/

/-- What is shown for a character does not start with a quote. -/
theorem splits_quote_showChar (c : Char) (behind : List Char) :
    SplitsIff ['"'] (showChar c ++ behind) False := by
  rcases showChar_cases c with ⟨hc, -, hquote⟩ | ⟨mark, hc, -⟩ | hc <;> rw [hc]
  · exact .of_head_ne hquote.symm [] behind
  · exact .of_head_ne (by decide) [] _
  · exact .of_head_ne (by decide) [] _

theorem splits_flatMap_showChar (s t : List Char) :
    SplitsIff (s.flatMap showChar ++ ['"']) (t.flatMap showChar ++ ['"']) (s = t) := by
  induction s generalizing t with
  | nil =>
    cases t with
    | nil => exact (SplitsIff.same _).of_iff (by simp)
    | cons d t =>
      rw [List.flatMap_cons, List.append_assoc]
      exact (splits_quote_showChar d _).of_iff (by simp)
  | cons c s ih =>
    cases t with
    | nil =>
      rw [List.flatMap_cons, List.append_assoc]
      exact (splits_quote_showChar c _).symm.of_iff (by simp)
    | cons d t =>
      rw [List.flatMap_cons, List.flatMap_cons, List.append_assoc, List.append_assoc]
      exact ((splits_showChar c d).append fun _ => ih t).of_iff (by simp)

theorem splits_quoted (s t : String) :
    SplitsIff (quoted s).toList (quoted t).toList (s = t) := by
  rw [quoted, quoted, String.toList_ofList, String.toList_ofList]
  exact ((splits_flatMap_showChar s.toList t.toList).behind ['"']).of_iff String.toList_inj

end Text

end SchemaModel

/-!
# What a traversal has left to see

A traversal that never enters an element twice ends, since every step leaves fewer elements unseen.

* `unseen_cons_lt`   entering an element that was not seen leaves fewer.
-/

namespace SchemaModel

/-- the number of elements of `all` that are not in `seen` -/
def unseen [DecidableEq α] (all seen : List α) : Nat := all.countP (· ∉ seen)

theorem unseen_cons_le [DecidableEq α] (all seen : List α) (a : α) :
    unseen all (a :: seen) ≤ unseen all seen :=
  List.countP_mono_left fun x _ hx => by simp_all

theorem unseen_cons_lt [DecidableEq α] {all seen : List α} {a : α} (ha : a ∈ all)
    (hs : a ∉ seen) : unseen all (a :: seen) < unseen all seen := by
  induction all with
  | nil => cases ha
  | cons b rest ih =>
    have hle := unseen_cons_le rest seen a
    unfold unseen at ih hle ⊢
    rw [List.countP_cons, List.countP_cons]
    by_cases hb : b = a
    · subst hb
      simp only [List.mem_cons, true_or, not_true, decide_false, hs, not_false_eq_true,
        decide_true, Bool.false_eq_true, if_false, if_true] at hle ⊢
      omega
    · have := ih ((List.mem_cons.mp ha).resolve_left (Ne.symm hb))
      simp only [List.mem_cons, hb, false_or] at this ⊢
      split <;> omega

end SchemaModel

import Mathlib.Data.List.Forall2
import SchemaModel.Error

/-!
# Lists

Facts about lists of pairs and related lists that several parts of the development use.
-/

namespace SchemaModel

/-- With distinct keys a lookup finds exactly the entries of a list. -/
theorem lookup_eq_some_iff_mem {α β : Type} [BEq α] [LawfulBEq α] {l : List (α × β)}
    (h : (l.map Prod.fst).Nodup) {key : α} {value : β} :
    l.lookup key = some value ↔ (key, value) ∈ l := by
  induction l with
  | nil => simp
  | cons entry rest ih =>
    obtain ⟨k, v⟩ := entry
    obtain ⟨hk, hr⟩ := List.nodup_cons.mp h
    rw [List.lookup_cons, List.mem_cons, Prod.mk.injEq]
    by_cases he : key = k
    · subst he
      have hm : (key, value) ∉ rest := fun hm => hk (List.mem_map.mpr ⟨_, hm, rfl⟩)
      simp [hm, eq_comm]
    · rw [beq_false_of_ne he]
      simp [he, ih hr]

/-- What a lookup finds is an entry, also if keys are repeated. -/
theorem mem_of_lookup {α β : Type} [BEq α] [LawfulBEq α] {l : List (α × β)} {key : α} {value : β}
    (h : l.lookup key = some value) : (key, value) ∈ l := by
  obtain ⟨front, behind, rfl, -⟩ := List.lookup_eq_some_iff.mp h
  exact List.mem_append_right _ List.mem_cons_self

theorem mem_of_forall₂ {R : α → β → Prop} {as : List α} {bs : List β} (h : List.Forall₂ R as bs) :
    ∀ b ∈ bs, ∃ a ∈ as, R a b := by
  induction h with
  | nil => exact nofun
  | cons hab _ ih =>
    intro b hb
    rcases List.mem_cons.mp hb with rfl | hb
    · exact ⟨_, List.mem_cons_self, hab⟩
    · obtain ⟨a, ha, hr⟩ := ih b hb
      exact ⟨a, List.mem_cons_of_mem _ ha, hr⟩

/-- What two lists are joined to still holds the first of them, and the second. -/
theorem map_zipWith_left {α β γ : Type} {f : α → β → γ} {g : γ → α} (h : ∀ a b, g (f a b) = a)
    {as : List α} {bs : List β} (hl : as.length ≤ bs.length) :
    (List.zipWith f as bs).map g = as := by
  have hg : g ∘ Function.uncurry f = Prod.fst := funext fun (a, b) => h a b
  rw [← List.map_uncurry_zip_eq_zipWith, List.map_map, hg, List.map_fst_zip hl]

theorem map_zipWith_right {α β γ : Type} {f : α → β → γ} {g : γ → β} (h : ∀ a b, g (f a b) = b)
    {as : List α} {bs : List β} (hl : bs.length ≤ as.length) :
    (List.zipWith f as bs).map g = bs := by
  have hg : g ∘ Function.uncurry f = Prod.snd := funext fun (a, b) => h a b
  rw [← List.map_uncurry_zip_eq_zipWith, List.map_map, hg, List.map_snd_zip hl]

theorem nodup_map_congr {α β γ : Type} {f : α → β} {g : α → γ} {l : List α}
    (h : ∀ a b, f a = f b ↔ g a = g b) : (l.map f).Nodup ↔ (l.map g).Nodup := by
  rw [List.Nodup, List.Nodup, List.pairwise_map, List.pairwise_map]
  simp only [ne_eq, h]

/-- A list is cut where a class of elements ends for the first time. -/
theorem takeWhile_dropWhile_iff {α : Type} {p : α → Bool} {l front behind : List α} :
    l.takeWhile p = front ∧ l.dropWhile p = behind ↔
      l = front ++ behind ∧ (∀ a ∈ front, p a) ∧ ∀ a, behind.head? = some a → p a = false := by
  constructor
  · rintro ⟨rfl, rfl⟩
    refine ⟨List.takeWhile_append_dropWhile.symm, fun a ha => ?_, fun a ha => ?_⟩
    · exact List.all_eq_true.mp List.all_takeWhile a ha
    · have hstop := List.head?_dropWhile_not p l
      rw [ha] at hstop
      exact hstop
  · rintro ⟨rfl, hfront, hbehind⟩
    rw [List.takeWhile_append_of_pos hfront, List.dropWhile_append_of_pos hfront]
    cases behind with
    | nil => simp
    | cons a rest => simp [hbehind a rfl]

/-- What stands behind the last element that is not in a class. -/
theorem takeWhile_reverse_iff {α : Type} {p : α → Bool} {l front behind : List α} :
    (l.reverse.takeWhile p).reverse = behind ∧ (l.reverse.dropWhile p).reverse = front ↔
      l = front ++ behind ∧ (∀ a ∈ behind, p a) ∧ ∀ a, front.getLast? = some a → p a = false := by
  rw [List.reverse_eq_iff, List.reverse_eq_iff, takeWhile_dropWhile_iff, List.head?_reverse,
    ← List.reverse_append, List.reverse_inj]
  simp only [List.mem_reverse]

theorem nodup_eraseDups {α : Type} [BEq α] [LawfulBEq α] : (l : List α) → l.eraseDups.Nodup
  | [] => List.nodup_nil
  | a :: rest => by
    rw [List.eraseDups_cons, List.nodup_cons, List.mem_eraseDups, List.mem_filter]
    exact ⟨by simp, nodup_eraseDups _⟩
termination_by l => l.length
decreasing_by
  have := List.length_filter_le (fun b => !b == a) rest
  rw [List.length_cons]
  omega

/-! ## lists that are read one by one -/

section
variable {ε α β : Type} {f : α → Except ε β} {l : List α}

/-- A list is read to the list of what its entries are read to. -/
theorem mapM_eq_ok_iff {R : α → β → Prop} {bs : List β}
    (h : ∀ a ∈ l, ∀ b, f a = .ok b ↔ R a b) : l.mapM f = .ok bs ↔ List.Forall₂ R l bs := by
  induction l generalizing bs with
  | nil => cases bs <;> simp [pure, Except.pure]
  | cons a rest ih =>
    obtain ⟨hfirst, hrest⟩ := List.forall_mem_cons.mp h
    rw [List.mapM_cons]
    constructor
    · intro hread
      obtain ⟨b, hb, hread⟩ := bind_ok hread
      obtain ⟨others, ho, hread⟩ := bind_ok hread
      cases hread
      exact .cons ((hfirst b).mp hb) ((ih hrest).mp ho)
    · rintro (_ | ⟨hb, ho⟩)
      rw [(hfirst _).mpr hb, (ih hrest).mpr ho]
      rfl

/-- The error of a list is that of its first entry that is not read. -/
theorem mapM_error {e : ε} (h : l.mapM f = .error e) :
    ∃ before a after, l = before ++ a :: after ∧ (∀ b ∈ before, ∃ r, f b = .ok r) ∧
      f a = .error e := by
  induction l with
  | nil => cases h
  | cons a rest ih =>
    rw [List.mapM_cons] at h
    rcases bind_error h with ha | ⟨r, hr, h⟩
    · exact ⟨[], a, rest, rfl, nofun, ha⟩
    · rcases bind_error h with h | ⟨_, -, h⟩
      · obtain ⟨before, b, after, rfl, hbefore, hb⟩ := ih h
        exact ⟨a :: before, b, after, rfl, List.forall_mem_cons.mpr ⟨⟨r, hr⟩, hbefore⟩, hb⟩
      · cases h

/-- A list is read exactly when each of its entries is. -/
theorem mapM_ok_iff : (∃ bs, l.mapM f = .ok bs) ↔ ∀ a ∈ l, ∃ b, f a = .ok b := by
  constructor
  · rintro ⟨bs, h⟩ a ha
    obtain ⟨b, -, hb⟩ := mem_of_forall₂ ((mapM_eq_ok_iff fun _ _ _ => Iff.rfl).mp h).flip a ha
    exact ⟨b, hb⟩
  · intro h
    cases hread : l.mapM f with
    | ok bs => exact ⟨bs, rfl⟩
    | error e =>
      obtain ⟨before, a, after, rfl, -, ha⟩ := mapM_error hread
      obtain ⟨b, hb⟩ := h a (by simp)
      cases ha.symm.trans hb

end

end SchemaModel

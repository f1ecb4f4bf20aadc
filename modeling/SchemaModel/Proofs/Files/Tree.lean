import Mathlib.Tactic.ByContra
import SchemaModel.Error
import SchemaModel.Proofs.Files.ReadBack
import SchemaModel.Proofs.Lists

/-!
# Walks in a tree

A path is walked name by name. Where the file system only grows, a walk ends where it ended before.
The other way round it takes a tree, in which every entry lies in a directory: an entry that was
there before is reached by a walk that was possible before, unless the walk goes up from a directory
that is new.

* `Grows.walks`               walks end where they ended;
* `isTree_empty`, `IsTree.put`   what is built from nothing is a tree;
* `IsTree.walks_before`       a walk to an old entry that goes up from old directories only;
* `IsTree.climbs_of_locate`   how a path leads to an old entry that it did not lead to before.
-/

namespace SchemaModel

namespace FileSystem

variable {fs fs' : FileSystem} {first last place : Place} {path name : String}

/-! ## walks -/

/-- From a place on the names lead to another one. -/
def Walks (fs : FileSystem) (first : Place) (way : List String) (last : Place) : Prop :=
  way.foldlM fs.step first = .ok last

theorem walks_nil : fs.Walks first [] last ↔ last = first := by
  show Except.ok first = Except.ok last ↔ _
  rw [Except.ok.injEq, eq_comm]

theorem walks_cons {way : List String} :
    fs.Walks first (name :: way) last ↔
      ∃ next, fs.step first name = .ok next ∧ fs.Walks next way last := by
  unfold Walks
  rw [List.foldlM_cons]
  constructor
  · intro h
    exact bind_ok h
  · rintro ⟨next, hstep, hway⟩
    rw [hstep]
    exact hway

theorem walks_append {way behind : List String} :
    fs.Walks first (way ++ behind) last ↔
      ∃ next, fs.Walks first way next ∧ fs.Walks next behind last := by
  induction way generalizing first with
  | nil => simp [walks_nil]
  | cons name way ih =>
    rw [List.cons_append, walks_cons]
    constructor
    · rintro ⟨next, hstep, h⟩
      obtain ⟨middle, hway, hbehind⟩ := ih.mp h
      exact ⟨middle, walks_cons.mpr ⟨next, hstep, hway⟩, hbehind⟩
    · rintro ⟨middle, h, hbehind⟩
      obtain ⟨next, hstep, hway⟩ := walks_cons.mp h
      exact ⟨next, hstep, ih.mpr ⟨middle, hway, hbehind⟩⟩

theorem Walks.unique {way : List String} {other : Place} (h : fs.Walks first way last)
    (h' : fs.Walks first way other) : last = other := Except.ok.inj (h.symm.trans h')

theorem locate_eq_ok_iff :
    fs.locate path = .ok place ↔ path ≠ "" ∧ fs.Walks (fs.start path) (names path) place := by
  unfold locate Walks
  split
  · next h => simp [h]
  · next h => simp [h]

theorem contains_eq_false_iff : fs.contains path = false ↔ ∀ place, fs.locate path ≠ .ok place := by
  unfold contains
  cases fs.locate path <;> simp

/-- On its way the path comes by a place. -/
def Passes (fs : FileSystem) (path : String) (place : Place) : Prop :=
  ∃ way behind, names path = way ++ behind ∧ fs.Walks (fs.start path) way place

/-- The path goes up from a place. -/
def Climbs (fs : FileSystem) (path : String) (place : Place) : Prop :=
  ∃ way behind, names path = way ++ ".." :: behind ∧ fs.Walks (fs.start path) way place

theorem Climbs.isDirectory {above : Place} (h : fs.Climbs path above)
    (hpath : fs.locate path = .ok place) : fs.isDirectory above = true := by
  obtain ⟨way, behind, hnames, hway⟩ := h
  have hwalks := (locate_eq_ok_iff.mp hpath).2
  rw [hnames, walks_append] at hwalks
  obtain ⟨next, hnext, hbehind⟩ := hwalks
  obtain ⟨_, hup, -⟩ := walks_cons.mp hbehind
  rw [hway.unique hnext]
  exact (step_eq_ok_iff.mp hup).1

/-! ## growing -/

/-- Entries stay, and those that were there are directories as they were. -/
structure Grows (fs fs' : FileSystem) : Prop where
  here : fs'.here = fs.here
  directory : ∀ place, fs.isDirectory place = true → fs'.isDirectory place = true
  entry : ∀ place, (fs.get? place).isSome → (fs'.get? place).isSome
  before : ∀ place, fs'.isDirectory place = true → (fs.get? place).isSome →
    fs.isDirectory place = true

theorem Grows.refl (fs : FileSystem) : fs.Grows fs :=
  ⟨rfl, fun _ h => h, fun _ h => h, fun _ h _ => h⟩

theorem Grows.trans {fs'' : FileSystem} (h : fs.Grows fs') (h' : fs'.Grows fs'') :
    fs.Grows fs'' where
  here := h'.here.trans h.here
  directory p hp := h'.directory p (h.directory p hp)
  entry p hp := h'.entry p (h.entry p hp)
  before p hp hold := h.before p (h'.before p hp (h.entry p hold)) hold

theorem Grows.put {e : Entry} (h : fs.isDirectory place = false)
    (he : e = .directory → fs.get? place = none) : fs.Grows (fs.put place e) where
  here := rfl
  directory _ hp := isDirectory_put h hp e
  entry _ hp := isSome_get?_put hp e
  before p hp hold := by
    by_cases hne : p = place
    · subst hne
      have hroot : p ≠ [] := by
        rintro rfl
        cases h
      rw [isDirectory, get?_put_self hroot] at hp
      rw [he (Option.some.inj (of_decide_eq_true hp))] at hold
      cases hold
    · rwa [isDirectory, get?_put_of_ne hne] at hp

theorem Grows.start (h : fs.Grows fs') (path : String) : fs'.start path = fs.start path := by
  rw [FileSystem.start, FileSystem.start, h.here]

theorem Grows.step (h : fs.Grows fs') (hstep : fs.step first name = .ok last) :
    fs'.step first name = .ok last := by
  rw [step_eq_ok_iff] at hstep ⊢
  refine ⟨h.directory first hstep.1, ?_⟩
  have hlast := hstep.2
  split
  · next hstay => rwa [if_pos hstay] at hlast
  · next hstay =>
    rw [if_neg hstay] at hlast
    split
    · next hup => rwa [if_pos hup] at hlast
    · next hup =>
      rw [if_neg hup] at hlast
      exact ⟨hlast.1, h.entry _ hlast.2.1, hlast.2.2⟩

theorem Grows.walks (h : fs.Grows fs') {way : List String} (hway : fs.Walks first way last) :
    fs'.Walks first way last := by
  induction way generalizing first with
  | nil => exact hway
  | cons name way ih =>
    obtain ⟨next, hstep, hrest⟩ := walks_cons.mp hway
    exact walks_cons.mpr ⟨next, h.step hstep, ih hrest⟩

theorem Grows.locate (h : fs.Grows fs') (hpath : fs.locate path = .ok place) :
    fs'.locate path = .ok place := by
  rw [locate_eq_ok_iff] at hpath ⊢
  rw [h.start]
  exact ⟨hpath.1, h.walks hpath.2⟩

theorem Grows.passes (h : fs.Grows fs') (hpath : fs.Passes path place) : fs'.Passes path place := by
  obtain ⟨way, behind, hnames, hway⟩ := hpath
  exact ⟨way, behind, hnames, (h.start path).symm ▸ h.walks hway⟩

/-! ## trees -/

/-- Every entry lies in a directory. -/
def IsTree (fs : FileSystem) : Prop :=
  ∀ place name, (fs.get? (place ++ [name])).isSome → fs.isDirectory place = true

theorem IsTree.put {above : Place} (h : fs.IsTree) (habove : fs.isDirectory above = true)
    (hplace : fs.isDirectory (above ++ [name]) = false) (e : Entry) :
    (fs.put (above ++ [name]) e).IsTree := by
  intro place other hsome
  by_cases hnew : place ++ [other] = above ++ [name]
  · rw [(List.append_singleton_inj.mp hnew).1]
    exact isDirectory_put hplace habove e
  · rw [get?_put_of_ne hnew] at hsome
    exact isDirectory_put hplace (h place other hsome) e

theorem lookup_of_forall {entries : List (Place × Entry)} {e : Entry}
    (h : ∀ entry ∈ entries, entry.2 = e) (hplace : place ∈ entries.map Prod.fst) :
    entries.lookup place = some e := by
  induction entries with
  | nil => cases hplace
  | cons entry rest ih =>
    obtain ⟨p, old⟩ := entry
    obtain ⟨rfl, hrest⟩ := List.forall_mem_cons.mp h
    by_cases hne : place = p
    · simp [hne]
    · rw [List.lookup_cons, beq_false_of_ne hne]
      exact ih hrest ((List.mem_cons.mp hplace).resolve_left hne)

/-- What there is at first are the directories on the way down to `here`. -/
theorem get?_empty {here : Place} (h : (empty here).get? place ≠ none) :
    ∃ n ≤ here.length, place = here.take n := by
  unfold get? at h
  split at h
  · next hroot => exact ⟨0, Nat.zero_le _, hroot⟩
  · obtain ⟨e, he⟩ := Option.ne_none_iff_exists'.mp h
    have hm : (place, e) ∈ (empty here).entries := mem_of_lookup he
    obtain ⟨n, hn, heq⟩ := List.mem_map.mp hm
    exact ⟨n + 1, List.mem_range.mp hn, (congrArg Prod.fst heq).symm⟩

theorem isDirectory_empty (here : Place) {n : Nat} (h : n ≤ here.length) :
    (empty here).isDirectory (here.take n) = true := by
  rw [isDirectory, decide_eq_true_eq, get?]
  split
  · rfl
  · next hroot =>
    refine lookup_of_forall (fun entry hentry => ?_) ?_
    · obtain ⟨_, -, rfl⟩ := List.mem_map.mp hentry
      rfl
    · cases n with
      | zero => exact absurd rfl hroot
      | succ n => exact List.mem_map.mpr ⟨_, List.mem_map.mpr ⟨n, List.mem_range.mpr h, rfl⟩, rfl⟩

theorem isTree_empty (here : Place) : (empty here).IsTree := by
  intro place name hsome
  obtain ⟨n, hn, hplace⟩ := get?_empty (Option.isSome_iff_ne_none.mp hsome)
  -- the directory above is the next shorter part of the way down to `here`
  have habove : place = here.take (n - 1) := by
    have hdrop := congrArg List.dropLast hplace
    rwa [List.dropLast_concat, List.dropLast_eq_take, List.length_take, List.take_take,
      Nat.min_eq_left hn, Nat.min_eq_left (Nat.sub_le n 1)] at hdrop
  rw [habove]
  exact isDirectory_empty here (by omega)

/-- A step in the grown file system to an old entry is possible before, if it does not go up from a
new directory. -/
theorem IsTree.step_before (h : fs.IsTree) (hgrows : fs.Grows fs')
    (hup : name = ".." → (fs.get? first).isSome) (hstep : fs'.step first name = .ok last)
    (hlast : (fs.get? last).isSome) :
    (fs.get? first).isSome ∧ fs.step first name = .ok last := by
  rw [step_eq_ok_iff] at hstep ⊢
  obtain ⟨hdir, hnext⟩ := hstep
  split at hnext
  · next hstay =>
    subst hnext
    rw [if_pos hstay]
    exact ⟨hlast, hgrows.before last hdir hlast, rfl⟩
  · next hstay =>
    rw [if_neg hstay]
    split at hnext
    · next hdots =>
      rw [if_pos hdots]
      exact ⟨hup hdots, hgrows.before first hdir (hup hdots), hnext⟩
    · next hdots =>
      rw [if_neg hdots]
      obtain ⟨hbad, -, rfl⟩ := hnext
      have hfirst := h first name hlast
      exact ⟨Option.isSome_of_eq_some (of_decide_eq_true hfirst), hfirst, hbad, hlast, rfl⟩

/-- A walk to an old entry that goes up from old directories only was possible before. -/
theorem IsTree.walks_before (h : fs.IsTree) (hgrows : fs.Grows fs') {way : List String}
    (hup : ∀ before behind above, way = before ++ ".." :: behind → fs'.Walks first before above →
      (fs.get? above).isSome)
    (hway : fs'.Walks first way last) (hlast : (fs.get? last).isSome) :
    (fs.get? first).isSome ∧ fs.Walks first way last := by
  induction way generalizing first with
  | nil =>
    rw [walks_nil.mp hway] at hlast
    exact ⟨hlast, hway⟩
  | cons name way ih =>
    obtain ⟨next, hstep, hrest⟩ := walks_cons.mp hway
    obtain ⟨hnext, hwalks⟩ := ih (fun before behind above hsplit hbefore =>
      hup (name :: before) behind above (by rw [hsplit]; rfl)
        (walks_cons.mpr ⟨next, hstep, hbefore⟩)) hrest
    obtain ⟨hfirst, hstep⟩ := h.step_before hgrows
      (fun hdots => hup [] way first (by rw [hdots]; rfl) (walks_nil.mpr rfl)) hstep hnext
    exact ⟨hfirst, walks_cons.mpr ⟨next, hstep, hwalks⟩⟩

/-- A path that leads to an old entry, and to nothing before, goes up from a new directory. -/
theorem IsTree.climbs_of_locate (h : fs.IsTree) (hgrows : fs.Grows fs')
    (hpath : fs'.locate path = .ok place) (hplace : (fs.get? place).isSome)
    (hbefore : fs.contains path = false) :
    ∃ above, fs'.Climbs path above ∧ fs.get? above = none ∧ fs'.isDirectory above = true := by
  by_contra hnone
  obtain ⟨hne, hwalks⟩ := locate_eq_ok_iff.mp hpath
  rw [hgrows.start] at hwalks
  obtain ⟨-, hwalks⟩ := h.walks_before hgrows (fun way behind above hnames hway => by
    by_contra hnew
    have hclimbs : fs'.Climbs path above := ⟨way, behind, hnames, (hgrows.start path).symm ▸ hway⟩
    exact hnone ⟨above, hclimbs, by simpa using hnew, hclimbs.isDirectory hpath⟩) hwalks hplace
  exact contains_eq_false_iff.mp hbefore place (locate_eq_ok_iff.mpr ⟨hne, hwalks⟩)

end FileSystem

end SchemaModel

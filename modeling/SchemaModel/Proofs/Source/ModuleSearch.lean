import SchemaModel.Proofs.Source.FileNames

/-!
# The search for the name of a module

The modules are named one after the other. For each of them names are tried until one is free: first
the name of the model in snake case, then this name with the numbers from 2 on behind it. A `Trial`
is where such a search stands, and `Settles` follows it name by name, without a bound, so that a
search that never ends does not settle. The numbered names are all different, so there is a free one
among the first few, and the search ends there.

* `Settles.unique`             a search ends in one way at most;
* `settles_firstFree`          the search for the name of a module ends, with the first free name;
* `settles_of_getElem?`        a module is found among the modules before it;
* `modules_found_by_search`    all modules of a model set.
-/

namespace SchemaModel.Source

open Naming (plain fieldName)

/-! ## a search -/

/-- where a search stands: the name that is tried, and the number behind the next one -/
structure Trial where
  name : String
  next : Nat

namespace Trial

def first (base : String) : Trial := ⟨base, 2⟩

/-- the trial after a name that is taken -/
def retry (base : String) (t : Trial) : Trial := ⟨numberedModule base t.next, t.next + 1⟩

/-- the names that are tried from `t` on, with so many numbers -/
def tried (base : String) (t : Trial) : Nat → List String
  | 0 => [t.name]
  | n + 1 => t.name :: tried base (t.retry base) n

end Trial

/-- From the trial on the search passes so many names that are taken, and ends with a free name. -/
inductive Settles (taken : List String) (base : String) : Trial → Nat → String → Prop
  | free {t} (h : t.name ∉ taken) : Settles taken base t 0 t.name
  | again {t rounds name} (h : t.name ∈ taken)
      (hs : Settles taken base (t.retry base) rounds name) :
      Settles taken base t (rounds + 1) name

section
variable {taken taken' : List String} {base name name' : String} {t : Trial} {rounds rounds' : Nat}

/-- A search ends in one way at most. -/
theorem Settles.unique (h : Settles taken base t rounds name)
    (h' : Settles taken base t rounds' name') : rounds' = rounds ∧ name' = name := by
  induction h generalizing rounds' with
  | free hfree =>
    cases h' with
    | free _ => exact ⟨rfl, rfl⟩
    | again ht _ => exact absurd ht hfree
  | again ht _ ih =>
    cases h' with
    | free hfree => exact absurd ht hfree
    | again _ hs =>
      obtain ⟨hrounds, hname⟩ := ih hs
      exact ⟨congrArg (· + 1) hrounds, hname⟩

/-- A search ends with a free name. -/
theorem Settles.not_mem (h : Settles taken base t rounds name) : name ∉ taken := by
  induction h with
  | free hfree => exact hfree
  | again _ _ ih => exact ih

/-- A search ends at once with a name that is free. -/
theorem settles_first (h : base ∉ taken) : Settles taken base (.first base) 0 base := .free h

/-- The order of the names that are taken does not matter. -/
theorem Settles.congr (h : Settles taken base t rounds name)
    (hsame : ∀ n, n ∈ taken ↔ n ∈ taken') : Settles taken' base t rounds name := by
  induction h with
  | free hfree => exact .free fun hm => hfree ((hsame _).mpr hm)
  | again ht _ ih => exact .again ((hsame _).mp ht) ih

/-- When a free name is among those that are tried, the search ends with the first one. -/
theorem settles_of_find? {n : Nat} (h : (t.tried base n).find? (· ∉ taken) = some name) :
    ∃ rounds ≤ n, Settles taken base t rounds name := by
  induction n generalizing t with
  | zero =>
    have hname : t.name = name := by
      have hm := List.mem_of_find?_eq_some h
      exact (List.mem_singleton.mp hm).symm
    have hfree : t.name ∉ taken := by
      rw [hname]
      simpa using List.find?_some h
    exact ⟨0, Nat.le_refl 0, hname ▸ .free hfree⟩
  | succ n ih =>
    rw [Trial.tried] at h
    by_cases ht : t.name ∈ taken
    · rw [List.find?_cons_of_neg (by simpa using ht)] at h
      obtain ⟨rounds, hle, hs⟩ := ih h
      exact ⟨rounds + 1, Nat.succ_le_succ hle, .again ht hs⟩
    · rw [List.find?_cons_of_pos (by simpa using ht)] at h
      cases h
      exact ⟨0, Nat.zero_le _, .free ht⟩

end

/-! ## the names that are tried -/

theorem tried_eq (base : String) (t : Trial) (n : Nat) :
    t.tried base n = t.name :: (List.range n).map fun k => numberedModule base (k + t.next) := by
  induction n generalizing t with
  | zero => rfl
  | succ n ih =>
    have hnext : ∀ k, k + (t.next + 1) = k + 1 + t.next := fun k => by omega
    rw [Trial.tried, ih, List.range_succ_eq_map, List.map_cons, List.map_map]
    show t.name :: numberedModule base t.next ::
        (List.range n).map (fun k => numberedModule base (k + (t.next + 1))) = _
    simp only [hnext, Nat.zero_add]
    rfl

/-- The candidates for a module are the names that its search tries. -/
theorem candidates_eq_tried (base : String) (count : Nat) :
    candidates base count = (Trial.first base).tried base count :=
  (tried_eq base (.first base) count).symm

/-- The search for the name of a module ends, after as many numbers as names are taken at most. -/
theorem settles_firstFree (taken : List String) (name : String) :
    ∃ rounds ≤ taken.length, Settles taken (fieldName name) (.first (fieldName name)) rounds
      (firstFree taken (fieldName name)) := by
  have hfound := find?_candidates (Naming.isIdentifier_fieldName name) taken
  rw [candidates_eq_tried] at hfound
  exact settles_of_find? hfound

/-! ## all modules -/

theorem moduleNamesFrom_cons (taken rest : List String) (name : String) :
    moduleNamesFrom taken (name :: rest) = firstFree taken (fieldName name) ::
      moduleNamesFrom (firstFree taken (fieldName name) :: taken) rest := rfl

/-- A module is what the search finds among the modules before it and the names taken before. -/
theorem settles_of_getElem? (taken : List String) {names : List String} {i : Nat} {name : String}
    (h : names[i]? = some name) :
    ∃ module, (moduleNamesFrom taken names)[i]? = some module ∧
      ∃ rounds ≤ i + taken.length,
        Settles ((moduleNamesFrom taken names).take i ++ taken) (fieldName name)
          (.first (fieldName name)) rounds module := by
  induction names generalizing taken i with
  | nil => cases h
  | cons first rest ih =>
    rw [moduleNamesFrom_cons]
    cases i with
    | zero =>
      cases h
      obtain ⟨rounds, hle, hs⟩ := settles_firstFree taken name
      exact ⟨_, List.getElem?_cons_zero, rounds, by omega, hs⟩
    | succ i =>
      rw [List.getElem?_cons_succ] at h ⊢
      rw [List.take_succ_cons]
      obtain ⟨module, hm, rounds, hle, hs⟩ :=
        ih (firstFree taken (fieldName first) :: taken) h
      rw [List.length_cons] at hle
      refine ⟨module, hm, rounds, by omega, hs.congr fun n => ?_⟩
      rw [List.mem_append, List.mem_cons, List.cons_append, List.mem_cons, List.mem_append]
      exact or_left_comm

theorem settles_of_moduleNames {names : List String} {i : Nat} {name : String}
    (h : names[i]? = some name) :
    ∃ module, (moduleNames names)[i]? = some module ∧ ∃ rounds ≤ i,
      Settles ((moduleNames names).take i) (fieldName name) (.first (fieldName name)) rounds
        module := by
  obtain ⟨module, hm, rounds, hle, hs⟩ := settles_of_getElem? [] h
  rw [List.append_nil] at hs
  exact ⟨module, hm, rounds, hle, hs⟩

theorem nodup_map_plain (names : List String) : ((moduleNames names).map plain).Nodup := by
  refine (nodup_moduleNames names).map_on ?_
  intro a ha b hb hab
  exact (isIdentifier_of_mem_moduleNames ha).plain_inj (isIdentifier_of_mem_moduleNames hb) hab

/-- the modules of models, in order -/
def modulesOf (models : ModelSet) : List String := moduleNames (models.map Model.name)

/-- There is one module for each model, in order. The modules are distinct, and they stay so without
the mark of raw identifiers. For each model the search for a name that no module before it has ends
in one way, with its module, and passes no more names than there are modules before. The module is
the name of the model in snake case, with nothing behind it, exactly if no module before is. -/
theorem modules_found_by_search (models : ModelSet) :
    (modulesOf models).length = models.length ∧ (modulesOf models).Nodup ∧
    ((modulesOf models).map plain).Nodup ∧
    ∀ i model, models[i]? = some model → ∃ module, (modulesOf models)[i]? = some module ∧
      (∃ rounds ≤ i, ∀ n name, Settles ((modulesOf models).take i) (fieldName model.name)
          (.first (fieldName model.name)) n name ↔ n = rounds ∧ name = module) ∧
      (module = fieldName model.name ↔ fieldName model.name ∉ (modulesOf models).take i) := by
  unfold modulesOf
  refine ⟨by rw [length_moduleNames, List.length_map], nodup_moduleNames _, nodup_map_plain _, ?_⟩
  intro i model hmodel
  have hname : (models.map Model.name)[i]? = some model.name := by
    rw [List.getElem?_map, hmodel, Option.map_some]
  obtain ⟨module, hm, rounds, hle, hs⟩ := settles_of_moduleNames hname
  refine ⟨module, hm, ⟨rounds, hle, ?_⟩, ?_⟩
  · intro n name
    constructor
    · intro hother
      exact hs.unique hother
    · rintro ⟨rfl, rfl⟩
      exact hs
  · constructor
    · intro hkept
      rw [← hkept]
      exact hs.not_mem
    · intro hfree
      obtain ⟨-, hname⟩ := hs.unique (settles_first hfree)
      exact hname.symm

/-! ## an example -/

def numberedModels : ModelSet :=
  ["Type", "A", "a", "A_2", "type"].map fun name => .ofClass ⟨"N", name, none, [], false⟩

/-- A name with a number behind it is taken from the model that has it without, and a keyword has no
mark behind the raw identifier of the same keyword. -/
theorem modules_of_numberedModels :
    modulesOf numberedModels = ["r#type", "a", "a_2", "a_2_2", "type_2"] ∧
    ∃ rounds ≤ 3, ∀ n name,
      Settles ["r#type", "a", "a_2"] "a_2" (.first "a_2") n name ↔ n = rounds ∧ name = "a_2_2" := by
  have hmodules : modulesOf numberedModels = ["r#type", "a", "a_2", "a_2_2", "type_2"] := by
    decide
  have hbase : fieldName "A_2" = "a_2" := by decide
  obtain ⟨-, -, -, hall⟩ := modules_found_by_search numberedModels
  obtain ⟨module, hm, hsearch, -⟩ := hall 3 (.ofClass ⟨"N", "A_2", none, [], false⟩) rfl
  rw [hmodules] at hm hsearch
  cases hm
  refine ⟨hmodules, ?_⟩
  rw [show (Model.ofClass ⟨"N", "A_2", none, [], false⟩).name = "A_2" from rfl, hbase] at hsearch
  exact hsearch

end SchemaModel.Source

import Mathlib.Data.List.Nodup
import Mathlib.Data.List.Perm.Subperm
import SchemaModel.Proofs.Source.Identifiers
import SchemaModel.Source.File

/-!
# Names of source files

Every model has a file that is named after its module, and the index has a file with a fixed name.
Among the candidates for a module there is one more than there are names taken, so one of them is
free and the modules are distinct. The files of the models are distinct as well. The file of the
index is another one unless a model is called `mod` in snake case: its module is `r#mod`, which is
no module of another model, and its file is `mod.rs`.

* `firstFree_spec`           a free name is found;
* `nodup_moduleNames`        so no two models have one module;
* `raw_mem_moduleNames_iff`  the modules that are raw identifiers;
* `nodup_fileNames_iff`      when the names of all files are distinct.
-/

namespace SchemaModel.Source

open Naming (plain fieldName IsIdentifier)

/-! ## numbered names -/

theorem unmarked_toString (n : Nat) : Text.Unmarked (toString n) := by
  intro c hc
  have hdigit : c.isDigit = true := Nat.isDigit_of_mem_toDigits (by decide) (by decide)
    (Nat.toList_repr ▸ hc)
  rw [Char.isDigit, Bool.and_eq_true, decide_eq_true_eq, decide_eq_true_eq] at hdigit
  rw [Text.isMark, Bool.and_eq_false_iff, decide_eq_false_iff_not, decide_eq_false_iff_not]
  exact .inr (Nat.not_lt.mpr hdigit.1)

theorem unmarked_numberedModule {base : String} (h : IsIdentifier base) (n : Nat) :
    Text.Unmarked (numberedModule base n) :=
  (h.unmarked_plain.append (by decide)).append (unmarked_toString n)

theorem isIdentifier_numberedModule {base : String} (h : IsIdentifier base) (n : Nat) :
    IsIdentifier (numberedModule base n) :=
  Naming.isIdentifier_of_underscore (by simp [numberedModule]) (unmarked_numberedModule h n)

theorem numberedModule_inj {base : String} {m n : Nat} :
    numberedModule base m = numberedModule base n ↔ m = n := by
  refine ⟨fun h => ?_, fun h => h ▸ rfl⟩
  have hrepr : m.repr = n.repr := (String.append_right_inj _).mp h
  have hdigits : Nat.toDigits 10 m = Nat.toDigits 10 n := by
    rw [← Nat.toList_repr, ← Nat.toList_repr, hrepr]
  rw [← Nat.ofDigitChars_toDigits (b := 10) (n := m) (by decide) (by decide), hdigits,
    Nat.ofDigitChars_toDigits (by decide) (by decide)]

theorem numberedModule_ne {base : String} (h : IsIdentifier base) (n : Nat) :
    numberedModule base n ≠ base := by
  intro he
  have hplain : plain base = base := by
    rw [← he]
    exact Naming.plain_of_unmarked (unmarked_numberedModule h n)
  rw [numberedModule, hplain] at he
  have hlength := congrArg String.length he
  rw [String.length_append, String.length_append] at hlength
  have hone : "_".length = 1 := rfl
  omega

/-! ## free names -/

theorem length_candidates (base : String) (count : Nat) :
    (candidates base count).length = count + 1 := by
  simp [candidates]

theorem nodup_candidates {base : String} (h : IsIdentifier base) (count : Nat) :
    (candidates base count).Nodup := by
  refine List.nodup_cons.mpr ⟨fun hm => ?_, List.nodup_range.map fun m n hmn => ?_⟩
  · obtain ⟨k, -, hk⟩ := List.mem_map.mp hm
    exact numberedModule_ne h (k + 2) hk
  · exact Nat.add_right_cancel (numberedModule_inj.mp hmn)

theorem isIdentifier_of_mem_candidates {base name : String} (h : IsIdentifier base) {count : Nat}
    (hm : name ∈ candidates base count) : IsIdentifier name := by
  rcases List.mem_cons.mp hm with rfl | hm
  · exact h
  · obtain ⟨k, -, rfl⟩ := List.mem_map.mp hm
    exact isIdentifier_numberedModule h (k + 2)

theorem exists_free {base : String} (h : IsIdentifier base) (taken : List String) :
    ∃ name ∈ candidates base taken.length, name ∉ taken := by
  by_contra hall
  have hsub : candidates base taken.length ⊆ taken := fun name hm => by
    by_contra hfree
    exact hall ⟨name, hm, hfree⟩
  have hle := ((nodup_candidates h taken.length).subperm hsub).length_le
  rw [length_candidates] at hle
  omega

/-- The first candidate that is free is found. -/
theorem find?_candidates {base : String} (h : IsIdentifier base) (taken : List String) :
    (candidates base taken.length).find? (· ∉ taken) = some (firstFree taken base) := by
  obtain ⟨name, hm, hfree⟩ := exists_free h taken
  obtain ⟨found, hfound⟩ : ∃ found, (candidates base taken.length).find? (· ∉ taken) = some found :=
    Option.isSome_iff_exists.mp (List.find?_isSome.mpr ⟨name, hm, by simpa using hfree⟩)
  rw [firstFree, hfound, Option.getD_some]

/-- One of the candidates is found, and it is free. -/
theorem firstFree_spec {base : String} (h : IsIdentifier base) (taken : List String) :
    firstFree taken base ∈ candidates base taken.length ∧ firstFree taken base ∉ taken := by
  have hfound := find?_candidates h taken
  exact ⟨List.mem_of_find?_eq_some hfound, by simpa using List.find?_some hfound⟩

theorem firstFree_of_not_mem {taken : List String} {base : String} (h : base ∉ taken) :
    firstFree taken base = base := by
  rw [firstFree, candidates, List.find?_cons_of_pos (by simpa using h), Option.getD_some]

/-! ## modules -/

/-- The modules of models are identifiers that were not taken before, and no two are the same. -/
theorem moduleNamesFrom_spec (taken names : List String) :
    (moduleNamesFrom taken names).Nodup ∧
      ∀ m ∈ moduleNamesFrom taken names, IsIdentifier m ∧ m ∉ taken := by
  induction names generalizing taken with
  | nil => exact ⟨List.nodup_nil, nofun⟩
  | cons name rest ih =>
    have hbase := Naming.isIdentifier_fieldName name
    obtain ⟨hcandidate, hfree⟩ := firstFree_spec hbase taken
    obtain ⟨hnodup, hall⟩ := ih (firstFree taken (fieldName name) :: taken)
    refine ⟨List.nodup_cons.mpr ⟨fun hm => (hall _ hm).2 List.mem_cons_self, hnodup⟩,
      List.forall_mem_cons.mpr ⟨⟨isIdentifier_of_mem_candidates hbase hcandidate, hfree⟩, ?_⟩⟩
    exact fun m hm => ⟨(hall m hm).1, fun ht => (hall m hm).2 (List.mem_cons_of_mem _ ht)⟩

theorem nodup_moduleNames (names : List String) : (moduleNames names).Nodup :=
  (moduleNamesFrom_spec [] names).1

theorem isIdentifier_of_mem_moduleNames {names : List String} {m : String}
    (h : m ∈ moduleNames names) : IsIdentifier m := ((moduleNamesFrom_spec [] names).2 m h).1

theorem mem_moduleNamesFrom (taken : List String) {names : List String} {name : String}
    (h : name ∈ names) :
    fieldName name ∈ taken ∨ fieldName name ∈ moduleNamesFrom taken names := by
  induction names generalizing taken with
  | nil => cases h
  | cons first rest ih =>
    rcases List.mem_cons.mp h with rfl | h
    · by_cases ht : fieldName name ∈ taken
      · exact .inl ht
      · rw [moduleNamesFrom, firstFree_of_not_mem ht]
        exact .inr List.mem_cons_self
    · rcases ih (firstFree taken (fieldName first) :: taken) h with hm | hm
      · rcases List.mem_cons.mp hm with hm | hm
        · exact .inr (hm ▸ List.mem_cons_self)
        · exact .inl hm
      · exact .inr (List.mem_cons_of_mem _ hm)

/-- A module is called after a model, with a number behind it or without. -/
theorem exists_of_mem_moduleNamesFrom {taken names : List String} {m : String}
    (h : m ∈ moduleNamesFrom taken names) :
    ∃ name ∈ names, m = fieldName name ∨ ∃ n, m = numberedModule (fieldName name) n := by
  induction names generalizing taken with
  | nil => cases h
  | cons first rest ih =>
    rcases List.mem_cons.mp h with hm | hm
    · have hcandidate := hm ▸ (firstFree_spec (Naming.isIdentifier_fieldName first) taken).1
      refine ⟨first, List.mem_cons_self, ?_⟩
      rcases List.mem_cons.mp hcandidate with hm | hm
      · exact .inl hm
      · obtain ⟨k, -, hk⟩ := List.mem_map.mp hm
        exact .inr ⟨k + 2, hk.symm⟩
    · obtain ⟨name, hname, he⟩ := ih hm
      exact ⟨name, List.mem_cons_of_mem _ hname, he⟩

/-- A keyword is a module, as a raw identifier, if and only if it is the name of a model in snake
case. -/
theorem raw_mem_moduleNames_iff {names : List String} {k : String} (hk : k ∈ Naming.keywords)
    (hp : k ∉ Naming.pathKeywords) :
    "r#" ++ k ∈ moduleNames names ↔ ∃ name ∈ names, Text.snake name = k := by
  constructor
  · intro h
    obtain ⟨name, hname, he | ⟨n, he⟩⟩ := exists_of_mem_moduleNamesFrom h
    · exact ⟨name, hname, (Naming.fieldName_eq_raw_iff hk hp).mp he.symm⟩
    · have hmark := unmarked_numberedModule (Naming.isIdentifier_fieldName name) n
      rw [← he] at hmark
      exact absurd (hmark '#' (by simp)) (by decide)
  · rintro ⟨name, hname, he⟩
    rw [← (Naming.fieldName_eq_raw_iff hk hp).mpr he]
    exact (mem_moduleNamesFrom [] hname).resolve_left List.not_mem_nil

/-! ## files -/

theorem length_files (models : ModelSet) (namespaceName : String) :
    (files models namespaceName).length = models.length + 1 := by
  simp [files, length_moduleNames]

/-- the name of the file of a module -/
def fileName (module : String) : String := plain module ++ ".rs"

/-- the files of the models -/
def modelFiles (models : ModelSet) : List File :=
  ((moduleNames (models.map Model.name)).zip models).map fun entry =>
    ⟨fileName entry.1, linesText (modelLines models entry.2)⟩

/-- the file that declares the modules -/
def indexFile (models : ModelSet) (namespaceName : String) : File :=
  let names := models.map Model.name
  ⟨indexName, linesText (indexLines namespaceName ((moduleNames names).zip names))⟩

theorem files_eq (models : ModelSet) (namespaceName : String) :
    files models namespaceName = modelFiles models ++ [indexFile models namespaceName] := by
  rw [modelFiles, List.map_zip_eq_zipWith]
  rfl

theorem map_name_modelFiles (models : ModelSet) :
    (modelFiles models).map File.name = (moduleNames (models.map Model.name)).map fileName := by
  have hlength : (moduleNames (models.map Model.name)).length ≤ models.length := by
    simp [length_moduleNames]
  rw [modelFiles, List.map_map]
  show List.map (fileName ∘ Prod.fst) _ = _
  rw [← List.map_map, List.map_fst_zip hlength]

theorem text_of_mem_modelFiles {models : ModelSet} {f : File} (h : f ∈ modelFiles models) :
    ∃ m ∈ models, f.text = linesText (modelLines models m) := by
  obtain ⟨entry, he, rfl⟩ := List.mem_map.mp h
  exact ⟨entry.2, (List.of_mem_zip he).2, rfl⟩

/-- The index has the file of the module that is the raw identifier of `mod`. -/
theorem fileName_eq_indexName_iff {m : String} (h : IsIdentifier m) :
    fileName m = indexName ↔ m = "r#" ++ "mod" := by
  rw [fileName, show indexName = "mod" ++ ".rs" from rfl, String.append_left_inj,
    h.plain_eq_iff (by decide)]

/-- A model has the file of the index if and only if a model is called `mod` in snake case. -/
theorem indexName_mem_iff {names : List String} :
    indexName ∈ (moduleNames names).map fileName ↔ ∃ name ∈ names, Text.snake name = "mod" := by
  rw [← raw_mem_moduleNames_iff (by decide) (by decide), List.mem_map]
  constructor
  · rintro ⟨m, hm, he⟩
    rwa [(fileName_eq_indexName_iff (isIdentifier_of_mem_moduleNames hm)).mp he] at hm
  · intro hm
    exact ⟨_, hm, (fileName_eq_indexName_iff (isIdentifier_of_mem_moduleNames hm)).mpr rfl⟩

theorem nodup_map_fileName (names : List String) : ((moduleNames names).map fileName).Nodup := by
  refine (nodup_moduleNames names).map_on fun a ha b hb hab => ?_
  have hplain : plain a = plain b := (String.append_left_inj ".rs").mp hab
  exact (isIdentifier_of_mem_moduleNames ha).plain_inj (isIdentifier_of_mem_moduleNames hb) hplain

/-- The names of all files are distinct if and only if no model is called `mod` in snake case. -/
theorem nodup_fileNames_iff (models : ModelSet) (namespaceName : String) :
    ((files models namespaceName).map File.name).Nodup ↔
      ∀ m ∈ models, Text.snake m.name ≠ "mod" := by
  rw [files_eq, List.map_append, map_name_modelFiles]
  show ((moduleNames (models.map Model.name)).map fileName ++ [indexName]).Nodup ↔ _
  rw [← List.concat_eq_append, List.nodup_concat, and_iff_left (nodup_map_fileName _),
    indexName_mem_iff]
  simp

end SchemaModel.Source

import Mathlib
import SchemaModel.Files.Output
import SchemaModel.Proofs.Files.ReadBack
import SchemaModel.Proofs.Source.FileNames

/-!
# Generated directories

The files of a model set are written into one directory, the index behind those of the models. A
file that is written over another one takes its place, so all of them can be read afterwards if and
only if their names are distinct, and this fails for one name in snake case only.

* `text_ne_indexText`         the index is the source of no model;
* `endsWith_join`             the path of a file ends with its name;
* `write_inv`                 what a run into a directory can do;
* `own_names_iff_not_mod`     when every file has a name of its own and can be read under it.
-/

namespace SchemaModel

namespace Source

/-! ## files and their texts -/

theorem linesText_cons (line : String) (lines : List String) :
    linesText (line :: lines) = line ++ "\n" ++ linesText lines := by
  rw [linesText, List.map_cons, String.join_cons]
  rfl

theorem modelLines_eq (models : ModelSet) (m : Model) :
    ∃ rest, modelLines models m = headline :: "" :: rest := by
  cases m with
  | ofClass c => exact ⟨_, rfl⟩
  | ofEnum e => exact ⟨_, rfl⟩

/-- Behind the first line the source of a model has an empty line, and the index has a comment. -/
theorem text_ne_indexText {models : ModelSet} {f : File} (hf : f ∈ modelFiles models)
    (namespaceName : String) : f.text ≠ (indexFile models namespaceName).text := by
  intro h
  obtain ⟨m, -, hmodel⟩ := text_of_mem_modelFiles hf
  obtain ⟨rest, hlines⟩ := modelLines_eq models m
  obtain ⟨others, hindex⟩ : ∃ others, (indexFile models namespaceName).text =
      linesText (headline :: "//!" :: others) := ⟨_, rfl⟩
  rw [hmodel, hlines, hindex, linesText_cons, linesText_cons, linesText_cons headline,
    linesText_cons "//!", String.append_right_inj] at h
  have hfirst := congrArg (fun s => s.toList.head?) h
  simp at hfirst

/-! ## names that end a path -/

theorem slash_not_mem_fileName {module : String} (h : Naming.IsIdentifier module) :
    '/' ∉ (fileName module).toList := by
  rw [fileName, String.toList_append, List.mem_append]
  rintro (hm | hm)
  · exact absurd (h.unmarked_plain '/' hm) (by decide)
  · exact absurd hm (by decide)

theorem name_of_mem_files {models : ModelSet} {namespaceName : String} {f : File}
    (h : f ∈ files models namespaceName) : f.name ≠ "" ∧ '/' ∉ f.name.toList := by
  rw [files_eq, List.mem_append] at h
  rcases h with h | h
  · have hname := List.mem_map_of_mem (f := File.name) h
    rw [map_name_modelFiles] at hname
    obtain ⟨module, hm, he⟩ := List.mem_map.mp hname
    rw [← he]
    exact ⟨by simp [fileName], slash_not_mem_fileName (isIdentifier_of_mem_moduleNames hm)⟩
  · rw [List.mem_singleton.mp h]
    show indexName ≠ "" ∧ '/' ∉ indexName.toList
    decide

end Source

namespace Output

open FileSystem (EndsWith)

/-- The path of a file in a directory is that of the directory, up to one slash at its end, and the
name behind a slash. -/
theorem toList_join {directory name : String} (hdirectory : directory ≠ "")
    (hslash : '/' ∉ name.toList) :
    ∃ s, (join directory name).toList = s ++ '/' :: name.toList ∧
      (directory.toList = s ∨ directory.toList = s ++ ['/']) := by
  have hhead : name.toList.head? ≠ some '/' := fun h =>
    hslash (List.mem_of_mem_head? (Option.mem_def.mpr h))
  unfold join
  rw [if_neg (not_or.mpr ⟨hhead, hdirectory⟩)]
  split
  · next hlast =>
    obtain ⟨s, hs⟩ := List.getLast?_eq_some_iff.mp hlast
    exact ⟨s, by rw [String.toList_append, hs, List.append_assoc]; rfl, .inr hs⟩
  · refine ⟨directory.toList, ?_, .inl rfl⟩
    rw [String.toList_append, String.toList_append, List.append_assoc]
    rfl

/-- The path of a file in a directory ends with its name. -/
theorem endsWith_join (directory : String) {name : String} (hname : name ≠ "")
    (hslash : '/' ∉ name.toList) : EndsWith (join directory name) name := by
  by_cases hdirectory : directory = ""
  · rw [join, if_pos (.inr hdirectory)]
    exact FileSystem.endsWith_self hname hslash
  · obtain ⟨s, hs, -⟩ := toList_join hdirectory hslash
    exact FileSystem.endsWith_of_slash hs hname hslash

/-! ## what is written -/

/-- the path and the text of a file in a directory -/
def placed (directory : String) (f : Source.File) : String × String :=
  (join directory f.name, f.text)

/-- the paths of files at which there is something, in the order of the files -/
def existing (fs : FileSystem) (directory : String) (files : List Source.File) : List String :=
  (files.map fun f => join directory f.name).filter fs.contains

/-- Nothing is done when files are in the way, and else the directory is made and then the files are
written, until the file system refuses or to the end. -/
theorem write_inv {fs fs' : FileSystem} {directory : String} {force : Bool}
    {files : List Source.File} {result : Except Error (List String)}
    (h : write fs directory force files = (fs', result)) :
    force = false ∧ existing fs directory files ≠ [] ∧ fs' = fs ∧
      result = .error (.outputExists (existing fs directory files)) ∨
    (force = true ∨ existing fs directory files = []) ∧
      ((∃ fault, fs.createAll directory = (fs', .error fault) ∧ result = .error .fileSystem) ∨
        ∃ made, fs.createAll directory = (made, .ok ()) ∧
          ((∃ fault, made.writeAll (files.map (placed directory)) = (fs', .error fault) ∧
              result = .error .fileSystem) ∨
            made.writeAll (files.map (placed directory)) = (fs', .ok ()) ∧
              result = .ok (files.map fun f => join directory f.name))) := by
  dsimp only [write] at h
  rw [List.zip_map'] at h
  split at h
  · next hblocked =>
    cases h
    exact .inl ⟨by simpa using hblocked.2, hblocked.1, rfl, rfl⟩
  · next hfree =>
    have hcheck : force = true ∨ existing fs directory files = [] := by
      by_contra hnone
      rw [not_or, Bool.not_eq_true] at hnone
      exact hfree ⟨hnone.2, by rw [hnone.1]; rfl⟩
    refine .inr ⟨hcheck, ?_⟩
    split at h
    · next hcreate =>
      cases h
      exact .inl ⟨_, hcreate, rfl⟩
    · next made hcreate =>
      refine .inr ⟨made, hcreate, ?_⟩
      split at h
      · next hwrite =>
        cases h
        exact .inl ⟨_, hwrite, rfl⟩
      · next hwrite =>
        cases h
        exact .inr ⟨hwrite, rfl⟩

/-- All files are written in their order when the directory has been made. -/
theorem write_spec {fs fs' : FileSystem} {directory : String} {force : Bool}
    {written : List Source.File} {paths : List String}
    (h : write fs directory force written = (fs', .ok paths)) :
    ∃ start : FileSystem, start.writeAll (written.map (placed directory)) = (fs', .ok ()) := by
  rcases write_inv h with
    ⟨-, -, -, he⟩ | ⟨-, ⟨_, -, he⟩ | ⟨made, -, ⟨_, -, he⟩ | ⟨hwrite, -⟩⟩⟩
  · cases he
  · cases he
  · cases he
  · exact ⟨made, hwrite⟩

theorem files_of_models {settings : Settings} {hints : Option String} {schema : String}
    {models : ModelSet} (h : ModelSet.ofText settings hints schema = .ok models) :
    files settings hints schema = .ok (Source.files models settings.namespaceName) := by
  rw [files, h]
  rfl

theorem generate_of_models {settings : Settings} {hints : Option String} {schema : String}
    {models : ModelSet} (h : ModelSet.ofText settings hints schema = .ok models)
    (fs : FileSystem) :
    generate fs settings hints schema = write fs settings.outputDirectory settings.forceOverwrite
      (Source.files models settings.namespaceName) := by
  rw [generate, files_of_models h]

/-- The paths that are given show that a run ends well. -/
theorem ends_well {result : FileSystem × Except Error (List String)} {paths : List String}
    (h : result.2.toOption = some paths) : result = (result.1, .ok paths) := by
  obtain ⟨fs, written⟩ := result
  cases written with
  | error e => cases h
  | ok found =>
    cases h
    rfl

/-- A file can be read unless one of those behind it has its name. -/
theorem readFile_of_writeAll {start fs' : FileSystem} {directory : String} {f : Source.File}
    {before after : List Source.File}
    (hnames : ∀ g ∈ before ++ f :: after, g.name ≠ "" ∧ '/' ∉ g.name.toList)
    (hafter : f.name ∉ after.map Source.File.name)
    (hw : start.writeAll ((before ++ f :: after).map (placed directory)) = (fs', .ok ())) :
    fs'.readFile (join directory f.name) = .ok f.text := by
  have hends : ∀ g ∈ before ++ f :: after, EndsWith (join directory g.name) g.name := fun g hg =>
    endsWith_join directory (hnames g hg).1 (hnames g hg).2
  rw [List.map_append, List.map_cons] at hw
  refine (FileSystem.keeps_of_writeAll (hends f (by simp)) (fun g hg => ?_) hw).readFile
  obtain ⟨other, hother, rfl⟩ := List.mem_map.mp hg
  refine ⟨other.name, hends other (by simp [hother]), fun he => hafter ?_⟩
  exact List.mem_map.mpr ⟨other, hother, he.symm⟩

/-- Every file of a model set can be read after it was written if and only if no model is called
`mod` in snake case. -/
theorem readable_iff {start fs' : FileSystem} {directory : String} {models : ModelSet}
    {namespaceName : String}
    (hw : start.writeAll ((Source.files models namespaceName).map (placed directory)) =
      (fs', .ok ())) :
    (∀ f ∈ Source.files models namespaceName,
        fs'.readFile (join directory f.name) = .ok f.text) ↔
      ∀ m ∈ models, Text.snake m.name ≠ "mod" := by
  have hnames := fun f (hf : f ∈ Source.files models namespaceName) => Source.name_of_mem_files hf
  constructor
  · intro hall m hm hmod
    -- this model has the file of the index, which is written last
    have hindex : Source.indexName ∈
        (Source.moduleNames (models.map Model.name)).map Source.fileName :=
      Source.indexName_mem_iff.mpr ⟨m.name, List.mem_map_of_mem hm, hmod⟩
    rw [← Source.map_name_modelFiles] at hindex
    obtain ⟨f, hf, hname⟩ := List.mem_map.mp hindex
    rw [Source.files_eq] at hw hnames hall
    have hlast : fs'.readFile (join directory Source.indexName) =
        .ok (Source.indexFile models namespaceName).text :=
      readFile_of_writeAll (f := Source.indexFile models namespaceName) hnames
        List.not_mem_nil hw
    have hfirst := hall f (List.mem_append_left _ hf)
    rw [hname, hlast, Except.ok.injEq] at hfirst
    exact Source.text_ne_indexText hf namespaceName hfirst.symm
  · intro hmod f hf
    have hnodup := (Source.nodup_fileNames_iff models namespaceName).mpr hmod
    obtain ⟨before, after, hsplit⟩ := List.append_of_mem hf
    rw [hsplit] at hw hnames hnodup
    refine readFile_of_writeAll hnames ?_ hw
    rw [List.map_append, List.map_cons] at hnodup
    exact (List.nodup_cons.mp (List.nodup_append.mp hnodup).2.1).1

/-- There is a file for every model and one for the index, and their names are distinct if and only
if no model is called `mod` in snake case. In the same case a generation that ends well leaves every
file readable under its own name. -/
theorem own_names_iff_not_mod {settings : Settings} {hints : Option String} {schema : String}
    {models : ModelSet} (h : ModelSet.ofText settings hints schema = .ok models) :
    (Source.files models settings.namespaceName).length = models.length + 1 ∧
    (((Source.files models settings.namespaceName).map Source.File.name).Nodup ↔
      ∀ m ∈ models, Text.snake m.name ≠ "mod") ∧
    ∀ fs fs' paths, generate fs settings hints schema = (fs', .ok paths) →
      ((∀ f ∈ Source.files models settings.namespaceName,
          fs'.readFile (join settings.outputDirectory f.name) = .ok f.text) ↔
        ∀ m ∈ models, Text.snake m.name ≠ "mod") := by
  refine ⟨Source.length_files models _, Source.nodup_fileNames_iff models _, ?_⟩
  intro fs fs' paths hg
  rw [generate_of_models h] at hg
  obtain ⟨start, hw⟩ := write_spec hg
  exact readable_iff hw

/-! ## two runs -/

/-- two classes of one name in snake case -/
def twinModels : ModelSet :=
  [.ofClass ⟨"N", "AB", none, [], false⟩,
    .ofClass ⟨"N", "Ab", none, [⟨"AB", "a-b", .classNamed "AB", false, none⟩], false⟩]

def twinSettings : Settings := { namespaceName := "N", rootClassName := "Ab" }

def twinSchema : String :=
  "\x7b\"type\": \"object\", \"properties\": \x7b\"a-b\": \x7b\"type\": \"object\"\x7d\x7d\x7d"

/-- The second class gets a number, and both can be read beside the index. -/
theorem own_names_of_twins : ∃ fs',
    ModelSet.ofText twinSettings none twinSchema = .ok twinModels ∧
    generate (.empty []) twinSettings none twinSchema =
      (fs', .ok ["Generated/ab.rs", "Generated/ab_2.rs", "Generated/mod.rs"]) ∧
    ((Source.files twinModels "N").map Source.File.name).Nodup ∧
    ∀ f ∈ Source.files twinModels "N",
      fs'.readFile (join "Generated" f.name) = .ok f.text := by
  have hmodels : ModelSet.ofText twinSettings none twinSchema = .ok twinModels := by cbv
  have hpaths : (write (.empty []) "Generated" false (Source.files twinModels "N")).2.toOption =
      some ["Generated/ab.rs", "Generated/ab_2.rs", "Generated/mod.rs"] := by decide +kernel
  have hgenerate := generate_of_models hmodels (.empty [])
  have hmod : ∀ m ∈ twinModels, Text.snake m.name ≠ "mod" := by decide
  obtain ⟨-, hnodup, hread⟩ := own_names_iff_not_mod hmodels
  exact ⟨_, hmodels, hgenerate.trans (ends_well hpaths), hnodup.mpr hmod,
    (hread _ _ _ (hgenerate.trans (ends_well hpaths))).mpr hmod⟩

/-- the class of the root is called as the index is -/
def modModels : ModelSet := [.ofClass ⟨"N", "Mod", none, [], false⟩]

def modSettings : Settings := { namespaceName := "N", rootClassName := "Mod" }

def modSchema : String := "\x7b\"type\": \"object\"\x7d"

/-- The index is written over the source of the class, and the run ends well. -/
theorem index_over_model : ∃ fs',
    ModelSet.ofText modSettings none modSchema = .ok modModels ∧
    generate (.empty []) modSettings none modSchema =
      (fs', .ok ["Generated/mod.rs", "Generated/mod.rs"]) ∧
    ¬ ((Source.files modModels "N").map Source.File.name).Nodup ∧
    ¬ ∀ f ∈ Source.files modModels "N",
      fs'.readFile (join "Generated" f.name) = .ok f.text := by
  have hmodels : ModelSet.ofText modSettings none modSchema = .ok modModels := by cbv
  have hpaths : (write (.empty []) "Generated" false (Source.files modModels "N")).2.toOption =
      some ["Generated/mod.rs", "Generated/mod.rs"] := by decide
  have hmod : ¬ ∀ m ∈ modModels, Text.snake m.name ≠ "mod" := by decide
  obtain ⟨start, hwrite⟩ := write_spec (ends_well hpaths)
  exact ⟨_, hmodels, (generate_of_models hmodels (.empty [])).trans (ends_well hpaths),
    fun h => hmod ((Source.nodup_fileNames_iff modModels "N").mp h),
    fun h => hmod ((readable_iff hwrite).mp h)⟩

end Output

end SchemaModel

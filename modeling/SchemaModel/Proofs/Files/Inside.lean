import SchemaModel.Proofs.Files.Runs
import SchemaModel.Proofs.Source.NameParts

/-!
# Files stay in their directory

Whatever the keys of a schema, its hints and its settings hold, the name of a source file is a stem
of letters, digits and `_` as far as it is ASCII, with `.rs` behind it. Such a name goes neither up
nor down in a tree. So a run puts files directly into the output directory, and apart from
directories on the way there it changes nothing else.

* `stem_of_mem_files`     the names of files;
* `locate_join`           a plain name leads to an entry of the directory;
* `plain_files_inside`    both, for a run.
-/

namespace SchemaModel

namespace Source

open Text
open Naming (plain)

/-- The stem of a file, before `.rs`. -/
theorem stem_of_mem_files {r : Run} {models : ModelSet} (h : r.models = .ok models)
    {namespaceName : String} {f : File} (hf : f ∈ files models namespaceName) :
    ∃ stem, f.name = stem ++ ".rs" ∧ WordParts stem := by
  rw [files_eq, List.mem_append] at hf
  rcases hf with hf | hf
  · have hname := List.mem_map_of_mem (f := File.name) hf
    rw [map_name_modelFiles] at hname
    obtain ⟨module, hm, he⟩ := List.mem_map.mp hname
    exact ⟨plain module, he.symm, wordParts_plain_of_mem_moduleNames (capitalParts_of_models h) hm⟩
  · rw [List.mem_singleton.mp hf]
    exact ⟨"mod", rfl, 'm', ['o', 'd'], rfl, fun _ => .inl (by decide),
      List.all_eq_true.mp (by decide)⟩

/-- The characters that mean something in a path, on one system or another. -/
def pathChars : List Char := ['/', '\\', '.', ':', '\x00']

theorem pathChar_not_mem {stem : String} (h : WordParts stem) {c : Char} (hc : c ∈ pathChars) :
    c ∉ stem.toList := by
  have hnone : pathChars.all (!isPartChar ·) = true := by decide
  intro hm
  have hpart := List.all_eq_true.mp hnone c hc
  rw [h.isPartChar_of_mem hm] at hpart
  cases hpart

theorem ne_empty_of_wordParts {stem : String} (h : WordParts stem) : stem ≠ "" := by
  rintro rfl
  obtain ⟨c, rest, hnil, -⟩ := h
  cases hnil

/-- A file name goes to an entry of a directory. -/
theorem isDots_fileName (stem : String) : FileSystem.isDots (stem ++ ".rs") = false := by
  have hlength : ∀ dots : String, dots.length ≤ 2 → stem ++ ".rs" ≠ dots := by
    rintro dots hdots rfl
    rw [String.length_append] at hdots
    have hthree : ".rs".length = 3 := rfl
    omega
  rw [FileSystem.isDots, Bool.or_eq_false_iff, decide_eq_false_iff_not, decide_eq_false_iff_not]
  exact ⟨hlength "." (by decide), hlength ".." (by decide)⟩

end Source

namespace Output

open FileSystem

variable {fs fs' : FileSystem} {directory name : String} {place : Place}

/-! ## entries of a directory -/

/-- The names of a path in a directory are those of the directory, up to an empty one at its end,
and the name of the entry. -/
theorem names_join (hdirectory : directory ≠ "") (hslash : '/' ∉ name.toList) :
    fs.start (join directory name) = fs.start directory ∧
      ∃ way, names (join directory name) = way ++ [name] ∧
        (names directory = way ∨ names directory = way ++ [""]) := by
  obtain ⟨s, hjoin, hs⟩ := toList_join hdirectory hslash
  have hhead : (join directory name).toList.head? = directory.toList.head? := by
    cases s with
    | nil =>
      -- the directory is the root
      rcases hs with hs | hs
      · exact absurd (String.toList_eq_nil_iff.mp hs) hdirectory
      · rw [hjoin, hs]
        rfl
    | cons c s => rcases hs with hs | hs <;> rw [hjoin, hs] <;> rfl
  refine ⟨by rw [FileSystem.start, FileSystem.start, hhead],
    (Text.pieces (· == '/') s).map String.ofList, ?_, ?_⟩
  · rw [names, hjoin, Text.pieces_append_cons (by rfl), List.map_append,
      pieces_of_no_slash hslash, List.map_singleton, String.ofList_toList]
  · refine hs.imp (fun hs => by rw [names, hs]) fun hs => ?_
    rw [names, hs, Text.pieces_append_cons (by rfl), List.map_append]
    rfl

/-- What the path of a plain name in a directory leads to is an entry of the directory. -/
theorem locate_join (hdirectory : directory ≠ "") (hname : name ≠ "")
    (hslash : '/' ∉ name.toList) (hdots : isDots name = false)
    (h : fs.locate (join directory name) = .ok place) :
    ∃ above, fs.locate directory = .ok above ∧ place = above ++ [name] := by
  obtain ⟨hstart, way, hnames, hway⟩ := names_join hdirectory hslash
  obtain ⟨-, hwalks⟩ := locate_eq_ok_iff.mp h
  rw [hstart, hnames, walks_append] at hwalks
  obtain ⟨above, habove, hlast⟩ := hwalks
  obtain ⟨next, hstep, hnext⟩ := walks_cons.mp hlast
  rw [← walks_nil.mp hnext] at hstep
  obtain ⟨hdir, hplace⟩ := step_eq_ok_iff.mp hstep
  have hnodots : name ≠ "." ∧ name ≠ ".." := by simpa [isDots] using hdots
  rw [if_neg (not_or.mpr ⟨hname, hnodots.1⟩), if_neg hnodots.2] at hplace
  refine ⟨above, locate_eq_ok_iff.mpr ⟨hdirectory, ?_⟩, hplace.2.2⟩
  rcases hway with hway | hway
  · rwa [hway]
  · rw [hway]
    refine walks_append.mpr ⟨above, habove, walks_cons.mpr ⟨above, ?_, walks_nil.mpr rfl⟩⟩
    exact step_eq_ok_iff.mpr ⟨hdir, by rw [if_pos (.inl rfl)]⟩

/-! ## runs -/

/-- A run that does not keep a place has made a directory on the way to the output directory, or
one of the files. -/
theorem left_of_generate {settings : Settings} {hints : Option String} {schema : String}
    {models : ModelSet} (h : ModelSet.ofText settings hints schema = .ok models)
    {result : Except Error (List String)}
    (hg : generate fs settings hints schema = (fs', result)) :
    fs' = fs ∨ ∃ done, Left fs settings.outputDirectory done fs' ∧
      ∀ f ∈ done, f ∈ Source.files models settings.namespaceName := by
  rw [generate_of_models h] at hg
  rcases write_cases hg with ⟨-, -, hfs, -⟩ | ⟨-, ⟨-, hleft⟩ | ⟨-, done, rest, hsplit, hleft, -⟩⟩
  · exact .inl hfs
  · exact .inr ⟨_, hleft, fun _ hf => hf⟩
  · exact .inr ⟨done, hleft, fun f hf => hsplit ▸ List.mem_append_left rest hf⟩

theorem outputDirectory_ne_empty {settings : Settings} (h : settings.check = .ok ()) :
    settings.outputDirectory ≠ "" :=
  of_decide_eq_false (Settings.check_eq_ok_iff.mp h .outputDirectory)

/-- The name of every file of a run is a stem with `.rs` behind it, and the stem holds no character
that means something in a path. Whatever is in the file system before, a run puts files directly
into the output directory, and other than that it makes directories on the way there. -/
theorem plain_files_inside {settings : Settings} {hints : Option String} {schema : String}
    {models : ModelSet} (h : ModelSet.ofText settings hints schema = .ok models) :
    (∀ f ∈ Source.files models settings.namespaceName, ∃ stem, f.name = stem ++ ".rs" ∧
      stem ≠ "" ∧ ∀ c ∈ Source.pathChars, c ∉ stem.toList) ∧
    ∀ fs fs' result, generate fs settings hints schema = (fs', result) →
      ∀ place, fs'.get? place = fs.get? place ∨
        fs.get? place = none ∧ fs'.get? place = some .directory ∧
          fs'.Passes settings.outputDirectory place ∨
        ∃ f ∈ Source.files models settings.namespaceName, ∃ above,
          fs'.locate settings.outputDirectory = .ok above ∧ place = above ++ [f.name] ∧
          fs'.get? place = some (.file f.text) := by
  obtain ⟨hcheck, r, -, hr⟩ := ModelSet.ofText_ok h
  refine ⟨fun f hf => ?_, fun fs fs' result hg place => ?_⟩
  · obtain ⟨stem, hname, hstem⟩ := Source.stem_of_mem_files hr hf
    exact ⟨stem, hname, Source.ne_empty_of_wordParts hstem,
      fun c hc => Source.pathChar_not_mem hstem hc⟩
  · rcases left_of_generate h hg with rfl | ⟨done, hleft, hdone⟩
    · exact .inl rfl
    · rcases hleft.places place with
        ⟨hkept | hmade, -⟩ | ⟨before, f, after, rfl, -, hlocate, hget, -⟩
      · exact .inl hkept
      · exact .inr (.inl hmade)
      · have hf := hdone f (by simp)
        obtain ⟨stem, hname, -⟩ := Source.stem_of_mem_files hr hf
        obtain ⟨hne, hslash⟩ := Source.name_of_mem_files hf
        obtain ⟨above, habove, hplace⟩ := locate_join (outputDirectory_ne_empty hcheck) hne hslash
          (hname ▸ Source.isDots_fileName stem) hlocate
        exact .inr (.inr ⟨f, hf, above, habove, hplace, hget⟩)

def crookedSettings : Settings := { namespaceName := "N", rootClassName := "../C:\\x" }

/-- The key of the property goes up two directories and holds a null character. -/
def crookedSchema : String :=
  "\x7b\"type\": \"object\", \"properties\": " ++
    "\x7b\"../../y\\u0000\": \x7b\"type\": \"object\"\x7d\x7d\x7d"

def crookedModels : ModelSet :=
  [.ofClass ⟨"N", "Y", none, [], false⟩,
    .ofClass ⟨"N", "CX", none, [⟨"Y", "../../y\x00", .classNamed "Y", false, none⟩], false⟩]

/-- what is there after a run into an empty directory -/
def crookedEnd : FileSystem :=
  (write (.empty ["home"]) "Generated" false (Source.files crookedModels "N")).1

/-- Two models whose names are taken from paths have files in the directory. -/
theorem crooked_files_inside :
    generate (.empty ["home"]) crookedSettings none crookedSchema =
      (crookedEnd, .ok ["Generated/y.rs", "Generated/cx.rs", "Generated/mod.rs"]) ∧
    (∀ f ∈ Source.files crookedModels "N", ∃ stem, f.name = stem ++ ".rs" ∧
      stem ≠ "" ∧ ∀ c ∈ Source.pathChars, c ∉ stem.toList) ∧
    ∀ place, crookedEnd.get? place = (FileSystem.empty ["home"]).get? place ∨
      (FileSystem.empty ["home"]).get? place = none ∧ crookedEnd.get? place = some .directory ∧
        crookedEnd.Passes "Generated" place ∨
      ∃ f ∈ Source.files crookedModels "N", ∃ above,
        crookedEnd.locate "Generated" = .ok above ∧ place = above ++ [f.name] ∧
        crookedEnd.get? place = some (.file f.text) := by
  have hmodels : ModelSet.ofText crookedSettings none crookedSchema = .ok crookedModels := by cbv
  have hpaths : (write (.empty ["home"]) "Generated" false
      (Source.files crookedModels "N")).2.toOption =
      some ["Generated/y.rs", "Generated/cx.rs", "Generated/mod.rs"] := by decide +kernel
  have hgenerate := (generate_of_models hmodels (.empty ["home"])).trans (ends_well hpaths)
  obtain ⟨hnames, hplaces⟩ := plain_files_inside hmodels
  exact ⟨hgenerate, hnames, hplaces _ _ _ hgenerate⟩

end Output

end SchemaModel

import SchemaModel.Proofs.Files.Generated
import SchemaModel.Proofs.Source.NameParts
import SchemaModel.Proofs.Text.Lines
import SchemaModel.Proofs.Walk.Reachable

/-!
# The lines of the index

The index names the namespace in a comment, declares the module of every model and re-exports every
model from its module. No line ends within a module or the name of a model, so each declaration is a
line. The namespace is written as it is given, and what follows a line feed in it is a line of
source that is no comment.

* `textLines_linesText`   lines that are written fall apart where they hold a line feed themselves;
* `textLines_indexLines`  the lines of the index for any namespace;
* `index_lines_iff`       when the comment about the namespace is one line;
* `namespace_adds_line`   a namespace with a declaration in it.
-/

namespace SchemaModel

open Text

namespace Text

/-! ## lines that are joined -/

/-- the lines of a text as texts -/
def textLines (s : String) : List String := (lines s.toList).map String.ofList

/-- the lines into which a line falls when it is written -/
def fragments (line : String) : List String :=
  ((pieces (· == '\n') line.toList).map dropReturn).map String.ofList

/-- A text that ends within a line has its pieces as lines, the last one as well. -/
theorem textLines_of_concat {text : String} {s : List Char} {c : Char} (h : text.toList = s ++ [c])
    (hfeed : c ≠ '\n') (hreturn : c ≠ '\r') : textLines text = fragments text := by
  obtain ⟨before, last, hpieces⟩ :=
    exists_pieces_concat (p := (· == '\n')) (beq_false_of_ne hfeed) s
  have hlast : dropReturn (last ++ [c]) = last ++ [c] := by
    rw [dropReturn, List.getLast?_concat, if_neg (by simpa using hreturn)]
  rw [textLines, fragments, h]
  dsimp only [lines]
  rw [hpieces, List.dropLast_concat, List.getLast?_concat]
  simp [hlast]

/-- Neither a line feed nor a carriage return is in the text. -/
def Unbroken (s : String) : Prop := ∀ c ∈ s.toList, c ≠ '\n' ∧ c ≠ '\r'

instance : DecidablePred Unbroken := fun s =>
  List.decidableBAll (fun c => c ≠ '\n' ∧ c ≠ '\r') s.toList

theorem Unbroken.append {s t : String} (hs : Unbroken s) (ht : Unbroken t) : Unbroken (s ++ t) := by
  intro c hc
  rw [String.toList_append, List.mem_append] at hc
  exact hc.elim (hs c) (ht c)

theorem ne_of_isPartChar {c : Char} (h : isPartChar c = true) : c ≠ '\n' ∧ c ≠ '\r' := by
  constructor <;> rintro rfl <;> exact absurd h (by decide)

theorem WordParts.unbroken {name : String} (h : WordParts name) : Unbroken name := fun _ hc =>
  ne_of_isPartChar (h.isPartChar_of_mem hc)

/-- A line in which no line ends is written as one line. -/
theorem Unbroken.fragments {line : String} (h : Unbroken line) : fragments line = [line] := by
  have hlast : line.toList.getLast? ≠ some '\r' := fun he => (h _ (List.mem_of_getLast? he)).2 rfl
  rw [Text.fragments, pieces_of_forall fun c hc => beq_false_of_ne (h c hc).1, List.map_singleton,
    dropReturn, if_neg hlast, List.map_singleton, String.ofList_toList]

theorem flatMap_fragments {ls : List String} (h : ∀ line ∈ ls, Unbroken line) :
    ls.flatMap fragments = ls := by
  induction ls with
  | nil => rfl
  | cons line ls ih =>
    obtain ⟨hline, hls⟩ := List.forall_mem_cons.mp h
    rw [List.flatMap_cons, hline.fragments, ih hls]
    rfl

end Text

namespace Source

open Naming (plain)

/-- Lines that are written fall apart where they hold a line feed themselves. -/
theorem textLines_linesText (ls : List String) :
    textLines (linesText ls) = ls.flatMap fragments := by
  induction ls with
  | nil => rfl
  | cons line ls ih =>
    rw [List.flatMap_cons, ← ih, textLines, linesText_cons, String.toList_append,
      String.toList_append, List.append_assoc]
    exact (congrArg _ (lines_append_newline _ _)).trans (List.map_append ..)

/-! ## declarations -/

def moduleLine (module : String) : String := "mod " ++ module ++ ";"

def exportLine (module name : String) : String := "pub use " ++ module ++ "::" ++ name ++ ";"

/-- the lines of the index behind the comments -/
def declarations (modules names : List String) : List String :=
  "" :: modules.map moduleLine ++ "" :: List.zipWith exportLine modules names

theorem unbroken_module {names : List String} (h : ∀ name ∈ names, CapitalParts name) {m : String}
    (hm : m ∈ moduleNames names) : Unbroken m := by
  intro c hc
  rcases mem_module h hm hc with hpart | rfl
  · exact ne_of_isPartChar hpart
  · decide

theorem unbroken_of_mem_declarations {names : List String}
    (h : ∀ name ∈ names, CapitalParts name) {line : String}
    (hline : line ∈ declarations (moduleNames names) names) : Unbroken line := by
  rw [declarations, List.cons_append, List.mem_cons, List.mem_append, List.mem_cons] at hline
  rcases hline with rfl | hline | rfl | hline
  · decide
  · obtain ⟨m, hm, rfl⟩ := List.mem_map.mp hline
    have hopen : Unbroken "mod " := by decide
    exact (hopen.append (unbroken_module h hm)).append (by decide)
  · decide
  · rw [← List.map_uncurry_zip_eq_zipWith] at hline
    obtain ⟨⟨m, name⟩, hentry, rfl⟩ := List.mem_map.mp hline
    obtain ⟨hm, hname⟩ := List.of_mem_zip hentry
    have hopen : Unbroken "pub use " := by decide
    have hpath : Unbroken ("pub use " ++ m ++ "::") :=
      (hopen.append (unbroken_module h hm)).append (by decide)
    exact (hpath.append (h name hname).wordParts.unbroken).append (by decide)

/-! ## the namespace -/

/-- the comment that names the namespace -/
def namespaceLine (namespaceName : String) : String :=
  "//! Data model for namespace `" ++ namespaceName ++ "`."

theorem namespaceLine_concat (namespaceName : String) :
    ∃ s, (namespaceLine namespaceName).toList = s ++ ['.'] ∧
      s.count '\n' = namespaceName.toList.count '\n' := by
  have hend : "`.".toList = ['`', '.'] := rfl
  have hline : (namespaceLine namespaceName).toList =
      ("//! Data model for namespace `" ++ namespaceName).toList ++ "`.".toList :=
    String.toList_append ..
  refine ⟨("//! Data model for namespace `" ++ namespaceName).toList ++ ['`'], ?_, ?_⟩
  · rw [hline, hend]
    exact List.append_cons _ _ _
  · have hfront : "//! Data model for namespace `".toList.count '\n' = 0 := by decide
    rw [List.count_append, String.toList_append, List.count_append, hfront]
    simp

theorem textLines_namespaceLine (namespaceName : String) :
    textLines (namespaceLine namespaceName) = fragments (namespaceLine namespaceName) := by
  obtain ⟨s, hs, -⟩ := namespaceLine_concat namespaceName
  exact textLines_of_concat hs (by decide) (by decide)

/-- The comment falls into one line more than there are line feeds in the namespace. -/
theorem length_textLines_namespaceLine (namespaceName : String) :
    (textLines (namespaceLine namespaceName)).length = namespaceName.toList.count '\n' + 1 := by
  obtain ⟨s, hs, hcount⟩ := namespaceLine_concat namespaceName
  rw [textLines_namespaceLine, fragments, List.length_map, List.length_map, length_pieces, hs,
    List.countP_append, ← hcount]
  rfl

/-- The comment is one line if and only if the namespace is on one line. -/
theorem textLines_namespaceLine_iff {namespaceName : String} :
    textLines (namespaceLine namespaceName) = [namespaceLine namespaceName] ↔
      '\n' ∉ namespaceName.toList := by
  constructor
  · intro h
    have hlength := congrArg List.length h
    rw [length_textLines_namespaceLine, List.length_singleton] at hlength
    exact List.count_eq_zero.mp (Nat.succ_inj.mp hlength)
  · intro h
    obtain ⟨s, hs, hcount⟩ := namespaceLine_concat namespaceName
    rw [List.count_eq_zero.mpr h] at hcount
    have hall : ∀ c ∈ (namespaceLine namespaceName).toList, (c == '\n') = false := by
      intro c hc
      rw [hs, List.mem_append, List.mem_singleton] at hc
      rcases hc with hc | rfl
      · exact beq_false_of_ne fun he => List.count_eq_zero.mp hcount (he ▸ hc)
      · rfl
    have hlast : (namespaceLine namespaceName).toList.getLast? ≠ some '\r' := by
      rw [hs, List.getLast?_concat]
      decide
    rw [textLines_namespaceLine, fragments, pieces_of_forall hall, List.map_singleton, dropReturn,
      if_neg hlast, List.map_singleton, String.ofList_toList]

/-! ## the index -/

theorem indexLines_eq (namespaceName : String) {modules names : List String}
    (hlength : modules.length = names.length) (hne : modules ≠ []) :
    indexLines namespaceName (modules.zip names) =
      [headline, "//!"] ++ namespaceLine namespaceName :: declarations modules names := by
  have hzip : modules.zip names ≠ [] := by
    rw [Ne, List.zip_eq_nil_iff, not_or]
    exact ⟨hne, fun hnil => hne (List.eq_nil_of_length_eq_zero (by rw [hlength, hnil]; rfl))⟩
  have hmodules : (modules.zip names).map (moduleLine ∘ Prod.fst) = modules.map moduleLine := by
    rw [← List.map_map, List.map_fst_zip hlength.le]
  rw [declarations, ← hmodules, ← List.map_uncurry_zip_eq_zipWith]
  unfold indexLines
  rw [if_neg hzip, List.append_assoc]
  rfl

/-- The lines of the index: comments, those of the namespace, and one for each declaration. -/
theorem textLines_indexLines {names : List String} (hne : names ≠ [])
    (h : ∀ name ∈ names, CapitalParts name) (namespaceName : String) :
    textLines (linesText (indexLines namespaceName ((moduleNames names).zip names))) =
      [headline, "//!"] ++ textLines (namespaceLine namespaceName) ++
        declarations (moduleNames names) names := by
  have hmodules : moduleNames names ≠ [] := by
    intro hnil
    have hlength := length_moduleNames names
    rw [hnil] at hlength
    exact hne (List.eq_nil_of_length_eq_zero hlength.symm)
  have hhead : ∀ line ∈ [headline, "//!"], Unbroken line := by decide
  rw [textLines_linesText, indexLines_eq namespaceName (length_moduleNames names) hmodules,
    List.flatMap_append, flatMap_fragments hhead, List.flatMap_cons,
    flatMap_fragments fun _ hline => unbroken_of_mem_declarations h hline,
    textLines_namespaceLine, List.append_assoc]

/-- For any namespace, the files of a run are those of the models, named after the modules, and the
index behind them. The index has two lines of comments, those of the comment about the namespace, an
empty one, a declaration for each model in order, an empty one, and a re-export for each model in
order from the same module. The comment about the namespace has one line and one more for each line
feed in the namespace, so it is one line if and only if the namespace is. -/
theorem index_lines_iff {r : Run} {models : ModelSet} (h : r.models = .ok models)
    (namespaceName : String) :
    ∃ modules index, modules.length = models.length ∧
      files models namespaceName =
        List.zipWith (fun module m => ⟨plain module ++ ".rs", linesText (modelLines models m)⟩)
          modules models ++ [⟨"mod.rs", index⟩] ∧
      textLines index = [headline, "//!"] ++ textLines (namespaceLine namespaceName) ++
        declarations modules (models.map Model.name) ∧
      (textLines (namespaceLine namespaceName)).length = namespaceName.toList.count '\n' + 1 ∧
      (textLines index = [headline, "//!", namespaceLine namespaceName] ++
          declarations modules (models.map Model.name) ↔
        '\n' ∉ namespaceName.toList) := by
  have hlines := textLines_indexLines (by simpa using Run.models_ne_nil h)
    (capitalParts_of_models h) namespaceName
  refine ⟨moduleNames (models.map Model.name), (indexFile models namespaceName).text,
    by rw [length_moduleNames, List.length_map], rfl, hlines,
    length_textLines_namespaceLine namespaceName, ?_⟩
  rw [← textLines_namespaceLine_iff]
  constructor
  · intro hone
    have hcomments : [headline, "//!"] ++ textLines (namespaceLine namespaceName) =
        [headline, "//!"] ++ [namespaceLine namespaceName] :=
      List.append_cancel_right (hlines.symm.trans hone)
    exact List.append_cancel_left hcomments
  · intro hone
    rw [hone] at hlines
    exact hlines

/-! ## two namespaces -/

def loopSettings : Settings := { namespaceName := "N", rootClassName := "Loop" }

def loopModels : ModelSet := [.ofClass ⟨"N", "Loop", none, [], false⟩]

/-- The module is a raw identifier, and the index has a line for each declaration. -/
theorem index_of_loop : ∃ modules index, modules.length = loopModels.length ∧
    files loopModels "N" =
      List.zipWith (fun module m => ⟨plain module ++ ".rs", linesText (modelLines loopModels m)⟩)
        modules loopModels ++ [⟨"mod.rs", index⟩] ∧
    textLines index = [headline, "//!", "//! Data model for namespace `N`."] ++
      declarations modules ["Loop"] := by
  have hmodels : ModelSet.ofText loopSettings none Output.modSchema = .ok loopModels := by cbv
  obtain ⟨-, r, -, hr⟩ := ModelSet.ofText_ok hmodels
  obtain ⟨modules, index, hlength, hfiles, -, -, hlines⟩ := index_lines_iff hr "N"
  exact ⟨modules, index, hlength, hfiles, hlines.mpr (by decide)⟩

/-- The comment ends within the namespace, and the next line of it declares a module. -/
def brokenSettings : Settings :=
  { namespaceName := "N`.\nmod evil;\n//", rootClassName := "Record" }

def brokenModels : ModelSet := [.ofClass ⟨brokenSettings.namespaceName, "Record", none, [], false⟩]

/-- The index declares a module that is none of the run. -/
theorem namespace_adds_line :
    ModelSet.ofText brokenSettings none Output.modSchema = .ok brokenModels ∧
    moduleNames (brokenModels.map Model.name) = ["record"] ∧
    textLines (indexFile brokenModels brokenSettings.namespaceName).text =
      [headline, "//!", "//! Data model for namespace `N`.", "mod evil;", "//`.", "", "mod record;",
        "", "pub use record::Record;"] ∧
    ∀ modules, textLines (indexFile brokenModels brokenSettings.namespaceName).text ≠
      [headline, "//!", namespaceLine brokenSettings.namespaceName] ++
        declarations modules (brokenModels.map Model.name) := by
  have hmodels : ModelSet.ofText brokenSettings none Output.modSchema = .ok brokenModels := by cbv
  have hmodules : moduleNames (brokenModels.map Model.name) = ["record"] := by decide
  obtain ⟨-, r, -, hr⟩ := ModelSet.ofText_ok hmodels
  have hbroken : textLines (namespaceLine brokenSettings.namespaceName) =
      ["//! Data model for namespace `N`.", "mod evil;", "//`."] := by
    rw [textLines_namespaceLine]
    decide
  have hlines : textLines (indexFile brokenModels brokenSettings.namespaceName).text =
      [headline, "//!", "//! Data model for namespace `N`.", "mod evil;", "//`.", "", "mod record;",
        "", "pub use record::Record;"] := by
    have hindex := textLines_indexLines (by decide) (capitalParts_of_models hr)
      brokenSettings.namespaceName
    rw [hbroken] at hindex
    exact hindex.trans (by decide)
  refine ⟨hmodels, hmodules, hlines, fun modules h => ?_⟩
  -- the comment would be the third line
  have hcomment : "//! Data model for namespace `N`." =
      namespaceLine brokenSettings.namespaceName :=
    Option.some.inj (congrArg (·[2]?) (hlines.symm.trans h))
  exact absurd hcomment (by decide)

end Source

end SchemaModel

import SchemaModel.Proofs.Files.Runs

/-!
# Files that are replaced

Without the permission to replace files a run looks for files in its way before it makes the
directory, and at that time a path that goes through a missing directory leads nowhere. If such a
path goes up again from there, it leads somewhere else when the directory has been made, and what it
leads to is replaced. In a tree there is no other way to lose a file.

* `Left.places_of_file`               a file is kept, or it has the text of one that was written;
* `replaced_only_behind_new_directory`   when a file is replaced without the permission;
* `second_run_replaces`               a run that does it.
-/

namespace SchemaModel

namespace Output

open FileSystem

variable {fs fs' : FileSystem} {directory : String} {force : Bool} {files : List Source.File}

/-- A run makes a tree from a tree. -/
theorem isTree_write {result : Except Error (List String)} (tree : fs.IsTree)
    (h : write fs directory force files = (fs', result)) : fs'.IsTree := by
  rcases write_cases h with ⟨-, -, rfl, -⟩ | ⟨-, ⟨-, hleft⟩ | ⟨-, _, _, -, hleft, -⟩⟩
  · exact tree
  · exact hleft.tree tree
  · exact hleft.tree tree

/-- A file is kept, and the path of no written file leads to it, or it has the text of one that was
written. -/
theorem Left.places_of_file (h : Left fs directory files fs') {place : Place} {text : String}
    (hfile : fs.get? place = some (.file text)) :
    fs'.get? place = some (.file text) ∧
      (∀ f ∈ files, fs'.locate (join directory f.name) ≠ .ok place) ∨
    ∃ f ∈ files, fs'.locate (join directory f.name) = .ok place ∧
      fs'.get? place = some (.file f.text) := by
  rcases h.places place with ⟨hkept, hothers⟩ | ⟨before, f, after, rfl, -, hlocate, hget, -⟩
  · rcases hkept with hsame | ⟨hnone, -⟩
    · exact .inl ⟨hsame.trans hfile, hothers⟩
    · rw [hfile] at hnone
      cases hnone
  · exact .inr ⟨f, by simp, hlocate, hget⟩

theorem not_contains_of_existing_eq_nil (h : existing fs directory files = []) {f : Source.File}
    (hf : f ∈ files) : fs.contains (join directory f.name) = false := by
  have hall := List.filter_eq_nil_iff.mp h (join directory f.name) (List.mem_map.mpr ⟨f, hf, rfl⟩)
  simpa using hall

/-- A file that a run without the permission has replaced is that of a path that goes up from a
directory that was made in this run. -/
theorem climbs_of_replaced (tree : fs.IsTree) (h : Left fs directory files fs')
    (hcheck : existing fs directory files = []) {place : Place} {text : String}
    (hfile : fs.get? place = some (.file text)) {f : Source.File} (hf : f ∈ files)
    (hlocate : fs'.locate (join directory f.name) = .ok place) :
    ∃ above, fs'.Climbs (join directory f.name) above ∧ fs.get? above = none ∧
      fs'.get? above = some .directory := by
  obtain ⟨above, hclimbs, hnew, hdir⟩ := tree.climbs_of_locate h.grows hlocate
    (Option.isSome_of_eq_some hfile) (not_contains_of_existing_eq_nil hcheck hf)
  exact ⟨above, hclimbs, hnew, of_decide_eq_true hdir⟩

/-- Whether a run without the permission to replace files ends well or fails, a file that was there
is kept, unless the path of a written file goes up from a directory that was made in this run and
leads to it. A file to which a path leads after a run that ended well is replaced. -/
theorem replaced_only_behind_new_directory {result : Except Error (List String)}
    (tree : fs.IsTree) (h : write fs directory false files = (fs', result)) {place : Place}
    {text : String} (hfile : fs.get? place = some (.file text)) :
    fs'.get? place = some (.file text) ∧
      (result.isOk → ∀ f ∈ files, fs'.locate (join directory f.name) ≠ .ok place) ∨
    ∃ f ∈ files, fs'.locate (join directory f.name) = .ok place ∧
      fs'.get? place = some (.file f.text) ∧
      ∃ above, fs'.Climbs (join directory f.name) above ∧ fs.get? above = none ∧
        fs'.get? above = some .directory := by
  rcases write_cases h with ⟨-, -, rfl, rfl⟩ | ⟨hforce | hcheck, hend⟩
  · exact .inl ⟨hfile, nofun⟩
  · cases hforce
  · rcases hend with ⟨-, hleft⟩ | ⟨rfl, done, rest, rfl, hleft, -⟩
    · rcases hleft.places_of_file hfile with ⟨hkept, hothers⟩ | ⟨f, hf, hlocate, hget⟩
      · exact .inl ⟨hkept, fun _ => hothers⟩
      · exact .inr ⟨f, hf, hlocate, hget, climbs_of_replaced tree hleft hcheck hfile hf hlocate⟩
    · -- the check was about all files, of which some were written
      have hdone : existing fs directory done = [] := by
        rw [existing, List.map_append, List.filter_append, List.append_eq_nil_iff] at hcheck
        exact hcheck.1
      rcases hleft.places_of_file hfile with ⟨hkept, -⟩ | ⟨f, hf, hlocate, hget⟩
      · exact .inl ⟨hkept, nofun⟩
      · exact .inr ⟨f, List.mem_append_left _ hf, hlocate, hget,
          climbs_of_replaced tree hleft hdone hfile hf hlocate⟩

/-! ## two runs -/

/-- what is there after a first run -/
def firstEnd : FileSystem := (write (.empty []) "src" false [⟨"mod.rs", "old"⟩]).1

/-- what is there after a second run into a directory that is the same when it has been made -/
def secondEnd : FileSystem := (write firstEnd "src/new/.." false [⟨"mod.rs", "new"⟩]).1

theorem write_second : write firstEnd "src/new/.." false [⟨"mod.rs", "new"⟩] =
    (secondEnd, .ok ["src/new/../mod.rs"]) := by
  refine ends_well ?_
  decide

/-- The file of the first run is replaced in the second one, behind the directory `new`. -/
theorem replaced_behind_new : firstEnd.IsTree ∧
    firstEnd.get? ["src", "mod.rs"] = some (.file "old") ∧
    (secondEnd.get? ["src", "mod.rs"] = some (.file "old") ∧
        (∀ f ∈ [(⟨"mod.rs", "new"⟩ : Source.File)],
          secondEnd.locate (join "src/new/.." f.name) ≠ .ok ["src", "mod.rs"]) ∨
      ∃ f ∈ [(⟨"mod.rs", "new"⟩ : Source.File)],
        secondEnd.locate (join "src/new/.." f.name) = .ok ["src", "mod.rs"] ∧
        secondEnd.get? ["src", "mod.rs"] = some (.file f.text) ∧
        ∃ above, secondEnd.Climbs (join "src/new/.." f.name) above ∧ firstEnd.get? above = none ∧
          secondEnd.get? above = some .directory) := by
  have tree : firstEnd.IsTree := isTree_write (isTree_empty []) (Prod.mk.eta).symm
  have hfile : firstEnd.get? ["src", "mod.rs"] = some (.file "old") := by decide
  refine ⟨tree, hfile, ?_⟩
  rcases replaced_only_behind_new_directory tree write_second hfile with
    ⟨hkept, hothers⟩ | hreplaced
  · exact .inl ⟨hkept, hothers rfl⟩
  · exact .inr hreplaced

/-- The second run ends well without the permission, and the text of the file is another one. -/
theorem second_run_replaces :
    write firstEnd "src/new/.." false [⟨"mod.rs", "new"⟩] = (secondEnd, .ok ["src/new/../mod.rs"]) ∧
    firstEnd.readFile "src/mod.rs" = .ok "old" ∧ secondEnd.readFile "src/mod.rs" = .ok "new" := by
  refine ⟨write_second, ?_⟩
  decide

end Output

end SchemaModel

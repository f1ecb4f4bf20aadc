import SchemaModel.Proofs.Files.Changes
import SchemaModel.Proofs.Files.Generated

/-!
# What a run leaves

Files are written if no file is in the way or files may be replaced. Up to then nothing has changed,
so a run that fails for any reason of its own leaves the file system as it was. But the file system
may refuse the directory or one of the files, and then the run ends where it stands: directories
that were made on the way and files in front of the one that was refused stay.

* `write_cases`            nothing is done, or files are written up to the last or one that is
  refused;
* `failed_runs`            what a run that fails has changed;
* `stopped_run_writes`     a run that fails and has written files.
-/

namespace SchemaModel

namespace Output

open FileSystem

variable {fs fs' : FileSystem} {directory : String} {force : Bool}

/-- What is there when `files` were written into a directory: directories on the way to it, where
nothing was, and at a place to which the path of a file leads, which was no directory, the text of
the last such file. All other places are as before. -/
structure Left (fs : FileSystem) (directory : String) (files : List Source.File)
    (fs' : FileSystem) : Prop where
  grows : fs.Grows fs'
  tree : fs.IsTree → fs'.IsTree
  leads : ∀ f ∈ files, ∃ place, fs'.locate (join directory f.name) = .ok place
  places : ∀ place,
    (fs'.get? place = fs.get? place ∨
      fs.get? place = none ∧ fs'.get? place = some .directory ∧ fs'.Passes directory place) ∧
      (∀ f ∈ files, fs'.locate (join directory f.name) ≠ .ok place) ∨
    ∃ before f after, files = before ++ f :: after ∧ fs.isDirectory place = false ∧
      fs'.locate (join directory f.name) = .ok place ∧ fs'.get? place = some (.file f.text) ∧
      ∀ g ∈ after, fs'.locate (join directory g.name) ≠ .ok place

theorem left_of_written {made : FileSystem} {files : List Source.File}
    (hmade : fs.Opened directory made) (h : made.Written (files.map (placed directory)) fs') :
    Left fs directory files fs' where
  grows := hmade.grows.trans h.grows
  tree := h.tree ∘ hmade.tree
  leads f hf := h.leads _ (List.mem_map_of_mem hf)
  places place := by
    rcases h.places place with
      ⟨heq, hothers⟩ | ⟨before, g, after, hsplit, hdir, hlocate, hget, hlast⟩
    · refine .inl ⟨?_, fun f hf => hothers _ (List.mem_map_of_mem hf)⟩
      rw [heq]
      exact (hmade.places place).imp_right fun ⟨hnone, hnew, hpasses⟩ =>
        ⟨hnone, hnew, h.grows.passes hpasses⟩
    · obtain ⟨front, others, rfl, rfl, hothers⟩ := List.map_eq_append_iff.mp hsplit
      obtain ⟨f, behind, rfl, rfl, rfl⟩ := List.map_eq_cons_iff.mp hothers
      refine .inr ⟨front, f, behind, rfl, ?_, hlocate, hget, fun g hg => ?_⟩
      · by_contra hold
        rw [hmade.grows.directory place (by simpa using hold)] at hdir
        cases hdir
      · exact hlast _ (List.mem_map_of_mem hg)

/-- The file system refuses the directory, or the first file that was not written. -/
inductive Refused (fs : FileSystem) (directory : String) (fs' : FileSystem) :
    List Source.File → List Source.File → Prop
  | directory {rest fault} (h : fs.createAll directory = (fs', .error fault)) :
      Refused fs directory fs' [] rest
  | file {done f rest fault} (h : fs'.writeFile (join directory f.name) f.text = .error fault) :
      Refused fs directory fs' done (f :: rest)

/-- A run has written some of the files when the file system refuses what comes next. -/
def Stopped (fs : FileSystem) (directory : String) (files : List Source.File)
    (fs' : FileSystem) : Prop :=
  ∃ done rest, files = done ++ rest ∧ Left fs directory done fs' ∧
    Refused fs directory fs' done rest

/-- Files that are written into a directory with what is above it. -/
theorem left_or_stopped {made : FileSystem} {files : List Source.File}
    {result : Except FileFault Unit} (hmade : fs.Opened directory made)
    (h : made.writeAll (files.map (placed directory)) = (fs', result)) :
    result = .ok () ∧ Left fs directory files fs' ∨
      (∃ fault, result = .error fault) ∧ Stopped fs directory files fs' := by
  obtain ⟨written, others, hsplit, hwritten, hend⟩ := writeAll_spec h
  obtain ⟨done, rest, rfl, rfl, rfl⟩ := List.map_eq_append_iff.mp hsplit
  have hleft := left_of_written hmade hwritten
  rcases hend with ⟨hrest, hok⟩ | ⟨g, more, fault, hrest, herror, hrefused⟩
  · rw [List.map_eq_nil_iff.mp hrest, List.append_nil]
    exact .inl ⟨hok, hleft⟩
  · obtain ⟨f, behind, rfl, rfl, rfl⟩ := List.map_eq_cons_iff.mp hrest
    exact .inr ⟨⟨fault, herror⟩, done, _, rfl, hleft, .file hrefused⟩

/-- Nothing is done when files are in the way, and else files are written to the end or until the
file system refuses. -/
theorem write_cases {files : List Source.File} {result : Except Error (List String)}
    (h : write fs directory force files = (fs', result)) :
    force = false ∧ existing fs directory files ≠ [] ∧ fs' = fs ∧
      result = .error (.outputExists (existing fs directory files)) ∨
    (force = true ∨ existing fs directory files = []) ∧
      (result = .ok (files.map fun f => join directory f.name) ∧ Left fs directory files fs' ∨
        result = .error .fileSystem ∧ Stopped fs directory files fs') := by
  rcases write_inv h with hblocked | ⟨hfree, ⟨_, hcreate, he⟩ | ⟨made, hcreate, hend⟩⟩
  · exact .inl hblocked
  · exact .inr ⟨hfree, .inr ⟨he, [], files, rfl,
      left_of_written (createAll_opened hcreate) (.refl _), .directory hcreate⟩⟩
  · refine .inr ⟨hfree, ?_⟩
    rcases hend with ⟨_, hwrite, he⟩ | ⟨hwrite, he⟩
    · rcases left_or_stopped (createAll_opened hcreate) hwrite with ⟨hok, -⟩ | ⟨-, hstopped⟩
      · cases hok
      · exact .inr ⟨he, hstopped⟩
    · rcases left_or_stopped (createAll_opened hcreate) hwrite with ⟨-, hleft⟩ | ⟨⟨_, herror⟩, -⟩
      · exact .inl ⟨he, hleft⟩
      · cases herror

theorem write_blocked {files : List Source.File} (h : existing fs directory files ≠ []) :
    write fs directory false files =
      (fs, .error (.outputExists (existing fs directory files))) := by
  rcases write_cases (Prod.mk.eta (p := write fs directory false files)).symm with
    ⟨-, -, hfs, he⟩ | ⟨hforce | hnone, -⟩
  · exact Prod.ext hfs he
  · cases hforce
  · exact absurd hnone h

theorem write_refused {files : List Source.File}
    (h : (write fs directory true files).2.toOption = none) :
    (write fs directory true files).2 = .error .fileSystem := by
  rcases write_cases (Prod.mk.eta (p := write fs directory true files)).symm with
    ⟨hforce, -⟩ | ⟨-, ⟨hok, -⟩ | ⟨he, -⟩⟩
  · cases hforce
  · rw [hok] at h
    cases h
  · exact he

/-- A run fails before it writes, or it writes the files. -/
theorem generate_cases {settings : Settings} {hints : Option String} {schema : String}
    {result : Except Error (List String)} (h : generate fs settings hints schema = (fs', result)) :
    (∃ e, files settings hints schema = .error e ∧ result = .error e ∧ fs' = fs) ∨
    ∃ written, files settings hints schema = .ok written ∧
      write fs settings.outputDirectory settings.forceOverwrite written = (fs', result) := by
  unfold generate at h
  split at h
  · next e he =>
    cases h
    exact .inl ⟨e, he, rfl, rfl⟩
  · next written hw => exact .inr ⟨written, hw, h⟩

/-! ## runs that fail -/

/-- A run that fails leaves the file system as it was, unless it is the file system that refuses.
Files in the way are an error that lists them all. When the file system refuses, the files in front
of the one that was refused are written, the directories on the way are made as far as it went, and
nothing else has changed. -/
theorem failed_runs (fs fs' : FileSystem) (e : Error) :
    (∀ directory force files, write fs directory force files = (fs', .error e) →
      fs' = fs ∧ force = false ∧ existing fs directory files ≠ [] ∧
        e = .outputExists (existing fs directory files) ∨
      e = .fileSystem ∧ Stopped fs directory files fs') ∧
    ∀ settings hints schema, generate fs settings hints schema = (fs', .error e) →
      fs' = fs ∧ files settings hints schema = .error e ∨
      ∃ written, files settings hints schema = .ok written ∧
        (fs' = fs ∧ settings.forceOverwrite = false ∧
            existing fs settings.outputDirectory written ≠ [] ∧
            e = .outputExists (existing fs settings.outputDirectory written) ∨
          e = .fileSystem ∧ Stopped fs settings.outputDirectory written fs') := by
  have hwrite : ∀ directory force files, write fs directory force files = (fs', .error e) →
      fs' = fs ∧ force = false ∧ existing fs directory files ≠ [] ∧
        e = .outputExists (existing fs directory files) ∨
      e = .fileSystem ∧ Stopped fs directory files fs' := by
    intro directory force files h
    rcases write_cases h with ⟨hforce, hne, hfs, he⟩ | ⟨-, ⟨he, -⟩ | ⟨he, hstopped⟩⟩
    · exact .inl ⟨hfs, hforce, hne, Except.error.inj he⟩
    · cases he
    · exact .inr ⟨Except.error.inj he, hstopped⟩
  refine ⟨hwrite, fun settings hints schema h => ?_⟩
  rcases generate_cases h with ⟨e', hfiles, he, hfs⟩ | ⟨written, hfiles, h⟩
  · exact .inl ⟨hfs, Except.error.inj he ▸ hfiles⟩
  · exact .inr ⟨written, hfiles, hwrite _ _ _ h⟩

/-- A directory has the name of the index. -/
def heldTree : FileSystem :=
  { entries := [(["Generated"], .directory), (["Generated", "mod.rs"], .directory)] }

def heldSettings : Settings :=
  { namespaceName := "N", rootClassName := "Record", forceOverwrite := true }

def heldClass : ClassModel := ⟨"N", "Record", none, [], false⟩

def heldModels : ModelSet := [.ofClass heldClass]

theorem files_held : files heldSettings none modSchema = .ok (Source.files heldModels "N") := by
  have hmodels : ModelSet.ofText heldSettings none modSchema = .ok heldModels := by cbv
  exact files_of_models hmodels

/-- what is there after a run that replaces files -/
def heldEnd : FileSystem := (write heldTree "Generated" true (Source.files heldModels "N")).1

theorem generate_held :
    generate heldTree heldSettings none modSchema = (heldEnd, .error .fileSystem) := by
  unfold generate
  rw [files_held]
  refine Prod.ext rfl (write_refused ?_)
  decide

/-- Without the permission to replace files the index is in the way; with it the index is refused
behind the file of the class. -/
theorem failures_of_held :
    (write heldTree "Generated" false (Source.files heldModels "N") =
        (heldTree, .error (.outputExists ["Generated/mod.rs"])) ∧
      existing heldTree "Generated" (Source.files heldModels "N") = ["Generated/mod.rs"]) ∧
    generate heldTree heldSettings none modSchema = (heldEnd, .error .fileSystem) ∧
    ∃ written, files heldSettings none modSchema = .ok written ∧
      Stopped heldTree "Generated" written heldEnd := by
  have hexisting : existing heldTree "Generated" (Source.files heldModels "N") =
      ["Generated/mod.rs"] := by decide
  have hblocked : write heldTree "Generated" false (Source.files heldModels "N") =
      (heldTree, .error (.outputExists ["Generated/mod.rs"])) :=
    hexisting ▸ write_blocked (by simp [hexisting])
  refine ⟨⟨hblocked, ?_⟩, generate_held, ?_⟩
  · rcases (failed_runs _ _ _).1 _ _ _ hblocked with ⟨-, -, -, he⟩ | ⟨he, -⟩
    · exact (Error.outputExists.inj he).symm
    · cases he
  · rcases (failed_runs _ _ _).2 _ _ _ generate_held with
      ⟨-, he⟩ | ⟨written, hw, ⟨-, hforce, -⟩ | ⟨-, hs⟩⟩
    · rw [files_held] at he
      cases he
    · cases hforce
    · exact ⟨written, hw, hs⟩

/-- The run fails at the index, and the file of the class is there. -/
theorem stopped_run_writes :
    generate heldTree heldSettings none modSchema = (heldEnd, .error .fileSystem) ∧
    heldTree.get? ["Generated", "record.rs"] = none ∧
    heldEnd.get? ["Generated", "record.rs"] =
      some (.file (Source.linesText (Source.classLines heldModels heldClass))) := by
  refine ⟨generate_held, by decide, ?_⟩
  rfl

end Output

end SchemaModel

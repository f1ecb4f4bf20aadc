import SchemaModel.Files.FileSystem

/-!
# Reading files back

A file that was written can be read under its path, and later files leave it as it is unless their
paths end with the same name. Both come from one fact: a file that is put where no directory is
changes no path that leads somewhere, since a path goes on from directories only.

* `locate_put`            paths still lead where they led;
* `writeFile_spec`        what writing a file does;
* `Keeps.put`             a file stays when another one is put;
* `keeps_of_writeAll`     of several files those are kept whose names do not come again.
-/

namespace SchemaModel

namespace FileSystem

variable {fs : FileSystem} {place : Place} {text : String}

/-! ## paths lead where they led -/

/-- A step starts at a directory and stays there, goes up or goes down to an entry. -/
theorem step_eq_ok_iff {name : String} {next : Place} :
    fs.step place name = .ok next ↔ fs.isDirectory place = true ∧
      if name = "" ∨ name = "." then next = place
      else if name = ".." then next = place.dropLast
      else isBad name = false ∧ (fs.get? (place ++ [name])).isSome ∧ next = place ++ [name] := by
  unfold step
  cases fs.isDirectory place with
  | false => simp
  | true =>
    simp only [Bool.not_true, Bool.false_eq_true, if_false, true_and]
    split
    · rw [Except.ok.injEq, eq_comm]
    · split
      · rw [Except.ok.injEq, eq_comm]
      · cases isBad name <;> cases fs.get? (place ++ [name]) <;> simp [eq_comm]

theorem get?_put_of_isDirectory {above : Place} (h : fs.isDirectory place = false)
    (ha : fs.isDirectory above = true) (e : Entry) :
    (fs.put place e).get? above = fs.get? above := by
  refine get?_put_of_ne ?_ e
  rintro rfl
  rw [ha] at h
  cases h

theorem isDirectory_put {above : Place} (h : fs.isDirectory place = false)
    (ha : fs.isDirectory above = true) (e : Entry) : (fs.put place e).isDirectory above = true := by
  rw [isDirectory, get?_put_of_isDirectory h ha]
  exact ha

theorem isSome_get?_put {other : Place} (h : (fs.get? other).isSome) (e : Entry) :
    ((fs.put place e).get? other).isSome := by
  by_cases hroot : other = []
  · subst hroot
    rfl
  · by_cases hne : other = place
    · subst hne
      rw [get?_put_self hroot]
      rfl
    · rwa [get?_put_of_ne hne]

theorem step_put (hplace : fs.isDirectory place = false) (e : Entry) {above next : Place}
    {name : String} (h : fs.step above name = .ok next) :
    (fs.put place e).step above name = .ok next := by
  rw [step_eq_ok_iff] at h ⊢
  refine ⟨isDirectory_put hplace h.1 e, ?_⟩
  have hnext := h.2
  split
  · next hstay => rwa [if_pos hstay] at hnext
  · next hstay =>
    rw [if_neg hstay] at hnext
    split
    · next hup => rwa [if_pos hup] at hnext
    · next hup =>
      rw [if_neg hup] at hnext
      exact ⟨hnext.1, isSome_get?_put hnext.2.1 e, hnext.2.2⟩

theorem foldlM_step_concat {way : List String} {name : String} {first above last : Place}
    (hway : way.foldlM fs.step first = .ok above) (hlast : fs.step above name = .ok last) :
    (way ++ [name]).foldlM fs.step first = .ok last := by
  rw [List.foldlM_append, hway]
  show [name].foldlM fs.step above = .ok last
  rw [List.foldlM_cons, hlast]
  rfl

theorem foldlM_step_put (hplace : fs.isDirectory place = false) (e : Entry) {way : List String}
    {first last : Place} (h : way.foldlM fs.step first = .ok last) :
    way.foldlM (fs.put place e).step first = .ok last := by
  induction way generalizing first with
  | nil => exact h
  | cons name way ih =>
    rw [List.foldlM_cons] at h ⊢
    cases hstep : fs.step first name with
    | error fault =>
      rw [hstep] at h
      cases h
    | ok next =>
      rw [hstep] at h
      rw [step_put hplace e hstep]
      exact ih h

/-- An entry where no directory was changes no path that leads somewhere. -/
theorem locate_put (hplace : fs.isDirectory place = false) (e : Entry) {path : String}
    {found : Place} (h : fs.locate path = .ok found) :
    (fs.put place e).locate path = .ok found := by
  unfold locate at h ⊢
  split at h
  · cases h
  · next hempty =>
    rw [if_neg hempty]
    exact foldlM_step_put hplace e h

/-! ## one file -/

/-- The path leads to a directory and ends with a name that an entry can have there. -/
structure LeadsBelow (fs : FileSystem) (path : String) (above : Place) (name : String) : Prop where
  nonempty : path ≠ ""
  way : ∃ way, names path = way ++ [name] ∧ way.foldlM fs.step (fs.start path) = .ok above
  directory : fs.isDirectory above = true
  entry : name ≠ "" ∧ isDots name = false ∧ isBad name = false

theorem LeadsBelow.put {path name : String} {above : Place} (h : fs.LeadsBelow path above name)
    (hplace : fs.isDirectory place = false) (e : Entry) :
    (fs.put place e).LeadsBelow path above name := by
  obtain ⟨way, hnames, hway⟩ := h.way
  exact ⟨h.nonempty, ⟨way, hnames, foldlM_step_put hplace e hway⟩,
    isDirectory_put hplace h.directory e, h.entry⟩

theorem LeadsBelow.locate {path name : String} {above : Place} (h : fs.LeadsBelow path above name)
    (hentry : (fs.get? (above ++ [name])).isSome) : fs.locate path = .ok (above ++ [name]) := by
  obtain ⟨hname, hdots, hbad⟩ := h.entry
  obtain ⟨way, hnames, hway⟩ := h.way
  have hnodots : name ≠ "." ∧ name ≠ ".." := by simpa [isDots] using hdots
  have hlast : fs.step above name = .ok (above ++ [name]) := by
    rw [step_eq_ok_iff, if_neg (not_or.mpr ⟨hname, hnodots.1⟩), if_neg hnodots.2]
    exact ⟨h.directory, hbad, hentry, rfl⟩
  rw [FileSystem.locate, if_neg h.nonempty, hnames]
  exact foldlM_step_concat hway hlast

/-- The last name of the path is `name`, and no slash stands behind it. -/
def EndsWith (path name : String) : Prop := name ≠ "" ∧ ∃ way, names path = way ++ [name]

theorem pieces_of_no_slash {name : String} (hslash : '/' ∉ name.toList) :
    Text.pieces (· == '/') name.toList = [name.toList] :=
  Text.pieces_of_forall fun _ hc => beq_false_of_ne fun he => hslash (he ▸ hc)

theorem endsWith_self {name : String} (hname : name ≠ "") (hslash : '/' ∉ name.toList) :
    EndsWith name name := by
  refine ⟨hname, [], ?_⟩
  rw [names, pieces_of_no_slash hslash]
  simp

theorem endsWith_of_slash {path name : String} {s : List Char}
    (hpath : path.toList = s ++ '/' :: name.toList) (hname : name ≠ "")
    (hslash : '/' ∉ name.toList) : EndsWith path name := by
  refine ⟨hname, (Text.pieces (· == '/') s).map String.ofList, ?_⟩
  rw [names, hpath, Text.pieces_append_cons (by rfl), pieces_of_no_slash hslash, List.map_append]
  simp

theorem splitLast_of_names {path name : String} {way : List String}
    (hpath : names path = way ++ [name]) (hname : name ≠ "") :
    splitLast path = (way, some name) := by
  simp [splitLast, hpath, hname]

/-- A new entry has the last name of its path, below the directory to which the others lead. -/
theorem locateNew_spec {itself : FileFault} {path name : String} (hpath : EndsWith path name)
    (h : fs.locateNew itself path = .ok place) :
    ∃ above, fs.LeadsBelow path above name ∧ place = above ++ [name] := by
  obtain ⟨hname, way, hpath⟩ := hpath
  rw [locateNew, splitLast_of_names hpath hname] at h
  split at h
  · cases h
  · next hempty =>
    dsimp only at h
    cases hway : way.foldlM fs.step (fs.start path) with
    | error fault =>
      rw [hway] at h
      cases h
    | ok above =>
      rw [hway] at h
      change (if !fs.isDirectory above then _ else _) = _ at h
      cases hd : fs.isDirectory above <;> cases hdots : isDots name <;> cases hbad : isBad name <;>
        simp [hd, hdots, hbad] at h
      exact ⟨above, ⟨hempty, ⟨way, hpath, hway⟩, hd, hname, hdots, hbad⟩, h.symm⟩

/-- The path leads to a file of this name and text. -/
def Keeps (fs : FileSystem) (path name text : String) : Prop :=
  ∃ above, fs.locate path = .ok (above ++ [name]) ∧
    fs.get? (above ++ [name]) = some (.file text)

theorem Keeps.readFile {path name : String} (h : fs.Keeps path name text) :
    fs.readFile path = .ok text := by
  obtain ⟨above, hlocate, hget⟩ := h
  simp only [FileSystem.readFile, hlocate, bind, Except.bind, hget]

/-- A file is put where no directory is, and its path leads to it. -/
theorem writeFile_spec {fs' : FileSystem} {path name : String} (hpath : EndsWith path name)
    (h : fs.writeFile path text = .ok fs') :
    ∃ above, fs.isDirectory (above ++ [name]) = false ∧
      fs' = fs.put (above ++ [name]) (.file text) ∧ fs'.Keeps path name text := by
  cases hnew : fs.locateNew .isDirectory path with
  | error fault => simp [writeFile, hnew, bind, Except.bind] at h
  | ok place =>
    obtain ⟨above, hleads, rfl⟩ := locateNew_spec hpath hnew
    obtain ⟨hplace, rfl⟩ : fs.isDirectory (above ++ [name]) = false ∧
        fs' = fs.put (above ++ [name]) (.file text) := by
      simp only [writeFile, hnew, bind, Except.bind] at h
      split at h
      · cases h
      · split at h
        · cases h
        · next hdir => exact ⟨decide_eq_false hdir, (Except.ok.inj h).symm⟩
    have hget : (fs.put (above ++ [name]) (.file text)).get? (above ++ [name]) =
        some (.file text) := get?_put_self (by simp) _
    have hlocate := (hleads.put hplace (.file text)).locate (by rw [hget]; rfl)
    exact ⟨above, hplace, rfl, above, hlocate, hget⟩

/-- A file stays when another one is put where no directory is, under another name. -/
theorem Keeps.put {path name other : String} (h : fs.Keeps path name text) (hne : name ≠ other)
    {above : Place} (hplace : fs.isDirectory (above ++ [other]) = false) (e : Entry) :
    (fs.put (above ++ [other]) e).Keeps path name text := by
  obtain ⟨place, hlocate, hget⟩ := h
  refine ⟨place, locate_put hplace e hlocate, ?_⟩
  rw [get?_put_of_ne (fun he => hne (List.append_singleton_inj.mp he).2)]
  exact hget

/-! ## several files -/

theorem writeAll_cons {fs' : FileSystem} {f : String × String} {files : List (String × String)}
    (h : fs.writeAll (f :: files) = (fs', .ok ())) :
    ∃ next, fs.writeFile f.1 f.2 = .ok next ∧ next.writeAll files = (fs', .ok ()) := by
  rw [FileSystem.writeAll] at h
  split at h
  · next next hf => exact ⟨next, hf, h⟩
  · cases h

/-- A file stays when others are written, all under other names. -/
theorem Keeps.writeAll {fs' : FileSystem} {path name : String} (h : fs.Keeps path name text)
    {files : List (String × String)}
    (hother : ∀ f ∈ files, ∃ other, EndsWith f.1 other ∧ name ≠ other)
    (hw : fs.writeAll files = (fs', .ok ())) : fs'.Keeps path name text := by
  induction files generalizing fs with
  | nil =>
    cases hw
    exact h
  | cons f files ih =>
    obtain ⟨⟨other, hpath, hne⟩, hrest⟩ := List.forall_mem_cons.mp hother
    obtain ⟨next, hf, hw⟩ := writeAll_cons hw
    obtain ⟨above, hplace, rfl, -⟩ := writeFile_spec hpath hf
    exact ih (h.put hne hplace _) hrest hw

/-- A file is kept unless one of those written after it has its name. -/
theorem keeps_of_writeAll {fs' : FileSystem} {path name : String} (hpath : EndsWith path name)
    {before after : List (String × String)}
    (hafter : ∀ f ∈ after, ∃ other, EndsWith f.1 other ∧ name ≠ other)
    (hw : fs.writeAll (before ++ (path, text) :: after) = (fs', .ok ())) :
    fs'.Keeps path name text := by
  induction before generalizing fs with
  | nil =>
    obtain ⟨next, hf, hw⟩ := writeAll_cons hw
    obtain ⟨-, -, -, hkeeps⟩ := writeFile_spec hpath hf
    exact hkeeps.writeAll hafter hw
  | cons f before ih =>
    obtain ⟨next, -, hw⟩ := writeAll_cons hw
    exact ih hw

end FileSystem

end SchemaModel

import Mathlib.Data.List.DropRight
import SchemaModel.Proofs.Files.Tree

/-!
# What operations change

Making a directory makes those on its way that are missing, and writing files changes the places
that their paths lead to. This holds of an operation that is refused half-way as well: what it has
done by then stays. Both are told place by place.

* `within_of_mem_ancestors`   the paths above a path go the same way;
* `createAll_opened`          directories on the way, where nothing was;
* `writeFile_ok`              one file, at the place of its path;
* `writeAll_spec`             the files up to the first that is refused, and the last of them at
  each place.
-/

namespace SchemaModel

namespace FileSystem

variable {fs fs' : FileSystem} {place : Place} {path text : String}

/-! ## new entries -/

theorem splitLast_spec {way : List String} {name : String}
    (h : splitLast path = (way, some name)) :
    name ≠ "" ∧ ∃ behind, names path = way ++ name :: behind := by
  obtain ⟨hway, hlast⟩ := Prod.mk.inj h
  -- the names without the empty ones at the end
  change ((names path).rdropWhile (· = "")).dropLast = way at hway
  change ((names path).rdropWhile (· = "")).getLast? = some name at hlast
  obtain ⟨init, hinit⟩ := List.getLast?_eq_some_iff.mp hlast
  rw [hinit, List.dropLast_concat] at hway
  subst hway
  have hne : (names path).rdropWhile (· = "") ≠ [] := by simp [hinit]
  have hlast := List.rdropWhile_last_not _ _ hne
  obtain ⟨behind, hnames⟩ := List.rdropWhile_prefix (· = "") (names path)
  simp only [hinit, List.getLast_append_singleton, decide_eq_true_eq] at hlast
  refine ⟨hlast, behind, ?_⟩
  rw [← hnames, hinit, List.append_assoc, List.singleton_append]

theorem step_entry {above : Place} {name : String} (habove : fs.isDirectory above = true)
    (hname : name ≠ "") (hdots : isDots name = false) (hbad : isBad name = false)
    (hentry : (fs.get? (above ++ [name])).isSome) : fs.step above name = .ok (above ++ [name]) := by
  have hnodots : name ≠ "." ∧ name ≠ ".." := by simpa [isDots] using hdots
  rw [step_eq_ok_iff, if_neg (not_or.mpr ⟨hname, hnodots.1⟩), if_neg hnodots.2]
  exact ⟨habove, hbad, hentry, rfl⟩

/-- A new entry has the last name of its path, up to slashes behind it. -/
theorem locateNew_ok {itself : FileFault} (h : fs.locateNew itself path = .ok place) :
    ∃ way name behind above, names path = way ++ name :: behind ∧
      fs.Walks (fs.start path) way above ∧ fs.isDirectory above = true ∧
      (name ≠ "" ∧ isDots name = false ∧ isBad name = false) ∧ place = above ++ [name] := by
  unfold locateNew at h
  split at h
  · cases h
  · cases hsplit : splitLast path with
    | mk way last =>
      rw [hsplit] at h
      cases last with
      | none => cases h
      | some name =>
        obtain ⟨hname, behind, hnames⟩ := splitLast_spec hsplit
        obtain ⟨above, hway, h⟩ := bind_ok h
        cases hd : fs.isDirectory above <;> cases hdots : isDots name <;>
          cases hbad : isBad name <;> simp [hd, hdots, hbad] at h
        exact ⟨way, name, behind, above, hnames, hway, hd, ⟨hname, hdots, hbad⟩, h.symm⟩

theorem createDirectory_ok (h : fs.createDirectory path = .ok fs') :
    ∃ above name, fs.isDirectory above = true ∧ fs.get? (above ++ [name]) = none ∧
      fs' = fs.put (above ++ [name]) .directory ∧ fs'.Passes path (above ++ [name]) := by
  obtain ⟨place, hnew, h⟩ := bind_ok h
  obtain ⟨way, name, behind, above, hnames, hway, hd, ⟨hname, hdots, hbad⟩, rfl⟩ :=
    locateNew_ok hnew
  split at h
  · cases h
  · next hnone =>
    cases h
    have hplace : fs.isDirectory (above ++ [name]) = false := by simp [isDirectory, hnone]
    have hgrows : fs.Grows (fs.put (above ++ [name]) .directory) := .put hplace fun _ => hnone
    refine ⟨above, name, hd, hnone, rfl, way ++ [name], behind, by simp [hnames], ?_⟩
    have hentry : ((fs.put (above ++ [name]) .directory).get? (above ++ [name])).isSome := by
      rw [get?_put_self (by simp)]
      rfl
    exact walks_append.mpr ⟨above, hgrows.walks hway, walks_cons.mpr ⟨_,
      step_entry (hgrows.directory above hd) hname hdots hbad hentry, walks_nil.mpr rfl⟩⟩

/-! ## directories on the way of a path -/

/-- Directories were made on the way of a path, where nothing was. -/
structure Opened (fs : FileSystem) (path : String) (fs' : FileSystem) : Prop where
  grows : fs.Grows fs'
  tree : fs.IsTree → fs'.IsTree
  places : ∀ place, fs'.get? place = fs.get? place ∨
    fs.get? place = none ∧ fs'.get? place = some .directory ∧ fs'.Passes path place

theorem Opened.refl (fs : FileSystem) (path : String) : fs.Opened path fs :=
  ⟨.refl fs, id, fun _ => .inl rfl⟩

theorem Opened.trans {fs'' : FileSystem} (h : fs.Opened path fs') (h' : fs'.Opened path fs'') :
    fs.Opened path fs'' where
  grows := h.grows.trans h'.grows
  tree := h'.tree ∘ h.tree
  places place := by
    rcases h'.places place with heq | ⟨hnone, hnew⟩
    · rcases h.places place with hold | ⟨hbefore, hdir, hpasses⟩
      · exact .inl (heq.trans hold)
      · exact .inr ⟨hbefore, heq.trans hdir, h'.grows.passes hpasses⟩
    · rcases h.places place with hold | ⟨-, hdir, -⟩
      · exact .inr ⟨hold ▸ hnone, hnew⟩
      · rw [hdir] at hnone
        cases hnone

theorem ensureDirectory_opened (h : fs.ensureDirectory path = .ok fs') : fs.Opened path fs' := by
  unfold ensureDirectory at h
  split at h
  · next hcreate =>
    cases h
    obtain ⟨above, name, habove, hnone, rfl, hpasses⟩ := createDirectory_ok hcreate
    have hplace : fs.isDirectory (above ++ [name]) = false := by simp [isDirectory, hnone]
    refine ⟨.put hplace fun _ => hnone, fun tree => tree.put habove hplace _, fun place => ?_⟩
    by_cases hne : place = above ++ [name]
    · subst hne
      exact .inr ⟨hnone, get?_put_self (by simp) _, hpasses⟩
    · exact .inl (get?_put_of_ne hne _)
  · split at h
    · cases h
      exact .refl _ _
    · cases h

/-! ## the paths above a path -/

/-- The directories that a path passes are passed by another one. -/
def Within (path other : String) : Prop :=
  ∀ (fs : FileSystem) (place : Place), fs.isDirectory place = true → fs.Passes path place →
    fs.Passes other place

theorem Opened.within {other : String} (h : fs.Opened path fs') (hpath : Within path other) :
    fs.Opened other fs' where
  grows := h.grows
  tree := h.tree
  places place := by
    refine (h.places place).imp_right fun ⟨hnone, hdir, hpasses⟩ => ⟨hnone, hdir, ?_⟩
    exact hpath fs' place (decide_eq_true hdir) hpasses

/-- A name that is not empty and not a single point. -/
def isMove (name : String) : Bool := name ≠ "" && name ≠ "."

theorem isDirectory_of_walks {first last : Place} {way : List String}
    (h : fs.Walks first way last) (hlast : fs.isDirectory last = true) :
    fs.isDirectory first = true := by
  cases way with
  | nil => rwa [← walks_nil.mp h]
  | cons name way =>
    obtain ⟨next, hstep, -⟩ := walks_cons.mp h
    exact (step_eq_ok_iff.mp hstep).1

/-- The names that stay where they are can be left out of a walk. -/
theorem walks_filter {first last : Place} {way : List String} (h : fs.Walks first way last) :
    fs.Walks first (way.filter isMove) last := by
  induction way generalizing first with
  | nil => exact h
  | cons name way ih =>
    obtain ⟨next, hstep, hrest⟩ := walks_cons.mp h
    cases hmove : isMove name with
    | true =>
      rw [List.filter_cons_of_pos hmove]
      exact walks_cons.mpr ⟨next, hstep, ih hrest⟩
    | false =>
      have hstay : name = "" ∨ name = "." := by simpa [isMove, or_iff_not_imp_left] using hmove
      have hnext := (step_eq_ok_iff.mp hstep).2
      rw [if_pos hstay] at hnext
      rw [List.filter_cons_of_neg (by simp [hmove]), ← hnext]
      exact ih hrest

/-- They can be put back in if the walk ends at a directory. -/
theorem walks_of_filter {first last : Place} {way : List String}
    (h : fs.Walks first (way.filter isMove) last) (hlast : fs.isDirectory last = true) :
    fs.Walks first way last := by
  induction way generalizing first with
  | nil => exact h
  | cons name way ih =>
    cases hmove : isMove name with
    | true =>
      rw [List.filter_cons_of_pos hmove] at h
      obtain ⟨next, hstep, hrest⟩ := walks_cons.mp h
      exact walks_cons.mpr ⟨next, hstep, ih hrest⟩
    | false =>
      have hstay : name = "" ∨ name = "." := by simpa [isMove, or_iff_not_imp_left] using hmove
      rw [List.filter_cons_of_neg (by simp [hmove])] at h
      refine walks_cons.mpr ⟨first, step_eq_ok_iff.mpr ?_, ih h⟩
      rw [if_pos hstay]
      exact ⟨isDirectory_of_walks h hlast, rfl⟩

theorem slash_not_mem_name {name : String} (h : name ∈ names path) : '/' ∉ name.toList := by
  obtain ⟨piece, hpiece, rfl⟩ := List.mem_map.mp h
  rw [String.toList_ofList]
  intro hslash
  have hno := Text.not_of_mem_pieces hpiece hslash
  cases hno

theorem pieces_intercalate {ws : List (List Char)} (hne : ws ≠ []) (hws : ∀ w ∈ ws, '/' ∉ w) :
    Text.pieces (· == '/') (['/'].intercalate ws) = ws := by
  induction ws with
  | nil => exact absurd rfl hne
  | cons w rest ih =>
    obtain ⟨hw, hrest⟩ := List.forall_mem_cons.mp hws
    have hpiece : Text.pieces (· == '/') w = [w] :=
      Text.pieces_of_forall fun c hc => beq_false_of_ne fun he => hw (he ▸ hc)
    by_cases hnil : rest = []
    · rw [hnil, List.intercalate_singleton, hpiece]
    · rw [List.intercalate_cons_of_ne_nil hnil, List.append_assoc, List.singleton_append,
        Text.pieces_append_cons (by rfl), hpiece, ih hnil hrest, List.singleton_append]

/-- A path that is put together of names goes by these names. -/
theorem names_intercalate {parts : List String} (hne : parts ≠ [])
    (hparts : ∀ part ∈ parts, '/' ∉ part.toList) : names ("/".intercalate parts) = parts := by
  have hchars : parts.map String.toList ≠ [] := by simpa using hne
  have hpieces := pieces_intercalate hchars fun w hw => by
    obtain ⟨part, hpart, rfl⟩ := List.mem_map.mp hw
    exact hparts part hpart
  rw [names, String.toList_intercalate]
  show List.map _ (Text.pieces _ (['/'].intercalate _)) = _
  rw [hpieces, List.map_map]
  simp [Function.comp_def]

theorem names_slash (path : String) : names ("/" ++ path) = "" :: names path := by
  rw [names, String.toList_append]
  rfl

/-- The names of a path that move, some of the first of them, put together again. -/
theorem names_take {n : Nat} (hn : 0 < n) (hlen : n < ((names path).filter isMove).length) :
    let taken := ((names path).filter isMove).take n
    names ("/".intercalate taken) = taken ∧ taken.filter isMove = taken ∧
      ("/".intercalate taken).toList.head? ≠ some '/' := by
  intro taken
  have hmem : ∀ part ∈ taken, part ∈ names path ∧ isMove part = true := fun part hpart =>
    List.mem_filter.mp (List.mem_of_mem_take hpart)
  have hne : taken ≠ [] := List.ne_nil_of_length_pos (by rw [List.length_take]; omega)
  refine ⟨names_intercalate hne fun part hpart => slash_not_mem_name (hmem part hpart).1,
    List.filter_eq_self.mpr fun part hpart => (hmem part hpart).2, ?_⟩
  obtain ⟨first, rest, hcons⟩ := List.exists_cons_of_ne_nil hne
  obtain ⟨hfirst, hmove⟩ := hmem first (hcons ▸ List.mem_cons_self)
  have hchars : first.toList ≠ [] := by
    intro hnil
    rw [String.toList_eq_nil_iff.mp hnil] at hmove
    cases hmove
  obtain ⟨c, cs, hc⟩ := List.exists_cons_of_ne_nil hchars
  have hslash : c ≠ '/' := by
    rintro rfl
    exact slash_not_mem_name hfirst (hc ▸ List.mem_cons_self)
  rw [hcons, String.toList_intercalate, List.map_cons]
  cases hrest : rest.map String.toList with
  | nil => simp [hc, hslash]
  | cons w ws => simp [hc, hslash]

/-- The way of a path above another one is part of its way, up to names that stay. -/
theorem names_of_mem_ancestors {above : String} (h : above ∈ ancestors path) :
    (names above).filter isMove <+: (names path).filter isMove ∧
      (above.toList.head? = some '/' ↔ path.toList.head? = some '/') := by
  obtain ⟨n, hn, rfl⟩ := List.mem_map.mp h
  change n ∈ ((List.range ((names path).filter isMove).length).drop 1).reverse at hn
  obtain ⟨hpos, hlen⟩ : 0 < n ∧ n < ((names path).filter isMove).length := by
    rw [List.mem_reverse, List.mem_drop_iff_getElem] at hn
    obtain ⟨k, hk, rfl⟩ := hn
    simp only [List.length_range, List.getElem_range] at hk ⊢
    omega
  obtain ⟨hnames, hmoves, hhead⟩ := names_take hpos hlen
  have hfront := List.take_prefix n ((names path).filter isMove)
  show (names (_ ++ "/".intercalate (((names path).filter isMove).take n))).filter isMove <+: _ ∧
    ((_ ++ "/".intercalate (((names path).filter isMove).take n)).toList.head? = _ ↔ _)
  by_cases hroot : path.toList.head? = some '/'
  · rw [if_pos hroot, names_slash, hnames, List.filter_cons_of_neg (by decide), hmoves]
    exact ⟨hfront, iff_of_true (by simp) hroot⟩
  · rw [if_neg hroot, String.empty_append, hnames, hmoves]
    exact ⟨hfront, iff_of_false hhead hroot⟩

theorem within_of_mem_ancestors {above : String} (h : above ∈ ancestors path) :
    Within above path := by
  obtain ⟨hfront, hhead⟩ := names_of_mem_ancestors h
  rintro fs place hdir ⟨way, behind, hnames, hway⟩
  have hstart : fs.start above = fs.start path := by simp only [FileSystem.start, hhead]
  have hpart : way.filter isMove <+: (names path).filter isMove := by
    refine .trans ?_ hfront
    rw [hnames, List.filter_append]
    exact List.prefix_append _ _
  obtain ⟨whole, ⟨rest, hwhole⟩, hmoves⟩ := List.prefix_filter_iff.mp hpart
  refine ⟨whole, rest, hwhole.symm, walks_of_filter ?_ hdir⟩
  rw [← hmoves, ← hstart]
  exact walks_filter hway

/-! ## making directories -/

theorem createFrom_opened {top : String} {above : List String}
    {result : Except FileFault Unit} (h : fs.createFrom path above = (fs', result))
    (hpath : Within path top) (habove : ∀ p ∈ above, Within p top) : fs.Opened top fs' := by
  induction above generalizing fs fs' path result with
  | nil =>
    rw [createFrom] at h
    split at h
    · next hensure =>
      cases h
      exact (ensureDirectory_opened hensure).within hpath
    · cases h
      exact .refl _ _
  | cons parent above ih =>
    obtain ⟨hparent, hrest⟩ := List.forall_mem_cons.mp habove
    rw [createFrom] at h
    split at h
    · next hensure =>
      cases h
      exact (ensureDirectory_opened hensure).within hpath
    · split at h
      · next hfrom =>
        cases h
        exact ih hfrom hparent hrest
      · next hfrom =>
        have hopened := ih hfrom hparent hrest
        split at h
        · next hensure =>
          cases h
          exact hopened.trans ((ensureDirectory_opened hensure).within hpath)
        · cases h
          exact hopened
    · cases h
      exact .refl _ _

/-- Whether or not all directories could be made, those that were made are on the way. -/
theorem createAll_opened {result : Except FileFault Unit}
    (h : fs.createAll path = (fs', result)) : fs.Opened path fs' := by
  unfold createAll at h
  split at h
  · cases h
    exact .refl _ _
  · exact createFrom_opened h (fun _ _ _ hpasses => hpasses) fun p hp => within_of_mem_ancestors hp

/-! ## writing files -/

theorem exists_endsWith (hne : path ≠ "") (hlast : path.toList.getLast? ≠ some '/') :
    ∃ name, EndsWith path name := by
  have hchars : path.toList ≠ [] := fun hnil => hne (String.toList_eq_nil_iff.mp hnil)
  obtain ⟨s, c, hsplit⟩ : ∃ s c, path.toList = s ++ [c] :=
    ⟨_, _, (List.dropLast_append_getLast hchars).symm⟩
  have hc : (c == '/') = false := by
    refine beq_false_of_ne fun he => hlast ?_
    simp [hsplit, he]
  obtain ⟨before, last, hpieces⟩ := Text.exists_pieces_concat (p := (· == '/')) hc s
  refine ⟨String.ofList (last ++ [c]), ?_, before.map String.ofList, ?_⟩
  · simp
  · rw [names, hsplit, hpieces, List.map_append]
    rfl

/-- A file is put where no directory is, at the place to which its path then leads. -/
theorem writeFile_ok (h : fs.writeFile path text = .ok fs') :
    ∃ above name, fs.isDirectory above = true ∧ fs.isDirectory (above ++ [name]) = false ∧
      fs' = fs.put (above ++ [name]) (.file text) ∧ fs'.locate path = .ok (above ++ [name]) := by
  obtain ⟨place, hnew, h⟩ := bind_ok h
  split at h
  · cases h
  · next hlast =>
    have hne : path ≠ "" := by
      rintro rfl
      cases hnew
    obtain ⟨name, hname⟩ := exists_endsWith hne hlast
    obtain ⟨above, hleads, rfl⟩ := locateNew_spec hname hnew
    split at h
    · cases h
    · next hdir =>
      cases h
      have hplace : fs.isDirectory (above ++ [name]) = false := decide_eq_false hdir
      refine ⟨above, name, hleads.directory, hplace, rfl, ?_⟩
      exact (hleads.put hplace _).locate (by rw [get?_put_self (by simp)]; rfl)

/-- Files were written: their paths lead to them, a place to which one of the paths leads has the
text of the last of these, and all other places are as before. -/
structure Written (fs : FileSystem) (files : List (String × String)) (fs' : FileSystem) :
    Prop where
  grows : fs.Grows fs'
  tree : fs.IsTree → fs'.IsTree
  leads : ∀ f ∈ files, ∃ place, fs'.locate f.1 = .ok place
  places : ∀ place,
    fs'.get? place = fs.get? place ∧ (∀ f ∈ files, fs'.locate f.1 ≠ .ok place) ∨
    ∃ before f after, files = before ++ f :: after ∧ fs.isDirectory place = false ∧
      fs'.locate f.1 = .ok place ∧ fs'.get? place = some (.file f.2) ∧
      ∀ g ∈ after, fs'.locate g.1 ≠ .ok place

theorem Written.refl (fs : FileSystem) : fs.Written [] fs :=
  ⟨.refl fs, id, nofun, fun _ => .inl ⟨rfl, nofun⟩⟩

theorem Written.cons {next : FileSystem} {f : String × String} {files : List (String × String)}
    (hf : fs.writeFile f.1 f.2 = .ok next) (h : next.Written files fs') :
    fs.Written (f :: files) fs' := by
  obtain ⟨above, name, habove, hplace, hnext, hlocate⟩ := writeFile_ok hf
  have hgrows : fs.Grows next := hnext ▸ .put hplace nofun
  have hself := h.grows.locate hlocate
  refine ⟨hgrows.trans h.grows, fun tree => h.tree (hnext ▸ tree.put habove hplace _),
    List.forall_mem_cons.mpr ⟨⟨_, hself⟩, h.leads⟩, fun place => ?_⟩
  rcases h.places place with ⟨heq, hothers⟩ | ⟨before, g, after, hsplit, hdir, hrest⟩
  · by_cases hne : place = above ++ [name]
    · subst hne
      refine .inr ⟨[], f, files, rfl, hplace, hself, ?_, hothers⟩
      rw [heq, hnext, get?_put_self (by simp)]
    · refine .inl ⟨by rw [heq, hnext, get?_put_of_ne hne], List.forall_mem_cons.mpr ⟨?_, hothers⟩⟩
      rw [hself]
      exact fun he => hne (Except.ok.inj he).symm
  · refine .inr ⟨f :: before, g, after, by rw [hsplit]; rfl, ?_, hrest⟩
    by_contra hold
    rw [hgrows.directory place (by simpa using hold)] at hdir
    cases hdir

/-- Files are written up to the first that is refused. -/
theorem writeAll_spec {files : List (String × String)} {result : Except FileFault Unit}
    (h : fs.writeAll files = (fs', result)) :
    ∃ done rest, files = done ++ rest ∧ fs.Written done fs' ∧
      (rest = [] ∧ result = .ok () ∨ ∃ f more fault, rest = f :: more ∧ result = .error fault ∧
        fs'.writeFile f.1 f.2 = .error fault) := by
  induction files generalizing fs with
  | nil =>
    cases h
    exact ⟨[], [], rfl, .refl _, .inl ⟨rfl, rfl⟩⟩
  | cons f files ih =>
    rw [writeAll] at h
    split at h
    · next next hf =>
      obtain ⟨done, rest, rfl, hwritten, hend⟩ := ih h
      exact ⟨f :: done, rest, rfl, hwritten.cons hf, hend⟩
    · next fault hf =>
      cases h
      exact ⟨[], f :: files, rfl, .refl _, .inr ⟨f, files, fault, rfl, rfl, hf⟩⟩

end FileSystem

end SchemaModel

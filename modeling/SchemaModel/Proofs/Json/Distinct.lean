import SchemaModel.Json.Reader
import SchemaModel.Proofs.Lists

/-!
# Objects with distinct keys

In a document no object has two fields of one key. The list of fields that stands for an object does
not say so by itself, but a reader sets a field where its key already is, so all that it reads is
distinct in this sense. Then the fields of an object are what a lookup finds.

* `Distinct.lookup_iff`   a lookup finds exactly the fields of an object;
* `step_distinct`         a step of the reader keeps the keys of all open objects distinct;
* `distinct_of_read`      what is read from a text is distinct.
-/

namespace SchemaModel

namespace Json

/-- No object in a value has two fields of one key. -/
inductive Distinct : Json → Prop
  | null : Distinct .null
  | bool (b : Bool) : Distinct (.bool b)
  | int (n : Int) : Distinct (.int n)
  | double (x : Double) : Distinct (.double x)
  | string (s : String) : Distinct (.string s)
  | array {items : List Json} (h : ∀ j ∈ items, Distinct j) : Distinct (.array items)
  | object {fields : List (String × Json)} (hk : (fields.map Prod.fst).Nodup)
      (h : ∀ f ∈ fields, Distinct f.2) : Distinct (.object fields)

section
variable {fields : List (String × Json)}

theorem Distinct.nodup_keys (h : Distinct (.object fields)) : (fields.map Prod.fst).Nodup := by
  cases h with
  | object hk => exact hk

theorem Distinct.of_mem (h : Distinct (.object fields)) {key : String} {value : Json}
    (hm : (key, value) ∈ fields) : value.Distinct := by
  cases h with
  | object _ h => exact h _ hm

theorem Distinct.lookup_iff (h : Distinct (.object fields)) {key : String} {value : Json} :
    fields.lookup key = some value ↔ (key, value) ∈ fields :=
  lookup_eq_some_iff_mem h.nodup_keys

theorem mem_setField {key k : String} {value v : Json} (h : (k, v) ∈ setField key value fields) :
    v = value ∨ (k, v) ∈ fields := by
  induction fields with
  | nil =>
    cases List.mem_singleton.mp h
    exact .inl rfl
  | cons field rest ih =>
    obtain ⟨k₀, v₀⟩ := field
    rw [setField] at h
    split at h
    · rcases List.mem_cons.mp h with he | h
      · cases he
        exact .inl rfl
      · exact .inr (List.mem_cons_of_mem _ h)
    · rcases List.mem_cons.mp h with he | h
      · cases he
        exact .inr List.mem_cons_self
      · exact (ih h).imp_right (List.mem_cons_of_mem _)

/-- Setting a field keeps the keys distinct. -/
theorem Distinct.setField (h : Distinct (.object fields)) {value : Json} (hv : value.Distinct)
    (key : String) : Distinct (.object (Json.setField key value fields)) := by
  refine .object (nodup_keys_setField h.nodup_keys) fun field hf => ?_
  rcases mem_setField hf with he | hm
  · rw [he]
    exact hv
  · exact h.of_mem hm

end

/-! ## the reader -/

/-- what is read of a list or object that is open -/
def Frame.Distinct : Frame → Prop
  | .list items => ∀ j ∈ items, j.Distinct
  | .object fields _ => Json.Distinct (.object fields)

/-- the value that is complete, or will be at the end of a literal -/
def Mode.Distinct : Mode → Prop
  | .done v | .literal _ v => v.Distinct
  | _ => True

structure State.Distinct (s : State) : Prop where
  mode : s.mode.Distinct
  stack : ∀ frame ∈ s.stack, frame.Distinct

section
variable {stack : List Frame} {s s' : State} {value : Json} {c : Char}

theorem complete_distinct (hs : ∀ frame ∈ stack, frame.Distinct) (hv : value.Distinct) :
    (complete stack value).Distinct := by
  unfold complete
  split
  · exact ⟨hv, nofun⟩
  · obtain ⟨hitems, hrest⟩ := List.forall_mem_cons.mp hs
    exact ⟨trivial, List.forall_mem_cons.mpr ⟨List.forall_mem_cons.mpr ⟨hv, hitems⟩, hrest⟩⟩
  · obtain ⟨hfields, hrest⟩ := List.forall_mem_cons.mp hs
    exact ⟨trivial, List.forall_mem_cons.mpr ⟨Json.Distinct.setField hfields hv _, hrest⟩⟩

theorem completeString_distinct (hs : ∀ frame ∈ stack, frame.Distinct) (isKey : Bool)
    (text : String) : (completeString stack isKey text).Distinct := by
  unfold completeString
  split
  · obtain ⟨hfields, hrest⟩ := List.forall_mem_cons.mp hs
    exact ⟨trivial, List.forall_mem_cons.mpr ⟨hfields, hrest⟩⟩
  · exact complete_distinct hs (.string text)

theorem close_distinct (hs : ∀ frame ∈ stack, frame.Distinct) : (close stack).Distinct := by
  unfold close
  split
  · exact ⟨trivial, nofun⟩
  · obtain ⟨hitems, hrest⟩ := List.forall_mem_cons.mp hs
    exact complete_distinct hrest (.array fun j hj => hitems j (List.mem_reverse.mp hj))
  · obtain ⟨hfields, hrest⟩ := List.forall_mem_cons.mp hs
    exact complete_distinct hrest hfields

theorem openFrame_distinct (hs : ∀ frame ∈ stack, frame.Distinct) {mode : Mode} {frame : Frame}
    (hm : mode.Distinct) (hf : frame.Distinct) (h : openFrame stack mode frame = .ok s') :
    s'.Distinct := by
  unfold openFrame at h
  split at h
  · cases h
    exact ⟨hm, List.forall_mem_cons.mpr ⟨hf, hs⟩⟩
  · cases h

theorem stepValue_distinct (hs : ∀ frame ∈ stack, frame.Distinct) {first : Bool}
    (h : stepValue stack first c = .ok s') : s'.Distinct := by
  unfold stepValue at h
  split at h
  · cases h
    exact ⟨trivial, hs⟩
  · split at h
    · cases h
      exact close_distinct hs
    · split at h
      · cases h
        exact ⟨.null, hs⟩
      · cases h
        exact ⟨.bool true, hs⟩
      · cases h
        exact ⟨.bool false, hs⟩
      · cases h
        exact ⟨trivial, hs⟩
      · refine openFrame_distinct hs ?_ ?_ h
        · trivial
        · exact fun j hj => absurd hj List.not_mem_nil
      · refine openFrame_distinct hs ?_ ?_ h
        · trivial
        · exact Json.Distinct.object List.nodup_nil nofun
      · split at h
        · cases h
        · cases h
      · split at h
        · cases h
          exact ⟨trivial, hs⟩
        · cases h

theorem stepKey_distinct (hs : ∀ frame ∈ stack, frame.Distinct) {first : Bool}
    (h : stepKey stack first c = .ok s') : s'.Distinct := by
  unfold stepKey at h
  split at h
  · cases h
    exact ⟨trivial, hs⟩
  · split at h
    · cases h
      exact ⟨trivial, hs⟩
    · split at h
      · split at h
        · cases h
          exact close_distinct hs
        · cases h
      · cases h

theorem stepNext_distinct (hs : ∀ frame ∈ stack, frame.Distinct)
    (h : stepNext stack c = .ok s') : s'.Distinct := by
  unfold stepNext at h
  split at h
  · cases h
    exact ⟨trivial, hs⟩
  · split at h
    · split at h
      · cases h
        exact ⟨trivial, hs⟩
      · split at h
        · cases h
          exact close_distinct hs
        · cases h
    · split at h
      · cases h
        exact ⟨trivial, hs⟩
      · split at h
        · cases h
          exact close_distinct hs
        · cases h
    · cases h

theorem stepAfter_distinct (hs : s.Distinct) (h : stepAfter s c = .ok s') : s'.Distinct := by
  unfold stepAfter at h
  split at h
  · next value hv =>
    split at h
    · cases h
      have hmode := hs.mode
      rw [hv] at hmode
      exact ⟨hmode, hs.stack⟩
    · cases h
  · exact stepNext_distinct hs.stack h

theorem scaled_distinct {negative : Bool} {significand : Nat} {power : Int}
    (h : Numeral.scaled negative significand power = .ok value) : value.Distinct := by
  unfold Numeral.scaled at h
  dsimp only at h
  split at h
  · cases h
    exact .double _
  · cases h

/-- The value of a numeral is an integer or a double. -/
theorem value?_distinct {n : Numeral} (h : n.value? = some (.ok value)) : value.Distinct := by
  unfold Numeral.value? at h
  split at h
  case h_8 =>
    replace h := Option.some.inj h
    split at h
    · cases h
      exact .int _
    · exact scaled_distinct h
  all_goals
    first
    | exact scaled_distinct (Option.some.inj h)
    | cases h; exact .int _
    | cases h

theorem stepNumber_distinct (hs : ∀ frame ∈ stack, frame.Distinct) {n : Numeral}
    (h : stepNumber stack n c = .ok s') : s'.Distinct := by
  unfold stepNumber at h
  split at h
  · cases h
    exact ⟨trivial, hs⟩
  · cases h
  · split at h
    · next value hv => exact stepAfter_distinct (complete_distinct hs (value?_distinct hv)) h
    · cases h
    · cases h

theorem stepString_distinct (hs : ∀ frame ∈ stack, frame.Distinct) {isKey : Bool}
    {content : List Char} {phase : StringPhase}
    (h : stepString stack isKey content phase c = .ok s') : s'.Distinct := by
  have hkeep : ∀ {content : List Char} {phase : StringPhase},
      (⟨.string isKey content phase, stack⟩ : State).Distinct := ⟨trivial, hs⟩
  unfold stepString at h
  dsimp only at h
  cases phase with
  | plain =>
    dsimp only at h
    split at h
    · cases h
      exact completeString_distinct hs isKey _
    · split at h
      · cases h
        exact hkeep
      · split at h
        · cases h
        · cases h
          exact hkeep
  | escape =>
    dsimp only at h
    split at h
    · cases h
      exact hkeep
    · split at h
      · cases h
        exact hkeep
      · cases h
  | hex bytes value lead =>
    dsimp only at h
    split at h
    · cases h
      exact hkeep
    · split at h
      · cases h
      · split at h
        · cases h
        · cases h
          exact hkeep
        · cases h
          exact hkeep
  | pairEscape lead | pairMark lead =>
    dsimp only at h
    split at h
    · cases h
      exact hkeep
    · cases h

/-- A step keeps the keys of all open objects distinct. -/
theorem step_distinct (hs : s.Distinct) (h : step s c = .ok s') : s'.Distinct := by
  have hstack := hs.stack
  unfold step at h
  split at h
  · exact stepValue_distinct hstack h
  · exact stepKey_distinct hstack h
  · split at h
    · cases h
      exact hs
    · split at h
      · cases h
        exact ⟨trivial, hstack⟩
      · cases h
  · exact stepAfter_distinct hs h
  · exact stepAfter_distinct hs h
  · next v hm =>
    have hv := hs.mode
    rw [hm] at hv
    exact stepAfter_distinct (complete_distinct hstack hv) h
  · next d v hm =>
    have hv := hs.mode
    rw [hm] at hv
    split at h
    · cases h
      exact complete_distinct hstack hv
    · cases h
  · next d rest v _ hm =>
    have hv := hs.mode
    rw [hm] at hv
    split at h
    · cases h
      exact ⟨hv, hstack⟩
    · cases h
  · exact stepNumber_distinct hstack h
  · exact stepString_distinct hstack h

theorem finishAfter_distinct (hs : s.Distinct) (h : finishAfter s = .ok value) :
    value.Distinct := by
  unfold finishAfter at h
  split at h
  · next v hm =>
    cases h
    have hv := hs.mode
    rwa [hm] at hv
  · cases h

theorem finish_distinct (hs : s.Distinct) (h : finish s = .ok value) : value.Distinct := by
  unfold finish at h
  split at h
  case h_7 =>
    split at h
    · next v hv =>
      exact finishAfter_distinct (complete_distinct hs.stack (value?_distinct hv)) h
    · cases h
    · cases h
  all_goals
    first
    | exact finishAfter_distinct hs h
    | cases h

end

theorem readFrom_distinct {s : State} (hs : s.Distinct) {p : Position} {text : List Char}
    {value : Json} (h : readFrom s p text = .ok value) : value.Distinct := by
  induction text generalizing s p with
  | nil =>
    rw [readFrom] at h
    cases hf : finish s with
    | error fault =>
      rw [hf] at h
      cases h
    | ok v =>
      rw [hf] at h
      cases h
      exact finish_distinct hs hf
  | cons c rest ih =>
    rw [readFrom] at h
    split at h
    · next s' hstep => exact ih (step_distinct hs hstep) h
    · cases h

/-- A reader never gives two fields of one key. -/
theorem distinct_of_read {text : String} {value : Json} (h : read text = .ok value) :
    value.Distinct := by
  have hstart : State.start.Distinct := ⟨trivial, nofun⟩
  exact readFrom_distinct hstart h

end Json

end SchemaModel

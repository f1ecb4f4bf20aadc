import SchemaModel.Proofs.Source.Lexing

/-!
# Wire names read back from source text

A reader that knows only the text of a file finds out under which name each field and variant is
written to documents: the text in its attribute `rename` if it has one, else its own name without
the mark of raw identifiers. What it finds are the keys of the properties and the values of the
members, for all texts that these may be. It goes line by line through the body of the type, and
carries what the attributes say to the declaration that they belong to.

* `readQuoted_escape`       a text in an attribute reads back, whatever follows its closing quote;
* `readBody_fieldLines`, `readBody_variantLines`   the lines of one field or variant;
* `readItems_of_opening`    a file is read in the body of its type;
* `wire_names_read_back`    the fields of all classes and the variants of all enumerations of a run.
-/

namespace SchemaModel

namespace Source

open Text
open Naming (plain fieldName)

/-! ## reading -/

/-- The text up to the first quote without a backslash, and what follows the quote. A backslash may
stand before a quote or a backslash only. -/
def readQuoted : List Char → Option (List Char × List Char)
  | [] => none
  | '"' :: behind => some ([], behind)
  | '\\' :: c :: rest =>
    if c = '\\' ∨ c = '"' then (readQuoted rest).map fun (s, behind) => (c :: s, behind) else none
  | c :: rest => (readQuoted rest).map fun (s, behind) => (c :: s, behind)

/-- what attributes say about a field or variant, and its name -/
structure Item where
  name : String := ""
  rename : Option String := none
  skipped : Bool := false
  isDefault : Bool := false
  deriving DecidableEq, Repr

/-- the name in documents -/
def Item.wireName (i : Item) : String := i.rename.getD (plain i.name)

/-- the name in documents, if the variant is ever written to one -/
def Item.value (i : Item) : Option String := if i.skipped then none else some i.wireName

/-- what a line says about the item that follows -/
inductive Mark where
  | nothing
  | rename (s : String)
  | skip
  | default

def Mark.on : Mark → Item → Item
  | nothing, i => i
  | rename s, i => { i with rename := some s }
  | skip, i => { i with skipped := true }
  | default, i => { i with isDefault := true }

inductive Entry where
  | mark (m : Mark)
  | item (name : String)

/-- an attribute behind `#[` -/
def readAttribute (s : List Char) : Option Mark :=
  match "serde(rename = \"".toList.isPrefixOf? s with
  | some literal =>
    match readQuoted literal with
    | some (text, [')', ']']) => some (.rename (String.ofList text))
    | _ => none
  | none =>
    if s = "serde(skip)]".toList then some .skip
    else if s = "default]".toList then some .default
    else if s = "serde(default, skip_serializing_if = \"Option::is_none\")]".toList then
      some .nothing
    else none

/-- the part of a text before a character that it holds -/
def upTo (stop : Char) : List Char → Option (List Char)
  | [] => none
  | c :: rest => if c = stop then some [] else (upTo stop rest).map (c :: ·)

/-- one line in the body of a type -/
def readEntry : List Char → Option Entry
  | ' ' :: ' ' :: ' ' :: ' ' :: line =>
    match line with
    | '/' :: '/' :: '/' :: _ => some (.mark .nothing)
    | '#' :: '[' :: attr => (readAttribute attr).map .mark
    | 'p' :: 'u' :: 'b' :: ' ' :: field => (upTo ':' field).map fun n => .item (String.ofList n)
    | variant => (upTo ',' variant).map fun n => .item (String.ofList n)
  | _ => none

/-- The items of a body, up to its closing brace; `marks` is what is known about the next one. -/
def readBody (marks : Item) : List (List Char) → Option (List Item)
  | [] => none
  | line :: rest =>
    if line = ['\x7d'] then some []
    else match readEntry line with
      | none => none
      | some (.mark m) => readBody (m.on marks) rest
      | some (.item name) => (readBody {} rest).map ({ marks with name } :: ·)

/-- the line with which a type opens -/
def opens : List Char → Bool
  | 'p' :: 'u' :: 'b' :: ' ' :: _ => true
  | _ => false

/-- the fields or variants of the type in a file -/
def readItems (text : String) : Option (List Item) :=
  readBody {} ((sourceLines .code [] text.toList).dropWhile fun line => !opens line).tail

/-! ## literals and names -/

/-- A text in an attribute reads back, whatever follows its closing quote. -/
theorem readQuoted_escape (s behind : List Char) :
    readQuoted (escape s ++ '"' :: behind) = some (s, behind) := by
  induction s with
  | nil => simp [escape, readQuoted]
  | cons c rest ih =>
    by_cases h : c = '\\' ∨ c = '"'
    · rw [escape, if_pos h, List.cons_append, List.cons_append, readQuoted, if_pos h, ih]
      rfl
    · rw [not_or] at h
      rw [escape, if_neg (not_or.mpr h), List.cons_append, readQuoted.eq_4 _ _ h.2 (by simp [h.1]),
        ih]
      rfl

theorem upTo_append {stop : Char} {name : List Char} (h : stop ∉ name) (behind : List Char) :
    upTo stop (name ++ stop :: behind) = some name := by
  induction name with
  | nil => rw [List.nil_append, upTo, if_pos rfl]
  | cons c rest ih =>
    rw [List.mem_cons, not_or] at h
    rw [List.cons_append, upTo, if_neg (Ne.symm h.1), ih h.2]
    rfl

theorem isPrefixOf?_append (p s : List Char) : p.isPrefixOf? (p ++ s) = some s := by
  induction p with
  | nil => rfl
  | cons c rest ih => rw [List.cons_append, List.isPrefixOf?, if_pos (beq_self_eq_true c), ih]

/-! ## lines -/

theorem readEntry_commentLine (text : List Char) :
    readEntry (commentLine "    " text).toList = some (.mark .nothing) := by
  unfold commentLine
  split
  · rfl
  · rw [String.toList_append, String.toList_append]
    rfl

theorem readEntry_rename (s : String) :
    readEntry (rename s).toList = some (.mark (.rename s)) := by
  rw [toList_rename]
  show (readAttribute ("serde(rename = \"".toList ++ _)).map Entry.mark = _
  unfold readAttribute
  simp only [isPrefixOf?_append, readQuoted_escape, String.ofList_toList, Option.map_some]

theorem readEntry_field {field : String} (h : ':' ∉ field.toList) (behind : List Char) :
    readEntry ("    pub ".toList ++ (field.toList ++ ':' :: behind)) = some (.item field) := by
  show (upTo ':' (field.toList ++ ':' :: behind)).map _ = _
  rw [upTo_append h, Option.map_some, String.ofList_toList]

theorem readEntry_declaration {p : Property} (h : CapitalParts p.name) (type : String) :
    readEntry (declaration p type).toList = some (.item (fieldName p.name)) := by
  have hcolon : ':' ∉ (fieldName p.name).toList := by
    intro hm
    have hnot : ¬ (isPartChar ':' = true ∨ ':' = '#') := by decide
    exact hnot (Naming.mem_fieldName h hm)
  unfold declaration
  split
  · have hline : ("    pub " ++ fieldName p.name ++ ": " ++ type ++ ",").toList =
        "    pub ".toList ++ ((fieldName p.name).toList ++ ':' :: ' ' :: (type.toList ++ [','])) := by
      simp
    rw [hline, readEntry_field hcolon]
  · have hline : ("    pub " ++ fieldName p.name ++ ": Option<" ++ type ++ ">,").toList =
        "    pub ".toList ++ ((fieldName p.name).toList ++
          ':' :: (" Option<".toList ++ (type.toList ++ ['>', ',']))) := by
      simp
    rw [hline, readEntry_field hcolon]

theorem readEntry_variant {name : String} (h : CapitalParts name) :
    readEntry ("    " ++ name ++ ",").toList = some (.item name) := by
  have hcomma : ',' ∉ name.toList := fun hm =>
    absurd (h.wordParts.isPartChar_of_mem hm) (by decide)
  have hline : ("    " ++ name ++ ",").toList = "    ".toList ++ (name.toList ++ [',']) := by simp
  have hread := upTo_append hcomma []
  have hname : String.ofList name.toList = name := String.ofList_toList
  obtain ⟨c, rest, hc, halpha, hupper, -⟩ := h
  have hfirst : c ≠ '/' ∧ c ≠ '#' ∧ c ≠ 'p' := by
    refine ⟨?_, ?_, ?_⟩ <;>
    · rintro rfl
      exact absurd (hupper (by decide)) (by decide)
  rw [hline, hc]
  rw [hc] at hread hname
  show (match c :: (rest ++ [',']) with
    | '/' :: '/' :: '/' :: _ => some (.mark .nothing)
    | '#' :: '[' :: attr => (readAttribute attr).map .mark
    | 'p' :: 'u' :: 'b' :: ' ' :: field => (upTo ':' field).map fun n => .item (String.ofList n)
    | variant => (upTo ',' variant).map fun n => .item (String.ofList n)) = some (Entry.item name)
  split
  · next heq => exact absurd (List.cons.inj heq).1 hfirst.1
  · next heq => exact absurd (List.cons.inj heq).1 hfirst.2.1
  · next heq => exact absurd (List.cons.inj heq).1 hfirst.2.2
  · rw [← List.cons_append, hread, Option.map_some, hname]

/-! ## bodies -/

section
variable {marks : Item} {line : List Char} {rest : List (List Char)}

theorem readBody_mark {m : Mark} (h : readEntry line = some (.mark m)) :
    readBody marks (line :: rest) = readBody (m.on marks) rest := by
  have hne : line ≠ ['\x7d'] := by
    rintro rfl
    cases h
  rw [readBody, if_neg hne, h]

theorem readBody_item {name : String} (h : readEntry line = some (.item name)) :
    readBody marks (line :: rest) = (readBody {} rest).map ({ marks with name } :: ·) := by
  have hne : line ≠ ['\x7d'] := by
    rintro rfl
    cases h
  rw [readBody, if_neg hne, h]

end

/-- What describes a field says nothing about its name. -/
theorem readBody_comment (marks : Item) (description : Option String)
    (rest : List (List Char)) :
    readBody marks ((comment "    " description).map String.toList ++ rest) =
      readBody marks rest := by
  unfold comment
  cases description with
  | none => rfl
  | some text =>
    dsimp only
    induction Text.lines (trimList text.toList) with
    | nil => rfl
    | cons line lines ih =>
      rw [List.map_cons, List.map_cons, List.cons_append,
        readBody_mark (readEntry_commentLine line)]
      exact ih

/-- the item of a property: it has the attribute if its own name is not the key -/
def fieldItem (p : Property) : Item where
  name := fieldName p.name
  rename := if plain (fieldName p.name) = p.jsonName then none else some p.jsonName

theorem name_fieldItem (p : Property) : (fieldItem p).name = fieldName p.name := by
  dsimp only [fieldItem]

theorem wireName_fieldItem (p : Property) : (fieldItem p).wireName = p.jsonName := by
  unfold fieldItem Item.wireName
  dsimp only
  split
  · assumption
  · rfl

/-- The lines of one field are read as its item. -/
theorem readBody_fieldLines (models : ModelSet) (owner : String) {p : Property}
    (h : CapitalParts p.name) (rest : List (List Char)) :
    readBody {} ((fieldLines models owner p).map String.toList ++ rest) =
      (readBody {} rest).map (fieldItem p :: ·) := by
  have hdeclared := readEntry_declaration h (fieldTypeText models owner p.type)
  have hoptional : readEntry optionalMark.toList = some (.mark .nothing) := by rfl
  -- whether the field may be missing is no part of what is read
  have hend : ∀ marks : Item, readBody marks (((if p.required then [] else [optionalMark]) ++
        [declaration p (fieldTypeText models owner p.type)]).map String.toList ++ rest) =
      (readBody {} rest).map ({ marks with name := fieldName p.name } :: ·) := by
    intro marks
    split
    · exact readBody_item hdeclared
    · exact (readBody_mark hoptional).trans (readBody_item hdeclared)
  rw [fieldLines_eq, List.map_append, List.append_assoc, readBody_comment, fieldItem]
  split
  · exact hend {}
  · exact (readBody_mark (readEntry_rename p.jsonName)).trans (hend _)

/-- a member as its variant is read -/
def variantItem (m : EnumMember) : Item where
  name := m.name
  rename := m.value
  skipped := m.value.isNone

theorem value_variantItem (m : EnumMember) : (variantItem m).value = m.value := by
  cases m with
  | mk name value => cases value <;> rfl

/-- The lines of one variant are read as its item. -/
theorem readBody_variantLines (isDefault : Bool) {m : EnumMember} (h : CapitalParts m.name)
    (rest : List (List Char)) :
    readBody { isDefault } ((variantLines m).map String.toList ++ rest) =
      (readBody {} rest).map ({ variantItem m with isDefault } :: ·) := by
  have hskip : readEntry "    #[serde(skip)]".toList = some (.mark .skip) := by rfl
  unfold variantLines variantItem
  cases hv : m.value with
  | none =>
    rw [List.map_cons, List.map_cons, List.map_nil, List.cons_append, List.singleton_append,
      readBody_mark hskip, readBody_item (readEntry_variant h)]
    rfl
  | some value =>
    rw [List.map_cons, List.map_cons, List.map_nil, List.cons_append, List.singleton_append,
      readBody_mark (readEntry_rename value), readBody_item (readEntry_variant h)]
    rfl

/-- Parts of a body that are read as one item each are read one after the other. -/
theorem readBody_flatMap {lines : α → List String} {item : α → Item} {parts : List α}
    (h : ∀ part ∈ parts, ∀ rest, readBody {} ((lines part).map String.toList ++ rest) =
      (readBody {} rest).map (item part :: ·)) (behind : List (List Char)) :
    readBody {} ((parts.flatMap lines).map String.toList ++ ['\x7d'] :: behind) =
      some (parts.map item) := by
  induction parts with
  | nil => rfl
  | cons part parts ih =>
    rw [List.flatMap_cons, List.map_append, List.append_assoc, h part List.mem_cons_self,
      ih fun p hp => h p (List.mem_cons_of_mem _ hp)]
    rfl

/-- the members as their variants are read -/
def variantItems : List EnumMember → List Item
  | [] => []
  | first :: others => { variantItem first with isDefault := true } :: others.map variantItem

theorem readBody_allVariantLines {members : List EnumMember}
    (h : ∀ m ∈ members, CapitalParts m.name) (behind : List (List Char)) :
    readBody {} ((allVariantLines members).map String.toList ++ ['\x7d'] :: behind) =
      some (variantItems members) := by
  cases members with
  | nil => rfl
  | cons first others =>
    obtain ⟨hfirst, hothers⟩ := List.forall_mem_cons.mp h
    have hdefault : readEntry "    #[default]".toList = some (.mark .default) := by rfl
    have hrest := readBody_flatMap
      (fun m hm rest => readBody_variantLines false (hothers m hm) rest) behind
    rw [allVariantLines, List.map_append, List.map_cons, List.cons_append, List.cons_append,
      readBody_mark hdefault, List.append_assoc]
    show readBody { isDefault := true } _ = _
    rw [readBody_variantLines true hfirst, hrest]
    rfl

/-! ## files -/

/-- A file is read in the body of its type: the lines up to the one that opens it are passed. -/
theorem readItems_of_opening {before body behind : List String} {opening : String}
    (hlines : ∀ line ∈ before ++ opening :: body, IsLine line)
    (hbefore : ∀ line ∈ before, opens line.toList = false) (hopening : opens opening.toList = true) :
    readItems (linesText (before ++ opening :: body ++ behind)) =
      readBody {} (body.map String.toList ++ sourceLines .code [] (linesText behind).toList) := by
  have hcut : sourceLines .code [] (linesText (before ++ opening :: body ++ behind)).toList =
      before.map String.toList ++ (opening.toList :: (body.map String.toList ++
        sourceLines .code [] (linesText behind).toList)) := by
    have htext : linesText (before ++ opening :: body ++ behind) =
        linesText (before ++ opening :: body) ++ linesText behind := by
      unfold linesText
      rw [List.map_append, String.join_append]
    rw [htext, String.toList_append, sourceLines_linesText hlines, List.map_append,
      List.append_assoc]
    rfl
  have hpassed : ∀ line ∈ before.map String.toList, (!opens line) = true := by
    intro line hl
    obtain ⟨text, htext, rfl⟩ := List.mem_map.mp hl
    rw [hbefore text htext]
    rfl
  rw [readItems, hcut, List.dropWhile_append_of_pos hpassed,
    List.dropWhile_cons_of_neg (by simp [hopening]), List.tail_cons]

theorem not_opens_of_mem_modelHead {line : String} (h : line ∈ modelHead) :
    opens line.toList = false := by
  have hall : ∀ l ∈ modelHead, opens l.toList = false := by decide
  exact hall line h

theorem not_opens_of_mem_useLines {names : List String} {line : String}
    (h : line ∈ useLines names) : opens line.toList = false := by
  unfold useLines at h
  split at h
  · cases h
  · rw [List.mem_singleton.mp h, String.toList_append, String.toList_append]
    rfl
  · rw [List.mem_singleton.mp h, String.toList_append, String.toList_append]
    rfl

theorem not_opens_of_mem_comment {description : Option String} {line : String}
    (h : line ∈ comment "" description) : opens line.toList = false := by
  unfold comment at h
  split at h
  · cases h
  · obtain ⟨text, -, rfl⟩ := List.mem_map.mp h
    unfold commentLine
    split
    · rfl
    · rw [String.toList_append, String.toList_append]
      rfl

theorem not_opens_of_mem_classHead {c : ClassModel} {line : String} (h : line ∈ classHead c) :
    opens line.toList = false := by
  simp only [classHead, List.mem_append] at h
  rcases h with (((h | h) | h) | h) | h
  · exact not_opens_of_mem_modelHead h
  · exact not_opens_of_mem_useLines h
  · rw [List.mem_singleton.mp h]
    rfl
  · exact not_opens_of_mem_comment h
  · rw [List.mem_singleton.mp h]
    rfl

theorem not_opens_of_mem_enumHead {e : EnumModel} {line : String} (h : line ∈ enumHead e) :
    opens line.toList = false := by
  simp only [enumHead, List.mem_append] at h
  rcases h with ((h | h) | h) | h
  · exact not_opens_of_mem_modelHead h
  · rw [List.mem_singleton.mp h]
    rfl
  · exact not_opens_of_mem_comment h
  · rw [List.mem_singleton.mp h]
    rfl

theorem opens_opening (keyword name : String) : opens (opening keyword name).toList = true := by
  rw [opening, String.toList_append, String.toList_append, String.toList_append,
    String.toList_append]
  rfl

theorem readItems_class (models : ModelSet) {c : ClassModel} (hn : CapitalParts c.name)
    (hp : ∀ p ∈ c.properties, CapitalParts p.name)
    (ht : ∀ p ∈ c.properties, ∀ name, p.type.named? = some name → Calm name) :
    readItems (linesText (classLines models c)) = some (c.properties.map fieldItem) := by
  rw [classLines_eq, readItems_of_opening (fun line hl => ?_)
    (fun line hl => not_opens_of_mem_classHead hl) (opens_opening "struct" c.name)]
  · rw [List.map_append, List.append_assoc]
    exact readBody_flatMap (fun p hpc rest => readBody_fieldLines models c.name (hp p hpc) rest) _
  · rcases List.mem_append.mp hl with hl | hl
    · exact isLine_of_mem_classHead ht hl
    · rcases List.mem_cons.mp hl with rfl | hl
      · exact isLine_opening (by decide) hn
      · rcases List.mem_append.mp hl with hl | hl
        · obtain ⟨p, hpc, hl⟩ := List.mem_flatMap.mp hl
          exact isLine_of_mem_fieldLines models c.name (hp p hpc) (ht p hpc) hl
        · rw [List.mem_singleton.mp hl]
          exact isLine_of_calm (by decide)

theorem readItems_enum {e : EnumModel} (hn : CapitalParts e.name)
    (hm : ∀ m ∈ e.members, CapitalParts m.name) :
    readItems (linesText (enumLines e)) = some (variantItems e.members) := by
  rw [enumLines_eq, readItems_of_opening (fun line hl => ?_)
    (fun line hl => not_opens_of_mem_enumHead hl) (opens_opening "enum" e.name)]
  · rw [List.map_append, List.append_assoc]
    exact readBody_allVariantLines hm _
  · rcases List.mem_append.mp hl with hl | hl
    · exact isLine_of_mem_enumHead hl
    · rcases List.mem_cons.mp hl with rfl | hl
      · exact isLine_opening (by decide) hn
      · rcases List.mem_append.mp hl with hl | hl
        · exact isLine_of_mem_allVariantLines hm hl
        · rw [List.mem_singleton.mp hl]
          exact isLine_of_calm (by decide)

/-! ## the models of a run -/

theorem map_variantItems {β : Type} {f : Item → β} {g : EnumMember → β}
    (h : ∀ m isDefault, f { variantItem m with isDefault } = g m) (members : List EnumMember) :
    (variantItems members).map f = members.map g := by
  cases members with
  | nil => rfl
  | cons first others =>
    have hothers : (others.map variantItem).map f = others.map g := by
      rw [List.map_map]
      exact List.map_congr_left fun m _ => h m false
    rw [variantItems, List.map_cons, List.map_cons, h first true, hothers]

theorem isDefault_of_variantItems {members : List EnumMember} {i : Nat} {item : Item}
    (h : (variantItems members)[i]? = some item) : item.isDefault = true ↔ i = 0 := by
  cases members with
  | nil => cases h
  | cons first others =>
    cases i with
    | zero =>
      cases h
      exact iff_of_true rfl rfl
    | succ i =>
      rw [variantItems, List.getElem?_cons_succ, List.getElem?_map] at h
      obtain ⟨m, -, rfl⟩ := Option.map_eq_some_iff.mp h
      exact iff_of_false Bool.false_ne_true (Nat.succ_ne_zero i)

/-- A name in the type of a property is that of a model, so it is written in calm characters. -/
theorem calm_of_named {r : Run} {models : ModelSet} (h : r.models = .ok models) {c : ClassModel}
    (hc : c ∈ models.classes) {p : Property} (hp : p ∈ c.properties) {name : String}
    (hn : p.type.named? = some name) : Calm name := by
  have hspelled := fun m (hm : m ∈ models) => Run.spelled_of_models h hm
  obtain ⟨-, done, hw, rfl⟩ := Run.models_ok h
  obtain ⟨id, he⟩ := mem_classes.mp hc
  obtain ⟨target, ht⟩ := (Run.described_of_walk hw _ he).denotes_of_property hp
  obtain ⟨node, hν⟩ := ht.node_of_named hn
  obtain ⟨m, hm, rfl⟩ := Run.entry_of_given (Run.distinct_of_walk hw) hν
  have hmodel := hspelled m (List.mem_map.mpr ⟨_, hm, rfl⟩)
  exact calm_of_wordParts hmodel.isTypeName.capitalParts.wordParts

/-- What a reader finds in the files of a run: the fields of every class with the keys of the
properties, and the variants of every enumeration with the values of the members, of which the
first is the default and those without a value are skipped. No text ends the literal that it stands
in. -/
theorem wire_names_read_back {r : Run} {models : ModelSet} (h : r.models = .ok models) :
    (∀ c ∈ models.classes, ∃ items,
      readItems (linesText (modelLines models (.ofClass c))) = some items ∧
      items.map Item.name = c.fields ∧
      items.map Item.wireName = c.properties.map Property.jsonName) ∧
    (∀ e ∈ models.enums, ∃ items,
      readItems (linesText (modelLines models (.ofEnum e))) = some items ∧
      items.map Item.name = e.variants ∧
      items.map Item.value = e.members.map EnumMember.value ∧
      items.map Item.skipped = e.members.map (fun m => m.value.isNone) ∧
      ∀ i item, items[i]? = some item → (item.isDefault = true ↔ i = 0)) ∧
    ∀ s behind, readQuoted (escape s ++ '"' :: behind) = some (s, behind) := by
  refine ⟨fun c hc => ?_, fun e he => ?_, readQuoted_escape⟩
  · obtain ⟨m, hm, hclass⟩ := List.mem_filterMap.mp hc
    rw [Model.class?_eq_some_iff.mp hclass] at hm
    obtain ⟨hname, hproperties⟩ := capitalParts_of_class (Run.spelled_of_models h hm)
    refine ⟨c.properties.map fieldItem, readItems_class models hname hproperties
      fun p hp name hn => calm_of_named h hc hp hn, ?_, ?_⟩
    · rw [List.map_map, ClassModel.fields]
      refine List.map_congr_left fun p _ => ?_
      rw [Function.comp_apply, name_fieldItem]
    · rw [List.map_map]
      refine List.map_congr_left fun p _ => ?_
      rw [Function.comp_apply, wireName_fieldItem]
  · obtain ⟨m, hm, henum⟩ := List.mem_filterMap.mp he
    rw [Model.enum?_eq_some_iff.mp henum] at hm
    obtain ⟨hname, hmembers⟩ := capitalParts_of_enum (Run.spelled_of_models h hm)
    refine ⟨variantItems e.members, readItems_enum hname hmembers, ?_, ?_, ?_, ?_⟩
    · exact map_variantItems (fun _ _ => rfl) e.members
    · exact map_variantItems (fun m _ => value_variantItem m) e.members
    · exact map_variantItems (fun _ _ => rfl) e.members
    · exact fun i item hitem => isDefault_of_variantItems hitem

/-- a class and an enumeration with marks and line ends in keys and values -/
def wireRun : Run where
  graph := ⟨#[
    { type := some .string, pointer := ["properties", "type"] },
    { type := some .string, pointer := ["properties", "say \"hi\"\\\n"] },
    { reference := some (.fragment "#/definitions/Kind"), pointer := ["properties", "kind"] },
    { values := some ["a\"b", "\n"], pointer := ["definitions", "Kind"] },
    { type := some .object, definitions := [("Kind", 3)],
      properties := [("type", 0), ("say \"hi\"\\\n", 1), ("kind", 2)] }]⟩
  hints := ⟨[("Kind", .enumeration { zeroValue := some "None" })]⟩
  settings := { namespaceName := "N", rootClassName := "Record" }

def wireEnum : EnumModel :=
  ⟨"N", "Kind", none, [⟨"None", none⟩, ⟨"AB", some "a\"b"⟩, ⟨"E", some "\n"⟩]⟩

def wireClass : ClassModel := ⟨"N", "Record", none, [⟨"Type", "type", .string, false, none⟩,
  ⟨"SayHi", "say \"hi\"\\\n", .string, false, none⟩,
  ⟨"Kind", "kind", .enumNamed "Kind", false, none⟩], false⟩

theorem wire_names_of_wireRun : wireRun.models = .ok [.ofEnum wireEnum, .ofClass wireClass] ∧
    (∃ items, readItems (linesText (classLines [.ofEnum wireEnum, .ofClass wireClass] wireClass)) =
        some items ∧ items.map Item.name = ["r#type", "say_hi", "kind"] ∧
      items.map Item.wireName = ["type", "say \"hi\"\\\n", "kind"]) ∧
    ∃ items, readItems (linesText (enumLines wireEnum)) = some items ∧
      items.map Item.value = [none, some "a\"b", some "\n"] := by
  have hmodels : wireRun.models = .ok [.ofEnum wireEnum, .ofClass wireClass] :=
    Run.models_of_within rfl rfl (by with_unfolding_all rfl)
  have hfields : wireClass.fields = ["r#type", "say_hi", "kind"] := by decide
  obtain ⟨hclass, henum, -⟩ := wire_names_read_back hmodels
  obtain ⟨items, hread, hnames, hwire⟩ := hclass wireClass List.mem_cons_self
  obtain ⟨variants, hvariants, -, hvalues, -⟩ := henum wireEnum List.mem_cons_self
  exact ⟨hmodels, ⟨items, hread, hnames.trans hfields, hwire⟩, variants, hvariants, hvalues⟩

end Source

end SchemaModel

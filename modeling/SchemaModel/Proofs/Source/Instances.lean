import SchemaModel.Proofs.Source.DebugText
import SchemaModel.Proofs.Source.Reading

/-!
# Instances of generated classes

The equality that is written for a class compares fields with `==`, one after the other, and its
hash feeds a hasher with fields or with their debug texts. Both are read back from their lines and
carried out on instances: a field holds a value of its type, and an instance of another class is
compared and hashed by the lines of this class.

* `readOverrides`                what the lines of a class compare and hash;
* `readOverrides_overrideLines`  every field is compared, and hashed by its text if its type says so;
* `Value.equal`, `Value.feed?`   the equality of instances, and the data for the hasher;
* `IsOf`                         the values of a type.
-/

namespace SchemaModel

namespace Source

open Text
open Naming (fieldName)

/-! ## what the lines say -/

/-- one statement of a hash -/
inductive HashStep where
  | word (n : Nat)
  /-- the field is hashed by itself -/
  | direct (field : String)
  /-- the debug text of the field is hashed -/
  | text (field : String)
  deriving DecidableEq, Repr

/-- What is written for a class: the fields of the two instances that are compared, and the
statements of its hash. -/
structure Overrides where
  comparisons : List (String × String)
  steps : List HashStep
  deriving DecidableEq, Repr

/-- the two fields that a line compares -/
def comparison? (line : String) : Option (String × String) := do
  let rest ← ("        self.".toList.isPrefixOf? line.toList).or
    ("            && self.".toList.isPrefixOf? line.toList)
  let left ← upTo ' ' rest
  let right ← (left ++ " == other.".toList).isPrefixOf? rest
  return (String.ofList left, String.ofList right)

/-- the statement of a hash on a line -/
def hashStep? (line : String) : Option HashStep :=
  match "        std::hash::Hash::hash(&".toList.isPrefixOf? line.toList with
  | some argument =>
    match "format!(\"\x7b:?\x7d\", self.".toList.isPrefixOf? argument with
    | some rest => (upTo ')' rest).map fun field => .text (String.ofList field)
    | none => do
      let rest ← "self.".toList.isPrefixOf? argument
      let field ← upTo ',' rest
      return .direct (String.ofList field)
  | none => do
    let rest ← "        state.write_u32(".toList.isPrefixOf? line.toList
    let digits ← upTo ')' rest
    let n ← (String.ofList digits).toNat?
    return .word n

def readOverrides (lines : List String) : Overrides where
  comparisons := lines.filterMap comparison?
  steps := lines.filterMap hashStep?

/-- how a property takes part in the hash -/
def stepOf (p : Property) : HashStep :=
  if p.type.hashesByText then .text (fieldName p.name) else .direct (fieldName p.name)

/-- Every field is compared with itself and hashed behind a fixed word, in order. -/
def fieldByField (c : ClassModel) : Overrides where
  comparisons := c.fields.map fun field => (field, field)
  steps := .word 17 :: c.properties.map stepOf

theorem mark_not_mem_fieldName {name : String} (h : CapitalParts name) {mark : Char}
    (hm : isPartChar mark = false) (hne : mark ≠ '#') : mark ∉ (fieldName name).toList := by
  intro hmem
  rcases Naming.mem_fieldName h hmem with hpart | he
  · exact Bool.false_ne_true (hm.symm.trans hpart)
  · exact hne he

theorem comparison?_of_rest {name : String} (h : CapitalParts name) {line : String}
    (hl : ("        self.".toList.isPrefixOf? line.toList).or
      ("            && self.".toList.isPrefixOf? line.toList) =
        some ((fieldName name).toList ++ " == other.".toList ++ (fieldName name).toList)) :
    comparison? line = some (fieldName name, fieldName name) := by
  have hspace : ' ' ∉ (fieldName name).toList := mark_not_mem_fieldName h (by decide) (by decide)
  have hleft : upTo ' ' ((fieldName name).toList ++ " == other.".toList ++
      (fieldName name).toList) = some (fieldName name).toList := by
    rw [List.append_assoc]
    exact upTo_append hspace _
  rw [comparison?, hl, Option.bind_eq_bind, Option.bind_some, hleft, Option.bind_some,
    isPrefixOf?_append]
  simp

/-- The lines of a comparison, one field after the other. -/
theorem filterMap_comparison?_comparisonLines {names : List String}
    (h : ∀ name ∈ names, CapitalParts name) :
    (comparisonLines (names.map fieldName)).filterMap comparison? =
      names.map fun name => (fieldName name, fieldName name) := by
  cases names with
  | nil => rfl
  | cons first rest =>
    obtain ⟨hfirst, hrest⟩ := List.forall_mem_cons.mp h
    have hline : comparison? ("        self." ++ fieldName first ++ " == other." ++
        fieldName first) = some (fieldName first, fieldName first) := by
      refine comparison?_of_rest hfirst ?_
      simp only [String.toList_append, List.append_assoc]
      rw [isPrefixOf?_append, Option.some_or]
    have hlines : ∀ name ∈ rest, comparison? ("            && self." ++ fieldName name ++
        " == other." ++ fieldName name) = some (fieldName name, fieldName name) := by
      intro name hname
      refine comparison?_of_rest (hrest name hname) ?_
      simp only [String.toList_append, List.append_assoc]
      rw [isPrefixOf?_append]
      rfl
    have hbehind : rest.filterMap (comparison? ∘
        (fun field => "            && self." ++ field ++ " == other." ++ field) ∘ fieldName) =
          rest.map fun name => (fieldName name, fieldName name) := by
      rw [← List.filterMap_eq_map]
      exact List.filterMap_congr fun name hname => hlines name hname
    rw [List.map_cons, comparisonLines, List.filterMap_cons_some hline, List.map_map,
      List.filterMap_map, hbehind, List.map_cons]

theorem hashStep?_direct {field : String} (h : ',' ∉ field.toList) :
    hashStep? ("        std::hash::Hash::hash(&self." ++ field ++ ", state);") =
      some (.direct field) := by
  have hline : ("        std::hash::Hash::hash(&self." ++ field ++ ", state);").toList =
      "        std::hash::Hash::hash(&".toList ++
        ("self.".toList ++ (field.toList ++ ',' :: " state);".toList)) := by simp
  have hformat : "format!(\"\x7b:?\x7d\", self.".toList.isPrefixOf?
      ("self.".toList ++ (field.toList ++ ',' :: " state);".toList)) = none := rfl
  rw [hashStep?, hline, isPrefixOf?_append]
  dsimp only
  rw [hformat]
  dsimp only
  rw [isPrefixOf?_append, Option.bind_eq_bind, Option.bind_some, upTo_append h, Option.bind_some,
    String.ofList_toList]
  rfl

theorem hashStep?_text {field : String} (h : ')' ∉ field.toList) :
    hashStep? ("        std::hash::Hash::hash(&format!(\"\x7b:?\x7d\", self." ++ field ++
      "), state);") = some (.text field) := by
  have hline : ("        std::hash::Hash::hash(&format!(\"\x7b:?\x7d\", self." ++ field ++
      "), state);").toList = "        std::hash::Hash::hash(&".toList ++
        ("format!(\"\x7b:?\x7d\", self.".toList ++ (field.toList ++ ')' :: ", state);".toList)) := by
    simp
  rw [hashStep?, hline, isPrefixOf?_append]
  dsimp only
  rw [isPrefixOf?_append]
  dsimp only
  rw [upTo_append h, Option.map_some, String.ofList_toList]

theorem hashStep?_hashLine {p : Property} (h : CapitalParts p.name) :
    hashStep? (hashLine p.contract) = some (stepOf p) := by
  rw [hashLine, Property.contract, stepOf]
  cases p.type.hashesByText with
  | false => exact hashStep?_direct (mark_not_mem_fieldName h (by decide) (by decide))
  | true => exact hashStep?_text (mark_not_mem_fieldName h (by decide) (by decide))

/-! ## lines of the other kind -/

/-- A line that starts in another way than the two lines of a comparison. -/
theorem comparison?_eq_none {front : String}
    (hfirst : ∀ rest, "        self.".toList.isPrefixOf? (front.toList ++ rest) = none)
    (hnext : ∀ rest, "            && self.".toList.isPrefixOf? (front.toList ++ rest) = none)
    (rest : String) : comparison? (front ++ rest) = none := by
  rw [comparison?, String.toList_append, hfirst, hnext]
  rfl

/-- A line that starts in another way than the statements of a hash. -/
theorem hashStep?_eq_none {front : String}
    (hhash : ∀ rest, "        std::hash::Hash::hash(&".toList.isPrefixOf?
      (front.toList ++ rest) = none)
    (hword : ∀ rest, "        state.write_u32(".toList.isPrefixOf? (front.toList ++ rest) = none)
    (rest : String) : hashStep? (front ++ rest) = none := by
  rw [hashStep?, String.toList_append, hhash]
  dsimp only
  rw [hword]
  rfl

theorem comparison?_hashLine (m : MemberContract) : comparison? (hashLine m) = none := by
  cases hm : m.hashing <;>
  · rw [hashLine, hm]
    dsimp only
    rw [String.append_assoc]
    exact comparison?_eq_none (fun _ => rfl) (fun _ => rfl) _

theorem hashStep?_of_mem_comparisonLines {fields : List String} {line : String}
    (h : line ∈ comparisonLines fields) : hashStep? line = none := by
  cases fields with
  | nil =>
    rw [List.mem_singleton.mp h]
    rfl
  | cons first rest =>
    rcases List.mem_cons.mp h with rfl | h
    · rw [String.append_assoc, String.append_assoc]
      exact hashStep?_eq_none (fun _ => rfl) (fun _ => rfl) _
    · obtain ⟨field, -, rfl⟩ := List.mem_map.mp h
      rw [String.append_assoc, String.append_assoc]
      exact hashStep?_eq_none (fun _ => rfl) (fun _ => rfl) _

theorem filterMap_comparison?_equalityLines (k : EqualityContract) :
    (equalityLines k).filterMap comparison? =
      (comparisonLines (k.members.map fun m => fieldName m.propertyName)).filterMap comparison? := by
  have hopen : comparison? ("impl PartialEq for " ++ k.typeName ++ " \x7b") = none := by
    rw [String.append_assoc]
    exact comparison?_eq_none (fun _ => rfl) (fun _ => rfl) _
  have hhead : ∀ other : String,
      comparison? ("    fn eq(&self, " ++ other ++ ": &Self) -> bool \x7b") = none := by
    intro other
    rw [String.append_assoc]
    exact comparison?_eq_none (fun _ => rfl) (fun _ => rfl) _
  rw [equalityLines, List.filterMap_append, List.filterMap_append, List.filterMap_cons_none hopen,
    List.filterMap_cons_none (hhead _)]
  exact List.append_nil _

theorem filterMap_comparison?_hashLines (k : EqualityContract) :
    (hashLines k).filterMap comparison? = [] := by
  have hopen : comparison? ("impl std::hash::Hash for " ++ k.typeName ++ " \x7b") = none := by
    rw [String.append_assoc]
    exact comparison?_eq_none (fun _ => rfl) (fun _ => rfl) _
  have hseed : comparison? ("        state.write_u32(" ++ toString k.seed.toNat ++ ");") =
      none := by
    rw [String.append_assoc]
    exact comparison?_eq_none (fun _ => rfl) (fun _ => rfl) _
  have hmembers : (k.members.map hashLine).filterMap comparison? = [] := by
    rw [List.filterMap_map]
    exact List.filterMap_eq_nil_iff.mpr fun m _ => comparison?_hashLine m
  rw [hashLines, List.filterMap_append, List.filterMap_append, hmembers,
    List.filterMap_cons_none hopen, List.filterMap_cons_none rfl, List.filterMap_cons_none hseed]
  rfl

theorem filterMap_hashStep?_equalityLines (k : EqualityContract) :
    (equalityLines k).filterMap hashStep? = [] := by
  have hopen : hashStep? ("impl PartialEq for " ++ k.typeName ++ " \x7b") = none := by
    rw [String.append_assoc]
    exact hashStep?_eq_none (fun _ => rfl) (fun _ => rfl) _
  have hhead : ∀ other : String,
      hashStep? ("    fn eq(&self, " ++ other ++ ": &Self) -> bool \x7b") = none := by
    intro other
    rw [String.append_assoc]
    exact hashStep?_eq_none (fun _ => rfl) (fun _ => rfl) _
  have hbody : (comparisonLines (k.members.map fun m => fieldName m.propertyName)).filterMap
      hashStep? = [] :=
    List.filterMap_eq_nil_iff.mpr fun line hl => hashStep?_of_mem_comparisonLines hl
  rw [equalityLines, List.filterMap_append, List.filterMap_append, List.filterMap_cons_none hopen,
    List.filterMap_cons_none (hhead _), hbody]
  rfl

theorem filterMap_hashStep?_hashLines {properties : List Property}
    (h : ∀ p ∈ properties, CapitalParts p.name) (typeName : String) :
    (hashLines ⟨typeName, Hash.seed, Hash.multiplier, properties.map Property.contract⟩).filterMap
      hashStep? = .word 17 :: properties.map stepOf := by
  have hopen : hashStep? ("impl std::hash::Hash for " ++ typeName ++ " \x7b") = none := by
    rw [String.append_assoc]
    exact hashStep?_eq_none (fun _ => rfl) (fun _ => rfl) _
  have hmembers : ((properties.map Property.contract).map hashLine).filterMap hashStep? =
      properties.map stepOf := by
    rw [List.map_map, List.filterMap_map, ← List.filterMap_eq_map]
    exact List.filterMap_congr fun p hp => hashStep?_hashLine (h p hp)
  have hseed : hashStep? ("        state.write_u32(" ++ toString Hash.seed.toNat ++ ");") =
      some (.word 17) := by cbv
  rw [hashLines, List.filterMap_append, List.filterMap_append, hmembers,
    List.filterMap_cons_none hopen, List.filterMap_cons_none rfl, List.filterMap_cons_some hseed]
  exact congrArg (_ :: ·) (List.append_nil _)

/-- What the lines of a class compare and hash: every field, in order. -/
theorem readOverrides_overrideLines {c : ClassModel} (ho : c.overrides = true)
    (hp : ∀ p ∈ c.properties, CapitalParts p.name) :
    readOverrides (overrideLines c) = fieldByField c := by
  have hnames : ∀ name ∈ c.properties.map Property.name, CapitalParts name := by
    intro name hm
    obtain ⟨p, hpm, rfl⟩ := List.mem_map.mp hm
    exact hp p hpm
  have hcompared := filterMap_comparison?_comparisonLines hnames
  rw [List.map_map, List.map_map] at hcompared
  rw [overrideLines, ClassModel.contract?, if_pos ho, readOverrides]
  dsimp only
  rw [List.cons_append, List.filterMap_cons_none rfl, List.filterMap_append,
    List.filterMap_cons_none rfl, filterMap_comparison?_equalityLines,
    filterMap_comparison?_hashLines, List.append_nil, List.filterMap_cons_none rfl,
    List.filterMap_append, List.filterMap_cons_none rfl, filterMap_hashStep?_equalityLines,
    filterMap_hashStep?_hashLines hp, List.nil_append, List.map_map, fieldByField,
    ClassModel.fields, List.map_map]
  exact congrArg (Overrides.mk · _) hcompared

end Source

open Source

/-- what is written for the class of a name -/
def ModelSet.overridesOf (models : ModelSet) (name : String) : Overrides :=
  match models.getClass? name with
  | some c => readOverrides (overrideLines c)
  | none => ⟨[], []⟩

/-! ## instances -/

/-- a value that a field may hold, or an element of it -/
inductive Value where
  | bool (b : Bool)
  | int (n : Int64)
  | number (x : Number)
  | text (s : String)
  /-- a point of time by its day, the second of the day and the fraction of the second -/
  | moment (day : Int32) (second fraction : UInt32)
  | any (j : Json)
  /-- a variant of an enumeration by its place -/
  | variant (i : Nat)
  | absent
  | present (v : Value)
  | list (items : List Value)
  | struct (name : String) (fields : List (String × Value))

/-- one piece of data for a hasher -/
inductive Piece where
  | bool (b : Bool)
  | int (n : Int64)
  | word (n : Nat)
  | moment (day : Int32) (second fraction : UInt32)
  /-- which variant follows -/
  | tag (i : Nat)
  /-- how many elements follow -/
  | length (n : Nat)
  | text (s : List Char)
  deriving DecidableEq

/-- two parts one after the other, if both are there -/
def joined (x y : Option (List α)) : Option (List α) := Option.map₂ (· ++ ·) x y

namespace Value

mutual

/-- The debug text of numbers and free values, and of what is made of them. -/
def debug? : Value → Option (List Char)
  | .number x => some x.debug
  | .any j => some j.debug
  | .absent => some "None".toList
  | .present v => v.debug?.map fun body => enclosed "Some(" body ')'
  | .list items => (itemsDebug? items).map fun body => enclosed "[" body ']'
  | _ => none

def itemsDebug? : List Value → Option (List Char)
  | [] => some []
  | item :: rest => joined item.debug? ((itemsDebug? rest).map (separator rest ++ ·))

end

/-- the data for a hasher and the debug text of a field, as far as it has them -/
structure Shown where
  data? : Option (List Piece)
  text? : Option (List Char)

end Value

/-- what a statement feeds, over the fields of an instance -/
def Source.HashStep.feed? (fields : List (String × Value.Shown)) : HashStep → Option (List Piece)
  | .word n => some [.word n]
  | .direct field => (fields.lookup field).bind Value.Shown.data?
  | .text field => ((fields.lookup field).bind Value.Shown.text?).map fun text => [.text text]

def Source.feedSteps? (fields : List (String × Value.Shown)) : List HashStep → Option (List Piece)
  | [] => some []
  | step :: rest => joined (step.feed? fields) (feedSteps? fields rest)

namespace Value

mutual

/-- The data that a value feeds a hasher with. Numbers and free values have none, so nothing that
holds them can be hashed but by its text. -/
def feed? (written : String → Overrides) : Value → Option (List Piece)
  | .bool b => some [.bool b]
  | .int n => some [.int n]
  | .text s => some [.text s.toList]
  | .moment day second fraction => some [.moment day second fraction]
  | .variant i => some [.tag i]
  | .absent => some [.tag 0]
  | .present v => (v.feed? written).map (.tag 1 :: ·)
  | .list items => (itemsFeed? written items).map (.length items.length :: ·)
  | .struct name fields => feedSteps? (fieldsShown written fields) (written name).steps
  | .number _ | .any _ => none

def itemsFeed? (written : String → Overrides) : List Value → Option (List Piece)
  | [] => some []
  | item :: rest => joined (item.feed? written) (itemsFeed? written rest)

def fieldsShown (written : String → Overrides) : List (String × Value) → List (String × Shown)
  | [] => []
  | (field, v) :: rest => (field, ⟨v.feed? written, v.debug?⟩) :: fieldsShown written rest

end

mutual

/-- The equality of values: that of a class is the one that is written for it. -/
def equal (written : String → Overrides) : Value → Value → Bool
  | .bool a, .bool b => a = b
  | .int m, .int n => m = n
  | .number x, .number y => x.equal y
  | .text s, .text t => s = t
  | .moment day second fraction, .moment day' second' fraction' =>
    day = day' && second = second' && fraction = fraction'
  | .any j, .any j' => j.equal j'
  | .variant i, .variant i' => i = i'
  | .absent, .absent => true
  | .present v, .present v' => v.equal written v'
  | .list items, .list items' => itemsEqual written items items'
  | .struct name fields, .struct name' fields' =>
    name = name' && (written name).comparisons.all fun (left, right) =>
      match (fieldsEqual written fields).lookup left, fields'.lookup right with
      | some equals, some v' => equals v'
      | _, _ => false
  | _, _ => false

def itemsEqual (written : String → Overrides) : List Value → List Value → Bool
  | [], [] => true
  | item :: rest, item' :: rest' => item.equal written item' && itemsEqual written rest rest'
  | _, _ => false

/-- for each field, what is equal to it -/
def fieldsEqual (written : String → Overrides) :
    List (String × Value) → List (String × (Value → Bool))
  | [] => []
  | (field, v) :: rest => (field, v.equal written) :: fieldsEqual written rest

end

mutual

/-- Where both have a number or a free value, the signs of zeros agree, and the order of keys. -/
def Alike : Value → Value → Prop
  | .number x, .number y => x.Alike y
  | .any j, .any j' => j.Alike j'
  | .present v, .present v' => v.Alike v'
  | .list items, .list items' => ItemsAlike items items'
  | .struct _ fields, .struct _ fields' => FieldsAlike fields fields'
  | _, _ => True

def ItemsAlike : List Value → List Value → Prop
  | item :: rest, item' :: rest' => item.Alike item' ∧ ItemsAlike rest rest'
  | _, _ => True

def FieldsAlike : List (String × Value) → List (String × Value) → Prop
  | (_, v) :: rest, (_, v') :: rest' => v.Alike v' ∧ FieldsAlike rest rest'
  | _, _ => True

end

end Value

/-! ## the values of a type -/

/-- the type of a field: that of its property, or what may be missing -/
inductive FieldType where
  | always (type : TypeRef)
  | optional (type : TypeRef)

def FieldType.type : FieldType → TypeRef
  | always type => type
  | optional type => type

def Property.fieldType (p : Property) : FieldType :=
  if p.required then .always p.type else .optional p.type

theorem Property.type_fieldType (p : Property) : p.fieldType.type = p.type := by
  unfold fieldType
  split <;> rfl

/-- Values under the names of the fields of a class. The names are distinct, or else the class has no
instances. -/
structure FieldsOf (c : ClassModel) (fields : List (String × Value)) : Prop where
  names : fields.map Prod.fst = c.fields
  nodup : c.fields.Nodup

namespace FieldsOf

variable {c : ClassModel} {fields : List (String × Value)} {p : Property} {v : Value}

theorem nodup_keys (h : FieldsOf c fields) : (fields.map Prod.fst).Nodup := h.names ▸ h.nodup

theorem length (h : FieldsOf c fields) : fields.length = c.properties.length := by
  rw [← List.length_map (f := Prod.fst), h.names, ClassModel.fields, List.length_map]

/-- The value of a property stands under the name of its field. -/
theorem mem (h : FieldsOf c fields) (hm : (p, v) ∈ c.properties.zip (fields.map Prod.snd)) :
    (Naming.fieldName p.name, v) ∈ fields := by
  have hzip : c.fields.zip (fields.map Prod.snd) = fields := by
    rw [← h.names, ← List.unzip_fst, ← List.unzip_snd]
    exact List.zip_unzip fields
  rw [← hzip, ClassModel.fields, List.zip_map_left]
  exact List.mem_map.mpr ⟨(p, v), hm, rfl⟩

end FieldsOf

/-- The values of a type. An instance of a class has for each of its properties a value of its type
of field. -/
inductive IsOf (models : ModelSet) : FieldType → Value → Prop
  | boolean (b : Bool) : IsOf models (.always .boolean) (.bool b)
  | integer (n : Int64) : IsOf models (.always .integer) (.int n)
  | number (x : Number) : IsOf models (.always .number) (.number x)
  | string (s : String) : IsOf models (.always .string) (.text s)
  | dateTime (day : Int32) (second fraction : UInt32) :
    IsOf models (.always .dateTime) (.moment day second fraction)
  | any {j : Json} (h : j.Distinct) : IsOf models (.always .any) (.any j)
  | enumNamed {name e i} (he : models.getEnum? name = some e) (hi : i < e.members.length) :
    IsOf models (.always (.enumNamed name)) (.variant i)
  | classNamed {name c fields} (hc : models.getClass? name = some c)
    (hs : FieldsOf c fields)
    (hf : ∀ p v, (p, v) ∈ c.properties.zip (fields.map Prod.snd) → IsOf models p.fieldType v) :
    IsOf models (.always (.classNamed name)) (.struct name fields)
  | sequence {element items} (h : ∀ v ∈ items, IsOf models (.always element) v) :
    IsOf models (.always (.sequence element)) (.list items)
  | absent (type : TypeRef) : IsOf models (.optional type) .absent
  | present {type v} (h : IsOf models (.always type) v) :
    IsOf models (.optional type) (.present v)

end SchemaModel

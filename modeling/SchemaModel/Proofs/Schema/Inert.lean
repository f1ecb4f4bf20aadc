import Mathlib
import SchemaModel.Proofs.Schema.Issues
import SchemaModel.Synthesis.Models

/-!
# Refused keywords are not read

A document can be cleaned of all keywords that the strict check refuses. What is left passes the
check, and it is read as the document itself is: every keyword that is read is looked up, and a
lookup does not see the others. This holds of documents that are not accepted as well, with the same
error.

* `issues_strip`        nothing that is left is refused;
* `strip_eq_self`       nothing else is taken away;
* `read_strip`          what is left is read as before;
* `refused_are_inert`   so it has the same graph, and the same models.
-/

namespace SchemaModel.Schema

mutual

/-- the schema without the keywords that are refused, in it and in all schemas in it -/
def strip : Json → Json
  | .object fields => .object (stripFields fields)
  | j => j

def stripFields : List (String × Json) → List (String × Json)
  | [] => []
  | (key, .object members) :: rest =>
    if key ∉ supported then stripFields rest
    else if key = "properties" ∨ key = "definitions" then
      (key, .object (stripMembers members)) :: stripFields rest
    else if key = "items" then (key, .object (stripFields members)) :: stripFields rest
    else (key, .object members) :: stripFields rest
  | (key, j) :: rest => if key ∉ supported then stripFields rest else (key, j) :: stripFields rest

def stripMembers : List (String × Json) → List (String × Json)
  | [] => []
  | (name, j) :: rest => (name, strip j) :: stripMembers rest

end

/-- what is left of the value of a supported key -/
def stripValue (key : String) : Json → Json
  | .object members =>
    if key = "properties" ∨ key = "definitions" then .object (stripMembers members)
    else if key = "items" then .object (stripFields members)
    else .object members
  | j => j

theorem stripFields_cons (key : String) (v : Json) (rest : List (String × Json)) :
    stripFields ((key, v) :: rest) =
      if key ∈ supported then (key, stripValue key v) :: stripFields rest
      else stripFields rest := by
  by_cases hs : key ∈ supported
  · cases v with
    | object members =>
      rw [stripFields, if_neg (not_not_intro hs), if_pos hs, stripValue]
      split_ifs <;> rfl
    | _ =>
      rw [stripFields, if_neg (not_not_intro hs), if_pos hs, stripValue]
      all_goals
        intro members he
        cases he
  · cases v with
    | object members => rw [stripFields, if_pos hs, if_neg hs]
    | _ =>
      rw [stripFields, if_pos hs, if_neg hs]
      intro members he
      cases he

/-! ## nothing that is left is refused -/

mutual

theorem issues_strip (p : Pointer) (j : Json) : issues p (strip j) = [] := by
  cases j with
  | object fields => rw [strip, issues, fieldIssues_strip p fields]
  | _ => rfl

theorem fieldIssues_strip (p : Pointer) (fields : List (String × Json)) :
    fieldIssues p (stripFields fields) = [] := by
  match fields with
  | [] => rfl
  | (key, v) :: rest =>
    have hrest := fieldIssues_strip p rest
    rw [stripFields_cons]
    by_cases hs : key ∈ supported
    · rw [if_pos hs, fieldIssues_cons, hrest]
      cases v with
      | object members =>
        have hgroup (q : Pointer) := memberIssues_strip q members
        have hitems (q : Pointer) := fieldIssues_strip q members
        rcases keyword_cases key with rfl | rfl | rfl | ⟨hp, hi, hd⟩
        · simp [under, stripValue, groupIssues, hgroup, hs]
        · simp [under, stripValue, issues, hitems, hs]
        · simp [under, stripValue, groupIssues, hgroup, hs]
        · simp [under, hp, hi, hd, hs]
      | _ => simp [under, stripValue, groupIssues, issues, hs]
    · rw [if_neg hs, hrest]

theorem memberIssues_strip (p : Pointer) (members : List (String × Json)) :
    memberIssues p (stripMembers members) = [] := by
  match members with
  | [] => rfl
  | (name, j) :: rest =>
    rw [stripMembers, memberIssues, issues_strip _ j, memberIssues_strip p rest]
    rfl

end

/-! ## nothing else is taken away -/

mutual

theorem strip_eq_self (p : Pointer) (j : Json) (h : issues p j = []) : strip j = j := by
  cases j with
  | object fields =>
    rw [issues] at h
    rw [strip, stripFields_eq_self p fields h]
  | _ => rfl

theorem stripFields_eq_self (p : Pointer) (fields : List (String × Json))
    (h : fieldIssues p fields = []) : stripFields fields = fields := by
  match fields with
  | [] => rfl
  | (key, v) :: rest =>
    rw [fieldIssues_cons] at h
    simp only [List.append_eq_nil_iff] at h
    obtain ⟨⟨⟨⟨hp, hi⟩, hd⟩, hkey⟩, hrest⟩ := h
    have hs : key ∈ supported := by
      by_contra hn
      rw [if_pos hn] at hkey
      cases hkey
    have hvalue : stripValue key v = v := by
      cases v with
      | object members =>
        rcases keyword_cases key with rfl | rfl | rfl | ⟨hkp, hki, hkd⟩
        · have hgroup : memberIssues (p ++ ["properties"]) members = [] := by
            rwa [under, if_pos rfl] at hp
          simp [stripValue, stripMembers_eq_self _ members hgroup]
        · have hitems : fieldIssues (p ++ ["items"]) members = [] := by
            rwa [under, if_pos rfl] at hi
          simp [stripValue, stripFields_eq_self _ members hitems]
        · have hgroup : memberIssues (p ++ ["definitions"]) members = [] := by
            rwa [under, if_pos rfl] at hd
          simp [stripValue, stripMembers_eq_self _ members hgroup]
        · simp [stripValue, hkp, hki, hkd]
      | _ => rfl
    rw [stripFields_cons, if_pos hs, hvalue, stripFields_eq_self p rest hrest]

theorem stripMembers_eq_self (p : Pointer) (members : List (String × Json))
    (h : memberIssues p members = []) : stripMembers members = members := by
  match members with
  | [] => rfl
  | (name, j) :: rest =>
    rw [memberIssues] at h
    obtain ⟨hj, hrest⟩ := List.append_eq_nil_iff.mp h
    rw [stripMembers, strip_eq_self _ j hj, stripMembers_eq_self p rest hrest]

end

/-! ## what is looked up -/

theorem lookup_stripFields {key : String} (hs : key ∈ supported) (fields : List (String × Json)) :
    (stripFields fields).lookup key = (fields.lookup key).map (stripValue key) := by
  induction fields with
  | nil => rfl
  | cons field rest ih =>
    obtain ⟨k, v⟩ := field
    rw [stripFields_cons, List.lookup_cons]
    by_cases hk : key = k
    · subst hk
      rw [if_pos hs, List.lookup_cons, beq_self_eq_true]
      rfl
    · rw [beq_false_of_ne hk]
      show _ = (rest.lookup key).map (stripValue key)
      split
      · rw [List.lookup_cons, beq_false_of_ne hk]
        exact ih
      · exact ih

theorem stripValue_of_ne {key : String}
    (h : key ≠ "properties" ∧ key ≠ "items" ∧ key ≠ "definitions") (v : Json) :
    stripValue key v = v := by
  obtain ⟨hp, hi, hd⟩ := h
  cases v with
  | object members => simp [stripValue, hp, hi, hd]
  | _ => rfl

/-- a supported key whose value holds no schemas -/
def IsPlain (key : String) : Prop :=
  key ∈ supported ∧ key ≠ "properties" ∧ key ≠ "items" ∧ key ≠ "definitions"

instance (key : String) : Decidable (IsPlain key) := inferInstanceAs (Decidable (_ ∧ _))

theorem lookup_of_plain {key : String} (h : IsPlain key) (fields : List (String × Json)) :
    (stripFields fields).lookup key = fields.lookup key := by
  rw [lookup_stripFields h.1, funext (stripValue_of_ne h.2)]
  exact Option.map_id'

theorem membersAt_stripFields {key : String} (hk : key = "properties" ∨ key = "definitions")
    (fields : List (String × Json)) :
    membersAt key (stripFields fields) = stripMembers (membersAt key fields) := by
  have hs : key ∈ supported := by rcases hk with rfl | rfl <;> decide
  rw [membersAt, membersAt, lookup_stripFields hs]
  cases fields.lookup key with
  | none => rfl
  | some v =>
    cases v with
    | object members => simp [stripValue, hk]
    | _ => rfl

/-! ## reading what is left -/

theorem mismatch?_of_refused {key : String} (hs : key ∉ supported) (v : Json) :
    mismatch? (key, v) = none := by
  unfold mismatch?
  split
  case h_10 => rfl
  all_goals
    next hkey =>
    cases hkey
    exact absurd (by decide) hs

theorem mismatch?_stripValue (key : String) (v : Json) :
    mismatch? (key, stripValue key v) = mismatch? (key, v) := by
  rcases keyword_cases key with rfl | rfl | rfl | hn
  · cases v <;> rfl
  · rfl
  · cases v <;> rfl
  · rw [stripValue_of_ne hn]

theorem checkTypes_strip (p : Pointer) (fields : List (String × Json)) :
    checkTypes p (stripFields fields) = checkTypes p fields := by
  have hfirst : (stripFields fields).findSome? mismatch? = fields.findSome? mismatch? := by
    induction fields with
    | nil => rfl
    | cons field rest ih =>
      obtain ⟨key, v⟩ := field
      rw [stripFields_cons, List.findSome?_cons]
      split
      · rw [List.findSome?_cons, mismatch?_stripValue, ih]
      · next hs => rw [mismatch?_of_refused hs, ih]
  rw [checkTypes, checkTypes, hfirst]

section
variable (fields : List (String × Json))

theorem textAt?_strip {key : String} (h : IsPlain key) :
    Json.textAt? key (stripFields fields) = Json.textAt? key fields := by
  rw [Json.textAt?, Json.textAt?, lookup_of_plain h]

theorem textsAt?_strip {key : String} (h : IsPlain key) :
    Json.textsAt? key (stripFields fields) = Json.textsAt? key fields := by
  rw [Json.textsAt?, Json.textsAt?, lookup_of_plain h]

theorem readReference_strip : readReference (stripFields fields) = readReference fields := by
  rw [readReference, readReference, textAt?_strip fields (by decide)]

theorem readType_strip (p : Pointer) : readType p (stripFields fields) = readType p fields := by
  rw [readType, readType, textAt?_strip fields (by decide)]

theorem readValues_strip (p : Pointer) :
    readValues p (stripFields fields) = readValues p fields := by
  rw [readValues, readValues, lookup_of_plain (by decide)]

theorem content_strip (reference : Option Reference) (type : Option ValueType)
    (values : Option (List String)) :
    content (stripFields fields) reference type values = content fields reference type values := by
  rw [content, content, textAt?_strip fields (by decide), textAt?_strip fields (by decide),
    textAt?_strip fields (by decide), textsAt?_strip fields (by decide)]

end

theorem stripValue_items (v : Json) : stripValue "items" v = strip v := by
  cases v <;> rfl

theorem itemsAt?_stripFields (fields : List (String × Json)) :
    itemsAt? (stripFields fields) = (itemsAt? fields).map strip := by
  rw [itemsAt?, itemsAt?, lookup_stripFields (by decide)]
  cases fields.lookup "items" with
  | none => rfl
  | some v => cases v <;> rfl

mutual

/-- What is left of a schema is read as the schema is. -/
theorem read_strip (p : Pointer) (j : Json) : Tree.read p (strip j) = Tree.read p j := by
  cases j with
  | object fields =>
    have hgroup : ∀ key, (key = "properties" ∨ key = "definitions") →
        readGroup key p (stripFields fields) = readGroup key p fields := by
      intro key hk
      rw [readGroup_eq, readGroup_eq, membersAt_stripFields hk, membersAt]
      split
      · next members hm => exact (lookup_strip fields hm).2 members rfl _
      · rfl
    have hitems : readItems p (stripFields fields) = readItems p fields := by
      rw [readItems_eq, readItems_eq, itemsAt?_stripFields]
      cases hi : itemsAt? fields with
      | none => rfl
      | some v =>
        have hv := (lookup_strip fields (itemsAt?_eq_some_iff.mp hi).1).1 (p ++ ["items"])
        cases v with
        | object members => exact congrArg (some <$> ·) hv
        | _ => rfl
    rw [strip, Tree.read, Tree.read, checkTypes_strip, readReference_strip, readType_strip,
      readValues_strip, hgroup "properties" (.inl rfl), hgroup "definitions" (.inr rfl), hitems]
    simp only [content_strip]
  | _ => rfl

theorem readMembers_strip (p : Pointer) (members : List (String × Json)) :
    readMembers p (stripMembers members) = readMembers p members := by
  match members with
  | [] => rfl
  | (name, j) :: rest =>
    rw [stripMembers, readMembers, readMembers, read_strip _ j, readMembers_strip p rest]

/-- The same for a value in an object, as a schema and as schemas by name. -/
theorem lookup_strip (fields : List (String × Json)) {key : String} {v : Json}
    (h : fields.lookup key = some v) :
    (∀ p, Tree.read p (strip v) = Tree.read p v) ∧
      ∀ members, v = .object members →
        ∀ p, readMembers p (stripMembers members) = readMembers p members := by
  match fields with
  | [] => cases h
  | (k, w) :: rest =>
    rw [List.lookup_cons] at h
    split at h
    · cases h
      refine ⟨fun p => read_strip p v, ?_⟩
      rintro members rfl p
      exact readMembers_strip p members
    · exact lookup_strip rest h

end

/-! ## the objects that are left -/

theorem keys_stripFields (fields : List (String × Json)) :
    (stripFields fields).map Prod.fst = (fields.map Prod.fst).filter (· ∈ supported) := by
  induction fields with
  | nil => rfl
  | cons field rest ih =>
    obtain ⟨key, v⟩ := field
    rw [stripFields_cons]
    by_cases hs : key ∈ supported <;> simp [hs, ih]

theorem lookup_stripMembers (name : String) (members : List (String × Json)) :
    (stripMembers members).lookup name = (members.lookup name).map strip := by
  induction members with
  | nil => rfl
  | cons member rest ih =>
    obtain ⟨k, j⟩ := member
    rw [stripMembers, List.lookup_cons, List.lookup_cons]
    split
    · rfl
    · exact ih

/-- Every schema stays in its place. -/
theorem at?_strip {document : Json} {p : Pointer} (hpos : IsPosition document p) :
    ∀ j, document.at? p = some j → (strip document).at? p = some (strip j) := by
  induction hpos with
  | root =>
    intro j hj
    cases hj
    rfl
  | @member p fields key members name _ _ hp hk hm _ ih =>
    intro j hj
    have hs : key ∈ supported := by rcases hk with rfl | rfl <;> decide
    rw [Json.at?_append, hp, Option.bind_some, Json.at?, hm, Option.bind_some, Json.at?] at hj
    have hvalue : stripValue key (.object members) = .object (stripMembers members) := if_pos hk
    rw [Json.at?_append, ih _ hp, Option.bind_some, strip, Json.at?, lookup_stripFields hs, hm,
      Option.map_some, Option.bind_some, hvalue, Json.at?, lookup_stripMembers]
    -- behind the name of a schema nothing is left of the way
    obtain ⟨v, hv, hj⟩ := Option.bind_eq_some_iff.mp hj
    cases hj
    rw [hv]
    rfl
  | @items p fields v _ hp hl _ ih =>
    intro j hj
    rw [Json.at?_append, hp, Option.bind_some, Json.at?, hl, Option.bind_some, Json.at?] at hj
    cases hj
    rw [Json.at?_append, ih _ hp, Option.bind_some, strip, Json.at?,
      lookup_stripFields (by decide), hl, Option.map_some, Option.bind_some, Json.at?,
      stripValue_items]

/-! ## one graph and one set of models -/

/-- A document without its refused keywords passes the strict check, and it is read as the document
itself is: as the same tree, which the graph and its index are made of, or with the same error. What
is left are the same objects at the same places, with the keys that are supported. So a run that
refuses no keyword has the same models of both. -/
theorem refused_are_inert (document : Json) :
    checkSupported (strip document) = .ok () ∧
    Tree.read [] (strip document) = Tree.read [] document ∧
    Graph.ofJson (strip document) = Graph.ofJson document ∧
    (∀ p fields, IsPosition document p → document.at? p = some (.object fields) →
      ∃ left, (strip document).at? p = some (.object left) ∧
        left.map Prod.fst = (fields.map Prod.fst).filter (· ∈ supported)) ∧
    (checkSupported document = .ok () → strip document = document) ∧
    (∀ hints settings,
      (do Run.models ⟨← Graph.ofJson (strip document), hints, settings⟩) =
        (do Run.models ⟨← Graph.ofJson document, hints, settings⟩)) ∧
    ∀ text text', Graph.parse text = .ok document → Graph.parse text' = .ok (strip document) →
      ∀ hints settings, settings.denyUnsupported = false →
        ModelSet.ofText settings hints text' = ModelSet.ofText settings hints text := by
  have hread := read_strip [] document
  have hgraph : Graph.ofJson (strip document) = Graph.ofJson document := by
    rw [Graph.ofJson, Graph.ofJson, hread]
  refine ⟨?_, hread, hgraph, fun p fields hpos hat => ?_, fun h => ?_, fun hints settings => ?_, ?_⟩
  · exact checkSupported_eq_ok_iff.mpr (issues_strip [] document)
  · refine ⟨stripFields fields, ?_, keys_stripFields fields⟩
    rw [at?_strip hpos _ hat, strip]
  · exact strip_eq_self [] document (checkSupported_eq_ok_iff.mp h)
  · rw [hgraph]
  · intro text text' ht ht' hints settings hlenient
    have hmodels : ∀ {s d}, Graph.parse s = .ok d → ModelSet.ofText settings hints s =
        (do settings.check
            let hints ← Hints.read? hints
            Run.models ⟨← Graph.ofJson d, hints, settings⟩) := by
      intro s d hs
      unfold ModelSet.ofText
      rw [hs, hlenient]
      rfl
    rw [hmodels ht, hmodels ht', hgraph]

def negatedText : String :=
  "\x7b\"type\":\"object\",\"properties\":\x7b\"not\":\x7b\"not\":\x7b\x7d\x7d\x7d\x7d"

def plainText : String := "\x7b\"type\":\"object\",\"properties\":\x7b\"not\":\x7b\x7d\x7d\x7d"

/-- A property with the name of a refused keyword, which holds that keyword: only the keyword is
taken away, and the models stay the same. -/
theorem refused_of_negated :
    (∃ document, Graph.parse negatedText = .ok document ∧
      checkSupported document =
        .error (.refusedKeywords [⟨"/properties/not", "not", .unsupported⟩]) ∧
      Graph.parse plainText = .ok (strip document)) ∧
    ∀ hints settings, settings.denyUnsupported = false →
      ModelSet.ofText settings hints plainText = ModelSet.ofText settings hints negatedText := by
  obtain ⟨-, -, -, -, -, -, hmodels⟩ := refused_are_inert (.object [("type", .string "object"),
    ("properties", .object [("not", .object [("not", .object [])])])])
  have hnegated : Graph.parse negatedText = .ok (.object [("type", .string "object"),
      ("properties", .object [("not", .object [("not", .object [])])])]) := by cbv
  have hplain : Graph.parse plainText = .ok (strip (.object [("type", .string "object"),
      ("properties", .object [("not", .object [("not", .object [])])])])) := by cbv
  exact ⟨⟨_, hnegated, by cbv, hplain⟩, hmodels negatedText plainText hnegated hplain⟩

end SchemaModel.Schema

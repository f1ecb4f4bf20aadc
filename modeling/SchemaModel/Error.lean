import SchemaModel.Hint.Fault
import SchemaModel.Json.SyntaxError
import SchemaModel.Schema.Fault
import SchemaModel.Settings
import SchemaModel.Url.Fault

/-!
# Errors of a run

Every way in which a run fails, with what its message needs to know. A run that fails gives no
models and no files.
-/

namespace SchemaModel

/-- why a reference leads to no schema -/
inductive Unresolved where
  /-- a URI, even one of this document -/
  | notLocal
  /-- an anchor, or a pointer with a malformed escape -/
  | notPointer
  /-- a pointer to something else than a definition -/
  | notDefinition
  | noSuchDefinition
  /-- The references lead back to one already followed. -/
  | loop
  deriving DecidableEq, Repr

def Unresolved.message : Unresolved → String
  | notLocal => "only document-local fragment references are supported"
  | notPointer => "not a JSON Pointer fragment"
  | notDefinition => "only \"#\" and \"#/definitions/<name>\" pointers are supported"
  | noSuchDefinition => "no such definition"
  | loop => "reference chain loops without reaching a schema"

inductive Error where
  | malformedReference (text : String) (fault : Url.Fault)
  | unresolvedReference (text : String) (reason : Unresolved)
  | malformedHints (key : String) (fault : Hint.Fault)
  /-- an enumeration without a name, at a property or a place in the schema -/
  | namelessEnum (key : String)
  /-- The hint of an enumeration has another number of members than the schema. -/
  | memberCount (typeName : String) (hinted declared : Nat)
  | incompleteSettings (missing : List RequiredSetting)
  | invalidSchema (pointer : String) (fault : Schema.Fault)
  /-- Two schemas would give types of one name. -/
  | typeNameConflict (typeName first second : String)
  | rootNotObject
  | refusedKeywords (issues : List Schema.Issue)
  | outputExists (paths : List String)
  /-- The file system refused an operation. -/
  | fileSystem
  | malformedSchema (e : Json.SyntaxError)
  deriving Repr

def Error.message : Error → String
  | malformedReference text fault =>
    "invalid URI or fragment '" ++ text ++ "': " ++ fault.message
  | unresolvedReference text reason =>
    "unresolved reference '" ++ text ++ "': " ++ reason.message
  | malformedHints key fault =>
    "invalid hint document at '" ++ key ++ "': " ++ fault.message
  | namelessEnum key =>
    "cannot name the enumeration at '" ++ key ++
      "': it is not a definition and no EnumHint supplies \"typeName\""
  | memberCount typeName hinted declared =>
    "EnumHint for '" ++ typeName ++ "' lists " ++ toString hinted ++
      " member names but the schema enum has " ++ toString declared ++ " values"
  | incompleteSettings missing =>
    "invalid settings: missing " ++ ", ".intercalate (missing.map RequiredSetting.text)
  | invalidSchema pointer fault =>
    "invalid schema at '" ++ pointer ++ "': " ++ fault.message
  | typeNameConflict typeName first second =>
    "type name '" ++ typeName ++ "' is synthesized from both '" ++ first ++ "' and '" ++
      second ++ "'"
  | rootNotObject => "root schema must have type \"object\""
  | refusedKeywords issues =>
    "schema uses unsupported keywords: " ++ "; ".intercalate (issues.map Schema.Issue.message)
  | outputExists paths =>
    "output files already exist (use force overwrite to replace): " ++ ", ".intercalate paths
  | fileSystem => "Io"
  | malformedSchema e => e.message

/-- Settings are complete, or the run stops. -/
def Settings.check (s : Settings) : Except Error Unit :=
  match s.missing with
  | [] => .ok ()
  | missing => .error (.incompleteSettings missing)

theorem Settings.check_eq_ok_iff {s : Settings} :
    s.check = .ok () ↔ ∀ r, s.lacks r = false := by
  have : s.check = .ok () ↔ s.missing = [] := by
    unfold check
    split <;> simp_all
  rw [this, List.eq_nil_iff_forall_not_mem]
  simp [mem_missing]

/-- Settings are refused with what they lack. -/
theorem Settings.check_error {s : Settings} {e : Error} (h : s.check = .error e) :
    e = .incompleteSettings s.missing := by
  unfold check at h
  split at h <;> cases h
  rfl

/-- a computation with a result goes through both of its parts -/
theorem bind_ok {x : Except ε α} {f : α → Except ε β} {b : β} (h : x >>= f = .ok b) :
    ∃ a, x = .ok a ∧ f a = .ok b := by
  cases x with
  | error e => cases h
  | ok a => exact ⟨a, rfl, h⟩

/-- A computation fails in its first part, or behind it. -/
theorem bind_error {x : Except ε α} {f : α → Except ε β} {e : ε} (h : x >>= f = .error e) :
    x = .error e ∨ ∃ a, x = .ok a ∧ f a = .error e := by
  cases x with
  | error e' =>
    cases h
    exact .inl rfl
  | ok a => exact .inr ⟨a, rfl, h⟩

theorem map_eq_ok_iff {f : α → β} {x : Except ε α} {b : β} :
    f <$> x = .ok b ↔ ∃ a, x = .ok a ∧ f a = b := by
  cases x <;> simp [Functor.map, Except.map]

theorem map_eq_error_iff {f : α → β} {x : Except ε α} {e : ε} :
    f <$> x = .error e ↔ x = .error e := by
  cases x <;> simp [Functor.map, Except.map]

end SchemaModel

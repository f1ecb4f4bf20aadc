import SchemaModel.Text.Blank

/-!
# Settings of a run

The namespace and the name of the root class must be given, and an output directory must not be
empty. All missing settings are reported together.
-/

namespace SchemaModel

structure Settings where
  outputDirectory : String := "Generated"
  /-- files that exist may be replaced -/
  forceOverwrite : Bool := false
  /-- recorded on every model -/
  namespaceName : String := ""
  /-- name of the class of the root schema -/
  rootClassName : String := ""
  /-- classes get an equality and a hash -/
  overrides : Bool := false
  /-- keywords outside the supported ones are an error -/
  denyUnsupported : Bool := false
  deriving DecidableEq, Repr

/-- a setting without which there is no run -/
inductive RequiredSetting where
  | namespaceName
  | rootClassName
  | outputDirectory
  deriving DecidableEq, Repr

def RequiredSetting.text : RequiredSetting → String
  | namespaceName => "namespace_name"
  | rootClassName => "root_class_name"
  | outputDirectory => "output_directory"

namespace Settings

/-- a required setting has no value -/
def lacks (s : Settings) : RequiredSetting → Bool
  | .namespaceName => Text.allBlank s.namespaceName
  | .rootClassName => Text.allBlank s.rootClassName
  | .outputDirectory => s.outputDirectory = ""

/-- the required settings without a value -/
def missing (s : Settings) : List RequiredSetting :=
  [.namespaceName, .rootClassName, .outputDirectory].filter s.lacks

theorem mem_missing {s : Settings} {r : RequiredSetting} : r ∈ s.missing ↔ s.lacks r = true := by
  cases r <;> simp [missing]

end Settings

end SchemaModel

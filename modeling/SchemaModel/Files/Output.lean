import SchemaModel.Files.FileSystem
import SchemaModel.Source.File
import SchemaModel.Synthesis.Models

/-!
# Writing source files

Files are written into a directory, which is made if it is missing. Without the permission to
replace files nothing is written when one of them exists.
-/

namespace SchemaModel.Output

/-- the path of a file in a directory -/
def join (directory name : String) : String :=
  if name.toList.head? = some '/' ∨ directory = "" then name
  else if directory.toList.getLast? = some '/' then directory ++ name
  else directory ++ "/" ++ name

/-- Writes files into a directory and gives their paths. -/
def write (fs : FileSystem) (directory : String) (force : Bool) (files : List Source.File) :
    FileSystem × Except Error (List String) :=
  let paths := files.map fun f => join directory f.name
  let existing := paths.filter fs.contains
  if existing ≠ [] ∧ !force then (fs, .error (.outputExists existing))
  else
    match fs.createAll directory with
    | (fs, .error _) => (fs, .error .fileSystem)
    | (fs, .ok ()) =>
      match fs.writeAll (paths.zip (files.map (·.text))) with
      | (fs, .error _) => (fs, .error .fileSystem)
      | (fs, .ok ()) => (fs, .ok paths)

/-- the files for the schema in a text -/
def files (settings : Settings) (hints : Option String) (schema : String) :
    Except Error (List Source.File) := do
  return Source.files (← ModelSet.ofText settings hints schema) settings.namespaceName

/-- Writes the files for the schema in a text into the directory of the settings. -/
def generate (fs : FileSystem) (settings : Settings) (hints : Option String) (schema : String) :
    FileSystem × Except Error (List String) :=
  match files settings hints schema with
  | .error e => (fs, .error e)
  | .ok written => write fs settings.outputDirectory settings.forceOverwrite written

end SchemaModel.Output

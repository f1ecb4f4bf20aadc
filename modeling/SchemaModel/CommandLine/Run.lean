import SchemaModel.CommandLine.Arguments
import SchemaModel.Files.Output

/-!
# Runs of the command line

A run reads the schema and then the hints, and prints the files or writes them. It ends with a
number, 0 when all went well, 1 after an error and 2 when the arguments are no command.
-/

namespace SchemaModel.CommandLine

def programName : String := "jsonschemadm"

def versionText : String := programName ++ " 0.1.0\n"

def usageText : String :=
  "Usage: " ++ programName ++ " --namespace <NAMESPACE> --root-class <ROOT_CLASS>\n" ++
  "  [--schema <FILE>] [--hints <FILE>] [--output-directory <DIRECTORY>]\n" ++
  "  [--force] [--generate-overrides] [--deny-unsupported] [--stdout]\n"

/-- how a run ends -/
structure Outcome where
  exit : UInt32 := 0
  stdout : String := ""
  stderr : String := ""
  deriving DecidableEq, Repr

def Outcome.ofStop : Stop → Outcome
  | .usage => { exit := 2, stderr := usageText }
  | .version => { stdout := versionText }
  | .help => { stdout := usageText }

/-- The end of a run that wrote files, or printed them when there is a stream. -/
def Outcome.ofResult : Except Error (Option String × List String) → Outcome
  | .ok (stream, paths) => {
      stdout := stream.getD ""
      stderr := String.join (paths.map fun path => "wrote " ++ path ++ "\n") }
  | .error e => { exit := 1, stderr := "Error: " ++ e.message ++ "\n" }

/-- the text of a file that a command names -/
def readNamed (fs : FileSystem) (path : String) : Except Error String :=
  (fs.readFile path).mapError fun _ => .fileSystem

/-- the texts of the schema and of the hints -/
def Command.inputs (c : Command) (stdin : String) (fs : FileSystem) :
    Except Error (String × Option String) := do
  let schema ← match c.schema with
    | some path => readNamed fs path
    | none => .ok stdin
  let hints ← match c.hints with
    | some path => some <$> readNamed fs path
    | none => .ok none
  return (schema, hints)

def Command.run (c : Command) (stdin : String) (fs : FileSystem) :
    FileSystem × Except Error (Option String × List String) :=
  match c.inputs stdin fs with
  | .error e => (fs, .error e)
  | .ok (schema, hints) =>
    if c.toStdout then
      (fs, (Output.files c.settings hints schema).map fun fs => (some (Source.stream fs), []))
    else
      let (fs, written) := Output.generate fs c.settings hints schema
      (fs, written.map fun paths => (none, paths))

/-- a run with given arguments and a given standard input -/
def run (args : List String) (stdin : String) (fs : FileSystem) : FileSystem × Outcome :=
  match Command.read args with
  | .error stop => (fs, .ofStop stop)
  | .ok c =>
    let (fs, result) := c.run stdin fs
    (fs, .ofResult result)

end SchemaModel.CommandLine

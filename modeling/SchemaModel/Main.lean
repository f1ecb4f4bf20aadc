import SchemaModel.CommandLine.Run

/-!
# The program

The outer layer of the command line: it reads and writes real files.
-/

open SchemaModel CommandLine

/-- The text of a result, or the end of the run. -/
def orStop (result : Except Error α) : ExceptT Error IO α := ExceptT.mk (pure result)

/-- An operation on files that may be refused. -/
def onFiles (operation : IO α) : ExceptT Error IO α :=
  ExceptT.mk do
    try return .ok (← operation)
    catch _ => return .error .fileSystem

/-- Something is at a path. -/
def isThere (path : String) : IO Bool := do
  try
    discard <| IO.FS.Handle.mk path .read
    return true
  catch _ => return false

/-- Writes files into a directory and gives their paths. -/
def writeFiles (settings : Settings) (files : List Source.File) :
    ExceptT Error IO (List String) := do
  let paths := files.map fun f => Output.join settings.outputDirectory f.name
  let existing ← onFiles (paths.filterM isThere)
  if existing ≠ [] ∧ !settings.forceOverwrite then throw (.outputExists existing)
  onFiles (IO.FS.createDirAll settings.outputDirectory)
  for (path, file) in paths.zip files do
    onFiles (IO.FS.writeFile path file.text)
  return paths

def runCommand (c : Command) : ExceptT Error IO (Option String × List String) := do
  let schema ← match c.schema with
    | some path => onFiles (IO.FS.readFile path)
    | none => onFiles do (← IO.getStdin).readToEnd
  let hints ← match c.hints with
    | some path => some <$> onFiles (IO.FS.readFile path)
    | none => pure none
  let files ← orStop (Output.files c.settings hints schema)
  if c.toStdout then return (some (Source.stream files), [])
  else return (none, ← writeFiles c.settings files)

def main (args : List String) : IO UInt32 := do
  let outcome ← match Command.read args with
    | .error stop => pure (Outcome.ofStop stop)
    | .ok c => do
      let result ← (runCommand c).run
      pure (Outcome.ofResult result)
  (← IO.getStdout).putStr outcome.stdout
  (← IO.getStderr).putStr outcome.stderr
  return outcome.exit

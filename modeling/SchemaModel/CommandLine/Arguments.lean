import SchemaModel.Settings

/-!
# Arguments of the command line

A parameter has a value, behind a `=` or in the next argument; a switch has none. Every one of them
may be given once. Arguments are read from left to right, so an error in front of `--version` wins
over it.
-/

namespace SchemaModel.CommandLine

inductive Parameter where
  | schema
  | hints
  | namespaceName
  | rootClass
  | outputDirectory
  deriving DecidableEq, Repr

def Parameter.ofName? : String → Option Parameter
  | "--schema" => some schema
  | "--hints" => some hints
  | "--namespace" => some namespaceName
  | "--root-class" => some rootClass
  | "--output-directory" => some outputDirectory
  | _ => none

/-- The value is a path, and so not empty. -/
def Parameter.isPath : Parameter → Bool
  | schema | hints | outputDirectory => true
  | namespaceName | rootClass => false

inductive Switch where
  | force
  | overrides
  | denyUnsupported
  | stdout
  deriving DecidableEq, Repr

def Switch.ofName? : String → Option Switch
  | "--force" => some force
  | "--generate-overrides" => some overrides
  | "--deny-unsupported" => some denyUnsupported
  | "--stdout" => some stdout
  | _ => none

/-- what is given on a command line -/
structure Arguments where
  values : List (Parameter × String) := []
  switches : List Switch := []
  deriving DecidableEq, Repr

/-- a command line that asks for no run -/
inductive Stop where
  /-- The arguments are no command. -/
  | usage
  | version
  | help
  deriving DecidableEq, Repr

namespace Arguments

def assign (a : Arguments) (p : Parameter) (value : String) : Except Stop Arguments :=
  if (a.values.lookup p).isSome ∨ (p.isPath ∧ value = "") then .error .usage
  else .ok { a with values := a.values ++ [(p, value)] }

def turnOn (a : Arguments) (s : Switch) : Except Stop Arguments :=
  if s ∈ a.switches then .error .usage else .ok { a with switches := a.switches ++ [s] }

end Arguments

/-! ## single arguments -/

/-- what one argument stands for -/
inductive Token where
  | parameter (p : Parameter)
  | assigned (p : Parameter) (value : String)
  | switch (s : Switch)
  | version
  | help
  /-- No parameter and no switch follows. -/
  | endOfOptions
  | other
  deriving DecidableEq, Repr

/-- an argument that starts with two hyphens -/
def Token.ofLong (arg : String) : Token :=
  let name := String.ofList (arg.toList.takeWhile (· ≠ '='))
  match arg.toList.dropWhile (· ≠ '=') with
  | [] =>
    if arg = "--version" then .version
    else if arg = "--help" then .help
    else match Parameter.ofName? arg, Switch.ofName? arg with
      | some p, _ => .parameter p
      | none, some s => .switch s
      | none, none => .other
  | _ :: value =>
    match Parameter.ofName? name with
    | some p => .assigned p (String.ofList value)
    | none => .other

def Token.ofText (arg : String) : Token :=
  match arg.toList with
  | ['-', '-'] => .endOfOptions
  | '-' :: '-' :: _ => .ofLong arg
  | '-' :: 'V' :: _ => .version
  | '-' :: 'h' :: _ => .help
  | _ => .other

/-- An argument can be the value of the parameter before it. A single hyphen can. -/
def isValue (arg : String) : Bool := arg = "-" || arg.toList.head? ≠ some '-'

/-! ## whole command lines -/

/-- what a list of arguments adds to those before -/
def Arguments.readFrom (a : Arguments) : List String → Except Stop Arguments
  | [] => .ok a
  | arg :: rest =>
    match Token.ofText arg, rest with
    | .endOfOptions, [] => .ok a
    | .endOfOptions, _ :: _ => .error .usage
    | .switch s, rest => do (← a.turnOn s).readFrom rest
    | .assigned p value, rest => do (← a.assign p value).readFrom rest
    | .parameter p, value :: rest =>
      if isValue value then do (← a.assign p value).readFrom rest else .error .usage
    | .parameter _, [] => .error .usage
    | .version, _ => .error .version
    | .help, _ => .error .help
    | .other, _ => .error .usage

/-- what a command line asks for -/
structure Command where
  /-- path of the schema, which is read from the standard input otherwise -/
  schema : Option String
  hints : Option String
  /-- The files are printed instead of written. -/
  toStdout : Bool
  settings : Settings
  deriving DecidableEq, Repr

/-- The command in arguments. The namespace and the name of the root class must be given. -/
def Command.read (args : List String) : Except Stop Command := do
  let a ← Arguments.readFrom {} args
  match a.values.lookup .namespaceName, a.values.lookup .rootClass with
  | some namespaceName, some rootClassName =>
    return {
      schema := a.values.lookup .schema
      hints := a.values.lookup .hints
      toStdout := decide (.stdout ∈ a.switches)
      settings := {
        outputDirectory := (a.values.lookup .outputDirectory).getD "Generated"
        forceOverwrite := decide (.force ∈ a.switches)
        namespaceName
        rootClassName
        overrides := decide (.overrides ∈ a.switches)
        denyUnsupported := decide (.denyUnsupported ∈ a.switches) } }
  | _, _ => .error .usage

end SchemaModel.CommandLine

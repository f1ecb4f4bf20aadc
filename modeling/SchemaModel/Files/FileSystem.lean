import SchemaModel.Text.Split

/-!
# File systems

Files and directories, each at a place in one tree, and the directory from which paths start. A
path is a text with slashes; an empty name or a single point in it stays where it is and two points
go up, but only where there is a directory.

* `get?_put_self`, `get?_put_of_ne`   putting an entry changes no other place.
-/

namespace SchemaModel

/-- the names from the root of the tree down to a place -/
abbrev Place := List String

inductive Entry where
  | file (text : String)
  | directory
  deriving DecidableEq, Repr

structure FileSystem where
  entries : List (Place × Entry) := []
  /-- where paths without a slash in front start -/
  here : Place := []
  deriving DecidableEq, Repr

/-- why an operation on a path is refused -/
inductive FileFault where
  | missing
  /-- Something is there already. -/
  | occupied
  | notDirectory
  | isDirectory
  /-- a name that is too long or holds a character that no name holds -/
  | badName
  deriving DecidableEq, Repr

namespace FileSystem

/-! ## places -/

/-- what is at a place; at the root there is a directory -/
def get? (fs : FileSystem) (place : Place) : Option Entry :=
  if place = [] then some .directory else fs.entries.lookup place

def isDirectory (fs : FileSystem) (place : Place) : Bool := fs.get? place = some .directory

/-- Puts an entry at a place, instead of what is there. -/
def putEntry (place : Place) (e : Entry) : List (Place × Entry) → List (Place × Entry)
  | [] => [(place, e)]
  | (p, old) :: rest =>
    if p = place then (place, e) :: rest else (p, old) :: putEntry place e rest

def put (fs : FileSystem) (place : Place) (e : Entry) : FileSystem :=
  { fs with entries := putEntry place e fs.entries }

/-- nothing but a directory to start from, and those above it -/
def empty (here : Place) : FileSystem where
  entries := (List.range here.length).map fun n => (here.take (n + 1), .directory)
  here

theorem lookup_putEntry_self (place : Place) (e : Entry) (entries : List (Place × Entry)) :
    (putEntry place e entries).lookup place = some e := by
  fun_induction putEntry place e entries with
  | case1 => simp
  | case2 old rest => simp
  | case3 p old rest hp ih => simp [List.lookup_cons, beq_false_of_ne (Ne.symm hp), ih]

theorem lookup_putEntry_of_ne {place other : Place} (h : other ≠ place) (e : Entry)
    (entries : List (Place × Entry)) :
    (putEntry place e entries).lookup other = entries.lookup other := by
  fun_induction putEntry place e entries with
  | case1 => simp [List.lookup_cons, beq_false_of_ne h]
  | case2 old rest => simp [List.lookup_cons, beq_false_of_ne h]
  | case3 p old rest _ ih => simp [List.lookup_cons, ih]

theorem get?_put_self {fs : FileSystem} {place : Place} (h : place ≠ []) (e : Entry) :
    (fs.put place e).get? place = some e := by
  rw [get?, if_neg h, put, lookup_putEntry_self]

theorem get?_put_of_ne {fs : FileSystem} {place other : Place} (h : other ≠ place) (e : Entry) :
    (fs.put place e).get? other = fs.get? other := by
  rw [get?, get?, put, lookup_putEntry_of_ne h]

/-! ## paths -/

/-- the parts of a path between its slashes -/
def names (path : String) : List String :=
  (Text.pieces (· == '/') path.toList).map String.ofList

/-- where a path starts -/
def start (fs : FileSystem) (path : String) : Place :=
  if path.toList.head? = some '/' then [] else fs.here

/-- A name stays where it is or goes up. -/
def isDots (name : String) : Bool := name = "." || name = ".."

/-- No entry can have this name. -/
def isBad (name : String) : Bool :=
  255 < name.utf8ByteSize || name.toList.any (·.toNat = 0)

/-- from a place on by one name -/
def step (fs : FileSystem) (place : Place) (name : String) : Except FileFault Place :=
  if !fs.isDirectory place then .error .notDirectory
  else if name = "" ∨ name = "." then .ok place
  else if name = ".." then .ok place.dropLast
  else if isBad name then .error .badName
  else match fs.get? (place ++ [name]) with
    | none => .error .missing
    | some _ => .ok (place ++ [name])

/-- the place of an entry -/
def locate (fs : FileSystem) (path : String) : Except FileFault Place :=
  if path = "" then .error .missing else (names path).foldlM fs.step (fs.start path)

/-- Something is at a path. -/
def contains (fs : FileSystem) (path : String) : Bool :=
  match fs.locate path with
  | .ok _ => true
  | .error _ => false

/-- A directory is at a path. -/
def containsDirectory (fs : FileSystem) (path : String) : Bool :=
  match fs.locate path with
  | .ok place => fs.isDirectory place
  | .error _ => false

/-- A path in two: the names on the way and the last one, slashes at the end left out. -/
def splitLast (path : String) : List String × Option String :=
  let parts := ((names path).reverse.dropWhile (· = "")).reverse
  (parts.dropLast, parts.getLast?)

/-- The place that a path without an entry would have: a name in a directory. `itself` is the fault
of a path that ends at a directory by its form. -/
def locateNew (fs : FileSystem) (itself : FileFault) (path : String) : Except FileFault Place :=
  if path = "" then .error .missing
  else
    let (way, last) := splitLast path
    match last with
    | none => .error itself
    | some name => do
      let place ← way.foldlM fs.step (fs.start path)
      if !fs.isDirectory place then .error .notDirectory
      else if isDots name then .error itself
      else if isBad name then .error .badName
      else .ok (place ++ [name])

/-! ## operations -/

def readFile (fs : FileSystem) (path : String) : Except FileFault String := do
  match fs.get? (← fs.locate path) with
  | some (.file text) => .ok text
  | _ => .error .isDirectory

/-- Makes a directory where nothing is. -/
def createDirectory (fs : FileSystem) (path : String) : Except FileFault FileSystem := do
  let place ← fs.locateNew .occupied path
  match fs.get? place with
  | some _ => .error .occupied
  | none => .ok (fs.put place .directory)

/-- Writes a file, over the one that is there. -/
def writeFile (fs : FileSystem) (path text : String) : Except FileFault FileSystem := do
  let place ← fs.locateNew .isDirectory path
  if path.toList.getLast? = some '/' then .error .isDirectory
  else match fs.get? place with
    | some .directory => .error .isDirectory
    | _ => .ok (fs.put place (.file text))

/-! ## several steps

An operation of several steps that fails leaves what the steps before have done. -/

/-- the paths above a path, the nearest first -/
def ancestors (path : String) : List String :=
  let root := if path.toList.head? = some '/' then "/" else ""
  let parts := (names path).filter fun name => name ≠ "" && name ≠ "."
  ((List.range parts.length).drop 1).reverse.map fun n =>
    root ++ "/".intercalate (parts.take n)

/-- A directory that may be there already. -/
def ensureDirectory (fs : FileSystem) (path : String) : Except FileFault FileSystem :=
  match fs.createDirectory path with
  | .ok fs => .ok fs
  | .error fault =>
    if fault = .occupied && fs.containsDirectory path then .ok fs else .error fault

/-- A directory, with those above it that are missing; `above` are the paths above. -/
def createFrom (fs : FileSystem) (path : String) :
    List String → FileSystem × Except FileFault Unit
  | [] =>
    match fs.ensureDirectory path with
    | .ok fs => (fs, .ok ())
    | .error fault => (fs, .error fault)
  | parent :: above =>
    match fs.ensureDirectory path with
    | .ok fs => (fs, .ok ())
    | .error .missing =>
      match fs.createFrom parent above with
      | (fs, .error fault) => (fs, .error fault)
      | (fs, .ok ()) =>
        match fs.ensureDirectory path with
        | .ok fs => (fs, .ok ())
        | .error fault => (fs, .error fault)
    | .error fault => (fs, .error fault)

/-- Makes a directory and all directories above it that are missing. -/
def createAll (fs : FileSystem) (path : String) : FileSystem × Except FileFault Unit :=
  if path = "" then (fs, .ok ()) else fs.createFrom path (ancestors path)

/-- Writes files one after the other, up to the first that is refused. -/
def writeAll (fs : FileSystem) : List (String × String) → FileSystem × Except FileFault Unit
  | [] => (fs, .ok ())
  | (path, text) :: rest =>
    match fs.writeFile path text with
    | .ok fs => fs.writeAll rest
    | .error fault => (fs, .error fault)

/-- What is below the directory from which paths start, by path, in the order of the paths. -/
def listing (fs : FileSystem) : List (String × Entry) :=
  let below := fs.entries.filterMap fun (place, e) =>
    if fs.here.length < place.length ∧ place.take fs.here.length = fs.here then
      some ("/".intercalate (place.drop fs.here.length), e)
    else none
  below.mergeSort fun a b => a.1 ≤ b.1

end FileSystem

end SchemaModel

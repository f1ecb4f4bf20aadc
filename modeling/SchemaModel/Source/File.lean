import SchemaModel.Source.Attribute
import SchemaModel.Source.Comment
import SchemaModel.Source.ModuleName
import SchemaModel.Source.Overrides
import SchemaModel.Source.TypeText
import SchemaModel.Text.SortedSet

/-!
# Source files of a model set

Every model becomes a Rust file of its own, and one more file declares all their modules. A file is
a list of lines.
-/

namespace SchemaModel.Source

def headline : String := "//! Generated by json-schema-datamodel. Do not edit manually."

/-- the lines with which the file of a model starts -/
def modelHead : List String := [headline, "", "use serde::\x7bDeserialize, Serialize\x7d;"]

/-! ## classes -/

/-- the models that a class mentions, itself apart -/
def mentioned (c : ClassModel) : List String :=
  Text.sortedSet ((c.properties.filterMap (·.type.named?)).filter (· ≠ c.name))

def useLines : List String → List String
  | [] => []
  | [name] => ["use super::" ++ name ++ ";"]
  | names => ["use super::\x7b" ++ ", ".intercalate names ++ "\x7d;"]

/-- The lines of one field: what describes it, the key under which it is written if that is not the
field's own name, and its declaration. -/
def fieldLines (models : ModelSet) (owner : String) (p : Property) : List String :=
  let field := Naming.fieldName p.name
  let type := fieldTypeText models owner p.type
  comment "    " p.description ++
    (if Naming.plain field = p.jsonName then [] else [rename p.jsonName]) ++
    if p.required then ["    pub " ++ field ++ ": " ++ type ++ ","]
    else ["    #[serde(default, skip_serializing_if = \"Option::is_none\")]",
      "    pub " ++ field ++ ": Option<" ++ type ++ ">,"]

def overrideLines (c : ClassModel) : List String :=
  match c.contract? with
  | none => []
  | some contract => "" :: equalityLines contract ++ "" :: hashLines contract

def classLines (models : ModelSet) (c : ClassModel) : List String :=
  modelHead ++ useLines (mentioned c) ++ [""] ++ comment "" c.description ++
    ["#[derive(Debug, Clone, Serialize, Deserialize)]", "pub struct " ++ c.name ++ " \x7b"] ++
    c.properties.flatMap (fieldLines models c.name) ++ ["\x7d"] ++ overrideLines c

/-! ## enumerations -/

/-- The lines of one variant. A variant without a value is never written to a document. -/
def variantLines (m : EnumMember) : List String :=
  [match m.value with
    | some value => rename value
    | none => "    #[serde(skip)]",
    "    " ++ m.name ++ ","]

/-- the lines of all variants, of which the first is the default -/
def allVariantLines : List EnumMember → List String
  | [] => []
  | first :: rest => "    #[default]" :: variantLines first ++ rest.flatMap variantLines

def enumLines (e : EnumModel) : List String :=
  modelHead ++ [""] ++ comment "" e.description ++
    ["#[derive(Debug, Clone, Copy, PartialEq, Eq, Hash, Default, Serialize, Deserialize)]",
      "pub enum " ++ e.name ++ " \x7b"] ++
    allVariantLines e.members ++ ["\x7d"]

/-! ## the index -/

/-- The lines of the file that declares the modules, given with the names of their models. -/
def indexLines (namespaceName : String) (modules : List (String × String)) : List String :=
  [headline, "//!", "//! Data model for namespace `" ++ namespaceName ++ "`.", ""] ++
    modules.map (fun (module, _) => "mod " ++ module ++ ";") ++
    (if modules = [] then [] else [""]) ++
    modules.map (fun (module, name) => "pub use " ++ module ++ "::" ++ name ++ ";")

/-! ## files -/

structure File where
  name : String
  text : String
  deriving DecidableEq, Repr

/-- lines in text, each with its end -/
def linesText (lines : List String) : String := String.join (lines.map (· ++ "\n"))

def modelLines (models : ModelSet) : Model → List String
  | .ofClass c => classLines models c
  | .ofEnum e => enumLines e

def indexName : String := "mod.rs"

/-- The files of a model set: one per model in order, and the index. -/
def files (models : ModelSet) (namespaceName : String) : List File :=
  let names := models.map Model.name
  let modules := moduleNames names
  List.zipWith (fun module model =>
    ⟨Naming.plain module ++ ".rs", linesText (modelLines models model)⟩) modules models ++
  [⟨indexName, linesText (indexLines namespaceName (modules.zip names))⟩]

/-- the part of a stream that holds one file -/
def streamed (f : File) : String := "// " ++ f.name ++ "\n" ++ f.text

/-- all files in one text, with an empty line between two of them -/
def stream (fs : List File) : String := "\n".intercalate (fs.map streamed)

end SchemaModel.Source

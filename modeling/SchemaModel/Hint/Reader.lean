import SchemaModel.Error
import SchemaModel.Hint.Basic
import SchemaModel.Json.Reader
import SchemaModel.Text.Blank

/-!
# Hint documents

A hint document is a JSON object with a list of records under every key. A record names its variant
in the field `$type`, alone or as a qualified name, and holds the fields of this variant and no
others.
-/

namespace SchemaModel

namespace Hint

/-- The variant in a qualified name: the part behind the last point, without what follows a
comma. -/
def variantName (s : String) : String :=
  let name := Text.trimList (s.toList.takeWhile (· ≠ ','))
  String.ofList (name.reverse.takeWhile (· ≠ '.')).reverse

/-! ## fields of the variants -/

def enumFields : List String := ["typeName", "description", "enum", "zeroValue"]

/-- the fault of a field in a record of enumerations -/
def enumFault? (field : String × Json) : Option Fault :=
  match field.1 with
  | "typeName" | "description" | "zeroValue" =>
    (Json.faultOf (field.2.optional Json.asText)).map .illTyped
  | "enum" => (Json.faultOf (field.2.optional Json.asTexts)).map .illTyped
  | name => some (.unknownField name enumFields)

def readEnum (fields : List (String × Json)) : Except Fault EnumHint :=
  match fields.findSome? enumFault? with
  | some fault => .error fault
  | none => .ok {
      typeName := Json.textAt? "typeName" fields
      description := Json.textAt? "description" fields
      members := Json.textsAt? "enum" fields
      zeroValue := Json.textAt? "zeroValue" fields }

/-- the fault of a field in a record with one text -/
def nameFault? (name : String) (field : String × Json) : Option Fault :=
  if field.1 = name then (Json.faultOf field.2.asText).map .illTyped
  else some (.unknownField field.1 [name])

/-- the text of a record that has one field -/
def readName (name : String) (fields : List (String × Json)) : Except Fault String :=
  match fields.findSome? (nameFault? name), Json.textAt? name fields with
  | some fault, _ => .error fault
  | none, some s => .ok s
  | none, none => .error (.missingField name)

/-! ## records and documents -/

/-- The hint in a record. The variant's name is taken out before the other fields are read. -/
def read : Json → Except Fault Hint
  | .object fields =>
    match fields.lookup "$type" with
    | none => .error .noVariant
    | some (.string s) =>
      let others := Json.takeField "$type" fields
      match variantName s with
      | "EnumHint" => .enumeration <$> readEnum others
      | "ClassNameHint" => .className <$> readName "typeName" others
      | "PropertyNameHint" => .propertyName <$> readName "propertyName" others
      | _ => .error (.unknownVariant s)
    | some _ => .error .variantNotText
  | _ => .error .recordNotObject

end Hint

namespace Hints

/-- the hint of one record; a fault is reported under the key and the record's position -/
def readRecord (key : String) (record : Json × Nat) : Except Error (String × Hint) :=
  match Hint.read record.1 with
  | .ok hint => .ok (key, hint)
  | .error fault => .error (.malformedHints (key ++ "[" ++ toString record.2 ++ "]") fault)

/-- the hints under one key of a document -/
def readKey (field : String × Json) : Except Error (List (String × Hint)) :=
  match field.2 with
  | .array records => records.zipIdx.mapM (readRecord field.1)
  | _ => .error (.malformedHints field.1 .recordsNotArray)

def ofJson : Json → Except Error Hints
  | .object fields => do return ⟨(← fields.mapM readKey).flatten⟩
  | _ => .error (.malformedHints "" .documentNotObject)

/-- the hints of the document in a text -/
def read (text : String) : Except Error Hints :=
  match Json.read text with
  | .ok j => ofJson j
  | .error e => .error (.malformedHints "" (.malformed e))

/-- the hints of a document that may be missing -/
def read? : Option String → Except Error Hints
  | some text => read text
  | none => .ok {}

end Hints

end SchemaModel

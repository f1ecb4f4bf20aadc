import SchemaModel.Model.Basic

/-!
# Stable hashes

The hash of a class depends on its content only, not on the process or the machine. A text is
hashed over its UTF-8 bytes; the parts of a model are combined in order, each step multiplying what
came before. All arithmetic is on 32-bit words.
-/

namespace SchemaModel

namespace Hash

/-- FNV-1a over bytes, from a starting value -/
def bytesFrom (start : UInt32) (bytes : List UInt8) : UInt32 :=
  bytes.foldl (fun h b => (h ^^^ b.toUInt32) * 0x01000193) start

/-- FNV-1a over the UTF-8 form of a text -/
def text (s : String) : UInt32 :=
  bytesFrom 0x811C9DC5 (s.toList.flatMap String.utf8EncodeChar)

/-- the value before any part is added -/
def seed : UInt32 := 17

def multiplier : UInt32 := 31

/-- the hash `h` with one more part -/
def add (h part : UInt32) : UInt32 := h * multiplier + part

def addText (h : UInt32) (s : String) : UInt32 := add h (text s)

/-- an absent text counts as 0 -/
def addText? (h : UInt32) (s : Option String) : UInt32 := add h (s.elim 0 text)

def addBool (h : UInt32) (b : Bool) : UInt32 := add h (if b then 1 else 0)

end Hash

open Hash

def TypeRef.hashCode : TypeRef → UInt32
  | boolean => addText seed "Boolean"
  | integer => addText seed "Integer"
  | number => addText seed "Number"
  | string => addText seed "String"
  | dateTime => addText seed "DateTime"
  | any => addText seed "Any"
  | classNamed name => addText (addText seed "Class") name
  | enumNamed name => addText (addText seed "Enum") name
  | sequence element => add (addText seed "Sequence") element.hashCode

def Property.hashCode (p : Property) : UInt32 :=
  addText? (addBool (add (addText (addText seed p.name) p.jsonName) p.type.hashCode) p.required)
    p.description

/-- The hash over every field of a class, its properties in order. -/
def ClassModel.hashCode (c : ClassModel) : UInt32 :=
  let head := addText? (addText (addText seed c.namespaceName) c.name) c.description
  addBool ((c.properties.map Property.hashCode).foldl add head) c.overrides

end SchemaModel

/-!
# Syntax errors of JSON texts

A fault and the place where it was found. Lines count from 1. Columns count the bytes of the line
that were read, so the first character of a line, once read, is at column 1.
-/

namespace SchemaModel.Json

inductive SyntaxFault where
  | endInValue
  | endInList
  | endInObject
  | endInString
  | expectedValue
  | expectedLiteral
  | expectedColon
  | expectedCommaOrBracket
  | expectedCommaOrBrace
  | keyNotString
  | trailingComma
  | trailingCharacters
  | recursionLimit
  | invalidNumber
  | numberOutOfRange
  | invalidEscape
  | loneSurrogate
  | endOfHexEscape
  | controlCharacter
  deriving DecidableEq, Repr

def SyntaxFault.message : SyntaxFault → String
  | endInValue => "EOF while parsing a value"
  | endInList => "EOF while parsing a list"
  | endInObject => "EOF while parsing an object"
  | endInString => "EOF while parsing a string"
  | expectedValue => "expected value"
  | expectedLiteral => "expected ident"
  | expectedColon => "expected `:`"
  | expectedCommaOrBracket => "expected `,` or `]`"
  | expectedCommaOrBrace => "expected `,` or `\x7d`"
  | keyNotString => "key must be a string"
  | trailingComma => "trailing comma"
  | trailingCharacters => "trailing characters"
  | recursionLimit => "recursion limit exceeded"
  | invalidNumber => "invalid number"
  | numberOutOfRange => "number out of range"
  | invalidEscape => "invalid escape"
  | loneSurrogate => "lone leading surrogate in hex escape"
  | endOfHexEscape => "unexpected end of hex escape"
  | controlCharacter => "control character (\\u0000-\\u001F) found while parsing a string"

/-- how much of a text was read -/
structure Position where
  line : Nat
  column : Nat
  deriving DecidableEq, Repr

namespace Position

def start : Position := ⟨1, 0⟩

/-- the position behind the first `bytes` bytes of a character -/
def past (p : Position) (c : Char) (bytes : Nat) : Position :=
  if bytes = 0 then p
  else if c = '\n' then ⟨p.line + 1, 0⟩
  else ⟨p.line, p.column + bytes⟩

/-- the position behind a character -/
def after (p : Position) (c : Char) : Position := p.past c c.utf8Size

end Position

structure SyntaxError where
  fault : SyntaxFault
  position : Position
  deriving DecidableEq, Repr

def SyntaxError.message (e : SyntaxError) : String :=
  e.fault.message ++ " at line " ++ toString e.position.line ++
    " column " ++ toString e.position.column

end SchemaModel.Json

import SchemaModel.Json.Numeral

/-!
# Reading JSON

A text is read one character at a time by a machine with a stack: the lists and objects that are
open, and what may come next. Reading is a fold over the characters, so it ends on every text.

* `step`     what one character does;
* `finish`   what the end of the text does;
* `read`     the value of a text.
-/

namespace SchemaModel.Json

/-- Lists and objects nested deeper than this are refused. -/
def depthLimit : Nat := 127

/-- a list or object that is still open -/
inductive Frame where
  /-- the items read, the last one in front -/
  | list (items : List Json)
  /-- the fields read, and the key of the next one -/
  | object (fields : List (String × Json)) (key : String)

/-- where a string stands -/
inductive StringPhase where
  | plain
  /-- behind a backslash -/
  | escape
  /-- Behind `\u` and `bytes` bytes of its four digits, whose value is lost if one is no digit.
  `lead` is the leading surrogate of a pair. -/
  | hex (bytes : Nat) (value : Option Nat) (lead : Option Nat)
  /-- a backslash must follow a leading surrogate -/
  | pairEscape (lead : Nat)
  /-- a `u` must follow -/
  | pairMark (lead : Nat)

/-- what may come next -/
inductive Mode where
  /-- a value; a list that has just been opened may also end -/
  | value (first : Bool)
  /-- a key; an object that has just been opened may also end -/
  | key (first : Bool)
  | colon
  /-- a comma, or the end of the innermost list or object -/
  | next
  /-- nothing but white space -/
  | done (value : Json)
  | literal (rest : List Char) (value : Json)
  | number (n : Numeral)
  /-- the characters read, the last one in front -/
  | string (isKey : Bool) (content : List Char) (phase : StringPhase)

structure State where
  mode : Mode
  stack : List Frame

/-- A fault, and how many bytes of the character at hand belong to the text before it. -/
abbrev Step := Except (SyntaxFault × Nat) State

def State.start : State := ⟨.value false, []⟩

/-- white space between tokens -/
def isSpace (c : Char) : Bool := c == ' ' || c == '\n' || c == '\t' || c == '\r'

/-- A value is complete. -/
def complete (stack : List Frame) (v : Json) : State :=
  match stack with
  | [] => ⟨.done v, []⟩
  | .list items :: rest => ⟨.next, .list (v :: items) :: rest⟩
  | .object fields key :: rest => ⟨.next, .object (setField key v fields) key :: rest⟩

/-- A string is complete. -/
def completeString (stack : List Frame) (isKey : Bool) (s : String) : State :=
  match isKey, stack with
  | true, .object fields _ :: rest => ⟨.colon, .object fields s :: rest⟩
  | _, _ => complete stack (.string s)

/-- The innermost list or object ends. -/
def close (stack : List Frame) : State :=
  match stack with
  | [] => ⟨.next, []⟩
  | .list items :: rest => complete rest (.array items.reverse)
  | .object fields _ :: rest => complete rest (.object fields)

/-! ## steps -/

def openFrame (stack : List Frame) (mode : Mode) (frame : Frame) : Step :=
  if stack.length < depthLimit then .ok ⟨mode, frame :: stack⟩
  else .error (.recursionLimit, 1)

def stepValue (stack : List Frame) (first : Bool) (c : Char) : Step :=
  if isSpace c then .ok ⟨.value first, stack⟩
  else if c = ']' ∧ first then .ok (close stack)
  else match c with
    | 'n' => .ok ⟨.literal ['u', 'l', 'l'] .null, stack⟩
    | 't' => .ok ⟨.literal ['r', 'u', 'e'] (.bool true), stack⟩
    | 'f' => .ok ⟨.literal ['a', 'l', 's', 'e'] (.bool false), stack⟩
    | '"' => .ok ⟨.string false [] .plain, stack⟩
    | '[' => openFrame stack (.value true) (.list [])
    | '\x7b' => openFrame stack (.key true) (.object [] "")
    | ']' =>
      match stack with
      | .list (_ :: _) :: _ => .error (.trailingComma, 1)
      | _ => .error (.expectedValue, 1)
    | _ =>
      match Numeral.start c with
      | some n => .ok ⟨.number n, stack⟩
      | none => .error (.expectedValue, 1)

def stepKey (stack : List Frame) (first : Bool) (c : Char) : Step :=
  if isSpace c then .ok ⟨.key first, stack⟩
  else if c = '"' then .ok ⟨.string true [] .plain, stack⟩
  else if c = '\x7d' then if first then .ok (close stack) else .error (.trailingComma, 1)
  else .error (.keyNotString, 1)

def stepNext (stack : List Frame) (c : Char) : Step :=
  if isSpace c then .ok ⟨.next, stack⟩
  else match stack with
    | .list _ :: _ =>
      if c = ',' then .ok ⟨.value false, stack⟩
      else if c = ']' then .ok (close stack)
      else .error (.expectedCommaOrBracket, 1)
    | .object .. :: _ =>
      if c = ',' then .ok ⟨.key false, stack⟩
      else if c = '\x7d' then .ok (close stack)
      else .error (.expectedCommaOrBrace, 1)
    | [] => .error (.trailingCharacters, 1)

/-- The step behind a complete value. -/
def stepAfter (s : State) (c : Char) : Step :=
  match s.mode with
  | .done v => if isSpace c then .ok ⟨.done v, s.stack⟩ else .error (.trailingCharacters, 1)
  | _ => stepNext s.stack c

def stepNumber (stack : List Frame) (n : Numeral) (c : Char) : Step :=
  match n.step c with
  | .more n => .ok ⟨.number n, stack⟩
  | .fault f => .error (f, 1)
  | .stop =>
    match n.value? with
    | some (.ok v) => stepAfter (complete stack v) c
    | some (.error f) => .error (f, 0)
    | none => .error (.invalidNumber, 1)

def hexDigit? (c : Char) : Option Nat :=
  if c.isDigit then some (c.toNat - 48)
  else if 'a' ≤ c ∧ c ≤ 'f' then some (c.toNat - 87)
  else if 'A' ≤ c ∧ c ≤ 'F' then some (c.toNat - 55)
  else none

/-- the character of a short escape -/
def shortEscape? : Char → Option Char
  | '"' => some '"'
  | '\\' => some '\\'
  | '/' => some '/'
  | 'b' => some '\x08'
  | 'f' => some '\x0c'
  | 'n' => some '\n'
  | 'r' => some '\r'
  | 't' => some '\t'
  | _ => none

/-- The phase behind a complete `\u` escape of value `n`, and the character it stands for. -/
def hexEscape (n : Nat) (lead : Option Nat) : Except SyntaxFault (Option Char × StringPhase) :=
  match lead with
  | none =>
    if 0xDC00 ≤ n ∧ n ≤ 0xDFFF then .error .loneSurrogate
    else if 0xD800 ≤ n ∧ n ≤ 0xDBFF then .ok (none, .pairEscape n)
    else .ok (some (Char.ofNat n), .plain)
  | some high =>
    if 0xDC00 ≤ n ∧ n ≤ 0xDFFF then
      .ok (some (Char.ofNat ((high - 0xD800) * 0x400 + (n - 0xDC00) + 0x10000)), .plain)
    else .error .loneSurrogate

def stepString (stack : List Frame) (isKey : Bool) (content : List Char) (phase : StringPhase)
    (c : Char) : Step :=
  let more (content : List Char) (phase : StringPhase) : Step :=
    .ok ⟨.string isKey content phase, stack⟩
  match phase with
  | .plain =>
    if c = '"' then .ok (completeString stack isKey (String.ofList content.reverse))
    else if c = '\\' then more content .escape
    else if c.toNat < 32 then .error (.controlCharacter, 1)
    else more (c :: content) .plain
  | .escape =>
    if c = 'u' then more content (.hex 0 (some 0) none)
    else match shortEscape? c with
      | some d => more (d :: content) .plain
      | none => .error (.invalidEscape, 1)
  | .hex bytes value lead =>
    let value := do return (← value) * 16 + (← hexDigit? c)
    if bytes + c.utf8Size < 4 then more content (.hex (bytes + c.utf8Size) value lead)
    else match value with
      | none => .error (.invalidEscape, 4 - bytes)
      | some n =>
        match hexEscape n lead with
        | .error f => .error (f, 1)
        | .ok (some d, phase) => more (d :: content) phase
        | .ok (none, phase) => more content phase
  | .pairEscape lead =>
    if c = '\\' then more content (.pairMark lead) else .error (.endOfHexEscape, 1)
  | .pairMark lead =>
    if c = 'u' then more content (.hex 0 (some 0) (some lead)) else .error (.endOfHexEscape, 1)

def step (s : State) (c : Char) : Step :=
  match s.mode with
  | .value first => stepValue s.stack first c
  | .key first => stepKey s.stack first c
  | .colon =>
    if isSpace c then .ok s
    else if c = ':' then .ok ⟨.value false, s.stack⟩
    else .error (.expectedColon, 1)
  | .next | .done _ => stepAfter s c
  | .literal [] v => stepAfter (complete s.stack v) c
  | .literal [d] v => if c = d then .ok (complete s.stack v) else .error (.expectedLiteral, 1)
  | .literal (d :: rest) v =>
    if c = d then .ok ⟨.literal rest v, s.stack⟩ else .error (.expectedLiteral, 1)
  | .number n => stepNumber s.stack n c
  | .string isKey content phase => stepString s.stack isKey content phase c

/-! ## the end of the text -/

/-- The fault of a text that ends where something must follow a value. -/
def endFault : List Frame → SyntaxFault
  | .object .. :: _ => .endInObject
  | .list _ :: _ => .endInList
  | [] => .endInValue

def finishAfter (s : State) : Except SyntaxFault Json :=
  match s.mode with
  | .done v => .ok v
  | _ => .error (endFault s.stack)

def finish (s : State) : Except SyntaxFault Json :=
  match s.mode with
  | .value first => .error (if first then .endInList else .endInValue)
  | .key first => .error (if first then .endInObject else .endInValue)
  | .colon => .error .endInObject
  | .next | .done _ => finishAfter s
  | .literal .. => .error .endInValue
  | .number n =>
    match n.value? with
    | some (.ok v) => finishAfter (complete s.stack v)
    | some (.error f) => .error f
    | none => .error .endInValue
  | .string .. => .error .endInString

/-- Reads on from a state and a position. -/
def readFrom (s : State) (p : Position) : List Char → Except SyntaxError Json
  | [] => (finish s).mapError fun f => ⟨f, p⟩
  | c :: rest =>
    match step s c with
    | .ok s => readFrom s (p.after c) rest
    | .error (f, bytes) => .error ⟨f, p.past c bytes⟩

/-- the value of a text -/
def read (text : String) : Except SyntaxError Json :=
  readFrom .start .start text.toList

end SchemaModel.Json

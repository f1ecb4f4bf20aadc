/-!
# Packed character tables

A table is a text of rows with blanks between them. A row is `first`, `first-last` or
`first-last/step`, then, behind a `:`, values with dots between them; all numbers are hexadecimal.
It covers every `step`-th code point from `first` to `last`.
-/

namespace SchemaModel.Text.Packed

structure Row where
  first : Nat
  last : Nat
  step : Nat
  values : List Nat

/-- the row covers `n` -/
def Row.covers (r : Row) (n : Nat) : Bool :=
  r.first ≤ n && n ≤ r.last && (n - r.first) % r.step == 0

/-- what is being read of a row -/
inductive Part where
  | first
  | last
  | step
  | value

/-- a row being read, behind the rows before it -/
structure Progress where
  done : Array Row
  row : Row
  part : Part
  /-- characters of the row have been read -/
  started : Bool

def Progress.start (done : Array Row) : Progress := ⟨done, ⟨0, 0, 1, []⟩, .first, false⟩

def Progress.finish (p : Progress) : Array Row :=
  if p.started then p.done.push { p.row with values := p.row.values.reverse } else p.done

def digit (c : Char) : Nat := if c.isDigit then c.toNat - 48 else c.toNat - 55

def Progress.next (p : Progress) (c : Char) : Progress :=
  match c with
  | ' ' | '\n' => .start p.finish
  | '-' => { p with part := .last, row := { p.row with last := 0 } }
  | '/' => { p with part := .step, row := { p.row with step := 0 } }
  | ':' | '.' => { p with part := .value, row := { p.row with values := 0 :: p.row.values } }
  | _ =>
    let d := digit c
    let r := p.row
    let row := match p.part with
      | .first => { r with first := r.first * 16 + d, last := r.first * 16 + d }
      | .last => { r with last := r.last * 16 + d }
      | .step => { r with step := r.step * 16 + d }
      | .value => { r with values := match r.values with
        | v :: rest => (v * 16 + d) :: rest
        | [] => [d] }
    { p with row, started := true }

/-- the rows of a table -/
def rows (table : String) : Array Row :=
  (table.toList.foldl Progress.next (.start #[])).finish

/-- the row that covers `n` -/
def find? (table : Array Row) (n : Nat) : Option Row := table.find? (·.covers n)

/-- a row covers `n` -/
def holds (table : Array Row) (n : Nat) : Bool := table.any (·.covers n)

/-- the one value of the row that covers `n` -/
def value? (table : Array Row) (n : Nat) : Option Nat := do (← find? table n).values.head?

end SchemaModel.Text.Packed

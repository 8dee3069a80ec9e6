/-!
# Nesting of a pattern

How deeply the parts of a pattern stand inside one another. Groups and repetitions are one deeper
than what is in them, and so is a row of several parts and a choice between several rows; a single
part counts for itself.

## Main definitions

* `Pattern.Row` — the parts of a row so far, as far as their nesting goes
* `Pattern.Choice` — a row and the rows before it
-/

namespace Tunnel.Pattern

/-- The parts of a row. -/
structure Row where
  count : Nat
  /-- The depth of the deepest part but the last. -/
  earlier : Nat
  /-- The depth of the last part. -/
  last : Nat
  /-- Whether the last part can be repeated. -/
  isRepeatable : Bool
deriving DecidableEq, Repr

namespace Row

/-- A row without parts. -/
def empty : Row := ⟨0, 0, 0, false⟩

/-- The row with one part more. -/
def add (row : Row) (depth : Nat) (isRepeatable : Bool) : Row :=
  ⟨row.count + 1, max row.earlier row.last, depth, isRepeatable⟩

/-- The row with its last part repeated. -/
def repeatLast? (row : Row) : Option Row :=
  if row.isRepeatable then some { row with last := row.last + 1 } else none

/-- How deep the row is. A single part counts for itself. -/
def depth (row : Row) : Nat :=
  if row.count ≤ 1 then row.last else max row.earlier row.last + 1

end Row

/-- A row, with the depth of what stands before it if anything does. -/
structure Choice where
  before : Option Nat
  row : Row
deriving DecidableEq, Repr

namespace Choice

/-- Nothing has been read. -/
def empty : Choice := ⟨none, .empty⟩

/-- How deep the whole is. -/
def depth (choice : Choice) : Nat :=
  match choice.before with
  | none => choice.row.depth
  | some depth => max depth choice.row.depth + 1

/-- The whole with one part more in its last row. -/
def add (choice : Choice) (depth : Nat) (isRepeatable : Bool) : Choice :=
  { choice with row := choice.row.add depth isRepeatable }

/-- A new row beside the others. All rows stand beside one another. -/
def beside (choice : Choice) : Choice :=
  ⟨some (max (choice.before.getD 0) choice.row.depth), .empty⟩

/-- A new row behind an operator, which takes all that stands before it as one. -/
def behind (choice : Choice) : Choice := ⟨some choice.depth, .empty⟩

end Choice

end Tunnel.Pattern

/-!
Code tables of character sets, written down as spans of cells. A cell may stand for no character.
-/

namespace Postroom.Text

inductive Span where
  | chars (text : String)
  /-- Consecutive code points. -/
  | range (first count : Nat)
  /-- Cells that stand for nothing. -/
  | gap (count : Nat)

def Span.cells : Span → List (Option Char)
  | .chars text => text.toList.map some
  | .range first count => (List.range' first count).map fun n => some (Char.ofNat n)
  | .gap count => List.replicate count none

/-- The cells of a code table, by their positions. -/
abbrev CodeTable := Array (Option Char)

def CodeTable.ofSpans (spans : List Span) : CodeTable :=
  (spans.flatMap Span.cells).toArray

/-- What stands at a position; nothing does beyond the end. -/
def CodeTable.at? (table : CodeTable) (position : Nat) : Option Char :=
  (table[position]?).join

/-- A code table with one row for each lead byte, whose columns are the trail bytes that the
closed ranges admit. -/
structure CodeGrid where
  firstLead : Nat
  trails : List (Nat × Nat)
  table : CodeTable

/-- The position of a byte among those that the ranges admit. -/
def trailIndex? : List (Nat × Nat) → Nat → Option Nat
  | [], _ => none
  | (low, high) :: ranges, byte =>
      if low ≤ byte ∧ byte ≤ high then some (byte - low)
      else (trailIndex? ranges byte).map (· + (high - low + 1))

def CodeGrid.columns (grid : CodeGrid) : Nat :=
  grid.trails.foldl (fun count (low, high) => count + (high - low + 1)) 0

/-- The character of a lead byte with a trail byte. -/
def CodeGrid.cell? (grid : CodeGrid) (lead trail : Nat) : Option Char := do
  guard (grid.firstLead ≤ lead)
  let column ← trailIndex? grid.trails trail
  grid.table.at? ((lead - grid.firstLead) * grid.columns + column)

/-- The same as the text of a pair. -/
def CodeGrid.pair? (grid : CodeGrid) (lead trail : Nat) : Option (List Char) :=
  (grid.cell? lead trail).map ([·])

end Postroom.Text

import FormatPipeline.Text.Blank
import FormatPipeline.Text.Pieces

/-! Cursor positions and the nearest one that exists in a text. -/

namespace FormatPipeline

/-- A position in a text, counted from zero. -/
structure Position where
  row : Nat
  column : Nat
  deriving DecidableEq, Repr, Inhabited

/-- The lines of a text, of which there is at least one. -/
def linesOf (text : String) : List (List Char) := Text.pieces '\n' text.toList

/-- The number of characters of a line, its trailing carriage returns not counted. -/
def lineWidth (line : List Char) : Nat := (Text.dropEndWhile (· == '\r') line).length

/-- The nearest position that exists in the text: first the row is limited, then the column. -/
def Position.clamp (text : String) (position : Position) : Position :=
  let lines := linesOf text
  let row := min position.row (lines.length - 1)
  ⟨row, min position.column (lineWidth (lines.getD row []))⟩

end FormatPipeline

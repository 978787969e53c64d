import FormatPipeline.Text.Pieces

/-! The lines of a text as they are shown one under another. -/

namespace FormatPipeline.Text

/-- A line without a carriage return at its end. -/
def withoutReturn (line : List Char) : List Char :=
  if line.getLast? = some '\r' then line.dropLast else line

/-- The lines of a text; a line end at the end of the text opens no further line. -/
def lines (text : String) : List String :=
  let pieces := pieces '\n' text.toList
  let complete := pieces.dropLast.map withoutReturn
  -- What follows the last line end is a line only if there is something.
  let last := (pieces.getLast?.getD [])
  (if last.isEmpty then complete else complete ++ [last]).map .ofList

end FormatPipeline.Text

/-!
# Ruled tables

A table has a rule above its heading, one below it, and one below every row. A column is as wide as
its longest text, and every cell has one blank on either side. Texts must be of one line each.
-/

namespace TypeProfile.Text

/-- A column of a table over the values of `α`. -/
structure Column (α : Type) where
  heading : String
  cell : α → String

variable {α : Type}

namespace Column

/-- The length of the longest text in a column. -/
def width (column : Column α) (rows : List α) : Nat :=
  rows.foldl (fun width row => max width (column.cell row).length) column.heading.length

end Column

/-- A text with blanks after it, up to a width. -/
def padRight (width : Nat) (text : String) : String :=
  text.pushn ' ' (width - text.length)

/-- A line of cells of the given widths. -/
def ruledLine (cells : List (Nat × String)) : String :=
  String.join (cells.map fun cell => "| " ++ padRight cell.1 cell.2 ++ " ") ++ "|"

/-- A rule over columns of the given widths. -/
def rule (widths : List Nat) : String :=
  String.join (widths.map fun width => "+".pushn '-' (width + 2)) ++ "+"

/-- The lines of a table. -/
def ruledLines (columns : List (Column α)) (rows : List α) : List String :=
  let sized := columns.map fun column => (column.width rows, column)
  let rule := rule (sized.map Prod.fst)
  let heading := ruledLine (sized.map fun entry => (entry.1, entry.2.heading))
  let row value := ruledLine (sized.map fun entry => (entry.1, entry.2.cell value))
  rule :: heading :: rule :: rows.flatMap fun value => [row value, rule]

/-- A table, without a line break at its end. -/
def ruledTable (columns : List (Column α)) (rows : List α) : String :=
  "\n".intercalate (ruledLines columns rows)

end TypeProfile.Text

import CorpusForge.Cli.Styling
import CorpusForge.Text.Width

/-!
# Tables

A table is drawn with box characters and a rule between all its rows. A column is as wide as its
widest cell, with a blank on both sides; a cell may have several lines, and the styles that hold at
the end of one are carried to the next.
-/

namespace CorpusForge.Table

/-- The lines of a cell. -/
abbrev Cell := List (List Char)

/-- The cell of a text. -/
def cell (text : String) : Cell := Styling.carry (Text.splitAt '\n' text.toList)

/-- The columns that a cell takes. -/
def Cell.width (c : Cell) : Nat := (c.map Text.width).foldl max 0

/-- The greater of two widths, column by column. -/
def widen : List Nat → List Nat → List Nat
  | w :: ws, v :: vs => max w v :: widen ws vs
  | ws, [] => ws
  | [], vs => vs

/-- The width of every column. -/
def widths (rows : List (List Cell)) : List Nat :=
  rows.foldl (fun ws row => widen ws (row.map Cell.width)) []

/-- A rule with the given left end, crossing and right end. -/
def rule (left cross right : Char) (widths : List Nat) : List Char :=
  let bars := widths.map fun w => List.replicate (w + 2) '─'
  match bars with
  | [] => [left, right]
  | first :: rest => left :: first ++ rest.flatMap (cross :: ·) ++ [right]

/-- A line of a cell between blanks. -/
def pad (width : Nat) (line : List Char) : List Char :=
  ' ' :: line ++ List.replicate (width - Text.width line + 1) ' '

/-- The cells of a row with the widths of their columns. -/
def line (widths : List Nat) (parts : List (List Char)) : List Char :=
  (List.zip widths parts).flatMap (fun (w, part) => '│' :: pad w part) ++ ['│']

/-- The lines of a row. -/
def rowLines (widths : List Nat) (row : List Cell) : List (List Char) :=
  let height := (row.map List.length).foldl max 1
  (List.range height).map fun k => line widths (row.map fun lines => lines[k]?.getD [])

/-- The lines of the rows, a rule before each. -/
def bodyLines (widths : List Nat) (rows : List (List Cell)) : List (List Char) :=
  rows.flatMap fun row => rule '├' '┼' '┤' widths :: rowLines widths row

/-- The drawing of a table with a head. -/
def draw (head : List String) (rows : List (List String)) : String :=
  let head := head.map cell
  let rows := rows.map fun row => row.map cell
  let widths := widths (head :: rows)
  let lines := rule '┌' '┬' '┐' widths :: rowLines widths head ++ bodyLines widths rows
    ++ [rule '└' '┴' '┘' widths]
  Text.join "\n" (lines.map String.ofList)

end CorpusForge.Table

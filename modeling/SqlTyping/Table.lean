import SqlTyping.Diagnostic
import SqlTyping.Text.Case
import SqlTyping.Text.Delimited
import SqlTyping.Text.Width

/-!
# Tables

Rows of cells under column names, and the three formats in which they are shown: fields separated
by tabs or by commas, and boxes drawn with hyphens and bars.
-/

namespace SqlTyping

/-- A table. -/
structure Table where
  columns : List String
  rows : List (List String)
  deriving DecidableEq

/-- How a table is shown. -/
inductive DisplayFormat where
  | tsv
  | csv
  | boxed
  deriving DecidableEq

namespace DisplayFormat

/-- All formats in the order of their numbers. -/
def all : List DisplayFormat := [tsv, csv, boxed]

/-- The number of a format. -/
def number : DisplayFormat → Nat
  | tsv => 0
  | csv => 1
  | boxed => 2

/-- The name of a format. -/
def name : DisplayFormat → String
  | tsv => "tsv"
  | csv => "csv"
  | boxed => "table"

/-- The format with a name, in which case does not count. -/
def ofName (name : String) : Except Diagnostic DisplayFormat :=
  match all.find? fun f => Text.equalFold name f.name with
  | some f => .ok f
  | none =>
    .error (.plain ("invalid table display format: " ++ name ++
      " (possible values: tsv, csv, table)"))

/-- The format with a number. -/
def ofNumber (n : Int) : Except Diagnostic DisplayFormat :=
  match all.find? fun f => (f.number : Int) = n with
  | some f => .ok f
  | none => .error (.assertion ("unknown display format " ++ toString n))

end DisplayFormat

namespace Table

/-- The number of rows in words. -/
def rowCount (t : Table) : String :=
  toString t.rows.length ++ " row" ++ (if t.rows.length = 1 then "" else "s")

/-- The table as records with a delimiter between the fields. -/
def renderDelimited (delimiter : Char) (t : Table) : String :=
  t.rowCount ++ "\n" ++
    String.join ((t.columns :: t.rows).map (Text.renderRecord delimiter))

/-! ### Boxes -/

/-- Spaces that fill up a text to a width. -/
def fill (width : Nat) (s : String) : List Char :=
  List.replicate (width - Text.width s) ' '

/-- A text at the left of a cell. -/
def padRight (width : Nat) (s : String) : String :=
  s ++ String.ofList (fill width s)

/-- A text at the right of a cell. -/
def padLeft (width : Nat) (s : String) : String :=
  String.ofList (fill width s) ++ s

/-- A text in the middle of a cell, if necessary nearer to the left. -/
def padBoth (width : Nat) (s : String) : String :=
  let gap := width - Text.width s
  String.ofList (List.replicate (gap / 2) ' ') ++ s ++
    String.ofList (List.replicate (gap - gap / 2) ' ')

/-- Whether a character is a decimal digit. -/
def isDigit (c : Char) : Bool :=
  '0' ≤ c && c ≤ '9'

/-- Whether digits stand in groups of three behind commas. -/
def isGrouped : List Char → Bool
  | [] => true
  | ',' :: a :: b :: c :: rest => isDigit a && isDigit b && isDigit c && isGrouped rest
  | _ => false

/-- Whether a text is a number: an optional sign, digits with or without commas between groups of
three, and an optional fraction. -/
def isNumber (cs : List Char) : Bool :=
  let unsigned := match cs with
    | '-' :: rest => rest
    | _ => cs
  let whole := unsigned.takeWhile (· ≠ '.')
  let leading := whole.takeWhile isDigit
  let wholeOk := !leading.isEmpty &&
    (leading.length = whole.length || (leading.length ≤ 3 && isGrouped (whole.drop leading.length)))
  match unsigned.drop whole.length with
  | [] => wholeOk
  | _ :: fraction => wholeOk && !fraction.isEmpty && fraction.all isDigit

/-- The lines of a cell. -/
def cellLines (cell : String) : List String :=
  (Text.splitAtAll (· = '\n') cell.toList).map String.ofList

/-- The width of a cell: that of its widest line. -/
def cellWidth (cell : String) : Nat :=
  ((cellLines cell).map Text.width).foldl max 0

/-- The larger one of two widths, column by column. -/
def joinWidths : List Nat → List Nat → List Nat
  | [], ws => ws
  | ws, [] => ws
  | v :: vs, w :: ws => max v w :: joinWidths vs ws

/-- The widths of the columns, as many as the longest row has cells. -/
def widths : List (List String) → List Nat
  | [] => []
  | row :: rest => joinWidths (row.map cellWidth) (widths rest)

/-- The number of lines of a row. -/
def rowHeight (row : List String) : Nat :=
  (row.map fun cell => (cellLines cell).length).foldl max 0

/-- A line between rows. -/
def rule (widths : List Nat) : String :=
  "+" ++ String.join (widths.map fun w => String.ofList (List.replicate (w + 2) '-') ++ "+") ++ "\n"

/-- The lines of the column names. Names are in the middle of their cells. -/
def renderHeading (widths : List Nat) (columns : List String) : String :=
  let padded := columns ++ List.replicate (widths.length - columns.length) ""
  let line (x : Nat) : String :=
    "|" ++ String.join ((padded.zip widths).map fun (cell, w) =>
      " " ++ padBoth w ((cellLines cell).getD x "") ++ " |") ++ "\n"
  String.join ((List.range (rowHeight columns)).map line)

/-- The lines of a row. Numbers are at the right of their cells and other texts at the left. A cell
with fewer lines than the row is filled up with lines of two spaces. -/
def renderRow (widths : List Nat) (row : List String) : String :=
  let line (x : Nat) : String :=
    String.join ((row.zip widths).map fun (cell, w) =>
      let s := (cellLines cell).getD x "  "
      "| " ++ (if isNumber (Text.trimList s.toList) then padLeft w s else padRight w s) ++ " ") ++
      "|\n"
  String.join ((List.range (rowHeight row)).map line)

/-- The table in boxes. -/
def renderBoxed (t : Table) : String :=
  let ws := widths (t.columns :: t.rows)
  rule ws ++
    (if t.columns.isEmpty then "" else renderHeading ws t.columns ++ rule ws) ++
    String.join (t.rows.map (renderRow ws)) ++ rule ws ++ "(" ++ t.rowCount ++ ")\n"

/-- The table in a format. -/
def render (t : Table) : DisplayFormat → String
  | .tsv => t.renderDelimited '\t'
  | .csv => t.renderDelimited ','
  | .boxed => t.renderBoxed

end Table

end SqlTyping

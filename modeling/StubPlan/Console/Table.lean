import StubPlan.Console.Wrap

/-! Tables of two columns, labels and values, drawn with lines. -/
namespace StubPlan
open Unicode

namespace Table

/-- The characters that end a line when the width of a text is measured. -/
def endsLine (c : Char) : Bool :=
  c = '\n' || (0x1C ≤ c.toNat && c.toNat ≤ 0x1E) || c.toNat = 0x85 || c.toNat = 0x2028 ||
    c.toNat = 0x2029

def textWidth (text : List Char) : Nat :=
  ((Chars.splitAt '\n' (text.map fun c => if endsLine c then '\n' else c)).map cells).foldl max 0

def padding : Nat := 2

/-- The lines at the sides of the table and between its columns. -/
def rules : Nat := 3

/-- Half of a number; of the two numbers next to a half the even one counts. -/
def roundedHalf (n : Nat) : Nat := n / 2 + if n % 4 = 3 then 1 else 0

/-- The widths of both columns for the texts in them. Where the table is too wide, the wider column gives
way until it is as narrow as the other, and from there on both do. -/
def columnWidths (width : Nat) (cells : List (List Char × List Char)) : Nat × Nat :=
  let room := width - rules
  let most (texts : List (List Char)) : Nat :=
    if room = 0 then 1 else min ((texts.map textWidth).foldl max 0 + padding) room
  let labels := most (cells.map (·.1))
  let values := most (cells.map (·.2))
  let excess := labels + values - room
  let least := min labels values
  let shared := excess - (max labels values - least)
  if shared = 0 then
    if labels < values then (labels, values - excess) else (labels - excess, values)
  else (least - roundedHalf shared, least - (shared - roundedHalf shared))

/-- The lines of a text in a column, each as wide as the column. -/
def cellLines (width : Nat) (text : List Char) : List (List Char) :=
  (Wrap.lines .ellipsis (width - padding) text).map fun line =>
    ' ' :: Wrap.padEnd (width - padding) line ++ [' ']

/-- A line that is drawn across the table: its left end, what it consists of, where it meets the line
between the columns, and its right end. -/
def rule (left line middle right : Char) (widths : Nat × Nat) : List Char :=
  left :: List.replicate widths.1 line ++ middle :: List.replicate widths.2 line ++ [right]

/-- The lines of a row; the lower part of the shorter cell is empty. -/
def rowLines (side : Char) (widths : Nat × Nat) (row : List Char × List Char) :
    List (List Char) :=
  let labels := cellLines widths.1 row.1
  let values := cellLines widths.2 row.2
  (List.range (max labels.length values.length)).map fun i =>
    side :: labels[i]?.getD (List.replicate widths.1 ' ') ++
      side :: values[i]?.getD (List.replicate widths.2 ' ') ++ [side]

/-- A table on a console of a width, line by line. -/
def drawn (width : Nat) (title : List Char) (header : List Char × List Char)
    (rows : List (List Char × List Char)) : List (List Char) :=
  let widths := columnWidths width (header :: rows)
  Wrap.centred (widths.1 + widths.2 + rules) title ++
    [rule '┏' '━' '┳' '┓' widths] ++
    rowLines '┃' widths header ++
    [rule '┡' '━' '╇' '┩' widths] ++
    rows.flatMap (rowLines '│' widths) ++
    [rule '└' '─' '┴' '┘' widths]

end Table
end StubPlan

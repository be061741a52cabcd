import StubPlan.Text.Blank
import StubPlan.Text.Replace
import StubPlan.Unicode.CellWidth

/-! Lines of a console: text broken at its words so that each line fits a width in cells. -/
namespace StubPlan.Wrap
open Chars Unicode Text

/-- What is done with a word that is wider than a line: it goes on in the next line, or is cut off. -/
inductive Overflow where
  | fold
  | ellipsis
  deriving DecidableEq, Repr

def tabWidth : Nat := 8

/-- A line with its tabs as spaces, from a given column on. -/
def expandTabsFrom (column : Nat) : List Char → List Char
  | [] => []
  | '\t' :: rest =>
    let width := tabWidth - column % tabWidth
    List.replicate width ' ' ++ expandTabsFrom (column + width) rest
  | c :: rest => c :: expandTabsFrom (column + cellWidth c) rest

/-- The words of a line, each with the blanks after it; the first one has those before it as well.
Here `word` is what has been read of a word, in reverse, and `ended` says that its blanks have
begun. -/
def wordsFrom (word : List Char) (ended : Bool) : List Char → List (List Char)
  | [] => if ended then [word.reverse] else if isBlank word then [] else [word.reverse]
  | c :: rest =>
    if isBlankChar c then wordsFrom (c :: word) (ended || !isBlank word) rest
    else if ended then word.reverse :: wordsFrom [c] false rest
    else wordsFrom (c :: word) false rest

/-- The words of a line with their blanks. A line of blanks only has none. -/
def words (line : List Char) : List (List Char) := wordsFrom [] false line

/-- A text in parts of a width, with `part` in reverse and its cells already read. -/
def chopFrom (width : Nat) (part : List Char) (used : Nat) : List Char → List (List Char)
  | [] => [part.reverse]
  | c :: rest =>
    if used + cellWidth c > width then part.reverse :: chopFrom width [c] (cellWidth c) rest
    else chopFrom width (c :: part) (used + cellWidth c) rest

/-- Lines while they are filled: those that are full, the last one first, the line that is filled
and its cells. -/
structure Filling where
  full : List (List Char)
  line : List Char
  used : Nat

namespace Filling

/-- The text goes on in a new line; the first line of all is used as it is. -/
def startLine (f : Filling) (text : List Char) : Filling :=
  if f.full = [] && f.line = [] then ⟨[], text, cells text⟩
  else ⟨f.line :: f.full, text, cells text⟩

/-- A word goes into the line, where it fits, else into a new line; one that fits no line is folded
or left for cutting. -/
def add (overflow : Overflow) (width : Nat) (f : Filling) (word : List Char) : Filling :=
  let needed := cells (dropEndWhile isBlankChar word)
  if f.used + needed ≤ width then ⟨f.full, f.line ++ word, f.used + cells word⟩
  else if needed > width && overflow = .fold then
    (chopFrom width [] 0 word).foldl startLine f
  else f.startLine word

def lines (f : Filling) : List (List Char) := (f.line :: f.full).reverse

end Filling

def breakLine (overflow : Overflow) (width : Nat) (line : List Char) : List (List Char) :=
  match words line with
  | [] => [line]
  | ws => (ws.foldl (Filling.add overflow width) ⟨[], [], 0⟩).lines

/-- A line without the blanks at its end that lie beyond the width, in characters. -/
def trimExcess (width : Nat) (line : List Char) : List Char :=
  let kept := dropEndWhile isBlankChar line
  line.take (max kept.length (min line.length width))

def takeCells (width : Nat) : List Char → List Char
  | [] => []
  | c :: rest =>
    if cellWidth c ≤ width then c :: takeCells (width - cellWidth c) rest else []

def padEnd (width : Nat) (s : List Char) : List Char := s ++ List.replicate (width - cells s) ' '

/-- A text that takes exactly a width: cut off at its end, or filled with spaces. -/
def fit (width : Nat) (s : List Char) : List Char := padEnd width (takeCells width s)

/-- A line cut off at a width; dots in one character show where, unless lines are folded. -/
def truncate (overflow : Overflow) (width : Nat) (line : List Char) : List Char :=
  if cells line ≤ width then line
  else match overflow with
    | .fold => fit width line
    | .ellipsis => fit (width - 1) line ++ ['…']

def lines (overflow : Overflow) (width : Nat) (text : List Char) : List (List Char) :=
  (splitAt '\n' text).flatMap fun line =>
    ((breakLine overflow width (expandTabsFrom 0 line)).map (trimExcess width)).map
      (truncate overflow width)

/-- The lines of a text, each in the middle of the width; of an odd space the smaller half comes
first. -/
def centred (width : Nat) (text : List Char) : List (List Char) :=
  (lines .fold width text).map fun line =>
    let line := dropEndWhile isBlankChar line
    padEnd width (List.replicate ((width - cells line) / 2) ' ' ++ line)

end StubPlan.Wrap

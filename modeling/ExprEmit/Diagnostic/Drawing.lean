import ExprEmit.Diagnostic.Basic
import ExprEmit.Text.Width

/-!
# Drawn diagnostics

`Diagnostic.draw` shows a diagnostic in colour, with each label below the line of the source that it
marks.  A label marks a byte, or the place behind the last one: its character is coloured, and carets
stand below the columns of that character.  A label on the line break of an empty line reaches to the
start of the next line, and a bracket along both lines shows that.
-/

namespace ExprEmit.Diagnostic

/-! ### Styles -/

/-- The escape sequence that goes back to plain text. -/
def plain : String := "\x1b[0m"

/-- A text in the style of the escape sequence `code`, and plain text again after it. -/
def styled (code : String) (s : String) : String := plain ++ "\x1b[" ++ code ++ "m" ++ s ++ plain

/-- A text of the frame around a source line. -/
def frame (s : String) : String := styled "34" s

/-- A text that marks the error. -/
def marked (s : String) : String := styled "31" s

/-- The character `c`, `n` times. -/
def repeated (n : Nat) (c : Char) : String := String.ofList (List.replicate n c)

/-! ### Lines -/

/-- A line of a source: its number from 1, its characters, and how many bytes come before it. -/
structure Line where
  number : Nat
  chars : List Char
  start : Nat
deriving DecidableEq, Inhabited

/-- The line that holds the byte `target`, when `number`, `start` and the characters in reverse are those
of the line so far. -/
def lineAt (target : Nat) (number start : Nat) (soFar : List Char) : List Char → Line
  | [] => ⟨number, soFar.reverse, start⟩
  | c :: rest =>
    if c = '\n' then
      let next := start + (soFar.map Char.utf8Size).sum + 1
      if target < next then ⟨number, soFar.reverse, start⟩ else lineAt target (number + 1) next [] rest
    else lineAt target number start (c :: soFar) rest

/-- The line of a source that holds the byte `target`. -/
def Line.ofByte (source : String) (target : Nat) : Line := lineAt target 1 0 [] source.toList

/-- Whether a character at the end of a line is not drawn. -/
def endsLine (c : Char) : Bool := c == '\r' || c == '\x00'

/-- The characters of a line that are drawn. -/
def Line.shown (l : Line) : List Char := (l.chars.reverse.dropWhile endsLine).reverse

/-! ### Cells -/

/-- A character of a line with the bytes and the columns it takes. -/
structure Cell where
  char : Char
  /-- The bytes of the line before it. -/
  start : Nat
  /-- How many columns it takes; a tab goes on to the next fourth column. -/
  width : Nat
deriving DecidableEq, Inhabited

/-- The cells of characters from byte `start` and column `column` of a line on. -/
def cells (start column : Nat) : List Char → List Cell
  | [] => []
  | c :: rest =>
    let width := if c = '\t' then 4 - column % 4 else Text.width c
    ⟨c, start, width⟩ :: cells (start + c.utf8Size) (column + width) rest

/-- The byte of the line behind the cell. -/
def Cell.stop (c : Cell) : Nat := c.start + c.char.utf8Size

/-- Whether the cell holds the byte `offset` of the line. -/
def Cell.holds (offset : Nat) (c : Cell) : Bool := c.start ≤ offset && offset < c.stop

/-- How a cell is drawn. -/
def Cell.text (c : Cell) : String :=
  if c.char = '\t' then repeated c.width ' ' else String.singleton c.char

/-- The cells with the one at the byte `offset` marked. -/
def drawCells (offset : Nat) (cs : List Cell) : String :=
  String.join (cs.map fun c => if c.holds offset then marked c.text else c.text)

/-- The carets below the byte `offset` of a line with these cells and `size` bytes.  Right behind the
line there is a place for one, and none beyond that. -/
def drawCarets (offset size : Nat) (cs : List Cell) : String :=
  let before := repeated (((cs.filter fun c => c.stop ≤ offset).map Cell.width).foldr (· + ·) 0) ' '
  match cs.find? (Cell.holds offset) with
  | some c => before ++ marked (repeated c.width '^')
  | none => if offset = size then before ++ marked "^" else before ++ " "

/-! ### Labels -/

/-- The column of a byte of a line: how many of its characters end before it, and one. -/
def Line.column (l : Line) (offset : Nat) : Nat :=
  (cells 0 0 l.chars).countP (fun c => c.stop ≤ offset) + 1

/-- The frame left of a line that is not of the source; `digits` is the width of the line numbers. -/
def gutter (digits : Nat) : String := repeated (digits + 1) ' ' ++ frame "│"

/-- The frame left of a line of the source. -/
def Line.gutter (digits : Nat) (l : Line) : String :=
  let number := toString l.number
  frame (repeated (digits - number.length) ' ' ++ number) ++ " " ++ frame "│"

/-- The line that says where a label starts. -/
def heading (digits : Nat) (path : String) (l : Line) (offset : Nat) : String :=
  String.join [repeated (digits + 1) ' ', frame "┌─", " ", path, ":", toString l.number, ":",
    toString (l.column offset), "\n"]

/-- A label on the byte `offset` of a line. -/
def drawMark (digits : Nat) (line : Line) (offset : Nat) (message : String) : String :=
  let cs := cells 0 0 line.shown
  String.join [
    gutter digits, "\n",
    line.gutter digits, " ", drawCells offset cs, "\n",
    gutter digits, " ", drawCarets offset ((line.shown.map Char.utf8Size).foldr (· + ·) 0) cs, " ",
    marked message, "\n"]

/-- A label from the break of an empty line to the start of the next line. -/
def drawBreak (digits : Nat) (first second : Line) (message : String) : String :=
  String.join [
    gutter digits, "  \n",
    first.gutter digits, " ", marked "╭", " \n",
    second.gutter digits, " ", marked "│", " ",
    String.join ((cells 0 0 second.shown).map Cell.text), "\n",
    gutter digits, " ", marked "╰", marked ("^ " ++ message), "\n"]

/-- A label below what it marks in `source`; `path` names the file. -/
def drawLabel (path source : String) (l : Label) : String :=
  let first := Line.ofByte source l.start
  let last := Line.ofByte source l.stop
  let digits := (toString last.number).length
  let offset := l.start - first.start
  heading digits path first offset ++
    if first.number = last.number then drawMark digits first offset l.message
    else drawBreak digits first last l.message

/-- The diagnostic in colour, with each of its labels below the source. -/
def draw (d : Diagnostic) (path source : String) : String :=
  plain ++ "\x1b[1m\x1b[38;5;9merror" ++ plain ++ "\x1b[1m: " ++ d.message ++ plain ++ "\n" ++
    String.join (d.labels.map (drawLabel path source)) ++ "\n"

end ExprEmit.Diagnostic

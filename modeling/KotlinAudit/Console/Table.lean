import KotlinAudit.Console.Width
import KotlinAudit.Decimal.Binary64
import KotlinAudit.Text.Lines

/-! Tables on the terminal. Columns are as wide as their widest cell as long as there is room for all of them,
and blanks stand where other tables have lines. Wider text is broken into lines between its words, and
within a word that is wider than a whole line. -/
namespace KotlinAudit.Console

/-- What becomes of a word that is too wide for a line: it goes on in the next line, or its end is
left out. -/
inductive Overflow
  | fold | ellipsis
deriving DecidableEq, Repr

/-- Lines stand at the left or at the right of the room that they have. -/
inductive Alignment
  | left | right
deriving DecidableEq, Repr

/-- The words of a line, each with the blanks after it, the first also with those before it.
`word` is the unfinished one. -/
def spacedWordsFrom (word : List Char) : List Char → List (List Char)
  | [] => if word.all Text.isBlank then [] else [word]
  | c :: rest =>
    let isEnded := !word.all Text.isBlank && (word.getLast?.map Text.isBlank).getD false
    if isEnded && !Text.isBlank c then word :: spacedWordsFrom [c] rest
    else spacedWordsFrom (word ++ [c]) rest

/-- The unfinished line, if it has begun. -/
def begun (line : List Char) : List (List Char) := if line.isEmpty then [] else [line]

/-- Words put into lines. `line` is the unfinished one, and `size` its width. -/
def brokenFrom (limit : Nat) (overflow : Overflow) (line : List Char) (size : Nat) :
    List (List Char) → List (List Char)
  | [] => [line]
  | word :: rest =>
    let needed := width (Text.trimRight Text.isBlank word)
    if size + needed ≤ limit then
      brokenFrom limit overflow (line ++ word) (size + width word) rest
    else
      let pieces := if limit < needed && overflow == .fold then folded limit word else [word]
      let last := pieces.getLast?.getD []
      begun line ++ pieces.dropLast ++ brokenFrom limit overflow last (width last) rest

/-- A line broken between its words. A line without words stays as it is. -/
def broken (limit : Nat) (overflow : Overflow) (line : List Char) : List (List Char) :=
  match spacedWordsFrom [] line with
  | [] => [line]
  | words => brokenFrom limit overflow [] 0 words

/-- A line without those blanks at its end that stand beyond the limit. -/
def withoutLooseEnd (limit : Nat) (line : List Char) : List Char :=
  let loose := (line.reverse.takeWhile Text.isBlank).length
  line.take (line.length - min (line.length - limit) loose)

def truncated (limit : Nat) (overflow : Overflow) (line : List Char) : List Char :=
  if width line ≤ limit then line
  else match overflow with
    | .fold => fitted limit line
    | .ellipsis => shortened limit line

def aligned (limit : Nat) (overflow : Overflow) (alignment : Alignment) (line : List Char) :
    List Char :=
  match alignment with
  | .left =>
    let line := truncated limit overflow line
    line ++ blanks (limit - width line)
  | .right =>
    let line := truncated limit overflow (Text.trimRight Text.isBlank line)
    blanks (limit - width line) ++ line

/-- The lines of a text in a room of some width. They are fitted once more, since the blanks beside
a line can be joined to it. -/
def wrapped (limit : Nat) (breaks : Bool) (overflow : Overflow) (alignment : Alignment)
    (text : List Char) : List (List Char) :=
  (printedLines text).flatMap fun line =>
    (if breaks then broken limit overflow line else [line]).map fun line =>
      fitted limit (aligned limit overflow alignment (withoutLooseEnd limit line))

/-- One column: its heading, where its cells stand, what becomes of cells that are too wide, whether
they are broken into lines, the least width of their text, and the blanks on both sides of it. -/
structure Column where
  heading : List Char
  alignment : Alignment
  overflow : Overflow
  breaks : Bool
  leastWidth : Nat
  blanksLeft : Nat
  blanksRight : Nat

def Column.margin (column : Column) : Nat := column.blanksLeft + column.blanksRight

def widestLine (text : List Char) : Nat := ((Text.lines text).map width).foldl max 0

/-- How wide a column is if no cell may be wider than a limit. -/
def Column.measure (column : Column) (limit : Nat) (cells : List (List Char)) : Nat :=
  let room (text : List Char) : Nat :=
    min limit (widestLine (text.filter isPrinted) + column.margin)
  max ((cells.map room).foldl max 0) (column.leastWidth + column.margin)

def Column.cellLines (column : Column) (total : Nat) (text : List Char) : List (List Char) :=
  let room := total - column.margin
  (wrapped room column.breaks column.overflow column.alignment text).map fun line =>
    blanks column.blanksLeft ++ line ++ blanks column.blanksRight

/-- `excess` taken away from the widths that may shrink, in even shares, the shares rounded one
after the other. None shrinks by more than `most` allows for it. -/
def reducedFrom (excess shares : Nat) (most : Nat → Nat) : List (Nat × Bool) → List Nat
  | [] => []
  | (own, mayShrink) :: rest =>
    if mayShrink then
      let taken := min (most own) (Decimal.roundedQuotient excess shares)
      (own - taken) :: reducedFrom (excess - taken) (shares - 1) most rest
    else own :: reducedFrom excess shares most rest

def reduced (excess : Nat) (most : Nat → Nat) (widths : List (Nat × Bool)) : List Nat :=
  reducedFrom excess (widths.filter (·.2)).length most widths

def sum (widths : List Nat) : Nat := widths.foldl (· + ·) 0

/-- The widths made smaller until they fit a limit: again and again, the widest columns of those
that may shrink shrink to the width of the next widest one. Every step takes something away, so
that `steps` need not be more than the sum of the widths. -/
def collapsed (limit : Nat) (shrinks : List Bool) : Nat → List Nat → List Nat
  | 0, widths => widths
  | steps + 1, widths =>
    let excess := sum widths - limit
    if excess == 0 then widths
    else
      let shrinking := (widths.zip shrinks).filter (·.2)
      let widest := (shrinking.map (·.1)).foldl max 0
      let second := ((shrinking.map (·.1)).filter (· != widest)).foldl max 0
      if widest == second then widths
      else collapsed limit shrinks steps
        (reduced excess (fun _ => min excess (widest - second))
          ((widths.zip shrinks).map fun (own, mayShrink) => (own, mayShrink && own == widest)))

/-- The widths of columns that share a limit. Columns that were made smaller are measured again. -/
def sharedWidths (limit : Nat) (columns : List (Column × List (List Char))) : List Nat :=
  let widths := columns.map fun (column, cells) => max 1 (column.measure limit cells)
  if sum widths ≤ limit then widths
  else
    let widths := collapsed limit (columns.map (·.1.breaks)) (sum widths) widths
    let excess := sum widths - limit
    let widths := if excess == 0 then widths
      else reduced excess id (widths.map fun own => (own, own != 0))
    List.zipWith (fun own (column, cells) => column.measure own cells) widths columns

/-- The lines of a row. Its lower cells are filled up with blanks. -/
def rowLines (columns : List (Column × Nat)) (row : List (List Char)) : List (List Char) :=
  let cells := List.zipWith (fun (column, total) text => column.cellLines total text) columns row
  let height := (cells.map (·.length)).foldl max 1
  (List.range height).map fun index =>
    let parts := List.zipWith
      (fun (_, total) (lines : List (List Char)) => lines[index]?.getD (blanks total)) columns cells
    ' ' :: Text.join [' '] parts ++ [' ']

/-- The lines of a table. Where the sign of a rule is given, the headings stand above it. -/
def tableLines (columns : List Column) (rule : Option Char) (rows : List (List (List Char))) :
    List String :=
  let headings := columns.map (·.heading)
  let measured := if rule.isSome then headings :: rows else rows
  let cells (index : Nat) : List (List Char) := measured.map fun row => row[index]?.getD []
  let extra := columns.length + 1
  let widths := sharedWidths (lineWidth - extra)
    (columns.zipIdx.map fun (column, index) => (column, cells index))
  let total := sum widths + extra
  let sized := columns.zip widths
  let head := match rule with
    | none => []
    | some sign => rowLines sized headings ++
        [' ' :: List.replicate (total - 2) sign ++ [' ']]
  let edge := blanks total
  (edge :: head ++ rows.flatMap (rowLines sized) ++ [edge]).map String.ofList

end KotlinAudit.Console

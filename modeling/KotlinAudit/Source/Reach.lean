import KotlinAudit.Text.Lines

/-! Which lines a scan of a source runs over. An index below zero counts from the end; a scan that
starts there reaches the end and then goes over all lines from the first. What is looked for there is
the inside of a group of parentheses or of a block. -/
namespace KotlinAudit.Source

open Text (Line)

/-- The lines from an index on, each with its index; none when the first of them does not exist. -/
def reach? (lines : List Line) (start : Int) : Option (List (Int × Line)) :=
  let numbered : List (Int × Line) := lines.zipIdx.map fun (line, index) => (Int.ofNat index, line)
  match start with
  | .ofNat index => some (numbered.drop index)
  | .negSucc _ =>
    let tail := start.natAbs
    if tail ≤ lines.length then
      let last : List (Int × Line) :=
        (numbered.drop (lines.length - tail)).map fun (index, line) => (index - lines.length, line)
      some (last ++ numbered)
    else none

/-- A line from a column on; a column below zero counts from the end. -/
def cut (line : Line) (column : Int) : Line :=
  match column with
  | .ofNat count => line.drop count
  | .negSucc _ => line.drop (line.length - column.natAbs)

/-- The lines from an index on, the first of them from a column on. -/
def textFrom? (lines : List Line) (start column : Int) : Option (List Line) :=
  (reach? lines start).map fun
    | [] => []
    | (_, first) :: rest => cut first column :: rest.map (·.2)

/-! ### The text inside a group of parentheses that may run over several lines -/

/-- The characters inside the outermost group, `depth` groups deep; what stands before the group
is left out, and a group that never closes goes on to the end. -/
def insideGroup (depth : Int) : List Char → List Char
  | [] => []
  | c :: rest =>
    if c = '(' then
      if depth < 0 then insideGroup (depth + 1) rest
      else if depth = 0 then insideGroup 1 rest
      else c :: insideGroup (depth + 1) rest
    else if c = ')' then
      if depth = 1 then []
      else if depth < 1 then insideGroup (depth - 1) rest
      else c :: insideGroup (depth - 1) rest
    else if 1 ≤ depth then c :: insideGroup depth rest
    else insideGroup depth rest

/-- What the first group in some lines holds; line breaks inside the group are kept. -/
def groupText (lines : List Line) : List Char := insideGroup 0 (lines.flatMap (· ++ ['\n']))

def parenthesized? (lines : List Line) (start column : Int) : Option (List Char) :=
  (textFrom? lines start column).map groupText

def parenthesized (lines : List Line) (start column : Nat) : List Char :=
  (parenthesized? lines start column).getD []

/-! ### The statements of a block that follows a clause -/

/-- Goes through a text whose line ends are written as none, `depth` blocks deep; `line` holds what
has been read of the current line inside the block, last character first. The block opens at the
first brace and closes with the brace that brings the depth back to zero. -/
def blockLines (depth : Int) (opened : Bool) (line : Line) : List (Option Char) → List Line
  | [] => []
  | none :: rest =>
    if opened then Text.trim line.reverse :: blockLines depth true [] rest
    else blockLines depth false line rest
  | some c :: rest =>
    if c = '\x7b' then
      blockLines (depth + 1) true (if opened then c :: line else line) rest
    else if c = '\x7d' then
      if opened && depth = 1 then [Text.trim line.reverse]
      else blockLines (depth - 1) opened (if opened then c :: line else line) rest
    else blockLines depth opened (if opened then c :: line else line) rest

/-- The lines inside the first block of some lines, without empty ones and comments. -/
def blockStatements (lines : List Line) : List Line :=
  (blockLines 0 false [] (lines.flatMap fun line => line.map some ++ [none])).filter fun line =>
    !line.isEmpty && !(['/', '/'].isPrefixOf line)

/-- The statements of the block that a clause opens, none when the clause's line does not exist. -/
def catchStatements? (lines : List Line) (index column : Int) : Option (List Line) :=
  (textFrom? lines index column).map blockStatements

def catchStatements (lines : List Line) (index column : Nat) : List Line :=
  (catchStatements? lines index column).getD []

end KotlinAudit.Source

import KotlinAudit.Text.Scan

/-! Cutting a text into lines. The cut is made at every character that breaks lines, so it can be
finer than a cut at line feeds alone. -/
namespace KotlinAudit.Text

/-- A line of text without its line break. -/
abbrev Line := List Char

/-- The lines of a text. A break ends a line and opens none after it, so a text that ends in a
break has no empty last line. -/
def lines : List Char → List Line
  | [] => []
  | '\r' :: '\n' :: rest => [] :: lines rest
  | c :: rest =>
    if isLineBreak c then [] :: lines rest
    else match lines rest with
      | [] => [[c]]
      | line :: others => (c :: line) :: others

/-- The lines paired with their numbers, the first line being number one. -/
def numberedLines (text : List Char) : List (Nat × Line) :=
  (lines text).zipIdx.map fun (line, index) => (index + 1, line)

/-- Up to `count` lines from line `number` on, joined by line feeds. A number below one starts at
the first line; a negative count leaves out that many lines at the end. -/
def excerpt (source : List Line) (number count : Int) : List Char :=
  let start := (number - 1).toNat
  let stop := start + count
  let last := if stop < 0 then (source.length + stop).toNat else stop.toNat
  join ['\n'] ((source.take last).drop start)

/-! ### One kind of line break

In every text that is read a carriage return, alone or before a line feed, is read as a line feed. -/

def withLineFeeds : List Char → List Char
  | [] => []
  | '\r' :: '\n' :: rest => '\n' :: withLineFeeds rest
  | c :: rest => (if c == '\r' then '\n' else c) :: withLineFeeds rest

end KotlinAudit.Text

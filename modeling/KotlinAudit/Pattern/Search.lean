import KotlinAudit.Pattern.Basic

/-! Looking for a pattern in a text: at the start, as a whole, at the first place where it fits, or
at all places from left to right. -/
namespace KotlinAudit

structure Match where
  start : Cursor
  finish : Cursor

namespace Match

def text (found : Match) : List Char := found.finish.since found.start

def group? (found : Match) (group : Nat) : Option (List Char) := found.finish.group? group

def group (found : Match) (group : Nat) : List Char := found.finish.group group

end Match

namespace Pattern

/-- The preferred match that starts where the text starts. -/
def matchStart? (pattern : Pattern) (text : List Char) : Option Cursor :=
  pattern.firstEnd some (.start text)

def matchWhole? (pattern : Pattern) (text : List Char) : Option Cursor :=
  pattern.firstEnd (fun cursor => if cursor.after.isEmpty then some cursor else none) (.start text)

def matchesStart (pattern : Pattern) (text : List Char) : Bool := (pattern.matchStart? text).isSome

def matchesWhole (pattern : Pattern) (text : List Char) : Bool := (pattern.matchWhole? text).isSome

/-- The preferred match at the first place from `cursor` on where there is one. -/
def searchIn (pattern : Pattern) : List Char → Cursor → Option Match
  | [], cursor => (pattern.firstEnd some cursor).map fun finish => ⟨cursor, finish⟩
  | c :: rest, cursor =>
    match pattern.firstEnd some cursor with
    | some finish => some ⟨cursor, finish⟩
    | none => searchIn pattern rest ⟨c :: cursor.before, rest, cursor.position + 1, []⟩

def searchFrom? (pattern : Pattern) (cursor : Cursor) : Option Match :=
  searchIn pattern cursor.after cursor

def search? (pattern : Pattern) (text : List Char) : Option Match :=
  pattern.searchFrom? (.start text)

def occursIn (pattern : Pattern) (text : List Char) : Bool := (pattern.search? text).isSome

/-- At most `budget` matches from a place on, none overlapping another. -/
def allFrom (pattern : Pattern) : Nat → Cursor → List Match
  | 0, _ => []
  | budget + 1, cursor =>
    match pattern.searchFrom? cursor with
    | none => []
    | some found =>
      let finish : Cursor :=
        ⟨found.finish.before, found.finish.after, found.finish.position, []⟩
      if found.finish.position = found.start.position then
        match finish.advance? with
        | none => [found]
        | some next => found :: allFrom pattern budget next
      else found :: allFrom pattern budget finish

/-- The matches from left to right. There is at most one at each place. -/
def findAll (pattern : Pattern) (text : List Char) : List Match :=
  allFrom pattern (text.length + 1) (.start text)

def replaceAll (pattern : Pattern) (replacement : Match → List Char) (text : List Char) :
    List Char :=
  let (rewritten, rest) := (pattern.findAll text).foldl
    (fun (written, last) found =>
      (written ++ found.start.since last ++ replacement found, found.finish))
    (([] : List Char), Cursor.start text)
  rewritten ++ rest.after

def split (pattern : Pattern) (text : List Char) : List (List Char) :=
  let (pieces, rest) := (pattern.findAll text).foldl
    (fun (pieces, last) found => (found.start.since last :: pieces, found.finish))
    (([] : List (List Char)), Cursor.start text)
  (rest.after :: pieces).reverse

end Pattern
end KotlinAudit

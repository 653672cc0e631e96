import KotlinAudit.Keyed
import KotlinAudit.Toml.Plain

/-! Whole settings files: tables that are opened by headers, and pairs of a key and a value. A table
may be opened once, and what a value has defined cannot be added to later. -/
namespace KotlinAudit.Toml

abbrev Key := List String

abbrev Table := List (String × Setting)

def isKeyChar (c : Char) : Bool :=
  Text.isAsciiLetter c || Text.isAsciiDigit c || c == '-' || c == '_'

def afterSpace (text : List Char) : List Char := text.dropWhile isSpace

/-- One name of a key. -/
def keyPart (text : List Char) : Step String :=
  match text with
  | '\'' :: rest => (literal rest).map fun (name, rest) => (String.ofList name, rest)
  | '"' :: rest => (basic rest).map fun (name, rest) => (String.ofList name, rest)
  | text =>
    match text.span isKeyChar with
    | ([], _) => .error .malformed
    | (name, rest) => .ok (String.ofList name, rest)

/-- The names of a key with dots and blanks between them. At most `budget` names are read. -/
def keyFrom : Nat → List Char → Except Fault (Key × List Char)
  | 0, _ => .error .malformed
  | budget + 1, text => do
    let (name, rest) ← keyPart text
    match afterSpace rest with
    | '.' :: rest =>
      let (names, rest) ← keyFrom budget (afterSpace rest)
      return (name :: names, rest)
    | rest => return ([name], rest)

def key (text : List Char) : Step Key := keyFrom (text.length + 1) text

def afterComment (text : List Char) : Except Fault (List Char) :=
  match text with
  | '#' :: rest =>
    let (comment, rest) := rest.span (· != '\n')
    if comment.any isControl then .error .malformed else .ok rest
  | text => .ok text

def betweenFrom : Nat → List Char → Except Fault (List Char)
  | 0, text => .ok text
  | budget + 1, text =>
    match text.dropWhile isSpaceOrBreak with
    | '#' :: rest => do betweenFrom budget (← afterComment ('#' :: rest))
    | rest => .ok rest

def between (text : List Char) : Except Fault (List Char) := betweenFrom (text.length + 1) text

/-- Changes the table that a key leads to, making tables on the way. In a list of tables the last
one is meant, where lists may be entered at all. -/
def change (entersLists : Bool) (alter : Table → Option Table) : Key → Table → Option Table
  | [], table => alter table
  | name :: rest, table =>
    match table.lookup name with
    | none => (change entersLists alter rest []).map fun inner => Keyed.put name (.table inner) table
    | some (.table inner) =>
      (change entersLists alter rest inner).map fun inner => Keyed.put name (.table inner) table
    | some (.array items) =>
      match entersLists, items.getLast? with
      | true, some (.table inner) =>
        (change entersLists alter rest inner).map fun inner =>
          Keyed.put name (.array (items.dropLast ++ [.table inner])) table
      | _, _ => none
    | some _ => none

def addNew (name : String) (value : Setting) (table : Table) : Option Table :=
  match table.lookup name with
  | none => some (Keyed.put name value table)
  | some _ => none

/-- Adds an empty table to a list of tables, which is made if it is not there. -/
def addItem (name : String) (table : Table) : Option Table :=
  match table.lookup name with
  | none => some (Keyed.put name (.array [.table []]) table)
  | some (.array items) => some (Keyed.put name (.array (items ++ [.table []])) table)
  | some _ => none

def orMalformed {α : Type} : Option α → Except Fault α
  | some value => .ok value
  | none => .error .malformed

private def isClosed : Setting → Bool
  | .array _ | .table _ => true
  | _ => false

/-- Whether a key leads into something that a value has defined. -/
def isFrozen (frozen : List Key) (key : Key) : Bool := frozen.any (·.isPrefixOf key)

def addField (entersLists : Bool) (path : Key) (value : Setting) (table : Table) : Except Fault Table :=
  match path.getLast? with
  | none => .error .malformed
  | some name => orMalformed (change entersLists (addNew name value) path.dropLast table)

/-- How much room there is for values within each other, and what an array and a table take of it. The
reader calls itself for what lies within a value; the room is what is left of a thousand calls where the
program reads its settings. -/
def maxRoom : Nat := 985
def arrayRoom : Nat := 2
def tableRoom : Nat := 3

/-- A bracket takes two calls, and no other character takes more. -/
def enough (text : List Char) : Nat := 2 * text.length + 2

mutual

/-- The value at the start of a text. The room bounds how deep values lie within each other; the budget
bounds nothing that a text can hold, as long as it is `enough` for the text. -/
def valueFrom : Nat → Nat → List Char → Except Fault (Setting × List Char)
  | 0, _, _ => .error .malformed
  | budget + 1, room, text =>
    match quoted? text, text with
    | some step, _ =>
      step.map fun (found, rest) => (.plain (.text (String.ofList found)), rest)
    | none, '[' :: rest => do
      if room < arrayRoom then throw .tooDeep
      let (items, rest) ← itemsFrom budget (room - arrayRoom) (← between rest)
      return (.array items, rest)
    | none, '\x7b' :: rest => do
      if room < tableRoom then throw .tooDeep
      match afterSpace rest with
      | '\x7d' :: rest => return (.table [], rest)
      | rest =>
        let (table, rest) ← fieldsFrom budget (room - tableRoom) [] [] rest
        return (.table table, rest)
    | none, text => plain text

def itemsFrom : Nat → Nat → List Char → Except Fault (List Setting × List Char)
  | 0, _, _ => .error .malformed
  | _, _, ']' :: rest => .ok ([], rest)
  | budget + 1, room, text => do
    let (item, rest) ← valueFrom budget room text
    match ← between rest with
    | ']' :: rest => return ([item], rest)
    | ',' :: rest =>
      let (items, rest) ← itemsFrom budget room (← between rest)
      return (item :: items, rest)
    | _ => throw .malformed

/-- A key, an equals sign and a value. -/
def pairFrom : Nat → Nat → List Char → Except Fault ((Key × Setting) × List Char)
  | 0, _, _ => .error .malformed
  | budget + 1, room, text => do
    let (path, rest) ← key text
    match rest with
    | '=' :: rest =>
      let (value, rest) ← valueFrom budget room (afterSpace rest)
      return ((path, value), rest)
    | _ => throw .malformed

def fieldsFrom :
    Nat → Nat → List Key → Table → List Char → Except Fault (Table × List Char)
  | 0, _, _, _, _ => .error .malformed
  | budget + 1, room, frozen, table, text => do
    let ((path, value), rest) ← pairFrom budget room text
    if isFrozen frozen path then throw .malformed
    let table ← addField false path value table
    match afterSpace rest with
    | '\x7d' :: rest => return (table, rest)
    | ',' :: rest =>
      fieldsFrom budget room (if isClosed value then path :: frozen else frozen) table
        (afterSpace rest)
    | _ => throw .malformed

end

/-- What has been read of a file: its tables, the table that the last header opened, the tables that
no header may open any more, those that will be closed to headers by the next one, and what values
have defined. -/
structure Progress where
  table : Table
  header : Key
  opened : List Key
  pending : List Key
  frozen : List Key

namespace Progress

def start : Progress := ⟨[], [], [], [], []⟩

/-- The beginnings of a key under the current header, without the key itself. -/
def parents (progress : Progress) (path : Key) : List Key :=
  (List.range path.length).tail.map fun count => progress.header ++ path.take count

def addPair (progress : Progress) (path : Key) (value : Setting) : Except Fault Progress := do
  let parents := progress.parents path
  if parents.any progress.opened.contains then throw .malformed
  let whole := progress.header ++ path
  if isFrozen progress.frozen whole.dropLast then throw .malformed
  let table ← addField true whole value progress.table
  return { progress with
    table := table
    pending := progress.pending ++ parents
    frozen := if isClosed value then whole :: progress.frozen else progress.frozen }

/-- Before a header, the pending tables are closed to headers. -/
def settled (progress : Progress) : Progress :=
  { progress with opened := progress.pending ++ progress.opened, pending := [] }

def openTable (progress : Progress) (path : Key) : Except Fault Progress := do
  let progress := progress.settled
  if progress.opened.contains path || isFrozen progress.frozen path then throw .malformed
  let table ← orMalformed (change true some path progress.table)
  return { progress with table := table, header := path, opened := path :: progress.opened }

/-- Takes in a header that adds a table to a list. What was opened in the table before it may be
opened again. -/
def openItem (progress : Progress) (path : Key) : Except Fault Progress := do
  let progress := progress.settled
  if isFrozen progress.frozen path then throw .malformed
  let name ← orMalformed path.getLast?
  let table ← orMalformed (change true (addItem name) path.dropLast progress.table)
  return { progress with
    table := table
    header := path
    opened := path :: progress.opened.filter (!path.isPrefixOf ·)
    frozen := progress.frozen.filter (!path.isPrefixOf ·) }

/-- One statement: a header or a pair. -/
def statement (progress : Progress) (text : List Char) : Except Fault (Progress × List Char) :=
  match text with
  | '[' :: '[' :: rest => do
    let (path, rest) ← key (afterSpace rest)
    match rest with
    | ']' :: ']' :: rest => return (← progress.openItem path, rest)
    | _ => throw .malformed
  | '[' :: rest => do
    let (path, rest) ← key (afterSpace rest)
    match rest with
    | ']' :: rest => return (← progress.openTable path, rest)
    | _ => throw .malformed
  | text => do
    let ((path, value), rest) ← pairFrom (enough text) maxRoom text
    return (← progress.addPair path value, rest)

/-- The lines that are left, at most `budget` of them. -/
def lines : Nat → Progress → List Char → Except Fault Table
  | 0, progress, _ => .ok progress.table
  | budget + 1, progress, text =>
    match afterSpace text with
    | [] => .ok progress.table
    | '\n' :: rest => lines budget progress rest
    | '#' :: rest => do
      match ← afterComment ('#' :: rest) with
      | '\n' :: rest => lines budget progress rest
      | _ => return progress.table
    | text => do
      let (progress, rest) ← progress.statement text
      match ← afterComment (afterSpace rest) with
      | [] => return progress.table
      | '\n' :: rest => lines budget progress rest
      | _ => throw .malformed

end Progress

/-- A line feed with a carriage return before it is a line feed. -/
def withLineFeeds : List Char → List Char
  | '\r' :: '\n' :: rest => '\n' :: withLineFeeds rest
  | c :: rest => c :: withLineFeeds rest
  | [] => []

def read (text : List Char) : Except Fault Table :=
  let text := withLineFeeds text
  Progress.lines (text.length + 1) .start text

end KotlinAudit.Toml

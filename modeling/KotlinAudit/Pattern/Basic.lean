import KotlinAudit.Text.CaseMapping
import KotlinAudit.Text.Character

/-! Text patterns. A pattern can match from one place in several ways, the preferred ones first;
`Pattern.firstEnd` asks what follows about the end of each way in turn and keeps the first answer,
so that a way that leads nowhere is given up for the next one. Letters can be matched whatever their case:
they agree when their lower cases do, or when these are variants of one letter, as the long and the short s
are. -/
namespace KotlinAudit

/-- A stretch of a text from one position to another. -/
structure Stretch where
  first : Nat
  last : Nat

/-- A place in a text, with what the groups of a pattern have captured on the way there. -/
structure Cursor where
  /-- The characters before the place, the nearest one first. -/
  before : List Char
  after : List Char
  /-- How many characters are before the place. -/
  position : Nat
  /-- Captured stretches by group, the latest capture first. -/
  groups : List (Nat × Stretch)

inductive Pattern
  | empty
  | char (accepts : Char → Bool)
  | seq (first second : Pattern)
  | either (preferred other : Pattern)
  /-- From `least` to `most` times; when eager, more rounds are preferred to fewer. -/
  | repeated (eager : Bool) (least : Nat) (most : Option Nat) (body : Pattern)
  | capture (group : Nat) (body : Pattern)
  /-- What a group has captured, once more. -/
  | again (group : Nat) (same : Char → Char → Bool)
  /-- A condition on the place itself. -/
  | place (holds : Cursor → Bool)
  /-- Whether the body matches from here on. -/
  | ahead (wanted : Bool) (body : Pattern)
  /-- Whether the body matches the `width` characters before this place. -/
  | behind (wanted : Bool) (width : Nat) (body : Pattern)
  /-- Only the preferred way of the body. -/
  | committed (body : Pattern)
  | ifCaptured (group : Nat) (present absent : Pattern)

namespace Cursor

def start (text : List Char) : Cursor := ⟨[], text, 0, []⟩

/-- The place after the next character. -/
def advance? (cursor : Cursor) : Option Cursor :=
  match cursor.after with
  | [] => none
  | c :: rest => some ⟨c :: cursor.before, rest, cursor.position + 1, cursor.groups⟩

def step? (accepts : Char → Bool) (cursor : Cursor) : Option Cursor :=
  match cursor.after with
  | [] => none
  | c :: rest =>
    if accepts c then some ⟨c :: cursor.before, rest, cursor.position + 1, cursor.groups⟩ else none

/-- The place `width` characters earlier. -/
def back? (cursor : Cursor) (width : Nat) : Option Cursor :=
  if width ≤ cursor.position then
    some ⟨cursor.before.drop width, (cursor.before.take width).reverse ++ cursor.after,
      cursor.position - width, cursor.groups⟩
  else none

def since (cursor earlier : Cursor) : List Char :=
  (cursor.before.take (cursor.position - earlier.position)).reverse

def textOf (cursor : Cursor) (stretch : Stretch) : List Char :=
  ((cursor.before.reverse ++ cursor.after).drop stretch.first).take (stretch.last - stretch.first)

def group? (cursor : Cursor) (group : Nat) : Option (List Char) :=
  (cursor.groups.lookup group).map cursor.textOf

/-- What a group has captured, nothing when it took no part. -/
def group (cursor : Cursor) (group : Nat) : List Char := (cursor.group? group).getD []

def atStart (cursor : Cursor) : Bool := cursor.before.isEmpty

/-- At the end or before a line feed that ends the text. -/
def atEnd (cursor : Cursor) : Bool := cursor.after == [] || cursor.after == ['\n']

private def isWordChar : List Char → Bool
  | [] => false
  | c :: _ => Text.isWord c

/-- Exactly one neighbour belongs to a word. -/
def atWordEdge (cursor : Cursor) : Bool := isWordChar cursor.before != isWordChar cursor.after

/-- The place after `expected` if that is what follows. -/
def pass? (same : Char → Char → Bool) : List Char → Cursor → Option Cursor
  | [], cursor => some cursor
  | c :: expected, cursor =>
    match cursor.after with
    | [] => none
    | d :: rest =>
      if same c d then
        pass? same expected ⟨d :: cursor.before, rest, cursor.position + 1, cursor.groups⟩
      else none

end Cursor

namespace Pattern

/-- What a search does at a place: the end that the place leads to, if it leads to any. -/
abbrev Onward := Cursor → Option Cursor

/-- The places passed on the way through accepted characters, the furthest first. -/
def placesThrough (accepts : Char → Bool) : List Char → Cursor → List Cursor → List Cursor
  | [], cursor, passed => cursor :: passed
  | c :: rest, cursor, passed =>
    if accepts c then
      placesThrough accepts rest ⟨c :: cursor.before, cursor.after.tail, cursor.position + 1,
        cursor.groups⟩ (cursor :: passed)
    else cursor :: passed

/-- Goes onward from each place on the way through some accepted characters. -/
def through (accepts : Char → Bool) (eager : Bool) (chars : List Char) (onward : Onward) : Onward :=
  fun cursor =>
    let places := placesThrough accepts chars cursor []
    (if eager then places else places.reverse).findSome? onward

/-- Exactly `count` rounds of a step before going onward. -/
def exactly (step : Onward → Onward) (onward : Onward) : Nat → Onward
  | 0, cursor => onward cursor
  | count + 1, cursor => step (exactly step onward count) cursor

/-- Up to `budget` further rounds of a step before going onward. A round that reads nothing is the
last one. -/
def rounds (step : Onward → Onward) (eager : Bool) (onward : Onward) : Nat → Onward
  | 0, cursor => onward cursor
  | budget + 1, cursor =>
    let further (_ : Unit) := step (fun next =>
      if next.position = cursor.position then onward next
      else rounds step eager onward budget next) cursor
    if eager then (further ()).orElse fun _ => onward cursor
    else (onward cursor).orElse further

/-- What a pattern accepts that matches exactly one character. -/
def single? : Pattern → Option (Char → Bool)
  | char accepts => some accepts
  | _ => none

/-- The first end of a way to match that leads onward, preferred ways first. -/
def firstEnd : Pattern → Onward → Onward
  | empty, onward, cursor => onward cursor
  | char accepts, onward, cursor => (cursor.step? accepts).bind onward
  | seq first second, onward, cursor =>
    first.firstEnd (fun next => second.firstEnd onward next) cursor
  | either preferred other, onward, cursor =>
    (preferred.firstEnd onward cursor).orElse fun _ => other.firstEnd onward cursor
  | repeated eager least most body, onward, cursor =>
    let step : Onward → Onward := fun onward next => body.firstEnd onward next
    exactly step (fun next =>
      match body.single? with
      | some accepts =>
        let chars := match most with
          | some count => next.after.take (count - least)
          | none => next.after
        through accepts eager chars onward next
      | none =>
        let budget := match most with
          | some count => count - least
          -- every round but the last reads a character
          | none => next.after.length + 1
        rounds step eager onward budget next) least cursor
  | capture group body, onward, cursor =>
    body.firstEnd (fun next =>
      onward ⟨next.before, next.after, next.position,
        (group, ⟨cursor.position, next.position⟩) :: next.groups⟩) cursor
  | again group same, onward, cursor =>
    (cursor.group? group).bind fun text => (cursor.pass? same text).bind onward
  | place holds, onward, cursor => if holds cursor then onward cursor else none
  | ahead wanted body, onward, cursor =>
    match body.firstEnd some cursor with
    | none => if wanted then none else onward cursor
    | some found =>
      if wanted then onward ⟨cursor.before, cursor.after, cursor.position, found.groups⟩ else none
  | behind wanted width body, onward, cursor =>
    let found := (cursor.back? width).bind fun earlier => body.firstEnd some earlier
    match found with
    | none => if wanted then none else onward cursor
    | some found =>
      if wanted then onward ⟨cursor.before, cursor.after, cursor.position, found.groups⟩ else none
  | committed body, onward, cursor => (body.firstEnd some cursor).bind onward
  | ifCaptured group present absent, onward, cursor =>
    if (cursor.groups.lookup group).isSome then present.firstEnd onward cursor
    else absent.firstEnd onward cursor

/-! ### Building patterns -/

def all : List Pattern → Pattern
  | [] => empty
  | [pattern] => pattern
  | pattern :: rest => seq pattern (all rest)

def oneOf : List Pattern → Pattern
  | [] => empty
  | [pattern] => pattern
  | pattern :: rest => either pattern (oneOf rest)

def only (c : Char) : Pattern := char (· == c)

def among (chars : String) : Pattern := char (chars.toList.contains ·)

def noneOf (chars : String) : Pattern := char (!chars.toList.contains ·)

def chars (text : List Char) : Pattern := all (text.map only)

def text (text : String) : Pattern := chars text.toList

/-- One of several texts, the earlier ones preferred. -/
def texts (words : List String) : Pattern := oneOf (words.map text)

def many (body : Pattern) : Pattern := repeated true 0 none body
def oneOrMore (body : Pattern) : Pattern := repeated true 1 none body
def optional (body : Pattern) : Pattern := repeated true 0 (some 1) body
def times (count : Nat) (body : Pattern) : Pattern := repeated true count (some count) body
def atLeast (count : Nat) (body : Pattern) : Pattern := repeated true count none body

def blank : Pattern := char Text.isBlank
def blanks : Pattern := many blank
def wordChar : Pattern := char Text.isWord
def word : Pattern := repeated true 1 none wordChar
def digit : Pattern := char Text.isDigit

/-- Any character but a line feed. -/
def inLine : Pattern := char (· != '\n')
def start : Pattern := place Cursor.atStart
def finish : Pattern := place Cursor.atEnd
def wordEdge : Pattern := place Cursor.atWordEdge

end Pattern

namespace Pattern

/-- Lower-case letters that are variants of one another. -/
def letterVariants : List (List Nat) :=
  [[105, 305], [115, 383], [181, 956], [837, 953, 8126], [912, 8147], [944, 8163], [946, 976],
    [949, 1013], [952, 977], [954, 1008], [960, 982], [961, 1009], [962, 963], [966, 981],
    [1074, 7296], [1076, 7297], [1086, 7298], [1089, 7299], [1090, 7300, 7301], [1098, 7302],
    [1123, 7303], [7304, 42571], [7777, 7835], [64261, 64262]]

/-- The lower case of a letter as a single letter. -/
def fold (c : Char) : Char := (Text.lowerChar c).headD c

/-- The upper case of a letter, cut to its first letter. -/
def raised (c : Char) : Char := (Text.upperChar c).headD c

def sameFold (c d : Char) : Bool := fold c == fold d

/-- Basic letters in either case; other characters stay as they are. -/
def foldBasic (c : Char) : Char := c.toLower

def sameBasic (c d : Char) : Bool := foldBasic c == foldBasic d

/-- Whether two letters agree up to case. Among basic characters no two lower-case letters are
variants of each other. -/
def sameLetter (c d : Char) : Bool :=
  if c.toNat < 128 && d.toNat < 128 then sameBasic c d
  else
    let low := fold c
    let other := fold d
    low == other ||
      letterVariants.any fun group => group.contains low.toNat && group.contains other.toNat

/-- The letters that agree with `c` up to case, `c` among them. -/
def letterForms (c : Char) : List Char :=
  if c.toNat < 128 && !Text.isAsciiLetter c then [c]
  else
    let low := fold c
    let variants := ((letterVariants.find? (·.contains low.toNat)).getD [low.toNat]).map Char.ofNat
    variants.flatMap Text.loweredFrom

def basicForms (c : Char) : List Char := [c, c.toLower, c.toUpper]

/-- A character class that takes a letter in every case. -/
def anyCase (accepts : Char → Bool) (c : Char) : Bool := accepts c || (letterForms c).any accepts

def textAnyCase (text : String) : Pattern :=
  all (text.toList.map fun expected => char (sameLetter expected))

def charAnyCase (accepts : Char → Bool) : Pattern := char (anyCase accepts)

end Pattern
end KotlinAudit

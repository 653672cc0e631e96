import KotlinAudit.Console.Argument.Reader
import KotlinAudit.Console.EmojiNames
import KotlinAudit.Console.Style
import KotlinAudit.Text.CaseMapping
import KotlinAudit.Text.Scan

/-! Texts with tags: a tag in square brackets opens a style, and a tag that begins with a slash ends it. On a
terminal without styles, only the text between the tags is seen. Emoji are written by their names between
colons. -/
namespace KotlinAudit.Console

namespace Emoji

private def paired : List (List Char) → List (List Char × List Char)
  | name :: characters :: rest => (name, characters) :: paired rest
  | _ => []

def named : List (List Char × List Char) :=
  EmojiNames.all.flatMap fun part => paired (Text.words (· == ' ') part.toList)

/-- The ways to show a sign that a name may ask for at its end, and the character that asks. -/
def variants : List (List Char × Char) :=
  [("-emoji".toList, '\ufe0f'), ("-text".toList, '\ufe0e')]

def splitVariant (name : List Char) : List Char × List Char :=
  match variants.find? fun (ending, _) => ending.isSuffixOf name with
  | some (ending, mark) => (name.take (name.length - ending.length), [mark])
  | none => (name, [])

/-- What is shown for the text between two colons; an unknown name stays as it is. -/
def shown (content : List Char) : List Char :=
  let (name, mark) := splitVariant content
  match named.lookup (Text.lower name) with
  | some characters => characters ++ mark
  | none => ':' :: content ++ [':']

/-- The text with its names replaced. `content` is what stands after a colon that may begin one. -/
def replacedFrom (content : Option (List Char)) : List Char → List Char
  | [] => match content with
    | none => []
    | some content => ':' :: content
  | c :: rest =>
    match content with
    | none => if c == ':' then replacedFrom (some []) rest else c :: replacedFrom none rest
    | some content =>
      if c == ':' then shown content ++ replacedFrom none rest
      else if Text.isBlank c then ':' :: content ++ c :: replacedFrom none rest
      else replacedFrom (some (content ++ [c])) rest

def replaced (text : List Char) : List Char := replacedFrom none text

end Emoji

namespace Markup

inductive Fault
  /-- A tag ends a style that none has opened. -/
  | notOpen (name : List Char)
  /-- A tag ends the last style, and none is open. -/
  | nothingOpen
  /-- The tag of a handler has arguments that cannot be read. -/
  | arguments (text : List Char)
  | style (fault : Style.Fault)
deriving DecidableEq, Repr

/-- A tag has a name and may have arguments after an equals sign. -/
structure Tag where
  name : List Char
  arguments : Option (List Char)
deriving DecidableEq, Repr

def Tag.ofContent (content : List Char) : Tag :=
  let name := content.takeWhile (· != '=')
  ⟨name, if name.length < content.length then some (content.drop (name.length + 1)) else none⟩

inductive Piece
  | plain (text : List Char)
  | tag (tag : Tag)
deriving DecidableEq, Repr

private def beginsTag (c : Char) : Bool :=
  ('a' ≤ c && c ≤ 'z') || c == '#' || c == '/' || c == '@'

/-- The content of a tag whose bracket has been opened, and the text after the tag. -/
def tag? : List Char → Option (List Char × List Char)
  | [] => none
  | c :: rest =>
    let more := rest.takeWhile fun d => d != '[' && d != ']'
    match rest.drop more.length with
    | ']' :: after => if beginsTag c then some (c :: more, after) else none
    | _ => none

theorem length_lt_of_tag? {text content after : List Char} (h : tag? text = some (content, after)) :
    after.length < text.length := by
  cases text with
  | nil => simp [tag?] at h
  | cons c rest =>
    simp only [tag?] at h
    split at h
    · rename_i found hd
      split at h
      · simp only [Option.some.injEq, Prod.mk.injEq] at h
        have hl := congrArg List.length hd
        simp only [List.length_drop, List.length_cons] at hl
        rw [← h.2]
        simp only [List.length_cons]
        omega
      · simp at h
    · simp at h

/-- Text that is shown, if it is there; it is held in reverse. -/
private def plain (reversed : List Char) : List Piece :=
  if reversed.isEmpty then [] else [.plain reversed.reverse]

/-- The pieces of a text. Two backslashes before a tag are one that is shown, and a single one makes
the tag text. `before` is the text before in reverse, and `slashes` counts the backslashes that
follow it. -/
def piecesFrom (before : List Char) (slashes : Nat) (text : List Char) : List Piece :=
  let through := List.replicate slashes '\\' ++ before
  match text with
  | [] => plain through
  | c :: rest =>
    if c == '\\' then piecesFrom before (slashes + 1) rest
    else if c == '[' then
      match _h : tag? rest with
      | some (content, after) =>
        let found := if slashes % 2 == 1 then .plain ('[' :: content ++ [']'])
          else .tag (.ofContent content)
        plain before ++ plain (List.replicate (slashes / 2) '\\') ++
          found :: piecesFrom [] 0 after
      | none => piecesFrom (c :: through) 0 rest
    else piecesFrom (c :: through) 0 rest
termination_by text.length
decreasing_by
  · simp
  · have := length_lt_of_tag? _h
    simp only [List.length_cons]
    omega
  · simp
  · simp

/-- The tags that are open, the last one first, without the last one of some name, and that one. -/
def close (name : List Char) : List Tag → Option (Tag × List Tag)
  | [] => none
  | tag :: tags =>
    if tag.name == name then some (tag, tags)
    else (close name tags).map fun (found, others) => (found, tag :: others)

/-- The arguments of a handler are read when its tag ends. -/
def Tag.ended (tag : Tag) : Except Fault Unit :=
  match tag.name, tag.arguments with
  | '@' :: _, some arguments =>
    if arguments.isEmpty || Argument.isCall arguments then .ok () else .error (.arguments arguments)
  | _, _ => .ok ()

private def styleName (text : List Char) : Except Fault (List Char) :=
  (Style.nameOf text).mapError .style

def follow (tags : List Tag) (tag : Tag) : Except Fault (List Tag) :=
  match tag.name with
  | '/' :: name => do
    let name := Text.trim name
    if name.isEmpty then
      match tags with
      | [] => .error .nothingOpen
      | last :: others => do
        last.ended
        return others
    else
      let name ← styleName name
      match close name tags with
      | none => .error (.notOpen name)
      | some (found, others) => do
        found.ended
        return others
  | name => do
    let name ← styleName name
    return ⟨name, tag.arguments⟩ :: tags

/-- What is shown of pieces. A backslash before an open bracket is not. -/
def shownFrom (emoji : Bool) (tags : List Tag) : List Piece → Except Fault (List Char)
  | [] => .ok []
  | .plain text :: rest => do
    let text := Text.replaceAll '\\' ['['] ['['] text
    let text := if emoji then Emoji.replaced text else text
    return text ++ (← shownFrom emoji tags rest)
  | .tag tag :: rest => do
    let tags ← follow tags tag
    shownFrom emoji tags rest

def shown (emoji : Bool) (text : List Char) : Except Fault (List Char) :=
  shownFrom emoji [] (piecesFrom [] 0 text)

end Markup
end KotlinAudit.Console

import KotlinAudit.Text.Character

/-! Searching, trimming, cutting and replacing in texts held as lists of characters, and sets of texts as
lists in increasing order. -/
namespace KotlinAudit.Text

/-- Whether `needle` occurs somewhere in the text; the empty text occurs everywhere. -/
def contains (needle : List Char) : List Char → Bool
  | [] => needle.isEmpty
  | c :: rest => needle.isPrefixOf (c :: rest) || contains needle rest

/-- How many characters precede the first occurrence of `needle`. -/
def find? (needle : List Char) : List Char → Option Nat
  | [] => if needle.isEmpty then some 0 else none
  | c :: rest =>
    if needle.isPrefixOf (c :: rest) then some 0 else (find? needle rest).map (· + 1)

def trimLeft (drop : Char → Bool) (text : List Char) : List Char := text.dropWhile drop

def trimRight (drop : Char → Bool) (text : List Char) : List Char :=
  (text.reverse.dropWhile drop).reverse

def trimBy (drop : Char → Bool) (text : List Char) : List Char :=
  trimRight drop (trimLeft drop text)

/-- Without the white space at both ends. -/
def trim (text : List Char) : List Char := trimBy isBlank text

/-- The pieces between separators; there is always one piece more than there are separators. -/
def splitAll (isSeparator : Char → Bool) : List Char → List (List Char)
  | [] => [[]]
  | c :: rest =>
    if isSeparator c then [] :: splitAll isSeparator rest
    else match splitAll isSeparator rest with
      | [] => [[c]]
      | piece :: pieces => (c :: piece) :: pieces

/-- The maximal stretches without a separator. -/
def words (isSeparator : Char → Bool) (text : List Char) : List (List Char) :=
  (splitAll isSeparator text).filter (!·.isEmpty)

/-- The text with every occurrence of `first :: others` replaced, left to right and without
looking into what was put in. -/
def replaceAll (first : Char) (others replacement : List Char) : List Char → List Char
  | [] => []
  | c :: rest =>
    if (first :: others).isPrefixOf (c :: rest) then
      replacement ++ replaceAll first others replacement (rest.drop others.length)
    else c :: replaceAll first others replacement rest
termination_by text => text.length
decreasing_by
  · simp only [List.length_drop, List.length_cons]; omega
  · simp

/-- Texts put one after the other with `separator` between them. -/
def join (separator : List Char) (pieces : List (List Char)) : List Char :=
  separator.intercalate pieces

/-- Ordering of texts by code point, character by character; a proper beginning comes first. -/
def le (left right : String) : Bool := !(right < left)

/-- Drops what equals its neighbour. -/
def withoutRepeats : List String → List String
  | [] => []
  | [text] => [text]
  | text :: next :: rest =>
    if text = next then withoutRepeats (next :: rest) else text :: withoutRepeats (next :: rest)

/-- The distinct texts in increasing order by code point. -/
def sortedSet (texts : List String) : List String := withoutRepeats (texts.mergeSort le)

end KotlinAudit.Text

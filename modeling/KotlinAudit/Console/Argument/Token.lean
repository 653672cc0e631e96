import KotlinAudit.Text.Scan

/-! The words of which the arguments of a handler are written. -/
namespace KotlinAudit.Console.Argument

/-- The kinds of values, as far as the rules for putting values together tell them apart. -/
inductive Kind
  /-- A real number; a signed one takes no further sign. -/
  | real (signed : Bool)
  | imaginary (signed : Bool)
  | text
  | octets
  | constant
  /-- A value made of others that may be a key or a member of a set. -/
  | fixed
  /-- A value made of others that may not. -/
  | changeable
deriving DecidableEq, Repr

def Kind.isKey : Kind → Bool
  | changeable => false
  | _ => true

inductive Token
  | literal (kind : Kind)
  | mark (c : Char)
  /-- The word that makes an empty set when it is called. -/
  | emptySet
deriving DecidableEq, Repr

abbrev Read (α : Type) := Option (α × List Char)

/-- Digits with single underscores between them. -/
private def digitsFrom (isDigit : Char → Bool) (afterDigit : Bool) : List Char → List Char
  | '_' :: c :: rest =>
    if afterDigit && isDigit c then '_' :: digitsFrom isDigit false (c :: rest) else []
  | c :: rest => if isDigit c then c :: digitsFrom isDigit true rest else []
  | [] => []

private def digits (text : List Char) : List Char := digitsFrom Text.isAsciiDigit false text

private def isHexDigit (c : Char) : Bool :=
  Text.isAsciiDigit c || ('a' ≤ c && c ≤ 'f') || ('A' ≤ c && c ≤ 'F')

private def isBaseDigit : Char → Option (Char → Bool)
  | 'x' | 'X' => some isHexDigit
  | 'o' | 'O' => some fun c => '0' ≤ c && c ≤ '7'
  | 'b' | 'B' => some fun c => c == '0' || c == '1'
  | _ => none

private def exponentLength : List Char → Nat
  | c :: rest =>
    if c == 'e' || c == 'E' then
      let sign := match rest with
        | '+' :: _ | '-' :: _ => 1
        | _ => 0
      match digits (rest.drop sign) with
      | [] => 0
      | found => 1 + sign + found.length
    else 0
  | [] => 0

/-- The length of a number to the base ten, and its kind. -/
private def decimal? (text : List Char) : Option (Nat × Kind) :=
  let whole := digits text
  let fraction := match text.drop whole.length with
    | '.' :: rest => 1 + (digits rest).length
    | _ => 0
  let size := whole.length + fraction
  if whole.isEmpty && fraction ≤ 1 then none
  else
    let size := size + exponentLength (text.drop size)
    match text.drop size with
    | 'j' :: _ | 'J' :: _ => some (size + 1, .imaginary false)
    | _ =>
      let isInteger := size == whole.length
      let plain := whole.filter (· != '_')
      let isPadded := plain.head? == some '0' && !plain.all (· == '0')
      if isInteger && (isPadded || 4300 < plain.length) then none
      else some (size, .real false)

private def number? (text : List Char) : Option (Nat × Kind) :=
  match text with
  | '0' :: base :: rest =>
    match isBaseDigit base with
    | some isDigit =>
      let rest := match rest with
        | '_' :: c :: _ => if isDigit c then rest.drop 1 else rest
        | _ => rest
      let found := digitsFrom isDigit false rest
      if found.isEmpty then none
      else some (text.length - rest.length + found.length, .real false)
    | none => decimal? text
  | _ => decimal? text

/-- Whether an escape can be read; `rest` follows the backslash. -/
private def isEscape (isText : Bool) (rest : List Char) : Bool :=
  let hex (count : Nat) : Bool :=
    let found := (rest.drop 1).take count
    found.length == count && found.all isHexDigit
  match rest.head? with
  | some 'x' => hex 2
  | some 'u' => !isText || hex 4
  | some 'U' =>
    !isText || (hex 8 && "00".toList.isPrefixOf (rest.drop 1) &&
      ((rest.drop 3).head? == some '0' || "10".toList.isPrefixOf (rest.drop 3)))
  | some 'N' => !isText || ((rest.drop 1).head? == some '\x7b' && (rest.drop 2).contains '\x7d')
  | _ => true

/-- What stands behind a quoted text that ends in `closing`. -/
private def quoted? (isText isRaw : Bool) (closing : List Char) : List Char → Option (List Char)
  | [] => none
  | c :: rest =>
    if closing.isPrefixOf (c :: rest) then some (rest.drop (closing.length - 1))
    else if c == '\\' then
      if isRaw || isEscape isText rest then
        match rest with
        | [] => none
        | d :: rest =>
          if isText || d.toNat < 128 then quoted? isText isRaw closing rest else none
      else none
    else if (c == '\n' && closing.length == 1) || (!isText && 128 ≤ c.toNat) then none
    else quoted? isText isRaw closing rest

private def isQuote (c : Char) : Bool := c == '\'' || c == '"'

/-- A quoted text with the letters before it that say how it is read. -/
private def text? (text : List Char) : Read Token :=
  let letters := (text.takeWhile fun c => !isQuote c).map Char.toLower
  let isRaw := letters.contains 'r'
  let isText := !letters.contains 'b'
  let rest := text.drop letters.length
  if !(["", "r", "u", "b", "br", "rb"].contains (String.ofList letters)) then none
  else match rest with
    | [] => none
    | quote :: rest =>
      let isLong := [quote, quote].isPrefixOf rest
      let after := if isLong then quoted? isText isRaw [quote, quote, quote] (rest.drop 2)
        else quoted? isText isRaw [quote] rest
      after.map fun after => (.literal (if isText then .text else .octets), after)

private def word? (text : List Char) : Read Token :=
  let word := text.takeWhile Text.isWord
  let rest := text.drop word.length
  match String.ofList word with
  | "None" | "True" | "False" => some (.literal .constant, rest)
  | "set" => some (.emptySet, rest)
  | _ => none

private def token? (text : List Char) : Read Token :=
  match text with
  | '.' :: '.' :: '.' :: rest => some (.literal .constant, rest)
  | c :: rest =>
    if "(){},:+-".toList.contains c then some (.mark c, rest)
    else if Text.isAsciiDigit c || c == '.' then
      match number? text with
      | some (size, kind) =>
        if ((text.drop size).head?.map Text.isWord).getD false then none
        else some (.literal kind, text.drop size)
      | none => none
    else (text? text).orElse fun _ => word? text
  | [] => none

/-- Blanks between tokens; line breaks and comments are blanks only inside brackets. -/
private def skip (depth : Nat) : List Char → List Char
  | [] => []
  | c :: rest =>
    if c == ' ' || c == '\t' || c == '\x0c' || (c == '\n' && depth != 0) then skip depth rest
    else c :: rest

/-- The tokens of a text, of which every step takes at least a character. -/
private def tokensFrom : Nat → Nat → List Char → Option (List Token)
  | 0, _, _ => none
  | fuel + 1, depth, text =>
    match skip depth text with
    | [] => some []
    | rest@(c :: _) =>
      if c == '#' then tokensFrom fuel depth (rest.dropWhile (· != '\n'))
      else match token? rest with
        | none => none
        | some (token, after) =>
          let depth := match token with
            | .mark '(' | .mark '\x7b' => depth + 1
            | .mark ')' | .mark '\x7d' => depth - 1
            | _ => depth
          (tokensFrom fuel depth after).map (token :: ·)

def tokens? (text : List Char) : Option (List Token) := tokensFrom (text.length + 1) 0 text

end KotlinAudit.Console.Argument

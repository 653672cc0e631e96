import KotlinAudit.Decimal.Numeral
import KotlinAudit.Pattern.Basic
import KotlinAudit.Pattern.Search
import KotlinAudit.Text.Identifier

/-! Reading a pattern from its written form: literals, character sets, groups with their options,
look-around, repetition and alternatives. A backslash makes a sign stand for itself. -/
namespace KotlinAudit.Pattern

inductive SyntaxError
  | malformed
  /-- A repetition count is beyond all bounds. -/
  | countTooLarge
  /-- A repetition count has more digits than a number may have. -/
  | countTooLong
  /-- Two options exclude each other. -/
  | conflictingOptions
  /-- Groups nest beyond all bounds. -/
  | tooDeep
deriving DecidableEq, Repr

/-- A sign of the notation, or a character that stands for itself. -/
inductive Sign
  | plain (c : Char)
  | escaped (c : Char)
deriving DecidableEq

/-- Signs of a written pattern, none when a backslash ends it. -/
def signs? : List Char → Option (List Sign)
  | [] => some []
  | ['\\'] => none
  | '\\' :: c :: rest => (signs? rest).map (.escaped c :: ·)
  | c :: rest => (signs? rest).map (.plain c :: ·)

/-- The bound on widths and counts. -/
private def unbounded : Nat := 18446744073709551616
private def countLimit : Nat := 4294967295

/-- How far groups may nest, when a group counts two and a condition one. -/
private def depthLimit : Nat := 984

inductive SetItem
  | one (c : Char)
  /-- The characters between two, both included. -/
  | range (first last : Char)
deriving DecidableEq

private def isBetween (first last c : Char) : Bool := first ≤ c && c ≤ last

/-- Whether a character is beyond the first 65536 ones. Sets hold such letters as they are and
compare them with the lower case of a text. -/
private def isBeyond (c : Char) : Bool := 0xFFFF < c.toNat

def SetItem.accepts (c : Char) : SetItem → Bool
  | one expected => c == expected
  | range first last => isBetween first last c

/-- Whether an item takes a letter up to case, when letters agree that have one folding. -/
def SetItem.acceptsAnyCase (fold : Char → Char) (same : Char → Char → Bool)
    (forms : Char → List Char) (c : Char) : SetItem → Bool
  | one expected => if isBeyond expected then fold c == expected else same expected c
  | range first last =>
    ((forms c).any fun form => !isBeyond form && isBetween first last form) ||
      (isBeyond last &&
        (isBetween first last (fold c) || isBetween first last (raised (fold c))))

inductive PieceKind
  | anchor
  | repetition
  /-- One character out of a set that is written by its members. -/
  | oneOf (items : List SetItem)
  | other
deriving DecidableEq

/-- Anchors and repetitions are not repeated. -/
def PieceKind.isRepeatable : PieceKind → Bool
  | anchor | repetition => false
  | oneOf _ | other => true

/-- A part of a pattern with the least and the greatest width of its matches. -/
structure Piece where
  pattern : Pattern
  least : Nat
  greatest : Nat
  kind : PieceKind

structure Reader where
  rest : List Sign
  /-- Options that hold everywhere. -/
  options : List Char
  /-- Widths of the groups in order of opening, none while a group is open. -/
  widths : List (Option (Nat × Nat))
  names : List (String × Nat)
  /-- How many groups were there when the outermost look-behind began. -/
  behindFrom : Option Nat
  /-- Groups that conditions refer to by number. -/
  tested : List Nat

namespace Reader

def fail {α : Type} : Except SyntaxError α := .error .malformed

def take? (reader : Reader) (c : Char) : Option Reader :=
  match reader.rest with
  | .plain d :: rest => if d = c then some ⟨rest, reader.options, reader.widths, reader.names,
      reader.behindFrom, reader.tested⟩ else none
  | _ => none

def moveTo (reader : Reader) (rest : List Sign) : Reader :=
  ⟨rest, reader.options, reader.widths, reader.names, reader.behindFrom, reader.tested⟩

/-- The signs up to a terminator, which is passed too. -/
def until? (terminator : Char) : List Sign → Option (List Char × List Sign)
  | [] => none
  | .plain c :: rest =>
    if c = terminator then some ([], rest)
    else (until? terminator rest).map fun (text, rest) => (c :: text, rest)
  | .escaped c :: rest => (until? terminator rest).map fun (text, rest) => ('\\' :: c :: text, rest)

/-- Opens a group, giving it the next number. -/
def openGroup (reader : Reader) (name : Option String) : Except SyntaxError (Nat × Reader) :=
  let group := reader.widths.length + 1
  match name with
  | none => .ok (group, ⟨reader.rest, reader.options, reader.widths ++ [none], reader.names,
      reader.behindFrom, reader.tested⟩)
  | some name =>
    if (reader.names.lookup name).isSome then fail
    else .ok (group, ⟨reader.rest, reader.options, reader.widths ++ [none],
      (name, group) :: reader.names, reader.behindFrom, reader.tested⟩)

def closeGroup (reader : Reader) (group : Nat) (piece : Piece) : Reader :=
  ⟨reader.rest, reader.options, reader.widths.set (group - 1) (some (piece.least, piece.greatest)),
    reader.names, reader.behindFrom, reader.tested⟩

def width? (reader : Reader) (group : Nat) : Option (Nat × Nat) :=
  if group = 0 then none else (reader.widths[group - 1]?).join

/-- Inside a look-behind only groups from before it can be referred to. -/
def canRefer (reader : Reader) (group : Nat) : Bool :=
  match reader.behindFrom with
  | none => true
  | some count => (reader.width? group).isSome && group ≤ count

end Reader

def setChar? : Sign → Option Char
  | .plain c => some c
  | .escaped c => if Text.isAsciiLetter c || Text.isAsciiDigit c then none else some c

/-- The items of a character set up to its closing bracket. A bracket that comes first is an item. -/
def setItems? (items : List SetItem) : List Sign → Option (List SetItem × List Sign)
  | [] => none
  | .plain ']' :: rest =>
    if items.isEmpty then
      match rest with
      | .plain '-' :: .plain ']' :: rest => some ([.one ']', .one '-'], rest)
      | .plain '-' :: last :: rest =>
        match setChar? last with
        | none => none
        | some last => if last < ']' then none else setItems? [.range ']' last] rest
      | rest => setItems? [.one ']'] rest
    else some (items, rest)
  | first :: .plain '-' :: .plain ']' :: rest =>
    (setChar? first).map fun c => (.one '-' :: .one c :: items, rest)
  | first :: .plain '-' :: last :: rest =>
    match setChar? first, setChar? last with
    | some first, some last =>
      if last < first then none else setItems? (.range first last :: items) rest
    | _, _ => none
  | first :: rest =>
    match setChar? first with
    | none => none
    | some c => setItems? (.one c :: items) rest

private def optionLetters : List Char := ['i', 'L', 'm', 's', 'x', 'a', 't', 'u']

def agree (options : List Char) : Char → Char → Bool :=
  if options.contains 'i' then if options.contains 'a' then sameBasic else sameLetter
  else (· == ·)

def literal (options : List Char) (c : Char) : Piece :=
  ⟨.char (agree options c), 1, 1, .oneOf [.one c]⟩

def setAccepts (options : List Char) (items : List SetItem) (c : Char) : Bool :=
  items.any fun item =>
    if options.contains 'i' then
      if options.contains 'a' then item.acceptsAnyCase foldBasic sameBasic basicForms c
      else item.acceptsAnyCase fold sameLetter letterForms c
    else item.accepts c

/-- One character inside or outside a set. A set of one character is that character. -/
def setPiece (options : List Char) (negated : Bool) (items : List SetItem) : Piece :=
  let items := items.eraseDups
  let accepts : Char → Bool := match items with
    | [.one expected] => agree options expected
    | items => setAccepts options items
  if negated then ⟨.char (!accepts ·), 1, 1, .other⟩ else ⟨.char accepts, 1, 1, .oneOf items⟩

def sequence : List Piece → Piece
  | [piece] =>
    match piece.kind with
    | .oneOf _ => piece
    | _ => ⟨piece.pattern, piece.least, piece.greatest, .other⟩
  | pieces =>
    pieces.foldr (fun piece rest =>
      ⟨.seq piece.pattern rest.pattern, min unbounded (piece.least + rest.least),
        min unbounded (piece.greatest + rest.greatest), .other⟩) ⟨.empty, 0, 0, .other⟩

def branches : Piece → List Piece → Piece
  | first, [] => first
  | first, second :: rest =>
    let other := branches second rest
    ⟨.either first.pattern other.pattern, min first.least other.least,
      max first.greatest other.greatest, .other⟩

/-- The first of some pieces that leads on. Different characters are one set. -/
def alternatives (options : List Char) (first : Piece) (others : List Piece) : Piece :=
  let items := (first :: others).filterMap fun piece =>
    match piece.kind with
    | .oneOf items => some items
    | _ => none
  if items.length = others.length + 1 && 1 < items.eraseDups.length then
    let members := items.flatten.eraseDups
    ⟨.char (setAccepts options members), 1, 1, .oneOf members⟩
  else branches first others

/-- The least and greatest counts of a repetition sign and what follows it; none when a brace
opens no counts and so stands for itself. -/
def counts? : List Sign → Except SyntaxError (Option (Nat × Option Nat × List Sign))
  | .plain '?' :: rest => .ok (some (0, some 1, rest))
  | .plain '*' :: rest => .ok (some (0, none, rest))
  | .plain '+' :: rest => .ok (some (1, none, rest))
  | .plain '\x7b' :: rest =>
    let digits (text : List Sign) := text.span fun
      | .plain c => Text.isAsciiDigit c
      | _ => false
    let number (text : List Sign) := Decimal.natOfDigits (text.map fun
      | .plain c => c
      | .escaped c => c)
    let (low, afterLow) := digits rest
    let (high, rest, isRange) := match afterLow with
      | .plain ',' :: more => ((digits more).1, (digits more).2, true)
      | more => (low, more, false)
    match rest with
    | .plain '\x7d' :: rest =>
      if low.isEmpty && !isRange then .ok none
      else
        let least := if low.isEmpty then 0 else number low
        let most := if high.isEmpty then none else some (number high)
        if Decimal.maxDigits < low.length then .error .countTooLong
        else if countLimit ≤ least then .error .countTooLarge
        else if Decimal.maxDigits < high.length then .error .countTooLong
        else if most.any (countLimit ≤ ·) then .error .countTooLarge
        else if most.any (· < least) then .error .malformed
        else .ok (some (least, most, rest))
    | _ => .ok none
  | _ => .ok none

def repeatPiece (eager possessive : Bool) (least : Nat) (most : Option Nat) (piece : Piece) :
    Piece :=
  let body := Pattern.repeated eager least most piece.pattern
  let greatest := match most with
    | some count => min unbounded (piece.greatest * count)
    | none => if piece.greatest = 0 then 0 else unbounded
  ⟨if possessive then .committed body else body, min unbounded (piece.least * least), greatest,
    .repetition⟩

private def optionRun : List Sign → List Char × List Sign
  | .plain c :: rest =>
    if optionLetters.contains c then
      let (letters, rest) := optionRun rest
      (c :: letters, rest)
    else ([], .plain c :: rest)
  | rest => ([], rest)

private def isKind (c : Char) : Bool := c == 'a' || c == 'u' || c == 'L'

/-- Options switched on everywhere, or on and off in one group. -/
private inductive OptionGroup
  | everywhere (on : List Char)
  | within (on off : List Char)

private def optionGroup (text : List Sign) : Except SyntaxError (OptionGroup × List Sign) :=
  let (on, rest) := optionRun text
  if on.contains 'L' || (on.contains 'a' && on.contains 'u') then .error .malformed
  else match on, rest with
    | _ :: _, .plain ')' :: rest => .ok (.everywhere on, rest)
    | _ :: _, .plain ':' :: rest =>
      if on.contains 't' then .error .malformed else .ok (.within on [], rest)
    | _, .plain '-' :: rest =>
      let (off, rest) := optionRun rest
      match off, rest with
      | _ :: _, .plain ':' :: rest =>
        if off.any isKind || on.contains 't' || off.contains 't' || on.any off.contains then
          .error .malformed
        else .ok (.within on off, rest)
      | _, _ => .error .malformed
    | _, _ => .error .malformed

/-- The options inside a group: a kind of letters replaces the kind outside. -/
private def localOptions (options on off : List Char) : List Char :=
  let kept := if on.any isKind then options.filter (!isKind ·) else options
  on ++ kept.filter (!off.contains ·)

private def isPatternBlank (c : Char) : Bool :=
  c == ' ' || c == '\t' || c == '\n' || c == '\r' || c == '\x0b' || c == '\x0c'

private def skipRemark : List Sign → List Sign
  | [] => []
  | .plain '\n' :: rest => rest
  | _ :: rest => skipRemark rest

private def atLineStart (cursor : Cursor) : Bool :=
  match cursor.before with
  | [] => true
  | c :: _ => c == '\n'

private def atLineEnd (cursor : Cursor) : Bool :=
  match cursor.after with
  | [] => true
  | c :: _ => c == '\n'

private def anchor (holds : Cursor → Bool) : Piece := ⟨.place holds, 0, 0, .anchor⟩

private def taken : Except SyntaxError (Piece × Reader) →
    Except SyntaxError (Option Piece × Reader)
  | .ok (piece, reader) => .ok (some piece, reader)
  | .error error => .error error

mutual

/-- Alternatives up to a closing parenthesis or the end. -/
def readAlternatives (budget depth : Nat) (options : List Char) (outermost : Bool)
    (reader : Reader) : Except SyntaxError (Piece × Reader) :=
  match budget with
  | 0 => Reader.fail
  | budget + 1 => do
    let (first, reader) ← readSequence budget depth options outermost [] reader
    let (others, reader) ← readOthers budget depth options outermost reader
    return (alternatives (if outermost then reader.options else options) first others, reader)

def readOthers (budget depth : Nat) (options : List Char) (outermost : Bool)
    (reader : Reader) : Except SyntaxError (List Piece × Reader) :=
  match budget with
  | 0 => Reader.fail
  | budget + 1 =>
    match reader.take? '|' with
    | none => .ok ([], reader)
    | some reader => do
      let options := if outermost then reader.options else options
      let (first, reader) ← readSequence budget depth options false [] reader
      let (others, reader) ← readOthers budget depth options outermost reader
      return (first :: others, reader)

/-- The rest of a sequence; `read` holds its pieces so far, the last one first. Options for the
whole pattern are allowed at its very start only. -/
def readSequence (budget depth : Nat) (options : List Char) (atStart : Bool)
    (read : List Piece) (reader : Reader) : Except SyntaxError (Piece × Reader) :=
  match budget with
  | 0 => Reader.fail
  | budget + 1 =>
    match reader.rest with
    | [] | .plain '|' :: _ | .plain ')' :: _ => .ok (sequence read.reverse, reader)
    | .escaped c :: rest =>
      if Text.isAsciiLetter c || Text.isAsciiDigit c then Reader.fail
      else readSequence budget depth options false (literal options c :: read) (reader.moveTo rest)
    | .plain c :: rest =>
      if options.contains 'x' && isPatternBlank c then
        readSequence budget depth options atStart read (reader.moveTo rest)
      else if options.contains 'x' && c == '#' then
        readSequence budget depth options atStart read (reader.moveTo (skipRemark rest))
      else match c with
        | '[' =>
          let (negated, text) := match rest with
            | .plain '^' :: rest => (true, rest)
            | rest => (false, rest)
          match setItems? [] text with
          | none => Reader.fail
          | some (items, rest) =>
            readSequence budget depth options false
              (setPiece options negated items :: read) (reader.moveTo rest)
        | '^' =>
          let holds := if options.contains 'm' then atLineStart else Cursor.atStart
          readSequence budget depth options false (anchor holds :: read) (reader.moveTo rest)
        | '$' =>
          let holds := if options.contains 'm' then atLineEnd else Cursor.atEnd
          readSequence budget depth options false (anchor holds :: read) (reader.moveTo rest)
        | '.' =>
          let accepts : Char → Bool := if options.contains 's' then fun _ => true else (· != '\n')
          readSequence budget depth options false (⟨.char accepts, 1, 1, .other⟩ :: read)
            (reader.moveTo rest)
        | '(' => do
          let (piece, reader) ← readGroup budget depth options (atStart && read.isEmpty) (reader.moveTo rest)
          match piece with
          | none =>
            let options := if atStart && read.isEmpty then reader.options else options
            readSequence budget depth options atStart read reader
          | some piece => readSequence budget depth options false (piece :: read) reader
        | c =>
          if c == '?' || c == '*' || c == '+' || c == '\x7b' then
            match counts? (.plain c :: rest) with
            | .error error => .error error
            | .ok none => readSequence budget depth options false (literal options c :: read)
                (reader.moveTo rest)
            | .ok (some (least, most, rest)) =>
              match read with
              | [] => Reader.fail
              | piece :: read =>
                if !piece.kind.isRepeatable then Reader.fail
                else
                  let (eager, possessive, rest) := match rest with
                    | .plain '?' :: rest => (false, false, rest)
                    | .plain '+' :: rest => (true, true, rest)
                    | rest => (true, false, rest)
                  readSequence budget depth options false
                    (repeatPiece eager possessive least most piece :: read) (reader.moveTo rest)
          else readSequence budget depth options false (literal options c :: read) (reader.moveTo rest)

/-- A group after its opening parenthesis; none for a remark and for options of the whole pattern. -/
private def readGroup (budget depth : Nat) (options : List Char) (atStart : Bool) (reader : Reader) :
    Except SyntaxError (Option Piece × Reader) :=
  match budget with
  | 0 => Reader.fail
  | budget + 1 =>
    if depthLimit ≤ depth then .error .tooDeep
    else match reader.rest with
    | .plain '?' :: .plain 'P' :: .plain '<' :: rest =>
      match Reader.until? '>' rest with
      | none => Reader.fail
      | some (name, rest) =>
        if Text.isIdentifier name then
          taken <| readCapture budget depth options (some (String.ofList name)) (reader.moveTo rest)
        else Reader.fail
    | .plain '?' :: .plain 'P' :: .plain '=' :: rest =>
      match Reader.until? ')' rest with
      | none => Reader.fail
      | some (name, rest) =>
        match reader.names.lookup (String.ofList name) with
        | none => Reader.fail
        | some group =>
          match reader.width? group with
          | none => Reader.fail
          | some (least, greatest) =>
            if reader.canRefer group then
              let same : Char → Char → Bool :=
                if options.contains 'i' then
                  if options.contains 'a' then fun c d => foldBasic c == foldBasic d else sameFold
                else (· == ·)
              .ok (some ⟨.again group same, least, greatest, .other⟩, reader.moveTo rest)
            else Reader.fail
    | .plain '?' :: .plain ':' :: rest => taken <| readPlain budget depth options (reader.moveTo rest)
    | .plain '?' :: .plain '>' :: rest => do
      let (piece, reader) ← readPlain budget depth options (reader.moveTo rest)
      return (some ⟨.committed piece.pattern, piece.least, piece.greatest, .other⟩, reader)
    | .plain '?' :: .plain '#' :: rest =>
      match Reader.until? ')' rest with
      | none => Reader.fail
      | some (_, rest) => .ok (none, reader.moveTo rest)
    | .plain '?' :: .plain '=' :: rest => do
      let (piece, reader) ← readPlain budget depth options (reader.moveTo rest)
      return (some ⟨.ahead true piece.pattern, 0, 0, .other⟩, reader)
    | .plain '?' :: .plain '!' :: rest => do
      let (piece, reader) ← readPlain budget depth options (reader.moveTo rest)
      return (some ⟨.ahead false piece.pattern, 0, 0, .other⟩, reader)
    | .plain '?' :: .plain '<' :: .plain '=' :: rest =>
      taken <| readBehind budget depth options true (reader.moveTo rest)
    | .plain '?' :: .plain '<' :: .plain '!' :: rest =>
      taken <| readBehind budget depth options false (reader.moveTo rest)
    | .plain '?' :: .plain '(' :: rest =>
      match Reader.until? ')' rest with
      | none => Reader.fail
      | some (name, rest) => taken <| readCondition budget depth options name (reader.moveTo rest)
    | .plain '?' :: rest => do
      match ← optionGroup rest with
      | (.everywhere on, rest) =>
        if atStart then
          return (none, ⟨rest, on ++ reader.options, reader.widths, reader.names,
            reader.behindFrom, reader.tested⟩)
        else Reader.fail
      | (.within on off, rest) =>
        taken do
          let (piece, reader) ←
            readPlain budget depth (localOptions options on off) (reader.moveTo rest)
          return (⟨piece.pattern, piece.least, piece.greatest, .other⟩, reader)
    | _ => taken <| readCapture budget depth options none reader

/-- What a group without a number holds, and its closing parenthesis. -/
private def readPlain (budget depth : Nat) (options : List Char) (reader : Reader) :
    Except SyntaxError (Piece × Reader) :=
  match budget with
  | 0 => Reader.fail
  | budget + 1 => do
    let (piece, reader) ← readAlternatives budget (depth + 2) options false reader
    match reader.take? ')' with
    | none => Reader.fail
    | some reader => return (piece, reader)

private def readCapture (budget depth : Nat) (options : List Char) (name : Option String)
    (reader : Reader) : Except SyntaxError (Piece × Reader) :=
  match budget with
  | 0 => Reader.fail
  | budget + 1 => do
    let (group, reader) ← reader.openGroup name
    let (piece, reader) ← readAlternatives budget (depth + 2) options false reader
    match reader.take? ')' with
    | none => Reader.fail
    | some reader =>
      return (⟨.capture group piece.pattern, piece.least, piece.greatest, .other⟩,
        reader.closeGroup group piece)

/-- A look-behind; all its matches must have one width. -/
private def readBehind (budget depth : Nat) (options : List Char) (wanted : Bool) (reader : Reader) :
    Except SyntaxError (Piece × Reader) :=
  match budget with
  | 0 => Reader.fail
  | budget + 1 => do
    let outer := reader.behindFrom
    let inside : Reader := ⟨reader.rest, reader.options, reader.widths, reader.names,
      outer.or (some reader.widths.length), reader.tested⟩
    let (piece, reader) ← readAlternatives budget (depth + 2) options false inside
    match reader.take? ')' with
    | none => Reader.fail
    | some reader =>
      if piece.least = piece.greatest && piece.least ≤ countLimit then
        return (⟨.behind wanted piece.least piece.pattern, 0, 0, .other⟩,
          ⟨reader.rest, reader.options, reader.widths, reader.names, outer, reader.tested⟩)
      else Reader.fail

/-- One of two sequences, chosen by whether a group has captured anything. -/
private def readCondition (budget depth : Nat) (options : List Char) (name : List Char)
    (reader : Reader) : Except SyntaxError (Piece × Reader) :=
  match budget with
  | 0 => Reader.fail
  | budget + 1 => do
    let (group, tested) ← match reader.names.lookup (String.ofList name) with
      | some group => .ok (group, reader.tested)
      | none =>
        match Decimal.integer? name with
        | none => .error .malformed
        | some number =>
          if 0 < number then .ok (number.toNat, number.toNat :: reader.tested)
          else .error .malformed
    if !reader.canRefer group then Reader.fail
    else
      let reader : Reader := ⟨reader.rest, reader.options, reader.widths, reader.names,
        reader.behindFrom, tested⟩
      let (present, reader) ← readSequence budget (depth + 1) options false [] reader
      let (absent, reader) ← match reader.take? '|' with
        | none => .ok ((⟨.empty, 0, 0, .other⟩ : Piece), reader)
        | some reader => readSequence budget (depth + 1) options false [] reader
      match reader.take? ')' with
      | none => Reader.fail
      | some reader =>
        return (⟨.ifCaptured group present.pattern absent.pattern,
          min present.least absent.least, max present.greatest absent.greatest, .other⟩, reader)

end

/-- Whether any part of a pattern is repeated. -/
def hasRepetition : Pattern → Bool
  | seq first second => first.hasRepetition || second.hasRepetition
  | either preferred other => preferred.hasRepetition || other.hasRepetition
  | repeated _ _ _ _ => true
  | capture _ body | ahead _ body | behind _ _ body | committed body => body.hasRepetition
  | ifCaptured _ present absent => present.hasRepetition || absent.hasRepetition
  | _ => false

/-- The pattern that a text writes down. Under the option `t` nothing may be repeated. -/
def read (text : List Char) : Except SyntaxError Pattern :=
  match signs? text with
  | none => .error .malformed
  | some signs =>
    -- a sign is passed at least once in four steps
    match readAlternatives (4 * signs.length + 4) 0 [] true ⟨signs, [], [], [], none, []⟩ with
    | .error error => .error error
    | .ok (piece, reader) =>
      if reader.options.contains 'a' && reader.options.contains 'u' then .error .conflictingOptions
      else if !reader.rest.isEmpty || reader.tested.any (reader.widths.length < ·) then
        .error .malformed
      else if reader.options.contains 't' && piece.pattern.hasRepetition then .error .malformed
      else .ok piece.pattern

end KotlinAudit.Pattern

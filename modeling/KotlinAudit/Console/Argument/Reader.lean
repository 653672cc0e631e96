import KotlinAudit.Console.Argument.Token

/-! The arguments of a handler that a tag calls: values written out, alone or in groups. They are
never passed on, so a reader tells only of what kind a value is. Every reading uses up a step. -/
namespace KotlinAudit.Console.Argument

/-- The kind of values between round brackets; without a comma the brackets only group. -/
private def grouped : List Kind → Bool → Kind
  | [kind], false => kind
  | kinds, _ => if kinds.all Kind.isKey then .fixed else .changeable

private def isQuoted : Token → Bool
  | .literal .text | .literal .octets => true
  | _ => false

private def isSign (c : Char) : Bool := c == '+' || c == '-'

/-- Whether nothing but the end of a group can follow. -/
private def isClosed : List Token → Bool
  | [] => true
  | .mark c :: _ => c == ')' || c == '\x7d'
  | _ => false

mutual

/-- A value: an operand, or the sum of a real and an imaginary number. -/
private def value? : Nat → List Token → Option (Kind × List Token)
  | 0, _ => none
  | steps + 1, tokens =>
    match operand? steps tokens with
    | some (.real signed, .mark c :: rest) =>
      if isSign c then
        match operand? steps rest with
        | some (.imaginary false, rest) => some (.fixed, rest)
        | _ => none
      else some (.real signed, .mark c :: rest)
    | found => found

/-- A value without a sum. -/
private def operand? : Nat → List Token → Option (Kind × List Token)
  | 0, _ => none
  | steps + 1, tokens =>
    match tokens with
    | .literal kind :: rest =>
      if isQuoted (.literal kind) then
        if (rest.takeWhile isQuoted).all (· == .literal kind) then
          some (kind, rest.dropWhile isQuoted)
        else none
      else some (kind, rest)
    | .emptySet :: .mark '(' :: .mark ')' :: rest => some (.changeable, rest)
    | .mark '(' :: .mark ')' :: rest => some (.fixed, rest)
    | .mark '\x7b' :: .mark '\x7d' :: rest => some (.changeable, rest)
    | .mark c :: rest =>
      if isSign c then
        match operand? steps rest with
        | some (.real false, rest) => some (.real true, rest)
        | some (.imaginary false, rest) => some (.imaginary true, rest)
        | _ => none
      else if c == '(' then
        match values? steps rest with
        | some (kinds, hasComma, .mark ')' :: rest) => some (grouped kinds hasComma, rest)
        | _ => none
      else if c == '\x7b' then
        match (pairs? steps rest).orElse fun _ => values? steps rest with
        | some (kinds, _, .mark '\x7d' :: rest) =>
          if kinds.all Kind.isKey then some (.changeable, rest) else none
        | _ => none
      else none
    | _ => none

/-- Values with commas between them, and whether there is a comma. -/
private def values? : Nat → List Token → Option (List Kind × Bool × List Token)
  | 0, _ => none
  | steps + 1, tokens =>
    match value? steps tokens with
    | some (kind, .mark ',' :: rest) =>
      if isClosed rest then some ([kind], true, rest)
      else (values? steps rest).map fun (kinds, _, rest) => (kind :: kinds, true, rest)
    | some (kind, rest) => some ([kind], false, rest)
    | none => none

/-- Keys and their values with commas between the pairs; the kinds are those of the keys. -/
private def pairs? : Nat → List Token → Option (List Kind × Bool × List Token)
  | 0, _ => none
  | steps + 1, tokens =>
    match value? steps tokens with
    | some (key, .mark ':' :: rest) =>
      match value? steps rest with
      | some (_, .mark ',' :: rest) =>
        if isClosed rest then some ([key], true, rest)
        else (pairs? steps rest).map fun (keys, _, rest) => (key :: keys, true, rest)
      | some (_, rest) => some ([key], false, rest)
      | none => none
    | _ => none

end

/-- Whether a text is a value, or several with commas between them. -/
private def isValues (text : List Char) : Bool :=
  match tokens? text with
  | none => false
  | some tokens =>
    match values? (2 * tokens.length + 2) tokens with
    | some (_, _, []) => true
    | _ => false

/-- Whether a text calls a handler: by its name alone, by its name and arguments in round brackets,
or by arguments alone. -/
def isCall (text : List Char) : Bool :=
  let text := Text.trim text
  let name := text.takeWhile fun c => Text.isWord c || c == '.'
  let rest := text.drop name.length
  if rest.isEmpty then true
  else if rest.head? == some '(' && rest.getLast? == some ')' && !rest.contains '\n' then
    isValues rest
  else isValues text

end KotlinAudit.Console.Argument

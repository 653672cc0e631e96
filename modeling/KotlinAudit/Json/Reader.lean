import KotlinAudit.Decimal.Numeral
import KotlinAudit.Json.Token
import KotlinAudit.Keyed

/-! Reading a data text. Arrays and objects that are still open stand on a stack, so that one pass
over the tokens is enough however deep the text nests. -/
namespace KotlinAudit.Json

inductive Container
  | array | object
deriving DecidableEq, Repr

inductive Fault
  /-- The text is not in the notation. -/
  | malformed
  /-- An integer has this many digits. -/
  | tooManyDigits (count : Nat)
  | tooDeep (container : Container)
deriving DecidableEq, Repr

def Container.name : Container → String
  | array => "array"
  | object => "object"

def Fault.message : Fault → String
  | malformed => "not in the notation"
  | tooManyDigits count =>
    "Exceeds the limit (" ++ toString Decimal.maxDigits ++
      " digits) for integer string conversion: value has " ++ toString count ++
      " digits; use sys.set_int_max_str_digits() to increase the limit"
  | tooDeep container =>
    "maximum recursion depth exceeded while decoding a JSON " ++ container.name ++
      " from a unicode string"

def isFractional : List Char → Bool
  | '.' :: c :: _ => Text.isAsciiDigit c
  | e :: sign :: rest =>
    (e == 'e' || e == 'E') && (Text.isAsciiDigit sign ||
      ((sign == '-' || sign == '+') && (rest.head?.map Text.isAsciiDigit).getD false))
  | _ => false

def integerDigits (word : List Char) : List Char :=
  let magnitude := if word.head? == some '-' then word.drop 1 else word
  let (digits, rest) := Decimal.spanDigits magnitude
  if digits.head? == some '0' || isFractional rest then [] else digits

def ofWord (word : List Char) : Except Fault Json :=
  match String.ofList word with
  | "null" => .ok .null
  | "true" => .ok (.bool true)
  | "false" => .ok (.bool false)
  | "NaN" => .ok (.float .nan)
  | "Infinity" => .ok (.float (.infinite false))
  | "-Infinity" => .ok (.float (.infinite true))
  | _ =>
    let count := (integerDigits word).length
    if Decimal.maxDigits < count then .error (.tooManyDigits count)
    else match Decimal.Numeral.read? word with
      | none => .error .malformed
      | some (.whole value) => .ok (.int value)
      | some (.fractional value) => .ok (.float value)


/-- An array or object that is still open, its last part first. -/
inductive Frame
  | array (items : List Json)
  | object (fields : List (String × Json)) (key : String)

/-- What may come next. -/
inductive Expected
  | value
  /-- Right after an array has opened. -/
  | itemOrEnd
  | colon
  | key
  /-- Right after an object has opened. -/
  | keyOrEnd
  /-- After a value inside an array or object. -/
  | more
  | nothing (result : Json)

structure Progress where
  stack : List Frame
  expected : Expected

namespace Progress

def supply (value : Json) : List Frame → Progress
  | [] => ⟨[], .nothing value⟩
  | .array items :: stack => ⟨.array (value :: items) :: stack, .more⟩
  | .object fields key :: stack => ⟨.object ((key, value) :: fields) key :: stack, .more⟩

def value (dialect : Dialect) (stack : List Frame) : Token → Except Fault Progress
  | .word word => (ofWord word).map (supply · stack)
  | .text content => .ok (supply (.text content) stack)
  | .beginArray =>
    if dialect.countsEmpty && dialect.maxDepth ≤ stack.length then .error (.tooDeep .array)
    else .ok ⟨.array [] :: stack, .itemOrEnd⟩
  | .beginObject =>
    if dialect.countsEmpty && dialect.maxDepth ≤ stack.length then .error (.tooDeep .object)
    else .ok ⟨.object [] "" :: stack, .keyOrEnd⟩
  | _ => .error .malformed

/-- Whether something in the innermost array or object would lie too deep. -/
def isFull (dialect : Dialect) (stack : List Frame) : Bool :=
  !dialect.countsEmpty && dialect.maxDepth < stack.length

def objectOf (dialect : Dialect) (fields : List (String × Json)) : Json :=
  if dialect.keepsRepeated then .object fields else .object (Keyed.ofList fields)

def next (dialect : Dialect) (progress : Progress) (token : Token) : Except Fault Progress :=
  match progress.expected, progress.stack, token with
  | .itemOrEnd, .array _ :: stack, .endArray => .ok (supply (.array []) stack)
  | .itemOrEnd, stack, token =>
    if isFull dialect stack then .error (.tooDeep .array) else value dialect stack token
  | .value, stack, token => value dialect stack token
  | .keyOrEnd, .object _ _ :: stack, .endObject => .ok (supply (.object []) stack)
  | .keyOrEnd, .object fields empty :: stack, .text key =>
    if isFull dialect (.object fields empty :: stack) then .error (.tooDeep .object)
    else .ok ⟨.object fields key :: stack, .colon⟩
  | .key, .object fields _ :: stack, .text key => .ok ⟨.object fields key :: stack, .colon⟩
  | .colon, stack, .colon => .ok ⟨stack, .value⟩
  | .more, .array items :: stack, .comma => .ok ⟨.array items :: stack, .value⟩
  | .more, .array items :: stack, .endArray => .ok (supply (.array items.reverse) stack)
  | .more, .object fields key :: stack, .comma => .ok ⟨.object fields key :: stack, .key⟩
  | .more, .object fields _ :: stack, .endObject =>
    .ok (supply (objectOf dialect fields.reverse) stack)
  | _, _, _ => .error .malformed

end Progress

def readChar (dialect : Dialect) (state : Progress × Mode) (c : Char) :
    Except Fault (Progress × Mode) :=
  match state.2.next? dialect c with
  | none => .error .malformed
  | some (tokens, mode) =>
    (tokens.foldlM (Progress.next dialect) state.1).map fun progress => (progress, mode)

/-- The value of a text. Of several faults the first one counts. -/
def read (dialect : Dialect) (text : List Char) : Except Fault Json := do
  let (progress, mode) ← text.foldlM (readChar dialect) (⟨[], .value⟩, .between)
  let some tokens := mode.last? | throw .malformed
  let progress ← tokens.foldlM (Progress.next dialect) progress
  match progress.expected with
  | .nothing result => return result
  | _ => throw .malformed

end KotlinAudit.Json

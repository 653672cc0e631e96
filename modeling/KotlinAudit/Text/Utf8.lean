/-! UTF-8: the octets that stand for characters, and reading octets. Where they are ill-formed, the
longest beginning of a character that could not be finished is read as one replacement character. -/
namespace KotlinAudit.Text.Utf8

/-- A character of which some octets are still owed. The next octet has to lie between two bounds,
which keeps out overlong forms and halves of surrogate pairs. -/
structure Pending where
  owed : Nat
  least : Nat
  most : Nat
  value : Nat

def replacement : Char := '\uFFFD'

/-- An octet where a character begins: a whole character, or the start of a longer one. -/
def begin (octet : Nat) : Char ⊕ Pending :=
  if octet < 0x80 then .inl (Char.ofNat octet)
  else if octet < 0xC2 then .inl replacement
  else if octet < 0xE0 then .inr ⟨1, 0x80, 0xBF, octet - 0xC0⟩
  else if octet < 0xF0 then
    .inr ⟨2, if octet = 0xE0 then 0xA0 else 0x80, if octet = 0xED then 0x9F else 0xBF, octet - 0xE0⟩
  else if octet < 0xF5 then
    .inr ⟨3, if octet = 0xF0 then 0x90 else 0x80, if octet = 0xF4 then 0x8F else 0xBF, octet - 0xF0⟩
  else .inl replacement

def resume (octet : Nat) : List Char × Option Pending :=
  match begin octet with
  | .inl c => ([c], none)
  | .inr pending => ([], some pending)

/-- One more octet: the characters it completes, and what is owed after it. -/
def next (octet : Nat) : Option Pending → List Char × Option Pending
  | none => resume octet
  | some pending =>
    if pending.least ≤ octet && octet ≤ pending.most then
      let value := pending.value * 64 + (octet - 0x80)
      if pending.owed ≤ 1 then ([Char.ofNat value], none)
      else ([], some ⟨pending.owed - 1, 0x80, 0xBF, value⟩)
    else
      let (chars, after) := resume octet
      (replacement :: chars, after)

def readFrom (pending : Option Pending) : List Nat → List Char
  | [] => if pending.isSome then [replacement] else []
  | octet :: rest =>
    let (chars, after) := next octet pending
    chars ++ readFrom after rest

def read (octets : List Nat) : List Char := readFrom none octets

def writeChar (c : Char) : List Nat :=
  let n := c.toNat
  if n < 0x80 then [n]
  else if n < 0x800 then [0xC0 + n / 64, 0x80 + n % 64]
  else if n < 0x10000 then [0xE0 + n / 4096, 0x80 + n / 64 % 64, 0x80 + n % 64]
  else [0xF0 + n / 262144, 0x80 + n / 4096 % 64, 0x80 + n / 64 % 64, 0x80 + n % 64]

def write (text : List Char) : List Nat := text.flatMap writeChar

/-- The characters that some octets stand for, none where the octets are ill-formed. What is read in
their place would be written otherwise. -/
def read? (octets : List Nat) : Option (List Char) :=
  let text := read octets
  if write text == octets then some text else none

end KotlinAudit.Text.Utf8

import KotlinAudit.Decimal.Binary64

/-! The shortest decimal that reads back as the same number, and the ways of laying it out. -/
namespace KotlinAudit.Decimal

/-- A decimal number `0.d₁d₂… * 10 ^ point` by its digits, the first one not zero. -/
structure Digits where
  digits : List Char
  point : Int

/-- The greatest exponent of ten whose power is at most `num / den`, for a positive quotient. -/
def decimalExponent (num den : Nat) : Int :=
  let guess : Int := Binary64.leadingExponent num den * 30103 / 100000
  let reaches (e : Int) : Bool :=
    if 0 ≤ e then den * Nat.pow 10 e.toNat ≤ num else den ≤ num * Nat.pow 10 (-e).toNat
  if reaches (guess + 1) then guess + 1
  else if reaches guess then guess
  else guess - 1

/-- Of the two multiples of `10 ^ unit` around `num / den` those that read back as `number`, the
nearer one if both do. -/
def candidate (number : Binary64) (num den : Nat) (unit : Int) : Option Nat :=
  let (n, d) : Nat × Nat :=
    if 0 ≤ unit then (num, den * Nat.pow 10 unit.toNat) else (num * Nat.pow 10 (-unit).toNat, den)
  let below := n / d
  let readsBack (digits : Nat) : Bool := Binary64.ofDecimal false digits unit == number
  match readsBack below, readsBack (below + 1) with
  | true, true => some (roundedQuotient n d)
  | true, false => some below
  | false, true => some (below + 1)
  | false, false => none

/-- The fewest digits that read back; seventeen always do. -/
def shortestDigits (mantissa : Nat) (exponent : Int) : Digits :=
  let number := Binary64.finite false mantissa exponent
  let (num, den) := scaled mantissa 1 (-exponent)
  let top := decimalExponent num den
  let found := (List.range 17).findSome? fun (extra : Nat) =>
    let unit : Int := top - (extra : Int)
    (candidate number num den unit).map fun digits => (digits, unit)
  let (digits, unit) : Nat × Int := found.getD (0, 0)
  let text := (toString digits).toList
  ⟨text.reverse.dropWhile (· == '0') |>.reverse, text.length + unit⟩

/-- How a shortest decimal is laid out: the range of the point's place that is written without an
exponent, and the look of the exponent otherwise. -/
structure Layout where
  /-- The least place of the point that is written out with leading zeros. -/
  firstPositional : Int
  /-- The greatest place of the point that is written out with trailing zeros. -/
  lastPositional : Int
  /-- Puts a plus sign before exponents that are not negative. -/
  plusSign : Bool
  /-- The least count of digits in an exponent. -/
  exponentDigits : Nat

/-- Data files write numbers from `0.00001` to below `10 ^ 16` positionally. -/
def Layout.dataFile : Layout := ⟨-4, 16, true, 1⟩

/-- Messages write numbers from `0.0001` to below `10 ^ 16` positionally. -/
def Layout.message : Layout := ⟨-3, 16, true, 2⟩

def zeros (count : Int) : List Char := List.replicate count.toNat '0'

def exponentText (layout : Layout) (exponent : Int) : List Char :=
  let digits := (toString exponent.natAbs).toList
  let sign := if exponent < 0 then ['-'] else if layout.plusSign then ['+'] else []
  sign ++ zeros (layout.exponentDigits - digits.length) ++ digits

def Digits.toText (layout : Layout) : Digits → List Char
  | ⟨digits, point⟩ =>
    if layout.firstPositional ≤ point && point ≤ layout.lastPositional then
      if point ≤ 0 then ['0', '.'] ++ zeros (-point) ++ digits
      else
        let whole := digits.take point.toNat
        let rest := digits.drop point.toNat
        whole ++ zeros (point - digits.length) ++ ['.'] ++ (if rest.isEmpty then ['0'] else rest)
    else
      match digits with
      | [] => []
      | first :: rest =>
        first :: (if rest.isEmpty then [] else '.' :: rest) ++ 'e' :: exponentText layout (point - 1)

/-- The shortest text of a number, whole numbers with `.0`. -/
def Binary64.toShortest (layout : Layout) : Binary64 → String
  | .nan => "nan"
  | .infinite negative => if negative then "-inf" else "inf"
  | .finite negative mantissa exponent =>
    let magnitude :=
      if mantissa = 0 then ['0', '.', '0'] else (shortestDigits mantissa exponent).toText layout
    String.ofList ((if negative then ['-'] else []) ++ magnitude)

end KotlinAudit.Decimal

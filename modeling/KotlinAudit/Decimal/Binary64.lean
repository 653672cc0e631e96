/-! Binary floating-point numbers of 64 bits as exact data, with arithmetic that is exact rational arithmetic
followed by one rounding to the nearest number, a tie going to the even neighbour. Written with a fixed
count of decimal places, a number is rounded from its exact value in the same way. -/
namespace KotlinAudit.Decimal

/-- A finite number is `mantissa * 2 ^ exponent` with a sign of its own, so that zero has two. -/
inductive Binary64
  | nan
  | infinite (negative : Bool)
  | finite (negative : Bool) (mantissa : Nat) (exponent : Int)
deriving DecidableEq, Repr, Inhabited

/-- The quotient rounded to the nearest natural number, a tie to the even one. -/
def roundedQuotient (num den : Nat) : Nat :=
  let quotient := num / den
  let remainder := num % den
  if 2 * remainder < den then quotient
  else if den < 2 * remainder then quotient + 1
  else quotient + quotient % 2

/-- `num / den` divided by `2 ^ exponent`, as a numerator and a denominator. -/
def scaled (num den : Nat) (exponent : Int) : Nat × Nat :=
  if 0 ≤ exponent then (num, den * Nat.pow 2 exponent.toNat)
  else (num * Nat.pow 2 (-exponent).toNat, den)

namespace Binary64

/-- The greatest exponent of two whose power is at most `num / den`. -/
def leadingExponent (num den : Nat) : Int :=
  let guess : Int := (num.log2 : Int) - (den.log2 : Int)
  let (n, d) := scaled num den guess
  if n < d then guess - 1 else guess

def zero : Binary64 := finite false 0 (-1074)

/-- The number nearest to `num / den`. Mantissas have 53 bits, fewer only at the lowest exponent;
what rounds beyond the largest number is infinite. -/
def nearest (negative : Bool) (num den : Nat) : Binary64 :=
  if num = 0 then finite negative 0 (-1074)
  else
    let exponent := max (-1074) (leadingExponent num den - 52)
    let (n, d) := scaled num den exponent
    let mantissa := roundedQuotient n d
    let (mantissa, exponent) :=
      if mantissa = Nat.pow 2 53 then (Nat.pow 2 52, exponent + 1) else (mantissa, exponent)
    if 971 < exponent then infinite negative else finite negative mantissa exponent

/-- The number nearest to a rational; zero is positive. -/
def ofRat (value : Rat) : Binary64 := nearest (value.num < 0) value.num.natAbs value.den

def toRat? : Binary64 → Option Rat
  | finite negative mantissa exponent =>
    let magnitude : Rat := (mantissa : Rat) * (2 : Rat) ^ exponent
    some (if negative then -magnitude else magnitude)
  | _ => none

def isFinite : Binary64 → Bool
  | finite .. => true
  | _ => false

/-- A rational as a number, none when it is beyond the largest one. -/
def ofRat? (value : Rat) : Option Binary64 :=
  match ofRat value with
  | infinite _ => none
  | number => some number

/-- An integer as a number, none when it is beyond the largest one. -/
def ofInt? (value : Int) : Option Binary64 := ofRat? value

/-- The order of numbers; nothing is before or after a number that is none. -/
def lt : Binary64 → Binary64 → Bool
  | nan, _ | _, nan => false
  | infinite negative, infinite other => negative && !other
  | infinite negative, finite .. => negative
  | finite .., infinite other => !other
  | x@(finite ..), y@(finite ..) => decide (x.toRat?.getD 0 < y.toRat?.getD 0)

def abs : Binary64 → Binary64
  | nan => nan
  | infinite _ => infinite false
  | finite _ mantissa exponent => finite false mantissa exponent

def neg : Binary64 → Binary64
  | nan => nan
  | infinite negative => infinite !negative
  | finite negative mantissa exponent => finite (!negative) mantissa exponent

def isNegative : Binary64 → Bool
  | nan => false
  | infinite negative | finite negative _ _ => negative

/-- The sum; a sum of zero is negative only when both terms are. -/
def add : Binary64 → Binary64 → Binary64
  | nan, _ | _, nan => nan
  | infinite negative, infinite other => if negative = other then infinite negative else nan
  | infinite negative, finite .. => infinite negative
  | finite .., infinite other => infinite other
  | x@(finite ..), y@(finite ..) =>
    let sum := x.toRat?.getD 0 + y.toRat?.getD 0
    if sum = 0 then nearest (x.isNegative && y.isNegative) 0 1 else ofRat sum

def sub (x y : Binary64) : Binary64 := add x y.neg

def isZero : Binary64 → Bool
  | finite _ mantissa _ => mantissa = 0
  | _ => false

/-- The product, negative when exactly one factor is. -/
def mul (x y : Binary64) : Binary64 :=
  let negative := x.isNegative != y.isNegative
  match x.toRat?, y.toRat? with
  | some a, some b =>
    let product := a * b
    nearest negative product.num.natAbs product.den
  | _, _ =>
    if x = nan || y = nan || x.isZero || y.isZero then nan else infinite negative

/-- The quotient; a divisor of zero gives an infinite number or none at all. -/
def div (x y : Binary64) : Binary64 :=
  let negative := x.isNegative != y.isNegative
  match x.toRat?, y.toRat? with
  | some a, some b =>
    if b = 0 then (if a = 0 then nan else infinite negative)
    else
      let quotient := a / b
      nearest negative quotient.num.natAbs quotient.den
  | some _, none => if y = nan then nan else finite negative 0 (-1074)
  | none, some _ => if x = nan then nan else infinite negative
  | none, none => nan

/-- The number nearest to `digits * 10 ^ exponent`. Exponents far outside the range are decided
without computing the power. -/
def ofDecimal (negative : Bool) (digits : Nat) (exponent : Int) : Binary64 :=
  if digits = 0 then finite negative 0 (-1074)
  else
    -- `digits` lies between two powers of two, hence below this power of ten
    let size : Int := (digits.log2 : Int) * 30103 / 100000 + 1
    if 400 < size + exponent then infinite negative
    else if size + exponent < -400 then finite negative 0 (-1074)
    else if 0 ≤ exponent then nearest negative (digits * Nat.pow 10 exponent.toNat) 1
    else nearest negative digits (Nat.pow 10 (-exponent).toNat)

end Binary64

/-- The whole number `units / 10 ^ places` written out with exactly that many places. -/
def placed (places units : Nat) : String :=
  let whole := toString (units / Nat.pow 10 places)
  if places = 0 then whole
  else
    let digits := toString (units % Nat.pow 10 places)
    whole ++ "." ++ String.ofList (List.replicate (places - digits.length) '0') ++ digits

/-- A negative number that rounds to zero keeps its sign. -/
def Binary64.toFixed (places : Nat) : Binary64 → String
  | .nan => "nan"
  | .infinite negative => if negative then "-inf" else "inf"
  | .finite negative mantissa exponent =>
    let (num, den) := scaled mantissa 1 (-exponent)
    (if negative then "-" else "") ++ placed places (roundedQuotient (num * Nat.pow 10 places) den)

end KotlinAudit.Decimal

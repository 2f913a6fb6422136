/-! Real numbers of double precision: whole numbers below 2 ^ 53 times powers of two. What lies
between two of them is rounded to the nearer one, and halfway to the one whose whole number is
even. -/
namespace ReviewContext

/-- A whole number times a power of two, which is 2 ^ -1074 or as small as the whole number lets it
be; or a number beyond all of them, or none. -/
inductive Real
  | finite (negative : Bool) (mantissa : Nat) (exponent : Int)
  | infinite (negative : Bool)
  | undefined
deriving DecidableEq, Repr

/-- The whole number nearest to a quotient, the even one of two. -/
def roundedQuotient (dividend divisor : Nat) : Nat :=
  let quotient := dividend / divisor
  let twice := 2 * (dividend % divisor)
  if divisor < twice ∨ (twice = divisor ∧ quotient % 2 = 1) then quotient + 1 else quotient

namespace Real

def zero (negative : Bool) : Real := finite negative 0 (-1074)

def scaled (numerator denominator : Nat) (exponent : Int) : Nat × Nat :=
  if 0 ≤ exponent then (numerator, denominator * Nat.pow 2 exponent.toNat)
  else (numerator * Nat.pow 2 (-exponent).toNat, denominator)

/-- The power of two that leaves a fraction 53 digits before the point. -/
def exponentOf (numerator denominator : Nat) : Int :=
  let low : Int := max (-1074) ((numerator.log2 : Int) - denominator.log2 - 53)
  let (n, d) := scaled numerator denominator low
  if Nat.pow 2 53 ≤ n / d then low + 1 else low

/-- The number nearest to a fraction; one too large for any is infinite. -/
def ofRatio (negative : Bool) (numerator denominator : Nat) : Real :=
  if numerator = 0 then zero negative
  else
    let exponent := exponentOf numerator denominator
    let (n, d) := scaled numerator denominator exponent
    let mantissa := roundedQuotient n d
    let full := mantissa = Nat.pow 2 53
    let exponent := if full then exponent + 1 else exponent
    if 971 < exponent then infinite negative
    else finite negative (if full then Nat.pow 2 52 else mantissa) exponent

def ofScaled (negative : Bool) (mantissa : Nat) (exponent : Int) : Real :=
  let (n, d) := scaled mantissa 1 (-exponent)
  ofRatio negative n d

def ofDecimal (negative : Bool) (digits : Nat) (exponent : Int) : Real :=
  let size := (toString digits).length + exponent
  if digits = 0 ∨ size < -330 then zero negative
  else if 310 < size then infinite negative
  else if 0 ≤ exponent then ofRatio negative (digits * Nat.pow 10 exponent.toNat) 1
  else ofRatio negative digits (Nat.pow 10 (-exponent).toNat)

def ofInt (n : Int) : Real := ofRatio (n < 0) n.natAbs 1

def signed (negative : Bool) (n : Nat) : Int := if negative then -n else n

def neg : Real → Real
  | finite negative mantissa exponent => finite (!negative) mantissa exponent
  | infinite negative => infinite (!negative)
  | undefined => undefined

/-- Two numbers as whole multiples of the smaller of their powers of two. -/
def aligned (a b : Bool × Nat × Int) : Int × Int × Int :=
  let exponent := min a.2.2 b.2.2
  let part := fun x : Bool × Nat × Int => signed x.1 (x.2.1 * Nat.pow 2 (x.2.2 - exponent).toNat)
  (part a, part b, exponent)

def add : Real → Real → Real
  | finite s m e, finite s' m' e' =>
    let (a, b, exponent) := aligned (s, m, e) (s', m', e')
    if a + b = 0 then zero (s && s') else ofScaled (a + b < 0) (a + b).natAbs exponent
  | finite .., infinite s => infinite s
  | infinite s, finite .. => infinite s
  | infinite s, infinite s' => if s = s' then infinite s else undefined
  | undefined, _ | _, undefined => undefined

def sub (a b : Real) : Real := a.add b.neg

def mul : Real → Real → Real
  | finite s m e, finite s' m' e' => ofScaled (s != s') (m * m') (e + e')
  | finite s m _, infinite s' | infinite s', finite s m _ =>
    if m = 0 then undefined else infinite (s != s')
  | infinite s, infinite s' => infinite (s != s')
  | undefined, _ | _, undefined => undefined

/-- Whether one number is below another; an undefined one is not, and nothing is below it. -/
def isBelow : Real → Real → Bool
  | finite s m e, finite s' m' e' =>
    let (a, b, _) := aligned (s, m, e) (s', m', e')
    a < b
  | finite .., infinite s => !s
  | infinite s, finite .. => s
  | infinite s, infinite s' => s && !s'
  | undefined, _ | _, undefined => false

def isSame (a b : Real) : Bool := a != undefined && b != undefined && !a.isBelow b && !b.isBelow a

def isNegative (r : Real) : Bool := r.isBelow (zero false)

def isPositive (r : Real) : Bool := (zero false).isBelow r

def isZero (r : Real) : Bool := r.isSame (zero false)

def floor : Real → Int
  | finite negative mantissa exponent =>
    if 0 ≤ exponent then signed negative (mantissa * Nat.pow 2 exponent.toNat)
    else Int.fdiv (signed negative mantissa) (Nat.pow 2 (-exponent).toNat)
  | infinite _ | undefined => 0

def ceiling (r : Real) : Int := -r.neg.floor

/-- How often a number goes into a whole number, the rest left out. -/
def floorQuotient? (n : Nat) : Real → Option Int
  | finite negative mantissa exponent =>
    let (above, below) := scaled n mantissa exponent
    some (Int.fdiv above (signed negative below))
  | infinite _ => some 0
  | undefined => none

end Real

end ReviewContext

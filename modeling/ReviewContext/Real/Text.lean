import ReviewContext.Real.Basic

/-! Real numbers in text: with the fewest digits that read back as the same number. -/
namespace ReviewContext.Real

def decade (mantissa : Nat) (exponent : Int) : Int :=
  if 0 ≤ exponent then (toString (mantissa * Nat.pow 2 exponent.toNat)).length - 1
  else (toString (mantissa * Nat.pow 10 330 / Nat.pow 2 (-exponent).toNat)).length - 331

/-- The two decimals around a number whose last digit stands for a power of ten, the nearer one
first. -/
def neighbours (mantissa : Nat) (exponent place : Int) : Nat × Nat :=
  let (n, d) := scaled mantissa 1 (-exponent)
  let (n, d) :=
    if 0 ≤ place then (n, d * Nat.pow 10 place.toNat) else (n * Nat.pow 10 (-place).toNat, d)
  let nearest := roundedQuotient n d
  (nearest, if nearest = n / d then nearest + 1 else n / d)

def shortestFrom (mantissa : Nat) (exponent : Int) (place : Int) : Nat → Nat × Int
  | 0 => ((neighbours mantissa exponent place).1, place)
  | more + 1 =>
    let readsBack :=
      fun digits : Nat => ofDecimal false digits place == finite false mantissa exponent
    let (nearer, other) := neighbours mantissa exponent place
    if readsBack nearer then (nearer, place)
    else if readsBack other then (other, place)
    else shortestFrom mantissa exponent (place - 1) more

/-- The fewest digits that read back, and the power of ten of the last of them. Seventeen are always
enough. -/
def shortest (mantissa : Nat) (exponent : Int) : Nat × Int :=
  shortestFrom mantissa exponent (decade mantissa exponent) 16

def positional (digits : List Char) (point : Int) : List Char :=
  if point ≤ 0 then '0' :: '.' :: (List.replicate (-point).toNat '0' ++ digits)
  else if digits.length ≤ point.toNat then
    digits ++ List.replicate (point.toNat - digits.length) '0' ++ ['.', '0']
  else digits.take point.toNat ++ '.' :: digits.drop point.toNat

def exponentText (exponent : Int) : List Char :=
  let digits := (toString exponent.natAbs).toList
  'e' :: (if exponent < 0 then '-' else '+') ::
    (if digits.length < 2 then '0' :: digits else digits)

def scientific (digits : List Char) (exponent : Int) : List Char :=
  digits.take 1 ++ (if digits.length = 1 then [] else '.' :: digits.drop 1) ++ exponentText exponent

/-- The text of a positive number: from one ten-thousandth to less than ten to the sixteenth the
digits stand at their places. -/
def sizeText (mantissa : Nat) (exponent : Int) : List Char :=
  let (number, place) := shortest mantissa exponent
  let written := (toString number).toList
  let digits := (written.reverse.dropWhile (· == '0')).reverse
  let first := place + written.length - 1
  if -4 ≤ first ∧ first < 16 then positional digits (first + 1) else scientific digits first

def toText : Real → String
  | finite negative mantissa exponent =>
    (if negative then "-" else "")
      ++ String.ofList (if mantissa = 0 then ['0', '.', '0'] else sizeText mantissa exponent)
  | infinite negative => if negative then "-inf" else "inf"
  | undefined => "nan"

end ReviewContext.Real

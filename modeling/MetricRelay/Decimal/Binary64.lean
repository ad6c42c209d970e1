-- Binary64 numbers by their bits. A finite number is a sign and a natural number of units, the unit
-- being the least subnormal, so every rounding is a question about natural numbers.

namespace MetricRelay

-- One sign bit, eleven exponent bits and fifty-two fraction bits.
structure Binary64 where
  bits : UInt64
deriving DecidableEq, Repr, Inhabited

-- The nearest natural number to `num / den`; halfway cases go to the even neighbour.
def roundHalfEven (num den : Nat) : Nat :=
  let whole := num / den
  let rest := num % den
  if 2 * rest < den then whole
  else if den < 2 * rest then whole + 1
  else whole + whole % 2

namespace Binary64

def isNegative (x : Binary64) : Bool := x.bits.toNat / Nat.pow 2 63 == 1

def exponentField (x : Binary64) : Nat := x.bits.toNat / Nat.pow 2 52 % Nat.pow 2 11

def fraction (x : Binary64) : Nat := x.bits.toNat % Nat.pow 2 52

def isFinite (x : Binary64) : Bool := x.exponentField != 2047

def isNaN (x : Binary64) : Bool := x.exponentField == 2047 && x.fraction != 0

def assemble (negative : Bool) (exponentField fraction : Nat) : Binary64 :=
  ⟨UInt64.ofNat ((if negative then Nat.pow 2 63 else 0) + exponentField * Nat.pow 2 52 + fraction)⟩

def zero (negative : Bool) : Binary64 := assemble negative 0 0

def infinity (negative : Bool) : Binary64 := assemble negative 2047 0

def nan : Binary64 := assemble false 2047 (Nat.pow 2 51)

-- Units of 2 ^ -1074 in a finite number.
def units (x : Binary64) : Nat :=
  if x.exponentField = 0 then x.fraction
  else (Nat.pow 2 52 + x.fraction) * Nat.pow 2 (x.exponentField - 1)

-- The number of `n` units, when one exists; larger ones are infinite. `n` has at most
-- fifty-three significant bits.
def ofUnits (negative : Bool) (n : Nat) : Binary64 :=
  if n < Nat.pow 2 52 then assemble negative 0 n
  else
    let shift := n.log2 - 52
    if 2045 < shift then infinity negative
    else assemble negative (shift + 1) (n / Nat.pow 2 shift - Nat.pow 2 52)

-- The number nearest to `num / den` units, ties to even.
def ofRatio (negative : Bool) (num den : Nat) : Binary64 :=
  let shift := (num / den).log2 - 52
  ofUnits negative (roundHalfEven num (den * Nat.pow 2 shift) * Nat.pow 2 shift)

-- The number nearest to `digits * 10 ^ exponent`. Exponents far outside the range are
-- answered without raising ten to them.
def ofDecimal (negative : Bool) (digits : Nat) (exponent : Int) : Binary64 :=
  if digits = 0 then zero negative
  else
    let magnitude := Int.ofNat (Nat.toDigits 10 digits).length + exponent
    if 400 < magnitude then infinity negative
    else if magnitude < -400 then zero negative
    else if 0 ≤ exponent then ofRatio negative (digits * Nat.pow 10 exponent.toNat * Nat.pow 2 1074) 1
    else ofRatio negative (digits * Nat.pow 2 1074) (Nat.pow 10 (-exponent).toNat)

def ofNat (n : Nat) : Binary64 := ofDecimal false n 0

-- Product and quotient of finite numbers, rounded once.
def mul (x y : Binary64) : Binary64 :=
  ofRatio (x.isNegative != y.isNegative) (x.units * y.units) (Nat.pow 2 1074)

def div (x y : Binary64) : Binary64 :=
  ofRatio (x.isNegative != y.isNegative) (x.units * Nat.pow 2 1074) y.units

-- Signed units; an infinity lies beyond every finite number.
def signedUnits (x : Binary64) : Int :=
  let size : Int := if x.isFinite then x.units else Nat.pow 2 3000
  if x.isNegative then -size else size

-- Order on numbers other than NaN, the two zeros being equal.
def le (x y : Binary64) : Bool :=
  !x.isNaN && !y.isNaN && decide (x.signedUnits ≤ y.signedUnits)

end Binary64

end MetricRelay

import MetricRelay.Decimal.Binary64

-- The shortest decimal that reads back as a given number, and the nearest one of that length.

namespace MetricRelay.Decimal

-- `digits * 10 ^ exponent`, with no trailing zero in `digits`.
structure Scientific where
  digits : Nat
  exponent : Int
deriving DecidableEq, Repr

-- The open or closed interval of reals that round to a positive finite number, in quarters
-- of a unit: below a power of two the next number is only half a step away.
structure Rounding where
  low : Nat
  value : Nat
  high : Nat
  closed : Bool

def Rounding.ofNumber (x : Binary64) : Rounding :=
  let step := Nat.pow 2 (x.exponentField - 1)
  let n := x.units
  let below := if x.fraction = 0 ∧ 1 < x.exponentField then step else 2 * step
  { low := 4 * n - below, value := 4 * n, high := 4 * n + 2 * step, closed := x.fraction % 2 == 0 }

-- Does `num / den` quarters lie in the interval?
def Rounding.holds (r : Rounding) (num den : Nat) : Bool :=
  if r.closed then decide (r.low * den ≤ num ∧ num ≤ r.high * den)
  else decide (r.low * den < num ∧ num < r.high * den)

-- A decimal grid of step `10 ^ exponent`: a point `k` lies at `k * num / den` quarters.
structure Grid where
  exponent : Int
  num : Nat
  den : Nat

def Grid.ofExponent (exponent : Int) : Grid :=
  if 0 ≤ exponent then ⟨exponent, Nat.pow 10 exponent.toNat * Nat.pow 2 1076, 1⟩
  else ⟨exponent, Nat.pow 2 1076, Nat.pow 10 (-exponent).toNat⟩

-- The better of the two neighbours of the value on the grid, if the interval holds one.
-- Of two equally near ones the even is taken.
def Grid.pick? (g : Grid) (r : Rounding) : Option Nat :=
  let scaled := r.value * g.den
  let below := scaled / g.num
  let above := below + 1
  let lowHit := below ≠ 0 && r.holds (below * g.num) g.den
  let highHit := r.holds (above * g.num) g.den
  if lowHit && highHit then
    let gapBelow := scaled - below * g.num
    let gapAbove := above * g.num - scaled
    if gapBelow < gapAbove then some below
    else if gapAbove < gapBelow then some above
    else if below % 2 == 0 then some below else some above
  else if lowHit then some below
  else if highHit then some above
  else none

-- The exponent of the leading digit lies within one of this estimate.
def leadingExponent (x : Binary64) : Int :=
  ((x.units.log2 : Int) - 1074) * 30103 / 100000

def stripZeros (fuel : Nat) (s : Scientific) : Scientific :=
  match fuel with
  | 0 => s
  | fuel + 1 =>
    if s.digits ≠ 0 ∧ s.digits % 10 = 0 then stripZeros fuel ⟨s.digits / 10, s.exponent + 1⟩ else s

def search (x : Binary64) (r : Rounding) (fuel : Nat) (exponent : Int) : Scientific :=
  match fuel with
  | 0 => ⟨x.units, 0⟩
  | fuel + 1 =>
    match (Grid.ofExponent exponent).pick? r with
    | some digits => stripZeros 32 ⟨digits, exponent⟩
    | none => search x r fuel (exponent - 1)

-- Grids from coarse to fine; the first that meets the interval gives the fewest digits.
def shortest (x : Binary64) : Scientific :=
  if x.units = 0 then ⟨0, 0⟩
  else search x (Rounding.ofNumber x) 24 (leadingExponent x + 2)

end MetricRelay.Decimal

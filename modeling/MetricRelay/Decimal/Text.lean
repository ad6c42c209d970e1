import MetricRelay.Decimal.Shortest

-- Decimal text of binary64 numbers: a printer for the shortest digits under a style, and a reader
-- for the usual decimal notation with correct rounding.

namespace MetricRelay.Decimal

-- Leading exponents from `least` to `greatest` are written positionally and always with a
-- fraction; the others with an exponent, whose sign is written when `plus` or when negative.
structure Style where
  least : Int
  greatest : Int
  plus : Bool

-- Numbers inside JSON and in reports.
def Style.json : Style := ⟨-5, 15, true⟩

-- Numbers inside descriptions of a sampler.
def Style.plain : Style := ⟨-4, 15, false⟩

def digitChars (n : Nat) : List Char := Nat.toDigits 10 n

def signChars (negative : Bool) : List Char := if negative then ['-'] else []

def positional (digits : List Char) (lead : Int) : List Char :=
  if lead < 0 then '0' :: '.' :: (List.replicate (-lead - 1).toNat '0' ++ digits)
  else
    let whole := lead.toNat + 1
    if digits.length ≤ whole then
      digits ++ List.replicate (whole - digits.length) '0' ++ ['.', '0']
    else digits.take whole ++ '.' :: digits.drop whole

def exponential (style : Style) (digits : List Char) (lead : Int) : List Char :=
  let mantissa := match digits with
    | [] => []
    | [d] => [d]
    | d :: rest => d :: '.' :: rest
  let sign := if lead < 0 then ['-'] else if style.plus then ['+'] else []
  mantissa ++ 'e' :: (sign ++ digitChars lead.natAbs)

-- The text of a finite number.
def finiteChars (style : Style) (x : Binary64) : List Char :=
  let s := shortest x
  let digits := digitChars s.digits
  let lead := if s.digits = 0 then 0 else s.exponent + digits.length - 1
  signChars x.isNegative ++
    if style.least ≤ lead ∧ lead ≤ style.greatest then positional digits lead
    else exponential style digits lead

-- Every number has a text: JSON has none for NaN and the infinities, so they are spelled out.
def valueChars (x : Binary64) : List Char :=
  if x.isFinite then finiteChars .json x
  else if x.isNaN then ['N', 'a', 'N']
  else if x.isNegative then ['-', 'I', 'n', 'f']
  else ['+', 'I', 'n', 'f']

def valueText (x : Binary64) : String := String.ofList (valueChars x)

def digitValue (c : Char) : Nat := c.toNat - '0'.toNat

def readDigits (cs : List Char) : Nat := cs.foldl (fun n c => 10 * n + digitValue c) 0

-- A sign, if there is one, and the rest.
def splitSign : List Char → Bool × List Char
  | '-' :: rest => (true, rest)
  | '+' :: rest => (false, rest)
  | cs => (false, cs)

-- The value of an exponent part: nothing, or `e`, a sign and digits.
def readExponent? : List Char → Option Int
  | [] => some 0
  | c :: rest =>
    if c = 'e' ∨ c = 'E' then
      let (negative, digits) := splitSign rest
      if digits.isEmpty || !digits.all Char.isDigit then none
      else some (if negative then -Int.ofNat (readDigits digits) else Int.ofNat (readDigits digits))
    else none

def readFinite? (negative : Bool) (cs : List Char) : Option Binary64 := do
  let whole := cs.takeWhile Char.isDigit
  let rest := cs.dropWhile Char.isDigit
  let (fraction, rest) := match rest with
    | '.' :: tail => (tail.takeWhile Char.isDigit, tail.dropWhile Char.isDigit)
    | _ => ([], rest)
  if whole.isEmpty && fraction.isEmpty then none
  else
    let exponent ← readExponent? rest
    return .ofDecimal negative (readDigits (whole ++ fraction)) (exponent - fraction.length)

-- Reads a decimal with correct rounding; `inf`, `infinity` and `nan` are taken in any case.
def read? (cs : List Char) : Option Binary64 :=
  let (negative, rest) := splitSign cs
  let lower := rest.map Char.toLower
  if lower = ['i', 'n', 'f'] ∨ lower = ['i', 'n', 'f', 'i', 'n', 'i', 't', 'y'] then
    some (.infinity negative)
  else if lower = ['n', 'a', 'n'] then some .nan
  else readFinite? negative rest

end MetricRelay.Decimal

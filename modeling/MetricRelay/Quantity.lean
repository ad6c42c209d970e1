import MetricRelay.Decimal.Text
import MetricRelay.Error
import MetricRelay.Text.Blank
import MetricRelay.Time.Duration

namespace MetricRelay.Quantity

-- The leading ASCII digits and the unit after them.
def split (raw : String) : List Char × String :=
  (raw.toList.takeWhile Char.isDigit, String.ofList (raw.toList.dropWhile Char.isDigit))

-- The number, when there are digits and it has at most sixty-four bits.
def number? (digits : List Char) : Option Nat :=
  if digits.isEmpty then none
  else
    let n := Decimal.readDigits digits
    if n < UInt64.size then some n else none

def secondsPer? (unit : String) : Option Nat :=
  if unit = "" ∨ unit = "s" then some 1
  else if unit = "m" then some 60
  else if unit = "h" then some (60 * 60)
  else if unit = "d" then some (24 * 60 * 60)
  else if unit = "w" then some (7 * 24 * 60 * 60)
  else none

-- Units are binary multiples.
def bytesPer? (unit : String) : Option Nat :=
  if unit = "" ∨ unit = "b" then some 1
  else if unit = "k" ∨ unit = "kb" then some 1024
  else if unit = "m" ∨ unit = "mb" then some (Nat.pow 1024 2)
  else if unit = "g" ∨ unit = "gb" then some (Nat.pow 1024 3)
  else if unit = "t" ∨ unit = "tb" then some (Nat.pow 1024 4)
  else none

-- A number with a unit of `what`, as a count of the least unit. The number is looked at before
-- the unit and the unit before the range.
def parse (what : String) (per? : String → Option Nat) (raw : String) : Except Error Nat :=
  let raw := Text.trim raw
  let (digits, unit) := split raw
  let unit := Text.lowerAscii unit
  match number? digits with
  | none => .error (.config ("invalid " ++ what ++ " '" ++ raw ++ "'"))
  | some n =>
    match per? unit with
    | none => .error (.config ("invalid " ++ what ++ " unit '" ++ unit ++ "' in '" ++ raw ++ "'"))
    | some k =>
      if n * k < UInt64.size then .ok (n * k)
      else .error (.config (what ++ " '" ++ raw ++ "' is too large"))

def parseDuration (raw : String) : Except Error Duration :=
  (parse "duration" secondsPer? raw).map Duration.ofSeconds

def parseByteSize (raw : String) : Except Error Nat := parse "byte size" bytesPer? raw

-- A blank text switches the limit off.
def parseOptionalByteSize (raw : String) : Except Error (Option Nat) :=
  if Text.trim raw = "" then .ok none else (parseByteSize raw).map some

end MetricRelay.Quantity

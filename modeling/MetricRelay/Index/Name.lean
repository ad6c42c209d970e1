import MetricRelay.Decimal.Text
import MetricRelay.Time.Civil

-- Names of the indices behind an alias: numbered generations, or one for each UTC day.

namespace MetricRelay.Index

def generationWidth : Nat := 6

-- `metrics-000042`
def generationName (aliasName : String) (generation : Nat) : String :=
  aliasName ++ "-" ++ String.ofList (Date.padded generationWidth generation)

-- What follows `head` in `cs`, if it starts so.
def after? (head cs : List Char) : Option (List Char) :=
  if head.isPrefixOf cs then some (cs.drop head.length) else none

-- The number of a generation: the alias, a dash and at least six digits.
def generation? (aliasName index : String) : Option Nat := do
  let digits ← after? (aliasName.toList ++ ['-']) index.toList
  if digits.length < generationWidth || !digits.all Char.isDigit then none
  else
    let n := Decimal.readDigits digits
    if n < UInt64.size then some n else none

-- `metrics-2024.03.09`
def dailyName (aliasName : String) (day : Date) : String :=
  aliasName ++ "-" ++ String.ofList day.dotted

-- Matches every index made for the alias.
def namePattern (aliasName : String) : String := aliasName ++ "-*"

end MetricRelay.Index

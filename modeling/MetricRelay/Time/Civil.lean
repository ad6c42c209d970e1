-- Days of the proleptic Gregorian calendar, counted from 1970-01-01, and the texts of UTC instants.

namespace MetricRelay

structure Date where
  year : Int
  month : Nat
  day : Nat
deriving DecidableEq, Repr

namespace Date

-- Years are counted from March, so a leap day ends its year; 400 years have 146097 days.
def ofDays (days : Int) : Date :=
  let shifted := days + 719468
  let era := shifted / 146097
  let dayOfEra := (shifted % 146097).toNat
  let yearOfEra := (dayOfEra - dayOfEra / 1460 + dayOfEra / 36524 - dayOfEra / 146096) / 365
  let dayOfYear := dayOfEra - (365 * yearOfEra + yearOfEra / 4 - yearOfEra / 100)
  let monthFromMarch := (5 * dayOfYear + 2) / 153
  let month := if monthFromMarch < 10 then monthFromMarch + 3 else monthFromMarch - 9
  { year := (yearOfEra : Int) + era * 400 + (if month ≤ 2 then 1 else 0)
    month := month
    day := dayOfYear - (153 * monthFromMarch + 2) / 5 + 1 }

-- `n` in at least `width` digits.
def padded (width n : Nat) : List Char :=
  let digits := Nat.toDigits 10 n
  List.replicate (width - digits.length) '0' ++ digits

-- Four digits at least; years outside 0 to 9999 carry a sign.
def yearChars (year : Int) : List Char :=
  if 0 ≤ year ∧ year ≤ 9999 then padded 4 year.toNat
  else (if year < 0 then '-' else '+') :: padded 4 year.natAbs

def dotted (d : Date) : List Char :=
  yearChars d.year ++ '.' :: (padded 2 d.month ++ '.' :: padded 2 d.day)

def dashed (d : Date) : List Char :=
  yearChars d.year ++ '-' :: (padded 2 d.month ++ '-' :: padded 2 d.day)

end Date

-- Milliseconds since 1970-01-01 UTC.
namespace Instant

def millisPerDay : Int := 86400000

-- Calendar years that an instant may fall into.
def inCalendar (ms : Int) : Bool :=
  let year := (Date.ofDays (ms / millisPerDay)).year
  decide (-262143 ≤ year ∧ year ≤ 262142)

-- Instants outside the calendar are read as its origin.
def clamp (ms : Int) : Int := if inCalendar ms then ms else 0

def date (ms : Int) : Date := Date.ofDays (clamp ms / millisPerDay)

-- Time left until the next midnight.
def untilNextDay (ms : Int) : Int := millisPerDay - clamp ms % millisPerDay

def text (ms : Int) : String :=
  let ms := clamp ms
  let inDay := (ms % millisPerDay).toNat
  String.ofList ((date ms).dashed ++ 'T' :: (Date.padded 2 (inDay / 3600000) ++ ':' ::
    (Date.padded 2 (inDay / 60000 % 60) ++ ':' :: (Date.padded 2 (inDay / 1000 % 60) ++ '.' ::
    (Date.padded 3 (inDay % 1000) ++ ['Z'])))))

end Instant

end MetricRelay

namespace MetricRelay

namespace Duration

def nanosPerSecond : Nat := 1000000000
def nanosPerMilli : Nat := 1000000
def nanosPerMicro : Nat := 1000

def limit : Nat := UInt64.size * nanosPerSecond

end Duration

-- Whole seconds are a machine word.
@[ext]
structure Duration where
  nanos : Nat
  bounded : nanos < Duration.limit
deriving DecidableEq, Repr

namespace Duration

-- There is a longest one, which stands for all that would be longer.
def ofNanos (n : Nat) : Duration :=
  ⟨min n (limit - 1), Nat.lt_of_le_of_lt (Nat.min_le_right _ _) (by decide)⟩

def zero : Duration := ofNanos 0

instance : Inhabited Duration := ⟨zero⟩

def ofSeconds (s : Nat) : Duration := ofNanos (s * nanosPerSecond)

def ofMillis (ms : Nat) : Duration := ofNanos (ms * nanosPerMilli)

def seconds (d : Duration) : Nat := d.nanos / nanosPerSecond

def subsecond (d : Duration) : Nat := d.nanos % nanosPerSecond

-- Whole milliseconds, the rest dropped.
def millis (d : Duration) : Nat := d.nanos / nanosPerMilli

instance : LE Duration := ⟨fun a b => a.nanos ≤ b.nanos⟩
instance : DecidableLE Duration := fun a b => inferInstanceAs (Decidable (a.nanos ≤ b.nanos))

instance : Min Duration := ⟨fun a b => if a ≤ b then a else b⟩

-- `none` when the product is past the limit.
def times? (d : Duration) (k : Nat) : Option Duration :=
  if h : d.nanos * k < limit then some ⟨d.nanos * k, h⟩ else none

-- A fraction of `width` digits without its trailing zeros, after a point unless it is zero.
def fractionText (width : Nat) (value : Nat) : List Char :=
  let digits := Nat.toDigits 10 value
  let padded := List.replicate (width - digits.length) '0' ++ digits
  let kept := (padded.reverse.dropWhile (· == '0')).reverse
  if kept.isEmpty then [] else '.' :: kept

def scaledText (nanos unit width : Nat) (name : String) : String :=
  String.ofList (Nat.toDigits 10 (nanos / unit) ++ fractionText width (nanos % unit)) ++ name

-- In the largest of seconds, milliseconds, microseconds and nanoseconds that gives at least one.
def text (d : Duration) : String :=
  if nanosPerSecond ≤ d.nanos then scaledText d.nanos nanosPerSecond 9 "s"
  else if nanosPerMilli ≤ d.nanos then scaledText d.nanos nanosPerMilli 6 "ms"
  else if nanosPerMicro ≤ d.nanos then scaledText d.nanos nanosPerMicro 3 "µs"
  else scaledText d.nanos 1 0 "ns"

end Duration

end MetricRelay

import MetricRelay.Time.Civil
import MetricRelay.Time.Duration

-- A wall clock in milliseconds, which either moves when told to or follows elapsed time.

namespace MetricRelay

inductive Clock
  | manual (now : Int64)
  | following (start : Int64)
deriving DecidableEq, Repr, Inhabited

namespace Clock

-- The reading when `elapsed` milliseconds have gone by since the clock was started.
def read (c : Clock) (elapsed : Nat) : Int64 :=
  match c with
  | .manual now => now
  | .following start => start + Int64.ofNat elapsed

-- Whole milliseconds are added and wrap around.
def advance (c : Clock) (span : Duration) : Clock :=
  match c with
  | .manual now => .manual (now + Int64.ofNat span.millis)
  | .following start => .following start

def set (c : Clock) (ms : Int64) : Clock :=
  match c with
  | .manual _ => .manual ms
  | .following start => .following start

end Clock

end MetricRelay

import MetricRelay.Trigger

namespace MetricRelay.Write

-- Delays between attempts grow by doubling.
structure Backoff where
  initial : Duration
  max : Duration
deriving DecidableEq, Repr

instance : Inhabited Backoff := ⟨⟨.ofMillis 100, .ofSeconds 5⟩⟩

-- The delay before retry number `retry`, counted from one. Doubling ends after twenty times, and
-- a delay past every duration is the greatest one allowed.
def Backoff.delay (b : Backoff) (retry : Nat) : Duration :=
  min ((b.initial.times? (Nat.pow 2 (min (retry - 1) 20))).getD b.max) b.max

structure Config where
  workers : Nat
  batch : Thresholds
  precedence : Precedence
  ageCheckInterval : Duration
  queueCapacity : Nat
  maxRetries : Nat
  backoff : Backoff
  requestTimeout : Duration
  drainTimeout : Duration
  failureCapacity : Nat
deriving DecidableEq, Repr

instance : Inhabited Config :=
  ⟨{ workers := 1, batch := ⟨some 4096, some 1000, some (.ofSeconds 10)⟩, precedence := default,
     ageCheckInterval := .ofSeconds 1, queueCapacity := 16, maxRetries := 3, backoff := default,
     requestTimeout := .ofSeconds 30, drainTimeout := .ofSeconds 30, failureCapacity := 1024 }⟩

def Config.validate (c : Config) : Except Error Unit :=
  if c.workers = 0 then .error (.config "at least one flush worker is required")
  else if c.queueCapacity = 0 then .error (.config "queue capacity must be positive")
  else if c.ageCheckInterval = .zero then .error (.config "age check interval must be positive")
  else c.batch.validate "batch"

end MetricRelay.Write

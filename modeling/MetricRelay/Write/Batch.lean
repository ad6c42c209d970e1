import MetricRelay.Document
import MetricRelay.Trigger

namespace MetricRelay.Write

-- Oldest sample first. Instants are milliseconds.
structure Batch where
  samples : List Sample
  -- estimated
  bytes : Nat
  created : Nat
deriving DecidableEq

namespace Batch

def empty (now : Nat) : Batch := ⟨[], 0, now⟩

def size (b : Batch) : Nat := b.samples.length

def isEmpty (b : Batch) : Bool := b.samples.isEmpty

def push (b : Batch) (s : Sample) : Batch :=
  { b with samples := b.samples ++ [s], bytes := b.bytes + s.estimatedBytes }

def measure (b : Batch) (now : Nat) : Measurement :=
  ⟨b.bytes, b.size, .ofMillis (now - b.created)⟩

-- What the batch would measure with one more sample.
def measureWith (b : Batch) (s : Sample) (now : Nat) : Measurement :=
  ⟨b.bytes + s.estimatedBytes, b.size + 1, .ofMillis (now - b.created)⟩

def documents (b : Batch) : List Document := b.samples.map .ofSample

end Batch

end MetricRelay.Write

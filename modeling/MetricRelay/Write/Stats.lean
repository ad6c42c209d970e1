import MetricRelay.Trigger
import MetricRelay.Write.Failure

namespace MetricRelay.Write

structure Stats where
  accepted : Nat
  rejected : Nat
  flushed : Nat
  flushedBySize : Nat
  flushedByCount : Nat
  flushedByAge : Nat
  flushedOnClose : Nat
  written : Nat
  dropped : Nat
  retries : Nat
  failedBatches : Nat
  failed : Nat
  lostBatches : Nat
  lost : Nat
deriving DecidableEq, Repr

namespace Stats

def zero : Stats := ⟨0, 0, 0, 0, 0, 0, 0, 0, 0, 0, 0, 0, 0, 0⟩

-- No trigger: the batch was closed because the service ends.
def addFlush (s : Stats) (trigger : Option Trigger) : Stats :=
  let s := { s with flushed := s.flushed + 1 }
  match trigger.map Trigger.kind with
  | some .size => { s with flushedBySize := s.flushedBySize + 1 }
  | some .count => { s with flushedByCount := s.flushedByCount + 1 }
  | some .age => { s with flushedByAge := s.flushedByAge + 1 }
  | none => { s with flushedOnClose := s.flushedOnClose + 1 }

def addLoss (s : Stats) (batches samples : Nat) : Stats :=
  { s with lostBatches := s.lostBatches + batches, lost := s.lost + samples }

end Stats

-- Counters, the reports published so far, latest first, and who listens to them.
structure Record where
  stats : Stats
  published : List Failure
  channel : Channel

namespace Record

def ofCapacity (capacity : Nat) : Record := ⟨.zero, [], .ofCapacity capacity⟩

def publish (r : Record) (f : Failure) : Record :=
  { r with published := f :: r.published, channel := r.channel.publish f }

def update (r : Record) (f : Stats → Stats) : Record := { r with stats := f r.stats }

end Record

end MetricRelay.Write

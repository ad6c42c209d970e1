import MetricRelay.Write.Batch

-- The queue between those who close batches and those who write them. It holds so many batches;
-- senders beyond that stand in line and are served in turn, each by a place kept for it.

namespace MetricRelay.Write

structure Intake where
  capacity : Nat
  -- oldest first
  batches : List Batch
  -- places nobody has claim to
  free : Nat
  -- senders in line, first come first
  line : List Nat
  -- senders for whom a place is kept
  granted : List Nat
  -- the receiving end is gone
  closed : Bool
deriving DecidableEq

-- What comes of handing a batch over.
inductive Offer
  | sent
  | refused
  | mustWait
deriving DecidableEq, Repr

namespace Intake

def ofCapacity (capacity : Nat) : Intake := ⟨capacity, [], capacity, [], [], false⟩

def put (q : Intake) (b : Batch) : Intake := { q with batches := q.batches ++ [b] }

-- A sender's first try.
def offer (q : Intake) (sender : Nat) (b : Batch) : Offer × Intake :=
  if q.closed then (.refused, q)
  else if 0 < q.free then (.sent, { q with free := q.free - 1 }.put b)
  else (.mustWait, { q with line := q.line ++ [sender] })

-- One place becomes free: it goes to the first in line, who is to be told.
def release (q : Intake) : Option Nat × Intake :=
  match q.line with
  | [] => (none, { q with free := q.free + 1 })
  | sender :: rest => (some sender, { q with line := rest, granted := q.granted ++ [sender] })

-- A sender leaves the line, or gives back its place.
def withdraw (q : Intake) (sender : Nat) : Option Nat × Intake :=
  if q.granted.contains sender then { q with granted := q.granted.erase sender }.release
  else (none, { q with line := q.line.erase sender })

-- A sender that stood in line tries again. A closed queue refuses even those with a place.
def redeem (q : Intake) (sender : Nat) (b : Batch) : Offer × Intake :=
  if q.closed then (.refused, (q.withdraw sender).2)
  else if q.granted.contains sender then
    (.sent, { q with granted := q.granted.erase sender }.put b)
  else (.mustWait, q)

-- The oldest batch, and the sender who is to be told of its place.
def pop? (q : Intake) : Option (Batch × Option Nat × Intake) :=
  match q.batches with
  | [] => none
  | b :: rest =>
    let (sender, q) := { q with batches := rest }.release
    some (b, sender, q)

-- Closes the receiving end; everyone in line is to be told.
def close (q : Intake) : List Nat × Intake := (q.line, { q with line := [], closed := true })

-- Takes out all batches at once.
def clear (q : Intake) : List Batch × Intake :=
  (q.batches, { q with batches := [], free := q.free + q.batches.length })

end Intake

end MetricRelay.Write

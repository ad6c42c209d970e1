import MetricRelay.Error

-- Data that could not be written, as reported to whoever listens. Each listener has a place of its
-- own in the stream of reports; one that falls behind loses the oldest.

namespace MetricRelay.Write

inductive Failure
  -- documents that the store refused for their content
  | documentsDropped (target : String) (count : Nat) (reason : String)
  -- what was left of a batch after its last attempt
  | batchFailed (target : String) (samples attempts : Nat) (error : String)
  -- what was still on its way when the time to drain was over
  | shutdownLoss (batches samples : Nat)
deriving DecidableEq, Repr

def Failure.kind : Failure → ErrorKind
  | .documentsDropped _ _ _ => .partialDocument
  | .batchFailed _ _ _ _ => .transient
  | .shutdownLoss _ _ => .shutdownLoss

-- How many samples it accounts for.
def Failure.samples : Failure → Nat
  | .documentsDropped _ count _ => count
  | .batchFailed _ samples _ _ => samples
  | .shutdownLoss _ samples => samples

-- What a listener finds.
inductive Reception
  | report (f : Failure)
  | empty
  -- so many reports were missed
  | lagged (missed : Nat)
deriving DecidableEq, Repr

-- Reports are only kept while somebody listens.
structure Channel where
  capacity : Nat
  -- how many were ever kept
  sent : Nat
  -- the latest of them, oldest first
  kept : List Failure
  -- listeners and the number of the report each wants next
  listeners : List (Nat × Nat)
  joined : Nat
deriving DecidableEq, Repr

namespace Channel

-- The least power of two that is not below `n`.
def roundUp (n : Nat) : Nat := if n ≤ 1 then 1 else Nat.pow 2 ((n - 1).log2 + 1)

def ofCapacity (capacity : Nat) : Channel := ⟨roundUp capacity, 0, [], [], 0⟩

-- The new listener's number; it hears what is published from now on.
def subscribe (c : Channel) : Nat × Channel :=
  (c.joined, { c with listeners := c.listeners ++ [(c.joined, c.sent)], joined := c.joined + 1 })

def unsubscribe (c : Channel) (listener : Nat) : Channel :=
  { c with listeners := c.listeners.filter fun l => l.1 != listener }

-- Publishing to nobody keeps nothing.
def publish (c : Channel) (f : Failure) : Channel :=
  if c.listeners.isEmpty then c
  else
    let all := c.kept ++ [f]
    { c with sent := c.sent + 1, kept := all.drop (all.length - c.capacity) }

def setPlace (c : Channel) (listener place : Nat) : Channel :=
  { c with listeners := c.listeners.map fun l => if l.1 = listener then (listener, place) else l }

-- A listener that missed reports is told so once and goes on with the oldest one kept.
def receive (c : Channel) (listener : Nat) : Reception × Channel :=
  match c.listeners.find? fun l => l.1 == listener with
  | none => (.empty, c)
  | some (_, place) =>
    let oldest := c.sent - c.kept.length
    if place < oldest then (.lagged (oldest - place), c.setPlace listener oldest)
    else
      match c.kept[place - oldest]? with
      | some f => (.report f, c.setPlace listener (place + 1))
      | none => (.empty, c)

-- Everything there is for a listener. The fuel is more than there are reports.
def receiveAll (c : Channel) (listener : Nat) : Nat → List Reception × Channel
  | 0 => ([], c)
  | fuel + 1 =>
    match c.receive listener with
    | (.empty, c) => ([], c)
    | (r, c) =>
      let (more, c) := c.receiveAll listener fuel
      (r :: more, c)

def drain (c : Channel) (listener : Nat) : List Reception × Channel :=
  c.receiveAll listener (c.kept.length + 2)

end Channel

end MetricRelay.Write

import MetricRelay.Store.Routine
import MetricRelay.Write.Batch
import MetricRelay.Write.Config
import MetricRelay.Write.Stats

-- Writing one batch: bulk requests until every document is settled or the attempts are used up.
-- Documents that the store asks to send again are sent again, without the others.

namespace MetricRelay.Write

open Store (Routine Outcome)

-- What a delivery does to the record and to the number of documents not yet settled.
inductive Delivery.Note
  | settled (written dropped : Nat) (reason : Option String) (left : Nat)
  | retrying
  | failed (samples attempts : Nat) (error : String)
deriving DecidableEq, Repr

-- What became of the samples of a batch, and how many requests it took.
structure Delivery where
  written : Nat
  dropped : Nat
  failed : Nat
  attempts : Nat
deriving DecidableEq, Repr

namespace Delivery

def none : Delivery := ⟨0, 0, 0, 0⟩

-- Documents that are to be sent again.
def retryable (docs : List Document) (outcomes : List Outcome) : List Document :=
  ((docs.zip outcomes).filter fun (_, outcome) =>
    match outcome with
    | .retryable _ => true
    | _ => false).map Prod.fst

def countAccepted (outcomes : List Outcome) : Nat := outcomes.countP (· == .accepted)

def refusals (outcomes : List Outcome) : List String :=
  outcomes.filterMap fun outcome =>
    match outcome with
    | .permanent reason => some reason
    | _ => Option.none

-- One outcome for each document, or the answer is of no use.
def checkLength (docs : List Document) (answer : Except Error (List Outcome)) :
    Except Error (List Outcome) := do
  let outcomes ← answer
  if outcomes.length = docs.length then .ok outcomes
  else .error (.internal ("bulk returned " ++ toString outcomes.length ++ " outcomes for " ++
    toString docs.length ++ " documents"))

def giveUp (docs : List Document) (soFar : Delivery) (error : String) :
    Routine Note Delivery :=
  .note (.failed docs.length soFar.attempts error)
    (.done { soFar with failed := soFar.failed + docs.length })

-- One attempt. `docs` are not settled yet; `again` says how to go on with those that can be sent
-- again, and why they have to be.
def attemptOnce (config : Config) (target : String)
    (again : List Document → Delivery → String → Routine Note Delivery)
    (docs : List Document) (soFar : Delivery) : Routine Note Delivery :=
  let soFar := { soFar with attempts := soFar.attempts + 1 }
  .call ⟨.bulk target docs, some config.requestTimeout⟩ fun answer =>
    match checkLength docs answer with
    | .ok outcomes =>
      let retry := retryable docs outcomes
      let refused := refusals outcomes
      let written := countAccepted outcomes
      let soFar := { soFar with written := soFar.written + written,
                                dropped := soFar.dropped + refused.length }
      .note (.settled written refused.length refused.head? retry.length)
        (if retry.isEmpty then .done soFar
         else again retry soFar (toString retry.length ++ " documents rejected as retryable"))
    | .error e => if e.isTransient then again docs soFar e.message else giveUp docs soFar e.message

-- An attempt, and at most `left` more after it, each after a longer wait.
def attemptUpTo (config : Config) (target : String) (left : Nat) :
    List Document → Delivery → Routine Note Delivery :=
  match left with
  | 0 => attemptOnce config target giveUp
  | left + 1 =>
    attemptOnce config target fun docs soFar _ =>
      .note .retrying
        (.pause (config.backoff.delay soFar.attempts) (attemptUpTo config target left docs soFar))

def routine (config : Config) (target : String) (batch : Batch) : Routine Note Delivery :=
  attemptUpTo config target config.maxRetries batch.documents none

-- The record and the number of unsettled documents after a note.
def takeDown (target : String) (state : Record × Nat) (note : Note) : Record × Nat :=
  let (record, unsettled) := state
  match note with
  | .settled written dropped reason left =>
    let record := record.update fun s => { s with written := s.written + written }
    let record :=
      if dropped = 0 then record
      else
        (record.update fun s => { s with dropped := s.dropped + dropped }).publish
          (.documentsDropped target dropped (reason.getD ""))
    (record, left)
  | .retrying => (record.update fun s => { s with retries := s.retries + 1 }, unsettled)
  | .failed samples attempts error =>
    let record := record.update fun s =>
      { s with failedBatches := s.failedBatches + 1, failed := s.failed + samples }
    (record.publish (.batchFailed target samples attempts error), 0)

end Delivery

end MetricRelay.Write

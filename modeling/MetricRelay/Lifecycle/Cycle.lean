import MetricRelay.Lifecycle.Provision

-- One look at an alias: whether its write index has to be replaced, and the replacement. An index
-- is replaced when it reaches a limit, or when the day is over.

namespace MetricRelay.Lifecycle

open Store (Routine)

structure Stats where
  cycles : Nat
  rollovers : Nat
  failures : Nat
deriving DecidableEq, Repr

def Stats.zero : Stats := ⟨0, 0, 0⟩

-- A completed change of the write index; without a trigger it was the day's end.
structure Rollover where
  aliasName : String
  old : String
  new : String
  trigger : Option Trigger
deriving DecidableEq, Repr

inductive Note
  | begun
  | observed (state : IndexState)
  -- `old` was replaced by `new`, which was made about `created`
  | rolledOver (old new : String) (created : Int64)
  -- the same by the calendar, which keeps no states
  | dayChanged
  | failed
deriving DecidableEq

-- Counters, and the last known state of every index seen.
structure Record where
  aliasName : String
  stats : Stats
  states : Keyed IndexState
deriving DecidableEq

def Record.initial (aliasName : String) : Record := ⟨aliasName, .zero, ∅⟩

def Record.add (r : Record) (note : Note) : Record :=
  match note with
  | .begun => { r with stats := { r.stats with cycles := r.stats.cycles + 1 } }
  | .observed state => { r with states := r.states.insert state.index state }
  | .rolledOver old new created =>
    let states := r.states.modify old fun s => { s with phase := .retired }
    { r with stats := { r.stats with rollovers := r.stats.rollovers + 1 },
             states := states.insert new ⟨r.aliasName, new, 0, 0, created, .active⟩ }
  | .dayChanged => { r with stats := { r.stats with rollovers := r.stats.rollovers + 1 } }
  | .failed => { r with stats := { r.stats with failures := r.stats.failures + 1 } }

abbrev Cycle := Routine Note (Except Error (Option Rollover))

-- The index to which the alias's writes go.
def currentIndex (config : Config) : Routine Note (Except Error String) := do
  let answer ← .askWithin config.requestTimeout (.writeIndex config.aliasName)
  return answer.bind fun index? =>
    match index? with
    | some index => .ok index
    | none => .error (.aliasNotFound config.aliasName)

-- The generation after `index`; an index without a number is followed by the first. The number is
-- a machine word, so the largest is followed by zero.
def nextGeneration (aliasName index : String) : String :=
  Index.generationName aliasName
    (((Index.generation? aliasName index).getD 0 + 1) % UInt64.size)

def rollOver (config : Config) (current : String) (trigger : Trigger) : Cycle := do
  let next := nextGeneration config.aliasName current
  match ← switchWriteIndex config current next with
  | .error e => return .error e
  | .ok () =>
    let now ← .now
    .tell (.rolledOver current next now)
    return .ok (some ⟨config.aliasName, current, next, some trigger⟩)

def evaluateLimits (config : Config) : Cycle := do
  match ← currentIndex config with
  | .error e => return .error e
  | .ok current =>
    match ← .askWithin config.requestTimeout (.indexStats current) with
    | .error e => return .error e
    | .ok stats =>
      let now ← .now
      let state : IndexState :=
        ⟨config.aliasName, stats.index, stats.documents, stats.bytes, stats.created, .active⟩
      match config.policy.evaluate state now with
      | none =>
        .tell (.observed state)
        return .ok none
      | some trigger =>
        .tell (.observed { state with phase := .eligible })
        rollOver config state.index trigger

-- Names of days sort as the days do, so an alias is never moved back.
def evaluateDay (config : Config) : Cycle := do
  let now ← .now
  let today := Index.dailyName config.aliasName (Instant.date now.toInt)
  match ← currentIndex config with
  | .error e => return .error e
  | .ok current =>
    if today ≤ current then return .ok none
    else
      match ← switchWriteIndex config current today with
      | .error e => return .error e
      | .ok () =>
        .tell .dayChanged
        return .ok (some ⟨config.aliasName, current, today, none⟩)

-- A cycle that fails leaves the write index as it is; the next one starts afresh.
def cycle (config : Config) : Cycle := do
  .tell .begun
  match ← if config.daily then evaluateDay config else evaluateLimits config with
  | .ok event => return .ok event
  | .error e =>
    .tell .failed
    return .error e

-- Until the next look at an alias that changes its index daily.
def untilNextLook (config : Config) (now : Int64) : Duration :=
  min (.ofMillis (Instant.untilNextDay now.toInt).toNat) config.checkInterval

end MetricRelay.Lifecycle

import MetricRelay.Lifecycle.Policy
import MetricRelay.Store.Routine

-- What has to be in the store before the first write: the template of the indices and an alias with
-- an index to write to.

namespace MetricRelay.Lifecycle

open Store (Routine)

variable {ε : Type}

-- Installs the template, which changes nothing if the same one is there.
def ensureTemplate (config : Config) : Routine ε (Except Error Store.Installation) := do
  let answer ← .askWithin config.requestTimeout (.putTemplate config.template)
  return answer.mapError fun e =>
    .startup ("applying index template " ++ config.aliasName ++ ": " ++ e.message)

-- The index with which the alias begins.
def firstIndex (config : Config) (now : Int64) : String :=
  if config.daily then Index.dailyName config.aliasName (Instant.date now.toInt)
  else Index.generationName config.aliasName 1

def bootstrapFailure (config : Config) (e : Error) : Error :=
  .startup ("bootstrapping alias " ++ config.aliasName ++ ": " ++ e.message)

-- Gives the alias a write index, unless it has one, and returns it. An index that was left
-- without its alias by an earlier start is attached.
def bootstrap (config : Config) : Routine ε (Except Error String) := do
  let current ← .askWithin config.requestTimeout (.writeIndex config.aliasName)
  match current with
  | .error e => return .error (bootstrapFailure config e)
  | .ok (some index) => return .ok index
  | .ok none =>
    let now ← .now
    let index := firstIndex config now
    let created ← .askWithin config.requestTimeout
      (.createIndex index (some config.settings) (some config.aliasName))
    match created with
    | .error e => return .error (bootstrapFailure config e)
    | .ok .created => return .ok index
    | .ok .alreadyExists =>
      let attached ← .askWithin config.requestTimeout
        (.updateAliases [.add index config.aliasName true])
      return (attached.mapError (bootstrapFailure config)).map fun _ => index

-- Template and alias; the index to which writes go at first.
def provision (config : Config) : Routine ε (Except Error String) := do
  match ← ensureTemplate config with
  | .error e => return .error e
  | .ok _ => bootstrap config

-- Makes `next` and moves the alias's writes to it in one update; `current` stays for reads.
def switchWriteIndex (config : Config) (current next : String) :
    Routine ε (Except Error Unit) := do
  let created ← .askWithin config.requestTimeout (.createIndex next (some config.settings) none)
  match created with
  | .error e => return .error (.lifecycle ("creating index " ++ next ++ ": " ++ e.message))
  | .ok _ =>
    let switched ← .askWithin config.requestTimeout
      (.updateAliases [.add next config.aliasName true, .add current config.aliasName false])
    return switched.mapError fun e =>
      .lifecycle ("switching alias " ++ config.aliasName ++ " to " ++ next ++ ": " ++ e.message)

end MetricRelay.Lifecycle

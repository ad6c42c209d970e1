import MetricRelay.Read.Query
import MetricRelay.Read.Series
import MetricRelay.Store.Routine

namespace MetricRelay.Read

open Store (Routine)

variable {ε : Type}

def read (config : Config) (q : Query) : Routine ε (Except Error (List Series)) := do
  match q.search config.aliasName config.maxDocs with
  | .error e => return .error e
  | .ok search =>
    let hits ← .askWithin config.requestTimeout (.search search)
    return hits.map Series.ofDocuments

-- One result for each query; the first error ends it.
def readAll (config : Config) : List Query → Routine ε (Except Error (List (List Series)))
  | [] => .done (.ok [])
  | q :: rest => do
    match ← read config q with
    | .error e => return .error e
    | .ok series =>
      let others ← readAll config rest
      return others.map (series :: ·)

end MetricRelay.Read

import MetricRelay.Read.Query
import MetricRelay.Remote.Message
import MetricRelay.Remote.Snappy

-- Bodies of remote writes and reads: compressed messages and what they stand for.

namespace MetricRelay.Remote

def decodeError : Error := .decode "not a compressed message"

-- The samples of one series, each with all its labels.
def TimeSeries.toSamples (s : TimeSeries) : Except Error (List Sample) :=
  s.samples.mapM fun p => Sample.ofPairs s.labels p.timestamp p.value

-- The first sample that is refused decides the error.
def decodeWrite (body : Bytes) : Except Error (List Sample) :=
  match (Snappy.decode? body).bind writeRequest? with
  | none => .error decodeError
  | some request => do return (← request.mapM TimeSeries.toSamples).flatten

def LabelMatcher.toMatcher (m : LabelMatcher) : Except Error Read.Matcher :=
  match m.kind with
  | 0 => .ok ⟨m.name, .equal, m.value⟩
  | 1 => .ok ⟨m.name, .notEqual, m.value⟩
  | 2 => .ok ⟨m.name, .pattern, m.value⟩
  | 3 => .ok ⟨m.name, .notPattern, m.value⟩
  | other => .error (.invalidQuery ("unknown matcher type " ++ toString other))

def decodeRead (body : Bytes) : Except Error (List Read.Query) :=
  match (Snappy.decode? body).bind readRequest? with
  | none => .error decodeError
  | some request =>
    request.mapM fun q => do return ⟨q.start, q.stop, ← q.matchers.mapM LabelMatcher.toMatcher⟩

def ofSeries (s : Series) : TimeSeries := ⟨s.labels.toList, s.points⟩

-- One result for each query, before compression.
def readMessage (results : List (List Series)) : Bytes :=
  readResponseBytes (results.map fun result => result.map ofSeries)

def encodeRead (results : List (List Series)) : Bytes := Snappy.encode (readMessage results)

end MetricRelay.Remote

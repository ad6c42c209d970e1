import MetricRelay.Decimal.Binary64
import MetricRelay.Error
import MetricRelay.Keyed

-- Samples of a metric: a name, labels, a millisecond timestamp and a value.

namespace MetricRelay

-- The label that carries the metric's name in a label list.
def nameLabel : String := "__name__"

abbrev Labels := Keyed String

structure Sample where
  metric : String
  -- without the name
  labels : Labels
  timestamp : Int64
  value : Binary64
  valid : metric ≠ "" ∧ labels.contains nameLabel = false ∧ labels.contains "" = false
deriving DecidableEq

namespace Sample

-- The name is looked at first, then a repeated name, then an empty one.
def make (metric : String) (labels : Labels) (timestamp : Int64) (value : Binary64) :
    Except Error Sample :=
  if hMetric : metric = "" then .error .missingMetricName
  else if hName : labels.contains nameLabel = true then
    .error (.invalidSample ("label set for " ++ metric ++ " must not repeat " ++ nameLabel))
  else if hEmpty : labels.contains "" = true then
    .error (.invalidSample ("empty label name \"\" on " ++ metric))
  else .ok ⟨metric, labels, timestamp, value, hMetric, by simpa using hName, by simpa using hEmpty⟩

-- A list without a repeated name, as a map.
def collect (labels : Labels) : List (String × String) → Except Error Labels
  | [] => .ok labels
  | (name, value) :: rest =>
    if labels.contains name then .error (.invalidSample ("duplicate label " ++ name))
    else collect (labels.insert name value) rest

-- From a label list that includes the name. A repeated label is reported before anything else.
def ofPairs (pairs : List (String × String)) (timestamp : Int64) (value : Binary64) :
    Except Error Sample := do
  let labels ← collect .empty pairs
  match labels.find? nameLabel with
  | none => .error .missingMetricName
  | some metric => make metric (labels.erase nameLabel) timestamp value

-- All labels, the name among them.
def labelSet (s : Sample) : Labels := s.labels.insert nameLabel s.metric

-- What each label costs beside its own text.
def pairOverhead : Nat := 6

-- What each sample costs beside its labels.
def overhead : Nat := 96

-- About how many bytes the sample takes in a bulk request.
def estimatedBytes (s : Sample) : Nat :=
  overhead + nameLabel.utf8ByteSize + s.metric.utf8ByteSize + pairOverhead +
    s.labels.toList.foldl (fun n (k, v) => n + (k.utf8ByteSize + v.utf8ByteSize + pairOverhead)) 0

end Sample

end MetricRelay

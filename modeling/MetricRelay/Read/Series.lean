import MetricRelay.Document

-- Documents gathered into series: one for each label set, its points in the order of time.

namespace MetricRelay

structure Point where
  timestamp : Int64
  value : Binary64
deriving DecidableEq, Repr

-- `labels` holds the name too.
structure Series where
  labels : Labels
  points : List Point
deriving DecidableEq

-- The order of label lists: by their first difference, a list before those that go on from it.
def Labels.precedes : List (String × String) → List (String × String) → Bool
  | [], [] => false
  | [], _ :: _ => true
  | _ :: _, [] => false
  | (k, v) :: s, (l, w) :: t =>
    decide (k < l) || (k == l && (decide (v < w) || (v == w && precedes s t)))

namespace Series

-- Adds a point to the series of its labels, which is put where it belongs if it is new.
def addPoint (labels : Labels) (point : Point) : List Series → List Series
  | [] => [⟨labels, [point]⟩]
  | s :: rest =>
    if s.labels = labels then ⟨labels, s.points ++ [point]⟩ :: rest
    else if Labels.precedes labels.toList s.labels.toList then ⟨labels, [point]⟩ :: s :: rest
    else s :: addPoint labels point rest

def inTimeOrder (points : List Point) : List Point :=
  points.mergeSort fun a b => decide (a.timestamp ≤ b.timestamp)

-- Documents that are no samples are left out; points of one instant stay in their order.
def ofDocuments (documents : List Document) : List Series :=
  let gathered := documents.foldl (fun (all : List Series) d =>
    match d.toSample with
    | .ok s => addPoint s.labelSet ⟨s.timestamp, s.value⟩ all
    | .error _ => all) []
  gathered.map fun s => { s with points := inTimeOrder s.points }

end Series

end MetricRelay

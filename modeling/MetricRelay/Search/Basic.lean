import MetricRelay.Document
import MetricRelay.Regex.Reader

-- Searches of stored documents: a range of time, conditions on labels and a limit. A label that a
-- document does not have counts as empty, so `job = ""` selects documents without a job.

namespace MetricRelay

namespace Search

inductive Operator
  | equal
  | notEqual
  | pattern
  | notPattern
deriving DecidableEq, Repr

structure Filter where
  label : String
  operator : Operator
  value : String
deriving DecidableEq, Repr

-- A pattern speaks of the whole value.
def anchored (pattern : String) : String := "^(?:" ++ pattern ++ ")$"

def wholeValue? [Regex.Library] (pattern : String) : Option Regex :=
  Regex.read? (anchored pattern).toList

def matchesEmpty [Regex.Library] (pattern : String) : Bool :=
  match wholeValue? pattern with
  | some r => r.holdsIn ""
  | none => false

-- A condition on a label's value.
inductive Condition
  | equal (value : String)
  | notEqual (value : String)
  | pattern (regex : Regex)
  | notPattern (regex : Regex)

def Condition.holds (c : Condition) (value : String) : Bool :=
  match c with
  | .equal wanted => value == wanted
  | .notEqual unwanted => value != unwanted
  | .pattern regex => regex.holdsIn value
  | .notPattern regex => !regex.holdsIn value

def Filter.compile [Regex.Library] (f : Filter) : Except Error Condition :=
  let regex : Except Error Regex :=
    match wholeValue? f.value with
    | some r => .ok r
    | none =>
      .error (.invalidQuery ("bad regex for " ++ f.label ++ ": " ++
        Regex.Library.complaint (anchored f.value)))
  match f.operator with
  | .equal => .ok (.equal f.value)
  | .notEqual => .ok (.notEqual f.value)
  | .pattern => regex.map .pattern
  | .notPattern => regex.map .notPattern

end Search

structure Search where
  -- an alias or an index
  target : String
  -- both ends belong to the range
  start : Int64
  stop : Int64
  filters : List Search.Filter
  -- how many documents may be returned
  size : Nat
deriving DecidableEq, Repr

namespace Search

structure Compiled where
  start : Int64
  stop : Int64
  conditions : List (String × Condition)

def compile [Regex.Library] (s : Search) : Except Error Compiled := do
  let conditions ← s.filters.mapM fun f => do return (f.label, ← f.compile)
  return ⟨s.start, s.stop, conditions⟩

def labelValue (labels : Labels) (label : String) : String := (labels.find? label).getD ""

def Compiled.holds (c : Compiled) (d : Document) : Bool :=
  decide (c.start ≤ d.timestamp) && decide (d.timestamp ≤ c.stop) &&
    c.conditions.all fun (label, condition) => condition.holds (labelValue d.labels label)

end Search

end MetricRelay

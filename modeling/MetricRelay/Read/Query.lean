import MetricRelay.Read.Config
import MetricRelay.Search.Basic

namespace MetricRelay.Read

structure Matcher where
  name : String
  operator : Search.Operator
  value : String
deriving DecidableEq, Repr

structure Query where
  start : Int64
  stop : Int64
  matchers : List Matcher
deriving DecidableEq, Repr

def Matcher.filter (m : Matcher) : Except Error Search.Filter :=
  if m.name = "" then .error (.invalidQuery "matcher with empty label name")
  else .ok ⟨m.name, m.operator, m.value⟩

-- Patterns that do not compile are refused here and not by the store.
def Query.search [Regex.Library] (q : Query) (aliasName : String) (maxDocs : Nat) :
    Except Error Search := do
  if q.stop < q.start then
    .error (.invalidQuery ("start " ++ toString q.start.toInt ++ " is after end " ++
      toString q.stop.toInt))
  else
    let filters ← q.matchers.mapM Matcher.filter
    let search : Search := ⟨aliasName, q.start, q.stop, filters, maxDocs⟩
    let _ ← search.compile
    return search

end MetricRelay.Read

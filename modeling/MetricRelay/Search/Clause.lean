import MetricRelay.Search.Basic

-- Searches as a store spells them: clauses on fields, and the request body built from them. In a
-- clause a missing label is missing and not empty.

namespace MetricRelay.Search

inductive Clause
  | range (start stop : Int64)
  | term (label value : String)
  | present (label : String)
  | absent (label : String)
  | pattern (label text : String)
  -- every clause of the first list, none of the second
  | both (filter mustNot : List Clause)
  -- at least one clause
  | either (should : List Clause)

namespace Clause

def field (label : String) : String := Document.labelField ++ "." ++ label

mutual

def toJson : Clause → Json
  | .range start stop =>
    .obj [("range", .obj [(Document.timestampField, .obj [("gte", .int start.toInt),
      ("lte", .int stop.toInt), ("format", .str "epoch_millis")])])]
  | .term label value => .obj [("term", .obj [(field label, .str value)])]
  | .present label => .obj [("exists", .obj [("field", .str (field label))])]
  | .absent label =>
    .obj [("bool", .obj [("must_not", .obj [("exists", .obj [("field", .str (field label))])])])]
  | .pattern label text => .obj [("regexp", .obj [(field label, .str text)])]
  | .both filter [] => .obj [("bool", .obj [("filter", .arr (listJson filter))])]
  | .both filter mustNot =>
    .obj [("bool", .obj [("filter", .arr (listJson filter)),
      ("must_not", .arr (listJson mustNot))])]
  | .either should =>
    .obj [("bool", .obj [("should", .arr (listJson should)), ("minimum_should_match", .int 1)])]

def listJson : List Clause → List Json
  | [] => []
  | c :: rest => toJson c :: listJson rest

end

-- What a store understands by a clause, given what it understands by a pattern and a value.
mutual

def holds (isMatch : String → String → Bool) (d : Document) : Clause → Bool
  | .range start stop => decide (start ≤ d.timestamp) && decide (d.timestamp ≤ stop)
  | .term label value => d.labels.find? label == some value
  | .present label => d.labels.contains label
  | .absent label => !d.labels.contains label
  | .pattern label text =>
    match d.labels.find? label with
    | some value => isMatch text value
    | none => false
  | .both filter mustNot => allHold isMatch d filter && !anyHolds isMatch d mustNot
  | .either should => anyHolds isMatch d should

def allHold (isMatch : String → String → Bool) (d : Document) : List Clause → Bool
  | [] => true
  | c :: rest => holds isMatch d c && allHold isMatch d rest

def anyHolds (isMatch : String → String → Bool) (d : Document) : List Clause → Bool
  | [] => false
  | c :: rest => holds isMatch d c || anyHolds isMatch d rest

end

end Clause

-- What a filter asks for and what it rules out. A pattern that matches the empty text also takes
-- documents without the label.
def Filter.clauses [Regex.Library] (f : Filter) : List Clause × List Clause :=
  match f.operator with
  | .equal => if f.value = "" then ([], [.present f.label]) else ([.term f.label f.value], [])
  | .notEqual => if f.value = "" then ([.present f.label], []) else ([], [.term f.label f.value])
  | .pattern =>
    if matchesEmpty f.value then
      ([.either [.pattern f.label f.value, .absent f.label]], [])
    else ([.pattern f.label f.value], [])
  | .notPattern =>
    (if matchesEmpty f.value then [.present f.label] else [], [.pattern f.label f.value])

def clause [Regex.Library] (s : Search) : Clause :=
  .both (.range s.start s.stop :: s.filters.flatMap fun f => f.clauses.1)
    (s.filters.flatMap fun f => f.clauses.2)

-- The oldest documents come first.
def body [Regex.Library] (s : Search) : Json :=
  .obj [("size", .int s.size),
    ("sort", .arr [.obj [(Document.timestampField, .obj [("order", .str "asc")])]]),
    ("query", s.clause.toJson)]

end MetricRelay.Search

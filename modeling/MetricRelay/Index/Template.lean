import MetricRelay.Document
import MetricRelay.Index.Name

namespace MetricRelay.Index

structure Settings where
  shards : Nat
  replicas : Nat
deriving DecidableEq, Repr

instance : Inhabited Settings := ⟨⟨5, 1⟩⟩

structure Template where
  name : String
  patterns : List String
  settings : Settings
  mappings : Json
deriving DecidableEq

-- A pattern that ends in a star stands for every name that begins with the rest of it.
def matchesPattern (pattern index : List Char) : Bool :=
  match pattern.reverse with
  | '*' :: rest => rest.reverse.isPrefixOf index
  | _ => pattern == index

def Template.covers (t : Template) (index : String) : Bool :=
  t.patterns.any fun pattern => matchesPattern pattern.toList index.toList

-- Labels are keywords, the value a number and the timestamp a date in milliseconds.
def metricMappings : Json :=
  .object [
    ("dynamic_templates", .arr [.object [("labels", .object [
      ("path_match", .str (Document.labelField ++ ".*")),
      ("match_mapping_type", .str "string"),
      ("mapping", .object [("type", .str "keyword")])])]]),
    ("properties", .object [
      (Document.labelField, .object [("type", .str "object")]),
      (Document.valueField, .object [("type", .str "double")]),
      (Document.timestampField, .object [("type", .str "date"), ("format", .str "epoch_millis")])])]

end MetricRelay.Index

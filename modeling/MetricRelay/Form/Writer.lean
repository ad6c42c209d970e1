import MetricRelay.CommandLine.Launch
import MetricRelay.Decimal.Text
import MetricRelay.Json.Basic
import MetricRelay.Lifecycle.Cycle
import MetricRelay.Protobuf.Wire
import MetricRelay.Read.Query
import MetricRelay.Read.Series
import MetricRelay.Store.Request
import MetricRelay.Write.Pipeline

namespace MetricRelay.Form

def obj (l : List (String × Json)) : Json := .obj l

def natJson (n : Nat) : Json := .int n

def i64Json (n : Int64) : Json := .int n.toInt

def durationJson (d : Duration) : Json := .arr [natJson d.seconds, natJson d.subsecond]

def orNullJson {α : Type} (f : α → Json) : Option α → Json
  | some a => f a
  | none => .null

def strs (l : List String) : Json := .arr (l.map .str)

def pairJson (p : String × String) : Json := .arr [.str p.1, .str p.2]

def labelsJson (l : Labels) : Json := .arr (l.toList.map pairJson)

def labelsObject (l : Labels) : Json := .obj (l.toList.map fun (k, v) => (k, .str v))

def numberJson (x : Binary64) : Json := .str (Decimal.valueText x)

def sampleFields (s : Sample) : List (String × Json) :=
  [("metric", .str s.metric), ("labels", labelsJson s.labels), ("ts", i64Json s.timestamp),
    ("value", numberJson s.value), ("bytes", natJson s.estimatedBytes)]

def sampleJson (s : Sample) : Json := obj (sampleFields s)

def documentJson (d : Document) : Json :=
  .arr [labelsObject d.labels, i64Json d.timestamp, numberJson d.value]

def settingsJson (s : Index.Settings) : Json := .arr [natJson s.shards, natJson s.replicas]

def templateJson (t : Index.Template) : Json :=
  obj [("name", .str t.name), ("patterns", strs t.patterns), ("settings", settingsJson t.settings),
    ("mappings", t.mappings)]

def kindJson (k : TriggerKind) : Json := .str k.name

def precedenceJson (p : Precedence) : Json := .arr (p.order.map kindJson)

def triggerJson (t : Trigger) : Json :=
  let (threshold, measured) := match t with
    | .sizeExceeded a b => (natJson a, natJson b)
    | .countExceeded a b => (natJson a, natJson b)
    | .ageExceeded a b => (durationJson a, durationJson b)
  obj [("kind", kindJson t.kind), ("reason", .str t.reason), ("threshold", threshold),
    ("measured", measured), ("display", .str t.text)]

def measurementJson (m : Measurement) : List Json :=
  [natJson m.size, natJson m.count, durationJson m.age]

def stateJson (s : Lifecycle.IndexState) : Json :=
  obj [("alias", .str s.aliasName), ("index", .str s.index), ("doc_count", natJson s.docs),
    ("size_bytes", natJson s.bytes), ("created_at_ms", i64Json s.created),
    ("phase", .str s.phase.name)]

def operatorText : Search.Operator → String
  | .equal => "="
  | .notEqual => "!="
  | .pattern => "=~"
  | .notPattern => "!~"

def searchJson (s : Search) : Json :=
  obj [("index", .str s.target), ("start", i64Json s.start), ("end", i64Json s.stop),
    ("filters", .arr (s.filters.map fun f =>
      strs [f.label, operatorText f.operator, f.value])), ("size", natJson s.size)]

def seriesJson (s : Series) : Json :=
  obj [("labels", labelsJson s.labels),
    ("points", .arr (s.points.map fun p => .arr [i64Json p.timestamp, numberJson p.value]))]

def hexJson (bs : Bytes) : Json :=
  let digit (n : Nat) : Char := Nat.digitChar n
  .str (String.ofList (bs.flatMap fun b => [digit (b.toNat / 16), digit (b.toNat % 16)]))

def queryJson (q : Read.Query) : Json :=
  obj [("start", i64Json q.start), ("end", i64Json q.stop),
    ("matchers", .arr (q.matchers.map fun m => strs [m.name, operatorText m.operator, m.value]))]

def outcomeJson : Store.Outcome → Json
  | .accepted => .str "accepted"
  | .retryable reason => .arr [.str "retryable", .str reason]
  | .permanent reason => .arr [.str "permanent", .str reason]

def installationJson : Store.Installation → Json
  | .applied => .str "applied"
  | .unchanged => .str "unchanged"

def storedJson : (r : Store.Request) → r.Answer → Json
  | .bulk _ _, outcomes =>
    obj [("items", .arr (outcomes.map outcomeJson)),
      ("accepted", natJson (outcomes.countP (· == .accepted))),
      ("has_failures", .bool (outcomes.any (· != .accepted)))]
  | .createIndex _ _ _, .created => .str "created"
  | .createIndex _ _ _, .alreadyExists => .str "already_exists"
  | .updateAliases _, _ => .null
  | .putTemplate _, i => installationJson i
  | .writeIndex _, index? => orNullJson .str index?
  | .indexStats _, s =>
    obj [("index", .str s.index), ("docs", natJson s.documents), ("bytes", natJson s.bytes),
      ("created", i64Json s.created)]
  | .search _, docs => .arr (docs.map documentJson)
  | .ping, _ => .null

def rolloverJson (r : Lifecycle.Rollover) : Json :=
  obj [("alias", .str r.aliasName), ("from", .str r.old), ("to", .str r.new),
    ("trigger", orNullJson triggerJson r.trigger)]

def doneJson : Write.Done → Json
  | .added trigger => orNullJson triggerJson trigger
  | .wrote samples => natJson samples
  | .flushed trigger => orNullJson triggerJson trigger
  | .timerStopped => .str "stopped"
  | .closed | .shutDown | .workerStopped => .null

def writerFields (c : Write.Config) : List (String × Json) :=
  [("workers", natJson c.workers), ("max_size", orNullJson natJson c.batch.maxSize),
    ("max_count", orNullJson natJson c.batch.maxCount),
    ("max_age", orNullJson durationJson c.batch.maxAge), ("precedence", precedenceJson c.precedence),
    ("age_check", durationJson c.ageCheckInterval), ("queue_capacity", natJson c.queueCapacity),
    ("max_retries", natJson c.maxRetries), ("backoff_initial", durationJson c.backoff.initial),
    ("backoff_max", durationJson c.backoff.max), ("request_timeout", durationJson c.requestTimeout),
    ("drain_timeout", durationJson c.drainTimeout), ("failure_capacity", natJson c.failureCapacity)]

def indexFields (c : Lifecycle.Config) : List (String × Json) :=
  [("alias", .str c.aliasName), ("daily", .bool c.daily), ("settings", settingsJson c.settings),
    ("max_age", orNullJson durationJson c.policy.maxAge),
    ("max_docs", orNullJson natJson c.policy.maxDocs),
    ("max_size", orNullJson natJson c.policy.maxSize),
    ("precedence", precedenceJson c.policy.precedence), ("roll_empty", .bool c.policy.rollEmpty),
    ("check_interval", durationJson c.checkInterval),
    ("request_timeout", durationJson c.requestTimeout)]

-- Everything the options of the command line ask for.
def launchFields (l : CommandLine.Launch) : List (String × Json) :=
  [("store", obj [("url", .str l.store.url), ("sniff", .bool l.store.sniff),
      ("request_timeout", durationJson l.store.requestTimeout)]),
    ("writer", obj (writerFields l.config.writer)), ("index", obj (indexFields l.config.index)),
    ("read", obj [("alias", .str l.config.reader.aliasName),
      ("max_docs", natJson l.config.reader.maxDocs),
      ("request_timeout", durationJson l.config.reader.requestTimeout)]),
    ("server", obj [("http_port", natJson l.server.httpPort),
      ("admin_port", natJson l.server.adminPort), ("stats", .bool l.server.stats)]),
    ("log_level", .str (if l.debug then "debug" else "info"))]

end MetricRelay.Form

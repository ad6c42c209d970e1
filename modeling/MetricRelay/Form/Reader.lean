import MetricRelay.Form.Access
import MetricRelay.Protobuf.Wire
import MetricRelay.Read.Query
import MetricRelay.Read.Series
import MetricRelay.Store.Write
import MetricRelay.Write.Failure

namespace MetricRelay.Form

def duration (j : Json) : Decoded Duration := do
  match ← list j with
  | [s, n] => return .ofNanos ((← nat s) * Duration.nanosPerSecond + (← nat n))
  | _ => .error "duration expected"

def millis (j : Json) : Decoded Duration := Duration.ofMillis <$> nat j

def number (j : Json) : Decoded Binary64 := do
  match Decimal.read? (← str j).toList with
  | some x => return x
  | none => .error "number expected"

def pair (j : Json) : Decoded (String × String) := do
  match ← list j with
  | [a, b] => return (← str a, ← str b)
  | _ => .error "pair expected"

def pairs (j : Json) : Decoded (List (String × String)) :=
  match j with
  | .obj l => l.mapM fun (k, v) => return (k, ← str v)
  | j => listOf pair j

def labels (j : Json) : Decoded Labels := Keyed.ofList <$> pairs j

def document (j : Json) : Decoded Document := do
  match ← list j with
  | [l, t, v] => return ⟨← labels l, ← i64 t, ← number v⟩
  | _ => .error "document expected"

def sampleOf (j : Json) : Decoded (Except Error Sample) := do
  match ← list j with
  | [l, t, v] => return Sample.ofPairs (← pairs l) (← i64 t) (← number v)
  | _ => .error "sample expected"

def settings (j : Json) : Decoded Index.Settings := do
  match ← list j with
  | [s, r] => return ⟨← nat s, ← nat r⟩
  | _ => .error "settings expected"

def template (j : Json) : Decoded Index.Template := do
  return { name := ← str (← field j "name"), patterns := ← listOf str (← field j "patterns"),
           settings := ← settings (← field j "settings"), mappings := ← field j "mappings" }

def kindOf (s : String) : Decoded TriggerKind :=
  match s with
  | "size" => .ok .size
  | "count" => .ok .count
  | "age" => .ok .age
  | _ => .error "kind expected"

def thresholds (j : Json) : Decoded Thresholds := do
  return { maxSize := ← orNull nat (← field j "size"), maxCount := ← orNull nat (← field j "count"),
           maxAge := ← orNull duration (← field j "age") }

def operator (j : Json) : Decoded Search.Operator := do
  match ← str j with
  | "=" => return .equal
  | "!=" => return .notEqual
  | "=~" => return .pattern
  | "!~" => return .notPattern
  | _ => .error "operator expected"

def filterOf (j : Json) : Decoded Search.Filter := do
  match ← list j with
  | [l, o, v] => return ⟨← str l, ← operator o, ← str v⟩
  | _ => .error "filter expected"

def searchOf (j : Json) : Decoded Search := do
  return { target := ← str (← field j "index"), start := ← i64 (← field j "start"),
           stop := ← i64 (← field j "end"), filters := ← listOf filterOf (← field j "filters"),
           size := ← nat (← field j "size") }

def queryOf (j : Json) : Decoded Read.Query := do
  let matcher (m : Json) : Decoded Read.Matcher := do
    let f ← filterOf m
    return ⟨f.label, f.operator, f.value⟩
  return { start := ← i64 (← field j "start"), stop := ← i64 (← field j "end"),
           matchers := ← listOf matcher (← field j "matchers") }

def hexDigit (c : Char) : Decoded Nat :=
  match "0123456789abcdef".toList.findIdx? (· == c) with
  | some n => .ok n
  | none => .error "hexadecimal digit expected"

def hexBytes : List Char → Decoded Bytes
  | a :: b :: rest => do return UInt8.ofNat (16 * (← hexDigit a) + (← hexDigit b)) :: (← hexBytes rest)
  | [] => .ok []
  | _ => .error "an even number of digits expected"

def bytes (j : Json) : Decoded Bytes := do hexBytes (← str j).toList

def seriesOf (j : Json) : Decoded Series := do
  let point (p : Json) : Decoded Point := do
    match ← list p with
    | [t, v] => return ⟨← i64 t, ← number v⟩
    | _ => .error "point expected"
  return ⟨← labels (← field j "labels"), ← listOf point (← field j "points")⟩

def failureOf (j : Json) : Decoded Write.Failure := do
  let count (key : String) : Decoded Nat := do nat (← field j key)
  let text (key : String) : Decoded String := do str (← field j key)
  match ← text "event" with
  | "documents_dropped" =>
    return .documentsDropped (← text "target") (← count "count") (← text "reason")
  | "batch_failed" =>
    return .batchFailed (← text "target") (← count "samples") (← count "attempts") (← text "error")
  | _ => return .shutdownLoss (← count "batches") (← count "samples")

def outcomeOf (j : Json) : Decoded Store.Outcome := do
  match j with
  | .arr [.str "retryable", .str reason] => return .retryable reason
  | .arr [.str "permanent", .str reason] => return .permanent reason
  | _ => return .accepted

def aliasAction (j : Json) : Decoded Store.AliasAction := do
  match ← list j with
  | [_, i, a, w] => return .add (← str i) (← str a) (← bool w)
  | [_, i, a] => return .remove (← str i) (← str a)
  | _ => .error "alias action expected"

end MetricRelay.Form

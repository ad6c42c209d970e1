import MetricRelay.Cluster.Exchange
import MetricRelay.Index.Template
import MetricRelay.Json.Pointer
import MetricRelay.Store.Write

namespace MetricRelay.Cluster

-- An error as a cluster describes it: its type and, if given, the reason.
def describe (error : Json) : String :=
  let kind := ((error.get? "type").bind Json.text?).getD "error"
  match (error.get? "reason").bind Json.text? with
  | some reason => kind ++ ": " ++ reason
  | none => kind

-- Of a body that says nothing of an error this much is shown.
def excerptLength : Nat := 256

def excerpt (body : String) : String := String.ofList (body.toList.take excerptLength)

def reason (body : String) : String :=
  match (Json.read? body).bind fun j => j.get? "error" with
  | some (.obj members) => describe (.obj members)
  | some (.str s) => s
  | _ => excerpt body

def errorType? (body : String) : Option String :=
  ((Json.read? body).bind fun j => j.pointer? "/error/type").bind Json.text?

namespace Reply

-- Statuses that ask to come back later are told apart from refusals.
def check (r : Reply) : Except Error Reply :=
  if r.isSuccess then .ok r
  else
    let reason := reason r.content
    if isRetryableStatus r.status then .error (.unavailable (toString r.status ++ ": " ++ reason))
    else .error (.store r.status reason)

def json (r : Reply) : Except Error Json :=
  match Json.read? r.content with
  | some j => .ok j
  | none => .error (.transport .undecodable)

end Reply

-- What is said of one document of a bulk request.
structure BulkItem where
  status : Nat
  error : Option Json
deriving DecidableEq

namespace BulkItem

def outcome (item : BulkItem) : Store.Outcome :=
  if 200 ≤ item.status ∧ item.status < 300 then .accepted
  else
    let reason := match item.error with
      | some e => describe e
      | none => "status " ++ toString item.status
    if isRetryableStatus item.status then .retryable reason else .permanent reason

def status? (s : Json.Spelling) : Option Nat := do
  let n ← (← s.value?).nat?
  if n < UInt16.size then some n else none

-- How deeply an error may be nested, being inside four other values.
def depthLimit : Nat := 124

-- Null stands for no error.
def error? (s : Json.Spelling) : Option (Option Json) := do
  if depthLimit ≤ s.depth then none
  else
    match ← s.value? with
    | .null => some none
    | j => some (some j.sorted)

-- The fields read so far. One given twice is refused and an unknown one passed over.
structure Partial where
  status : Option Nat
  error : Option (Option Json)

def Partial.member? (p : Partial) (key : Option (List Char)) (item : Json.Spelling) :
    Option Partial := do
  let key ← key
  if key = "status".toList then
    if p.status.isSome then none else return { p with status := some (← status? item) }
  else if key = "error".toList then
    if p.error.isSome then none else return { p with error := some (← error? item) }
  else some p

-- An object, or the values in a row.
def ofSpelling? : Json.Spelling → Option BulkItem
  | .object members => do
    let p ← members.foldlM (fun (p : Partial) (key, item) => p.member? key item) ⟨none, none⟩
    return ⟨← p.status, p.error.getD none⟩
  | .array [status] => do return ⟨← status? status, none⟩
  | .array [status, error] => do return ⟨← status? status, ← error? error⟩
  | _ => none

end BulkItem

-- The answer to one action of a bulk request, under the action's name.
def actionAnswers? : Json.Spelling → Option (Keyed BulkItem)
  | .object members => members.foldlM (fun answers (key, item) => do
    return answers.insert (String.ofList (← key)) (← BulkItem.ofSpelling? item)) .empty
  | _ => none

def answerLists? : Json.Spelling → Option (List (Keyed BulkItem))
  | .array items => items.mapM actionAnswers?
  | _ => none

def bulkMember? (found : Option (List (Keyed BulkItem))) (key : Option (List Char))
    (item : Json.Spelling) : Option (Option (List (Keyed BulkItem))) := do
  let key ← key
  if key = "items".toList then
    if found.isSome then none else return some (← answerLists? item)
  else some found

-- Without any items there are none.
def bulkAnswers? : Json.Spelling → Option (List (Keyed BulkItem))
  | .object members => do
    let found ← members.foldlM (fun found (key, item) => bulkMember? found key item) none
    return found.getD []
  | .array [] => some []
  | .array [items] => answerLists? items
  | _ => none

def readBulk? (body : String) : Option (List (Keyed BulkItem)) :=
  (Json.spelling? body.toList).bind bulkAnswers?

-- The answer to the action that was asked for, or to whichever there is.
def outcomeOf (answers : Keyed BulkItem) : Store.Outcome :=
  match (answers.find? "index").or answers.values.head? with
  | some item => item.outcome
  | none => .permanent "empty bulk item"

-- One outcome for each document, in order.
def bulkOutcomes (documents : Nat) (r : Reply) : Except Error (List Store.Outcome) :=
  match readBulk? r.content with
  | none => .error (.transport .undecodable)
  | some answers =>
    if answers.length = documents then .ok (answers.map outcomeOf)
    else .error (.internal ("bulk response has " ++ toString answers.length ++ " items for " ++
      toString documents ++ " documents"))

-- A whole number, possibly as text.
def looseInt? (j : Json) (key : String) : Option Int := do
  match ← j.get? key with
  | .str s =>
    let (negative, digits) := Decimal.splitSign s.toList
    if digits.isEmpty || !digits.all Char.isDigit then none
    else
      let n : Int := Decimal.readDigits digits
      let i := if negative then -n else n
      if Int64.minValue.toInt ≤ i ∧ i ≤ Int64.maxValue.toInt then some i else none
  | .int i => if i ≤ Int64.maxValue.toInt then some i else none
  | _ => none

-- Settings and time of creation of an index. Counts have thirty-two bits.
def indexSettings (index : String) (body : Json) : Except Error (Index.Settings × Int64) :=
  match body.pointer? ("/" ++ index ++ "/settings/index") with
  | none => .error (.internal ("settings missing for " ++ index))
  | some settings =>
    let count (key : String) : Nat := (((looseInt? settings key).getD 0) % UInt32.size).toNat
    .ok (⟨count "number_of_shards", count "number_of_replicas"⟩,
      Int64.ofInt ((looseInt? settings "creation_date").getD 0))

-- Whether an installed template is the one that is wanted.
def isInstalled (t : Index.Template) (body : Json) : Bool :=
  match body.get? t.name with
  | none => false
  | some current =>
    let patterns := (((current.get? "index_patterns").bind Json.items?).bind fun items =>
      items.mapM Json.text?).getD []
    let settings := (current.pointer? "/settings/index").getD .null
    patterns == t.patterns &&
      looseInt? settings "number_of_shards" == some (t.settings.shards : Int) &&
      looseInt? settings "number_of_replicas" == some (t.settings.replicas : Int) &&
      current.get? "mappings" == some t.mappings.sorted

-- The member of an alias that takes its writes: the flagged one, or the only one.
def writeMember? (aliasName : String) (body : Json) : Option String := do
  let members ← body.members?
  let flagged (entry : String × Json) : Bool :=
    ((entry.2.pointer? ("/aliases/" ++ aliasName ++ "/is_write_index")).bind Json.bool?).getD false
  match members.find? flagged, members with
  | some (index, _), _ => some index
  | none, [(index, _)] => some index
  | none, _ => none

-- Documents and bytes of an index.
def indexSizes (index : String) (body : Json) : Except Error (Nat × Nat) :=
  match body.pointer? ("/indices/" ++ index ++ "/primaries") with
  | none => .error (.internal ("stats missing for " ++ index))
  | some primaries =>
    let count (pointer : String) : Nat := ((primaries.pointer? pointer).bind Json.nat?).getD 0
    .ok (count "/docs/count", count "/store/size_in_bytes")

-- What a search found. A hit without a source is passed over.
def hits (body : Json) : Except Error (List Document) :=
  let found := ((body.pointer? "/hits/hits").bind Json.items?).getD []
  (found.filterMap fun hit => hit.get? "_source").mapM fun source =>
    match Document.ofJson? source with
    | some d => .ok d
    | none => .error (.serialization "not a document")

-- Where the nodes of a cluster listen: an address, perhaps after a name and a slash.
def publishedAddresses (body : Json) : List String :=
  (((body.get? "nodes").bind Json.members?).getD []).filterMap fun (_, node) => do
    let address ← (← node.pointer? "/http/publish_address").text?
    (Text.pieces '/' address).getLast?

end MetricRelay.Cluster

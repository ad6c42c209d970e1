import MetricRelay.Json.Printer
import MetricRelay.Json.Spelling
import MetricRelay.Sample

namespace MetricRelay

structure Document where
  labels : Labels
  timestamp : Int64
  value : Binary64
deriving DecidableEq

namespace Document

def labelField : String := "label"
def valueField : String := "value"
def timestampField : String := "timestamp"

def ofSample (s : Sample) : Document := ⟨s.labelSet, s.timestamp, s.value⟩

def toSample (d : Document) : Except Error Sample := Sample.ofPairs d.labels.toList d.timestamp d.value

-- JSON has no numbers for NaN and the infinities; they travel as text.
def valueJson (x : Binary64) : Json :=
  if x.isFinite then .real x else .str (Decimal.valueText x)

def toJson (d : Document) : Json :=
  .obj [(labelField, .obj (d.labels.toList.map fun (k, v) => (k, .str v))),
    (valueField, valueJson d.value), (timestampField, .int d.timestamp.toInt)]

def render (d : Document) : String := d.toJson.render

def textBytes (d : Document) : Nat := d.render.utf8ByteSize

-- Numbers stand for themselves; texts are decimals or one of the spelled-out values.
def valueOfJson? : Json → Option Binary64
  | .int i => some (.ofDecimal (decide (i < 0)) i.natAbs 0)
  | .real x => some x
  | .str s => Decimal.read? s.toList
  | _ => none

def timestampOfJson? : Json → Option Int64
  | .int i => if Int64.minValue.toInt ≤ i ∧ i ≤ Int64.maxValue.toInt then some (Int64.ofInt i) else none
  | _ => none

-- Of labels given twice the last stays.
def labelsOfSpelling? (members : List (Option (List Char) × Json.Spelling)) : Option Labels :=
  members.foldlM (fun labels (key, item) =>
    match key, item with
    | some k, .string (some v) => some (labels.insert (String.ofList k) (String.ofList v))
    | _, _ => none) .empty

def labelsField? : Json.Spelling → Option Labels
  | .object members => labelsOfSpelling? members
  | _ => none

def valueField? (s : Json.Spelling) : Option Binary64 := s.value?.bind valueOfJson?

def timestampField? (s : Json.Spelling) : Option Int64 := s.value?.bind timestampOfJson?

-- The fields read so far.
structure Partial where
  labels : Option Labels
  value : Option Binary64
  timestamp : Option Int64

-- A field given twice is refused; the text of an unknown one does not matter.
def Partial.member? (p : Partial) (key : Option (List Char)) (item : Json.Spelling) :
    Option Partial := do
  let key ← key
  if key = labelField.toList then
    if p.labels.isSome then none else return { p with labels := some (← labelsField? item) }
  else if key = valueField.toList then
    if p.value.isSome then none else return { p with value := some (← valueField? item) }
  else if key = timestampField.toList then
    if p.timestamp.isSome then none
    else return { p with timestamp := some (← timestampField? item) }
  else some p

-- An object with the three fields in any order, or the three values in a row.
def ofSpelling? : Json.Spelling → Option Document
  | .object members => do
    let p ← members.foldlM (fun (p : Partial) (key, item) => p.member? key item) ⟨none, none, none⟩
    return ⟨← p.labels, ← p.timestamp, ← p.value⟩
  | .array [labels, value, timestamp] => do
    return ⟨← labelsField? labels, ← timestampField? timestamp, ← valueField? value⟩
  | _ => none

def labelsOfJson? : Json → Option Labels
  | .obj members => members.foldlM (fun labels (key, item) =>
    match item with
    | .str v => some (labels.insert key v)
    | _ => none) .empty
  | _ => none

-- The same from a value that was read before, in which no field is given twice.
def ofJson? : Json → Option Document
  | .arr [labels, value, timestamp] => do
    return ⟨← labelsOfJson? labels, ← timestampOfJson? timestamp, ← valueOfJson? value⟩
  | j => do
    return ⟨← labelsOfJson? (← j.get? labelField), ← timestampOfJson? (← j.get? timestampField),
      ← valueOfJson? (← j.get? valueField)⟩

def decode (text : String) : Except Error Document :=
  match (Json.spelling? text.toList).bind ofSpelling? with
  | some d => .ok d
  | none => .error (.serialization "not a document")

end Document

end MetricRelay

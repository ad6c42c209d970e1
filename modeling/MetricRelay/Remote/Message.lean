import MetricRelay.Protobuf.Wire
import MetricRelay.Read.Series

-- Messages of the remote storage protocol. Fields that are not known are passed over, of a field
-- with one value the last stays, and a known field of another wire type is refused.

namespace MetricRelay.Remote

open Protobuf

-- As on the wire: the name is one of the labels and nothing is checked.
structure TimeSeries where
  labels : List (String × String)
  samples : List Point
deriving DecidableEq, Repr

structure LabelMatcher where
  kind : Int
  name : String
  value : String
deriving DecidableEq, Repr

structure ReadQuery where
  start : Int64
  stop : Int64
  matchers : List LabelMatcher
deriving DecidableEq, Repr

def int64 (n : Nat) : Int64 := (UInt64.ofNat n).toInt64

-- Enumerations have thirty-two bits; the others are dropped.
def int32 (n : Nat) : Int := (UInt32.ofNat n).toInt32.toInt

def double (n : Nat) : Binary64 := ⟨UInt64.ofNat n⟩

-- A message read field by field.
def message? {α : Type} (start : α) (add : α → Field → Option α) (depth : Nat) (bs : Bytes) :
    Option α :=
  (fields? depth bs).bind fun fs => fs.foldlM add start

def addLabelField (l : String × String) (f : Field) : Option (String × String) :=
  match f.number, f.payload with
  | 1, .bytes b => (text? b).map fun name => (name, l.2)
  | 2, .bytes b => (text? b).map fun value => (l.1, value)
  | 1, _ | 2, _ => none
  | _, _ => some l

def addPointField (p : Point) (f : Field) : Option Point :=
  match f.number, f.payload with
  | 1, .fixed64 n => some { p with value := double n }
  | 2, .varint n => some { p with timestamp := int64 n }
  | 1, _ | 2, _ => none
  | _, _ => some p

def addSeriesField (depth : Nat) (s : TimeSeries) (f : Field) : Option TimeSeries :=
  match f.number, f.payload with
  | 1, .bytes b =>
    (message? ("", "") addLabelField depth b).map fun l => { s with labels := s.labels ++ [l] }
  | 2, .bytes b =>
    (message? ⟨0, .zero false⟩ addPointField depth b).map fun p =>
      { s with samples := s.samples ++ [p] }
  | 1, _ | 2, _ => none
  | _, _ => some s

def addMatcherField (m : LabelMatcher) (f : Field) : Option LabelMatcher :=
  match f.number, f.payload with
  | 1, .varint n => some { m with kind := int32 n }
  | 2, .bytes b => (text? b).map fun name => { m with name := name }
  | 3, .bytes b => (text? b).map fun value => { m with value := value }
  | 1, _ | 2, _ | 3, _ => none
  | _, _ => some m

def addQueryField (depth : Nat) (q : ReadQuery) (f : Field) : Option ReadQuery :=
  match f.number, f.payload with
  | 1, .varint n => some { q with start := int64 n }
  | 2, .varint n => some { q with stop := int64 n }
  | 3, .bytes b =>
    (message? ⟨0, "", ""⟩ addMatcherField depth b).map fun m =>
      { q with matchers := q.matchers ++ [m] }
  | 1, _ | 2, _ | 3, _ => none
  | _, _ => some q

-- A message whose first field repeats messages of another kind.
def addItem {α : Type} (item? : Bytes → Option α) (items : List α) (f : Field) :
    Option (List α) :=
  match f.number, f.payload with
  | 1, .bytes b => (item? b).map fun x => items ++ [x]
  | 1, _ => none
  | _, _ => some items

def timeSeries? (depth : Nat) (bs : Bytes) : Option TimeSeries :=
  message? ⟨[], []⟩ (addSeriesField (depth - 1)) depth bs

def readQuery? (depth : Nat) (bs : Bytes) : Option ReadQuery :=
  message? ⟨0, 0, []⟩ (addQueryField (depth - 1)) depth bs

def writeRequest? (bs : Bytes) : Option (List TimeSeries) :=
  message? [] (addItem (timeSeries? (maxDepth - 1))) maxDepth bs

def readRequest? (bs : Bytes) : Option (List ReadQuery) :=
  message? [] (addItem (readQuery? (maxDepth - 1))) maxDepth bs

def readResponse? (bs : Bytes) : Option (List (List TimeSeries)) :=
  message? [] (addItem (message? [] (addItem (timeSeries? (maxDepth - 2))) (maxDepth - 1)))
    maxDepth bs

-- Fields that hold their default are left out; both zeros count as one.

def textField (number : Nat) (s : String) : List Field :=
  if s = "" then [] else [⟨number, .bytes (textBytes s)⟩]

def isZero (x : Binary64) : Bool := x == .zero false || x == .zero true

def labelFields (l : String × String) : List Field := textField 1 l.1 ++ textField 2 l.2

def pointFields (p : Point) : List Field :=
  (if isZero p.value then [] else [⟨1, .fixed64 p.value.bits.toNat⟩]) ++
    (if p.timestamp = 0 then [] else [⟨2, .varint p.timestamp.toUInt64.toNat⟩])

def seriesFields (s : TimeSeries) : List Field :=
  s.labels.map (fun l => ⟨1, .bytes (encode (labelFields l))⟩) ++
    s.samples.map (fun p => ⟨2, .bytes (encode (pointFields p))⟩)

def writeRequestBytes (request : List TimeSeries) : Bytes :=
  encode (request.map fun s => ⟨1, .bytes (encode (seriesFields s))⟩)

def resultBytes (result : List TimeSeries) : Bytes :=
  encode (result.map fun s => ⟨1, .bytes (encode (seriesFields s))⟩)

def readResponseBytes (response : List (List TimeSeries)) : Bytes :=
  encode (response.map fun result => ⟨1, .bytes (resultBytes result)⟩)

end MetricRelay.Remote

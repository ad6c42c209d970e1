-- The wire format of protocol buffers: a message is a list of numbered fields. Numbers in a varint
-- are written in groups of seven bits, the lowest first.

namespace MetricRelay

abbrev Bytes := List UInt8

namespace Protobuf

inductive Payload
  | varint (n : Nat)
  | fixed64 (n : Nat)
  | bytes (b : Bytes)
  -- a group's fields are of no interest
  | group
  | fixed32 (n : Nat)
deriving DecidableEq, Repr

structure Field where
  number : Nat
  payload : Payload
deriving DecidableEq, Repr

-- A varint of at most `left` bytes; the tenth holds a single bit.
def varint? (left : Nat) (bs : Bytes) : Option (Nat × Bytes) :=
  match left, bs with
  | 0, _ => none
  | _, [] => none
  | left + 1, b :: rest =>
    if b.toNat < 128 then if left = 0 ∧ 2 ≤ b.toNat then none else some (b.toNat, rest)
    else (varint? left rest).map fun (n, rest) => (b.toNat - 128 + 128 * n, rest)

def readVarint? (bs : Bytes) : Option (Nat × Bytes) := varint? 10 bs

def varintBytes (n : Nat) : Bytes :=
  if n < 128 then [UInt8.ofNat n] else UInt8.ofNat (n % 128 + 128) :: varintBytes (n / 128)
termination_by n

-- A number in `width` bytes, the lowest first.
def fixed? (width : Nat) (bs : Bytes) : Option (Nat × Bytes) :=
  match width, bs with
  | 0, _ => some (0, bs)
  | _ + 1, [] => none
  | width + 1, b :: rest =>
    (fixed? width rest).map fun (n, rest) => (b.toNat + 256 * n, rest)

def fixedBytes (width n : Nat) : Bytes :=
  match width with
  | 0 => []
  | width + 1 => UInt8.ofNat n :: fixedBytes width (n / 256)

-- A field's number and its wire type; numbers start at one and keys have thirty-two bits.
def key? (bs : Bytes) : Option (Nat × Nat × Bytes) := do
  let (key, rest) ← readVarint? bs
  if UInt32.size ≤ key ∨ 5 < key % 8 ∨ key / 8 = 0 then none else some (key / 8, key % 8, rest)

-- A payload that is no group.
def payload? (wire : Nat) (bs : Bytes) : Option (Payload × Bytes) :=
  match wire with
  | 0 => (readVarint? bs).map fun (n, rest) => (.varint n, rest)
  | 1 => (fixed? 8 bs).map fun (n, rest) => (.fixed64 n, rest)
  | 2 =>
    (readVarint? bs).bind fun (n, rest) =>
      if n ≤ rest.length then some (.bytes (rest.take n), rest.drop n) else none
  | 5 => (fixed? 4 bs).map fun (n, rest) => (.fixed32 n, rest)
  | _ => none

-- Passes over an open group and its end. Groups nest at most `depth` deep inside it; the fuel is
-- more than there are bytes.
def skipGroup? (fuel depth number : Nat) (bs : Bytes) : Option Bytes :=
  match fuel with
  | 0 => none
  | fuel + 1 =>
    match key? bs with
    | none => none
    | some (inner, wire, rest) =>
      if wire = 4 then if inner = number then some rest else none
      else if depth = 0 then none
      else if wire = 3 then
        (skipGroup? fuel (depth - 1) inner rest).bind (skipGroup? fuel depth number)
      else (payload? wire rest).bind fun (_, rest) => skipGroup? fuel depth number rest

def field? (depth : Nat) (bs : Bytes) : Option (Field × Bytes) := do
  let (number, wire, rest) ← key? bs
  if wire = 3 then
    let rest ← skipGroup? (rest.length + 1) (depth - 1) number rest
    return (⟨number, .group⟩, rest)
  else
    let (payload, rest) ← payload? wire rest
    return (⟨number, payload⟩, rest)

-- The fuel is more than there are bytes.
def fieldList? (fuel depth : Nat) (bs : Bytes) : Option (List Field) :=
  match fuel, bs with
  | _, [] => some []
  | 0, _ => none
  | fuel + 1, bs => do
    let (f, rest) ← field? depth bs
    let fs ← fieldList? fuel depth rest
    return f :: fs

-- The fields of a message in which groups and messages may nest `depth` deep.
def fields? (depth : Nat) (bs : Bytes) : Option (List Field) := fieldList? bs.length depth bs

-- How deep a whole message may nest.
def maxDepth : Nat := 100

-- Fields on their own; groups are never written.
def Field.encode (f : Field) : Bytes :=
  match f.payload with
  | .varint n => varintBytes (f.number * 8) ++ varintBytes n
  | .fixed64 n => varintBytes (f.number * 8 + 1) ++ fixedBytes 8 n
  | .bytes b => varintBytes (f.number * 8 + 2) ++ varintBytes b.length ++ b
  | .group => varintBytes (f.number * 8 + 3) ++ varintBytes (f.number * 8 + 4)
  | .fixed32 n => varintBytes (f.number * 8 + 5) ++ fixedBytes 4 n

def encode (fs : List Field) : Bytes := fs.flatMap Field.encode

-- Text in UTF-8.
def text? (b : Bytes) : Option String := String.fromUTF8? ⟨b.toArray⟩

def textBytes (s : String) : Bytes := s.toUTF8.data.toList

end Protobuf

end MetricRelay

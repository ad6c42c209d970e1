import MetricRelay.Protobuf.Wire

-- The snappy block format: the length of the data, then pieces that are either literal bytes or a
-- copy of data already written.

namespace MetricRelay.Snappy

def low (n width : Nat) : Nat := n % Nat.pow 2 width

-- The length in front, sixty-four bits at most; bits past them are dropped.
def header? (shift : Nat) (bs : Bytes) : Option (Nat × Bytes) :=
  match bs with
  | [] => none
  | b :: rest =>
    if 64 ≤ shift then none
    else
      let part := low (b.toNat % 128 * Nat.pow 2 shift) 64
      if b.toNat < 128 then some (part, rest)
      else (header? (shift + 7) rest).map fun (n, rest) => (part ||| n, rest)

def maxLength : Nat := UInt32.size - 1

def littleEndian (bs : Bytes) : Nat := bs.foldr (fun b n => b.toNat + 256 * n) 0

-- Appends `count` bytes that repeat those `offset` places back.
def copyBack (offset : Nat) : Nat → Array UInt8 → Array UInt8
  | 0, out => out
  | count + 1, out => copyBack offset count (out.push (out.getD (out.size - offset) 0))

-- One piece, given its tag. A literal of more than sixty bytes has its length after the tag and
-- must have four bytes there.
def piece? (limit : Nat) (tag : UInt8) (rest : Bytes) (out : Array UInt8) :
    Option (Bytes × Array UInt8) :=
  let tag := tag.toNat
  if tag % 4 = 0 then
    let code := tag / 4
    let header : Option (Nat × Bytes) :=
      if code < 60 then some (code + 1, rest)
      else if rest.length < 4 then none
      else some (littleEndian (rest.take (code - 59)) + 1, rest.drop (code - 59))
    header.bind fun (count, rest) =>
      let literal := rest.take count
      if literal.length < count ∨ limit < out.size + count then none
      else some (rest.drop count, literal.foldl Array.push out)
  else
    let (count, width, high) :=
      if tag % 4 = 1 then (tag / 4 % 8 + 4, 1, tag / 32 * 256)
      else (tag / 4 + 1, if tag % 4 = 2 then 2 else 4, 0)
    let trailer := rest.take width
    let offset := high + littleEndian trailer
    if trailer.length < width ∨ offset = 0 ∨ out.size < offset ∨ limit < out.size + count then none
    else some (rest.drop width, copyBack offset count out)

-- The fuel is at least the number of bytes.
def pieces? (limit fuel : Nat) (bs : Bytes) (out : Array UInt8) : Option (Array UInt8) :=
  match fuel, bs with
  | _, [] => some out
  | 0, _ => none
  | fuel + 1, tag :: rest =>
    (piece? limit tag rest out).bind fun (rest, out) => pieces? limit fuel rest out

-- The data must have just the length that was announced.
def decode? (bs : Bytes) : Option Bytes := do
  let (size, rest) ← header? 0 bs
  if maxLength < size then none
  else
    let out ← pieces? size rest.length rest #[]
    if out.size = size then some out.toList else none

-- How many bytes one literal may hold here.
def chunkSize : Nat := 60

def literals (fuel : Nat) (bs : Bytes) : Bytes :=
  match fuel with
  | 0 => []
  | fuel + 1 =>
    let chunk := bs.take chunkSize
    if chunk.isEmpty then []
    else UInt8.ofNat ((chunk.length - 1) * 4) :: (chunk ++ literals fuel (bs.drop chunkSize))

-- Literals are always allowed, so no copy is looked for.
def encode (bs : Bytes) : Bytes := Protobuf.varintBytes bs.length ++ literals bs.length bs

end MetricRelay.Snappy

import MetricRelay.Decimal.Text
import MetricRelay.Url.Basic

namespace MetricRelay.Host

def hexValue? (c : Char) : Option Nat :=
  if c.isDigit then some (c.toNat - 48)
  else if 'a' ≤ c ∧ c ≤ 'f' then some (c.toNat - 87)
  else if 'A' ≤ c ∧ c ≤ 'F' then some (c.toNat - 55)
  else none

def isHex (c : Char) : Bool := (hexValue? c).isSome

def readBase (base : Nat) (cs : List Char) : Nat :=
  cs.foldl (fun n c => base * n + (hexValue? c).getD 0) 0

def isOctal (c : Char) : Bool := '0' ≤ c && c ≤ '7'

-- A part of a dotted address: hexadecimal after `0x`, octal after `0`, else decimal.
def part? (cs : List Char) : Option Nat :=
  match cs with
  | [] => none
  | '0' :: 'x' :: rest | '0' :: 'X' :: rest => if rest.all isHex then some (readBase 16 rest) else none
  | '0' :: c :: rest => if (c :: rest).all isOctal then some (readBase 8 (c :: rest)) else none
  | cs => if cs.all Char.isDigit then some (readBase 10 cs) else none

-- The parts between dots; a dot at the end does not count.
def dotted (cs : List Char) : List (List Char) :=
  let parts := Text.splitAt '.' cs
  if 1 < parts.length ∧ parts.getLast? = some [] then parts.dropLast else parts

-- Whether a name has to be an address.
def endsInNumber (cs : List Char) : Bool :=
  match (dotted cs).getLast? with
  | some [] => false
  | some last =>
    last.all Char.isDigit ||
      (match last with
      | '0' :: 'x' :: rest | '0' :: 'X' :: rest => rest.all isHex
      | _ => false)
  | none => false

-- The last part takes the place of those that are missing.
def ipv4? (cs : List Char) : Option Nat := do
  let parts := dotted cs
  if 4 < parts.length then none
  else
    let numbers ← parts.mapM part?
    let last ← numbers.getLast?
    let front := numbers.dropLast
    if front.all (· ≤ 255) && last < Nat.pow 256 (4 - front.length) then
      some (front.foldl (fun n p => 256 * n + p) 0 * Nat.pow 256 (4 - front.length) + last)
    else none

-- Four decimal parts without leading zeros, as two pieces.
def embedded? (cs : List Char) : Option (List Nat) := do
  let numbers ← (Text.splitAt '.' cs).mapM fun p =>
    match p with
    | [] => none
    | '0' :: _ :: _ => none
    | p => if p.all Char.isDigit && Decimal.readDigits p ≤ 255 then some (Decimal.readDigits p) else none
  match numbers with
  | [a, b, c, d] => some [256 * a + b, 256 * c + d]
  | _ => none

def piece? (cs : List Char) : Option Nat :=
  if cs.isEmpty || 4 < cs.length || !cs.all isHex then none else some (readBase 16 cs)

-- Pieces between colons, of which the last may be a dotted address.
def pieces? : List (List Char) → Option (List Nat)
  | [] => some []
  | [last] => if last.contains '.' then embedded? last else (piece? last).map fun n => [n]
  | p :: rest => do return (← piece? p) :: (← pieces? rest)

def piecesOf? (cs : List Char) : Option (List Nat) :=
  if cs.isEmpty then some [] else pieces? (Text.splitAt ':' cs)

-- The text before the first two colons in a row and the text after them.
def splitGap? : List Char → Option (List Char × List Char)
  | ':' :: ':' :: rest => some ([], rest)
  | c :: rest => (splitGap? rest).map fun (front, back) => (c :: front, back)
  | [] => none

-- Two colons stand for the zeros that are missing.
def ipv6? (cs : List Char) : Option (List Nat) := do
  match splitGap? cs with
  | none =>
    let pieces ← piecesOf? cs
    if pieces.length = 8 then some pieces else none
  | some (front, back) =>
    let front ← if front.contains '.' then none else piecesOf? front
    let back ← piecesOf? back
    let n := front.length + back.length
    if n < 8 then some (front ++ List.replicate (8 - n) 0 ++ back) else none

def isForbidden (c : Char) : Bool :=
  let n := c.toNat
  n ≤ 0x20 || n == 0x7F ||
    ['#', '%', '/', ':', '<', '>', '?', '@', '[', '\\', ']', '^', '|'].contains c

def decodePercent : List UInt8 → List UInt8
  | 37 :: a :: b :: rest =>
    match hexValue? (Char.ofNat a.toNat), hexValue? (Char.ofNat b.toNat) with
    | some x, some y => UInt8.ofNat (16 * x + y) :: decodePercent rest
    | _, _ => 37 :: decodePercent (a :: b :: rest)
  | c :: rest => c :: decodePercent rest
  | [] => []
termination_by l => l.length

def unescape? (cs : List Char) : Option (List Char) :=
  (String.fromUTF8? (ByteArray.mk (decodePercent (String.ofList cs).toUTF8.toList).toArray)).map
    String.toList

def bracketed? (cs : List Char) : Option (List Char) :=
  match cs with
  | '[' :: rest => if rest.getLast? = some ']' then some rest.dropLast else none
  | _ => none

-- A host of a scheme that has hosts of its own. Letters outside ASCII are kept as they are.
def read (cs : List Char) : Except Url.Fault Host :=
  if cs.head? = some '[' then
    match (bracketed? cs).bind ipv6? with
    | some pieces => .ok (.ipv6 pieces)
    | none => .error .invalidIpv6
  else
    match unescape? cs with
    | none => .error .invalidDomain
    | some cs =>
      let cs := cs.map Char.toLower
      if cs.any isForbidden then .error .invalidDomain
      else if endsInNumber cs then
        match ipv4? cs with
        | some address => .ok (.ipv4 address)
        | none => .error .invalidIpv4
      else .ok (.domain (String.ofList cs))

def isForbiddenElsewhere (c : Char) : Bool :=
  isForbidden c && !(c == '%') && !(c.toNat == 0x7F) &&
    !(c.toNat < 0x20 && c.toNat != 0 && c.toNat != 9 && c.toNat != 10 && c.toNat != 13)

-- A host of any other scheme, which is not looked into.
def readElsewhere (cs : List Char) : Except Url.Fault Host :=
  if cs.head? = some '[' then
    match (bracketed? cs).bind ipv6? with
    | some pieces => .ok (.ipv6 pieces)
    | none => .error .invalidIpv6
  else if cs.any isForbiddenElsewhere then .error .invalidDomain
  else .ok (.domain (String.ofList cs))

end MetricRelay.Host

import MetricRelay.Json.Basic

-- JSON text without blanks. Only the quote, the backslash and the controls below the space are
-- escaped, so a written value never holds a newline.

namespace MetricRelay.Json

def hexDigit (n : Nat) : Char := Nat.digitChar (n % 16)

def escape (c : Char) : List Char :=
  if c = '"' then ['\\', '"']
  else if c = '\\' then ['\\', '\\']
  else if c.toNat < 0x20 then
    if c.toNat = 8 then ['\\', 'b']
    else if c.toNat = 9 then ['\\', 't']
    else if c.toNat = 10 then ['\\', 'n']
    else if c.toNat = 12 then ['\\', 'f']
    else if c.toNat = 13 then ['\\', 'r']
    else ['\\', 'u', '0', '0', hexDigit (c.toNat / 16), hexDigit c.toNat]
  else [c]

def stringChars (s : String) : List Char :=
  '"' :: (s.toList.flatMap escape ++ ['"'])

def intChars (i : Int) : List Char :=
  if i < 0 then '-' :: Decimal.digitChars i.natAbs else Decimal.digitChars i.natAbs

mutual

def chars : Json → List Char
  | .null => ['n', 'u', 'l', 'l']
  | .bool true => ['t', 'r', 'u', 'e']
  | .bool false => ['f', 'a', 'l', 's', 'e']
  | .int i => intChars i
  | .real x =>
    if x.isFinite then Decimal.finiteChars .json x else ['n', 'u', 'l', 'l']
  | .str s => stringChars s
  | .arr items => '[' :: (itemChars items ++ [']'])
  | .obj members => '\x7b' :: (memberChars members ++ ['\x7d'])

def itemChars : List Json → List Char
  | [] => []
  | [j] => chars j
  | j :: rest => chars j ++ ',' :: itemChars rest

def memberChars : List (String × Json) → List Char
  | [] => []
  | [(k, j)] => stringChars k ++ ':' :: chars j
  | (k, j) :: rest => stringChars k ++ ':' :: (chars j ++ ',' :: memberChars rest)

end

def render (j : Json) : String := String.ofList (chars j)

end MetricRelay.Json

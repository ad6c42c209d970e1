import MetricRelay.Json.Basic

-- JSON text as a tree of spellings. The tree keeps what a reader may still reject: numbers out of
-- range, escapes that name half a character, and members given twice.

namespace MetricRelay.Json

-- A number as written: sign, whole digits, fraction digits, and the exponent with its sign.
structure NumberText where
  negative : Bool
  whole : List Char
  fraction : Option (List Char)
  exponent : Option (Bool × List Char)
deriving Repr, DecidableEq

inductive Spelling
  | null
  | bool (value : Bool)
  | number (text : NumberText)
  -- Nothing stands for a string with half of a surrogate pair.
  | string (text : Option (List Char))
  | array (items : List Spelling)
  | object (members : List (Option (List Char) × Spelling))
deriving Repr, Inhabited

def isSpace (c : Char) : Bool := c == ' ' || c == '\n' || c == '\t' || c == '\r'

def skipSpace (cs : List Char) : List Char := cs.dropWhile isSpace

def hexValue? (c : Char) : Option Nat :=
  if c.isDigit then some (c.toNat - 48)
  else if 'a' ≤ c ∧ c ≤ 'f' then some (c.toNat - 87)
  else if 'A' ≤ c ∧ c ≤ 'F' then some (c.toNat - 55)
  else none

def hexWord? (a b c d : Char) : Option Nat := do
  return (((← hexValue? a) * 16 + (← hexValue? b)) * 16 + (← hexValue? c)) * 16 + (← hexValue? d)

def simpleEscape? (c : Char) : Option Char :=
  if c = '"' ∨ c = '\\' ∨ c = '/' then some c
  else if c = 'b' then some (Char.ofNat 8)
  else if c = 'f' then some (Char.ofNat 12)
  else if c = 'n' then some '\n'
  else if c = 'r' then some '\r'
  else if c = 't' then some '\t'
  else none

-- Puts a character in front of the text read after it.
def push (c : Char) (r : Option (Option (List Char) × List Char)) :
    Option (Option (List Char) × List Char) :=
  r.map fun (text, rest) => (text.map (c :: ·), rest)

-- Marks a text as holding half a character.
def spoil (r : Option (Option (List Char) × List Char)) :
    Option (Option (List Char) × List Char) :=
  r.map fun (_, rest) => (none, rest)

def isHighSurrogate (n : Nat) : Bool := 0xD800 ≤ n && n ≤ 0xDBFF

def isLowSurrogate (n : Nat) : Bool := 0xDC00 ≤ n && n ≤ 0xDFFF

-- The low half that follows a high one, if it does.
def lowHalf? : List Char → Option (Nat × List Char)
  | '\\' :: 'u' :: a :: b :: c :: d :: rest =>
    match hexWord? a b c d with
    | some n => if isLowSurrogate n then some (n, rest) else none
    | none => none
  | _ => none

theorem length_of_lowHalf? {cs rest : List Char} {n : Nat} (h : lowHalf? cs = some (n, rest)) :
    rest.length < cs.length := by
  unfold lowHalf? at h
  split at h
  · split at h
    · split at h
      · simp only [Option.some.injEq, Prod.mk.injEq] at h
        obtain ⟨-, rfl⟩ := h
        simp only [List.length_cons]
        omega
      · simp at h
    · simp at h
  · simp at h

-- The rest of a string after its opening quote, up to and including the closing one.
def stringBody (cs : List Char) : Option (Option (List Char) × List Char) :=
  match cs with
  | [] => none
  | '"' :: rest => some (some [], rest)
  | '\\' :: 'u' :: a :: b :: c :: d :: rest =>
    match hexWord? a b c d with
    | none => none
    | some n =>
      if isHighSurrogate n then
        match h : lowHalf? rest with
        | some (low, tail) =>
          push (Char.ofNat (0x10000 + (n - 0xD800) * 0x400 + (low - 0xDC00))) (stringBody tail)
        | none => spoil (stringBody rest)
      else if isLowSurrogate n then spoil (stringBody rest)
      else push (Char.ofNat n) (stringBody rest)
  | '\\' :: e :: rest =>
    match simpleEscape? e with
    | some c => push c (stringBody rest)
    | none => none
  | c :: rest => if c.toNat < 0x20 || c == '\\' then none else push c (stringBody rest)
termination_by cs.length
decreasing_by
  all_goals simp only [List.length_cons]
  case _ => have := length_of_lowHalf? h; omega
  all_goals omega

def splitDigits (cs : List Char) : List Char × List Char :=
  (cs.takeWhile Char.isDigit, cs.dropWhile Char.isDigit)

-- The fraction of a number, which has at least one digit.
def fraction? : List Char → Option (Option (List Char) × List Char)
  | '.' :: rest =>
    let (digits, rest) := splitDigits rest
    if digits.isEmpty then none else some (some digits, rest)
  | cs => some (none, cs)

def exponent? : List Char → Option (Option (Bool × List Char) × List Char)
  | c :: rest =>
    if c = 'e' ∨ c = 'E' then
      let (negative, rest) := Decimal.splitSign rest
      let (digits, rest) := splitDigits rest
      if digits.isEmpty then none else some (some (negative, digits), rest)
    else some (none, c :: rest)
  | [] => some (none, [])

-- The whole part is a zero alone or starts with another digit.
def number? (cs : List Char) : Option (NumberText × List Char) := do
  let (negative, rest) := match cs with
    | '-' :: rest => (true, rest)
    | _ => (false, cs)
  let (whole, rest) := splitDigits rest
  match whole with
  | [] => none
  | '0' :: _ :: _ => none
  | _ =>
    let (fraction, rest) ← fraction? rest
    let (exponent, rest) ← exponent? rest
    return (⟨negative, whole, fraction, exponent⟩, rest)

mutual

def scanValue? (fuel : Nat) (cs : List Char) : Option (Spelling × List Char) :=
  match fuel with
  | 0 => none
  | fuel + 1 =>
    match skipSpace cs with
    | 'n' :: 'u' :: 'l' :: 'l' :: rest => some (.null, rest)
    | 't' :: 'r' :: 'u' :: 'e' :: rest => some (.bool true, rest)
    | 'f' :: 'a' :: 'l' :: 's' :: 'e' :: rest => some (.bool false, rest)
    | '"' :: rest => (stringBody rest).map fun (text, rest) => (.string text, rest)
    | '[' :: rest =>
      match skipSpace rest with
      | ']' :: rest => some (.array [], rest)
      | rest => (scanItems? fuel rest).map fun (items, rest) => (.array items, rest)
    | '\x7b' :: rest =>
      match skipSpace rest with
      | '\x7d' :: rest => some (.object [], rest)
      | rest => (scanMembers? fuel rest).map fun (members, rest) => (.object members, rest)
    | rest => (number? rest).map fun (text, rest) => (.number text, rest)

-- One or more items and the closing bracket.
def scanItems? (fuel : Nat) (cs : List Char) : Option (List Spelling × List Char) :=
  match fuel with
  | 0 => none
  | fuel + 1 =>
    match scanValue? fuel cs with
    | none => none
    | some (item, rest) =>
      match skipSpace rest with
      | ',' :: rest => (scanItems? fuel rest).map fun (items, rest) => (item :: items, rest)
      | ']' :: rest => some ([item], rest)
      | _ => none

-- One or more members and the closing brace.
def scanMembers? (fuel : Nat) (cs : List Char) :
    Option (List (Option (List Char) × Spelling) × List Char) :=
  match fuel with
  | 0 => none
  | fuel + 1 =>
    match skipSpace cs with
    | '"' :: rest =>
      match stringBody rest with
      | none => none
      | some (key, rest) =>
        match skipSpace rest with
        | ':' :: rest =>
          match scanValue? fuel rest with
          | none => none
          | some (item, rest) =>
            match skipSpace rest with
            | ',' :: rest =>
              (scanMembers? fuel rest).map fun (members, rest) => ((key, item) :: members, rest)
            | '\x7d' :: rest => some ([(key, item)], rest)
            | _ => none
        | _ => none
    | _ => none

end

-- Each nested step costs two and reads at least one character.
def spelling? (cs : List Char) : Option Spelling :=
  match scanValue? (2 * cs.length + 2) cs with
  | some (s, rest) => if (skipSpace rest).isEmpty then some s else none
  | none => none

-- The leading digits that make a number below `2 ^ 64`, as far as one pass takes them, and how
-- many digits stay unused.
def leadingWord (acc : Nat) : List Char → Nat × Nat
  | [] => (acc, 0)
  | c :: rest =>
    let next := acc * 10 + Decimal.digitValue c
    if next < UInt64.size then leadingWord next rest else (acc, rest.length + 1)

-- Multiplies by a power of ten with one rounding for each factor up to `10 ^ 308`; an overflow
-- is refused.
def scaleDown (fuel : Nat) (x : Binary64) (places : Nat) : Binary64 :=
  match fuel with
  | 0 => x
  | fuel + 1 =>
    if places ≤ 308 then x.div (.ofDecimal false 1 places)
    else if x.units = 0 then x
    else scaleDown fuel (x.div (.ofDecimal false 1 308)) (places - 308)

def scale? (x : Binary64) (exponent : Int) : Option Binary64 :=
  if exponent < 0 then some (scaleDown 5 x exponent.natAbs)
  else if exponent ≤ 308 then
    let y := x.mul (.ofDecimal false 1 exponent)
    if y.isFinite then some y else none
  else if x.units = 0 then some x
  else none

def negate (negative : Bool) (x : Binary64) : Binary64 :=
  if negative then ⟨x.bits ^^^ 0x8000000000000000⟩ else x

-- A number with a fraction or an exponent, or one too long for sixty-four bits: the digits that
-- fit sixty-four bits, rounded, then scaled.
def NumberText.real? (t : NumberText) : Option Binary64 :=
  let (word, unusedWhole) := leadingWord 0 t.whole
  let fraction := t.fraction.getD []
  let (word, usedFraction) :=
    if unusedWhole = 0 then
      let (word, unused) := leadingWord word fraction
      (word, fraction.length - unused)
    else
      -- once a digit did not fit, a shorter one after the point may still
      let (longer, unused) := leadingWord word fraction
      (longer, fraction.length - unused)
  let places : Int := (unusedWhole : Int) - usedFraction
  let exponent : Int := match t.exponent with
    | none => 0
    | some (negative, digits) =>
      let n : Int := Decimal.readDigits digits
      if negative then -n else n
  -- exponents past thirty-one bits only stay harmless when the digits are all zero
  if exponent.natAbs < Nat.pow 2 31 then
    (scale? (.ofNat word) (places + exponent)).map (negate t.negative)
  else if word ≠ 0 ∧ 0 < exponent then none
  else some (.zero t.negative)

-- Whole numbers within sixty-four bits stay whole, except a negative zero.
def NumberText.value? (t : NumberText) : Option Json :=
  let n := Decimal.readDigits t.whole
  match t.fraction, t.exponent with
  | none, none =>
    if t.negative then
      if n = 0 then some (.real (.zero true))
      else if n ≤ Nat.pow 2 63 then some (.int (-Int.ofNat n))
      else t.real?.map .real
    else if n < UInt64.size then some (.int n)
    else t.real?.map .real
  | _, _ => t.real?.map .real

mutual

def Spelling.value? : Spelling → Option Json
  | .null => some .null
  | .bool b => some (.bool b)
  | .number t => t.value?
  | .string text => text.map fun cs => .str (String.ofList cs)
  | .array items => (Spelling.valueItems? items).map .arr
  | .object members => (Spelling.valueMembers? members).map .obj

def Spelling.valueItems? : List Spelling → Option (List Json)
  | [] => some []
  | s :: rest =>
    match s.value?, Spelling.valueItems? rest with
    | some j, some js => some (j :: js)
    | _, _ => none

def Spelling.valueMembers? :
    List (Option (List Char) × Spelling) → Option (List (String × Json))
  | [] => some []
  | (key, s) :: rest =>
    match key, s.value?, Spelling.valueMembers? rest with
    | some k, some j, some js => some ((String.ofList k, j) :: js)
    | _, _, _ => none

end

mutual

-- How many arrays and objects stand inside one another.
def Spelling.depth : Spelling → Nat
  | .array items => Spelling.depthItems items + 1
  | .object members => Spelling.depthMembers members + 1
  | _ => 0

def Spelling.depthItems : List Spelling → Nat
  | [] => 0
  | s :: rest => max s.depth (Spelling.depthItems rest)

def Spelling.depthMembers : List (Option (List Char) × Spelling) → Nat
  | [] => 0
  | (_, s) :: rest => max s.depth (Spelling.depthMembers rest)

end

-- Reads a whole value: fewer than 128 levels, members sorted by key, the last of equal keys kept.
def read? (text : String) : Option Json := do
  let s ← spelling? text.toList
  if 128 ≤ s.depth then none
  else (← s.value?).sorted

end MetricRelay.Json

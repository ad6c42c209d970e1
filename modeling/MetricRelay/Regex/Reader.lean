import MetricRelay.Regex.Basic

-- The text of regular expressions. A reader goes through the text once and keeps a stack of the
-- groups that are still open. Escapes stand for characters, classes and conditions; there are no
-- backreferences and no conditions on what follows or precedes.

namespace MetricRelay.Regex

structure Flags where
  foldCase : Bool
  multiLine : Bool
  dotAll : Bool
  unicode : Bool
  -- lines may also end in a carriage return
  wideLines : Bool
  -- blanks and comments count for nothing
  verbose : Bool
deriving DecidableEq, Repr

def Flags.initial : Flags := ⟨false, false, false, true, false, false⟩

-- Greed does not matter to whether a text matches.
def Flags.set (f : Flags) (letter : Char) (on : Bool) : Flags :=
  match letter with
  | 'i' => { f with foldCase := on }
  | 'm' => { f with multiLine := on }
  | 's' => { f with dotAll := on }
  | 'u' => { f with unicode := on }
  | 'R' => { f with wideLines := on }
  | 'x' => { f with verbose := on }
  | _ => f

-- Letters after a dash are switched off.
def Flags.change (f : Flags) (letters : List Char) : Flags :=
  let on := letters.takeWhile (· != '-')
  let off := letters.drop (on.length + 1)
  off.foldl (·.set · false) (on.foldl (·.set · true) f)

def flagAlphabet : List Char := ['-', 'i', 'm', 's', 'U', 'u', 'R', 'x']

-- The letters of a flag list, the character that ends it and the rest.
def flagLetters? (seen : List Char) : List Char → Option (List Char × Char × List Char)
  | [] => none
  | c :: rest =>
    if c = ':' ∨ c = ')' then
      if seen.head? = some '-' then none else some (seen.reverse, c, rest)
    else if seen.contains c || !flagAlphabet.contains c then none
    else flagLetters? (c :: seen) rest

-- Blanks, and comments from a number sign to the end of the line.
def dropBlanks (inComment : Bool) : List Char → List Char
  | [] => []
  | c :: rest =>
    if inComment then dropBlanks (c != '\n') rest
    else if Text.isBlank c then dropBlanks false rest
    else if c = '#' then dropBlanks true rest
    else c :: rest

def Flags.skip (f : Flags) (cs : List Char) : List Char :=
  if f.verbose then dropBlanks false cs else cs

def isHexDigit (c : Char) : Bool := c.isDigit || ('a' ≤ c && c ≤ 'f') || ('A' ≤ c && c ≤ 'F')

def hexValue (digits : List Char) : Nat :=
  digits.foldl (fun n c =>
    16 * n + (if c.isDigit then c.toNat - 48 else c.toLower.toNat - 87)) 0

def charOfHex? (digits : List Char) : Option Char :=
  let n := hexValue digits
  if n.isValidChar then some (Char.ofNat n) else none

-- Exactly `n` digits.
def Flags.hexDigits? (f : Flags) : Nat → List Char → Option (List Char × List Char)
  | 0, cs => some ([], cs)
  | n + 1, cs =>
    match f.skip cs with
    | c :: rest =>
      if isHexDigit c then (f.hexDigits? n rest).map fun (ds, rest) => (c :: ds, rest) else none
    | [] => none

-- The characters up to a closing brace; blanks among them are skipped. The fuel is more than
-- there are characters.
def Flags.braced? (f : Flags) : Nat → List Char → Option (List Char × List Char)
  | 0, _ => none
  | fuel + 1, cs =>
    match f.skip cs with
    | [] => none
    | '\x7d' :: rest => some ([], rest)
    | c :: rest => (f.braced? fuel rest).map fun (inside, rest) => (c :: inside, rest)

-- What one primitive stands for. A byte is a character written as two digits.
inductive Atom
  | literal (c : Char) (byte : Bool)
  | chars (set : CharSet)
  | look (l : Look)

-- The value of a hexadecimal escape, after its letter.
def Flags.hexEscape? (f : Flags) (digits : Nat) (cs : List Char) : Option (Atom × List Char) :=
  match f.skip cs with
  | '\x7b' :: rest => do
    let (inside, rest) ← f.braced? (rest.length + 1) rest
    if inside.isEmpty || !inside.all isHexDigit then none
    else return (.literal (← charOfHex? inside) false, f.skip rest)
  | cs => do
    let (ds, rest) ← f.hexDigits? digits cs
    return (.literal (← charOfHex? ds) (digits == 2), f.skip rest)

def splitOnce (sep : List Char) : List Char → Option (List Char × List Char)
  | [] => none
  | c :: rest =>
    if sep.isPrefixOf (c :: rest) then some ([], (c :: rest).drop sep.length)
    else (splitOnce sep rest).map fun (a, b) => (c :: a, b)

-- The set of a property in braces, and whether it is stated as an inequality.
def propertySet? [Library] (inside : List Char) : Option (CharSet × Bool) :=
  match splitOnce ['!', '='] inside with
  | some (property, value) => (Library.valued? property value).map (·, true)
  | none =>
    match (splitOnce [':'] inside).orElse fun _ => splitOnce ['='] inside with
    | some (property, value) => (Library.valued? property value).map (·, false)
    | none => (Library.named? inside).map (·, false)

def Flags.fold (f : Flags) (s : CharSet) : CharSet :=
  if !f.foldCase then s else if f.unicode then .folded s else .foldedAscii s

-- A complement reaches beyond ASCII, which plain bytes cannot express.
def Flags.negate? (f : Flags) (negated : Bool) (s : CharSet) : Option CharSet :=
  if !negated then some s else if f.unicode then some (.compl s) else none

-- A class by property, after its letter.
def Flags.property? [Library] (f : Flags) (negated : Bool) (cs : List Char) :
    Option (Atom × List Char) := do
  let (inside, rest) ← match f.skip cs with
    | [] => none
    | '\\' :: _ => none
    | '\x7b' :: rest => do
      let (inside, rest) ← f.braced? (rest.length + 1) rest
      pure (inside, rest)
    | c :: rest => pure ([c], f.skip rest)
  if !f.unicode then none
  else
    let (set, unequal) ← propertySet? inside
    return (.chars (← f.negate? (negated != unequal) (f.fold set)), rest)

def isMeta (c : Char) : Bool :=
  ['\\', '.', '+', '*', '?', '(', ')', '|', '[', ']', '\x7b', '\x7d', '^', '$', '#', '&', '-',
    '~'].contains c

-- A backslash before it leaves it as it is.
def isEscapable (c : Char) : Bool :=
  isMeta c || (c.toNat < 0x80 && !c.isAlphanum && c != '<' && c != '>')

def isEdgeNameChar (c : Char) : Bool := c.isAlpha || c == '-'

-- The name in braces after a word edge; `none` inside when the braces are a repetition.
def Flags.edgeName? (f : Flags) (cs : List Char) : Option (Option String × List Char) :=
  match cs with
  | '\x7b' :: rest =>
    match f.skip rest with
    | [] => none
    | c :: more =>
      if !isEdgeNameChar c then some (none, cs)
      else
        match f.braced? (more.length + 2) (c :: more) with
        | some (name, rest) =>
          if name.all isEdgeNameChar then some (some (String.ofList name), rest) else none
        | none => none
  | _ => some (none, cs)

def Flags.wordEdge? (f : Flags) (cs : List Char) : Option (Atom × List Char) := do
  let ascii := !f.unicode
  match ← f.edgeName? cs with
  | (none, rest) => return (.look (.wordEdge ascii), rest)
  | (some "start", rest) => return (.look (.wordStart ascii), rest)
  | (some "end", rest) => return (.look (.wordEnd ascii), rest)
  | (some "start-half", rest) => return (.look (.wordStartHalf ascii), rest)
  | (some "end-half", rest) => return (.look (.wordEndHalf ascii), rest)
  | _ => none

def Flags.letterClass? (f : Flags) (wide ascii : CharSet) (negated : Bool) : Option Atom :=
  (f.negate? negated (if f.unicode then wide else ascii)).map .chars

-- What follows a backslash.
def Flags.escape? [Library] (f : Flags) (cs : List Char) : Option (Atom × List Char) :=
  match cs with
  | [] => none
  | c :: rest =>
    let plain (c : Char) : Option (Atom × List Char) := some (.literal c false, rest)
    let ascii := !f.unicode
    if isEscapable c then plain c
    else match c with
      | 'x' => f.hexEscape? 2 rest
      | 'u' => f.hexEscape? 4 rest
      | 'U' => f.hexEscape? 8 rest
      | 'p' => f.property? false rest
      | 'P' => f.property? true rest
      | 'd' => (f.letterClass? .digits .asciiDigits false).map (·, rest)
      | 'D' => (f.letterClass? .digits .asciiDigits true).map (·, rest)
      | 's' => (f.letterClass? .blanks .asciiBlanks false).map (·, rest)
      | 'S' => (f.letterClass? .blanks .asciiBlanks true).map (·, rest)
      | 'w' => (f.letterClass? .word .asciiWord false).map (·, rest)
      | 'W' => (f.letterClass? .word .asciiWord true).map (·, rest)
      | 'a' => plain '\x07'
      | 'f' => plain '\x0c'
      | 't' => plain '\t'
      | 'n' => plain '\n'
      | 'r' => plain '\r'
      | 'v' => plain '\x0b'
      | 'A' => some (.look .textStart, rest)
      | 'z' => some (.look .textEnd, rest)
      | 'b' => f.wordEdge? rest
      | 'B' => some (.look (.wordInside ascii), rest)
      | '<' => some (.look (.wordStart ascii), rest)
      | '>' => some (.look (.wordEnd ascii), rest)
      | _ => none

-- Bracketed classes.

inductive SetOp
  | inter
  | diff
  | symmDiff

def SetOp.apply : SetOp → CharSet → CharSet → CharSet
  | .inter, a, b => .inter a b
  | .diff, a, b => .diff a b
  | .symmDiff, a, b => a.symmDiff b

-- A set and how deep its text nests.
structure Part where
  set : CharSet
  height : Nat

-- A class that is still open: the items since the last operator, and what stands before it.
structure Draft where
  negated : Bool
  items : List Part
  left : Option (SetOp × Part)

def heights (l : List Nat) : Nat := l.foldl max 0

def Draft.item (d : Draft) : Part :=
  match d.items with
  | [p] => p
  | items =>
    ⟨.unions (items.reverse.map Part.set),
      if items.isEmpty then 0 else heights (items.map Part.height) + 1⟩

-- The operator to the left is applied first.
def Draft.settle (f : Flags) (d : Draft) : Part :=
  let right := d.item
  match d.left with
  | none => right
  | some (op, left) =>
    ⟨op.apply (f.fold left.set) (f.fold right.set), max left.height right.height + 1⟩

def Draft.add (d : Draft) (p : Part) : Draft := { d with items := p :: d.items }

def Draft.apply (f : Flags) (d : Draft) (op : SetOp) : Draft :=
  { d with items := [], left := some (op, d.settle f) }

def Draft.close? (f : Flags) (d : Draft) : Option Part := do
  let p := d.settle f
  return ⟨← f.negate? d.negated (f.fold p.set), p.height + 1⟩

-- Dashes in front stand for themselves.
def Flags.leadingDashes (f : Flags) : Nat → Draft → List Char → Draft × List Char
  | 0, d, cs => (d, cs)
  | fuel + 1, d, cs =>
    match f.skip cs with
    | '-' :: rest => f.leadingDashes fuel (d.add ⟨.single '-', 0⟩) rest
    | cs => (d, cs)

-- Opens a class after its bracket. A closing bracket in front stands for itself.
def Flags.openClass (f : Flags) (cs : List Char) : Draft × List Char :=
  let (negated, cs) := match f.skip cs with
    | '^' :: rest => (true, rest)
    | cs => (false, cs)
  let (d, cs) := f.leadingDashes (cs.length + 1) ⟨negated, [], none⟩ cs
  match d.items, cs with
  | [], ']' :: rest => (d.add ⟨.single ']', 0⟩, rest)
  | _, _ => (d, cs)

-- A portable class such as `[:alpha:]`, after its bracket.
def Flags.portable? (f : Flags) (cs : List Char) : Option (Option CharSet × List Char) := do
  let rest ← match cs with
    | ':' :: rest => some rest
    | _ => none
  let (negated, rest) := match rest with
    | '^' :: rest => (true, rest)
    | rest => (false, rest)
  let name := rest.takeWhile (· != ':')
  match rest.drop name.length with
  | ':' :: ']' :: rest => do
    let set ← CharSet.portable? (String.ofList name)
    return (f.negate? negated (f.fold set), rest)
  | _ => none

-- A character's code in a class; plain bytes are ASCII there.
def Flags.classCode? (f : Flags) (c : Char) : Option Nat :=
  if f.unicode || c.toNat < 0x80 then some c.toNat else none

def Flags.classAtom? [Library] (f : Flags) (cs : List Char) : Option (Atom × List Char) :=
  match cs with
  | [] => none
  | '\\' :: rest => f.escape? rest
  | c :: rest => some (.literal c false, rest)

-- The character after a dash, past blanks and the head of a comment.
def Flags.afterDash (f : Flags) (cs : List Char) : Option Char :=
  if f.verbose then
    match cs.dropWhile Text.isBlank with
    | '#' :: rest => (rest.dropWhile Text.isBlank).head?
    | cs => cs.head?
  else cs.head?

-- One item of a class or a range of two.
def Flags.classItem? [Library] (f : Flags) (cs : List Char) : Option (CharSet × List Char) := do
  let (first, rest) ← f.classAtom? cs
  let one : Option CharSet := match first with
    | .literal c _ => (f.classCode? c).map fun n => .runs [(n, n)]
    | .chars set => some set
    | .look _ => none
  match f.skip rest with
  | [] => none
  | '-' :: more =>
    let next := f.afterDash more
    if next = some ']' ∨ next = some '-' then return (← one, '-' :: more)
    else
      let (second, rest) ← f.classAtom? (f.skip more)
      match first, second with
      | .literal a _, .literal b _ =>
        let low ← f.classCode? a
        let high ← f.classCode? b
        if low ≤ high then return (.runs [(low, high)], rest) else none
      | _, _ => none
  | rest => return (← one, rest)

-- Reads an open class to its end. The fuel is more than there are characters.
def Flags.class? [Library] (f : Flags) : Nat → Draft → List Char → Option (Part × List Char)
  | 0, _, _ => none
  | fuel + 1, d, cs =>
    match f.skip cs with
    | [] => none
    | '[' :: rest =>
      match f.portable? rest with
      | some (some set, rest) => f.class? fuel (d.add ⟨set, 0⟩) rest
      | some (none, _) => none
      | none =>
        let (inner, rest) := f.openClass rest
        match f.class? fuel inner rest with
        | some (part, rest) => f.class? fuel (d.add part) rest
        | none => none
    | ']' :: rest => (d.close? f).map (·, rest)
    | '&' :: '&' :: rest => f.class? fuel (d.apply f .inter) rest
    | '-' :: '-' :: rest => f.class? fuel (d.apply f .diff) rest
    | '~' :: '~' :: rest => f.class? fuel (d.apply f .symmDiff) rest
    | cs =>
      match f.classItem? cs with
      | some (set, rest) => f.class? fuel (d.add ⟨set, 0⟩) rest
      | none => none

-- Expressions.

-- An expression and how deep its text nests. Directives cannot be repeated.
structure Piece where
  regex : Regex
  height : Nat
  repeatable : Bool

def Piece.ofItems (items : List Piece) : Piece :=
  match items with
  | [] => ⟨.empty, 0, true⟩
  | [p] => p
  | p :: rest =>
    ⟨rest.foldl (fun acc q => .seq q.regex acc) p.regex,
      heights (items.map Piece.height) + 1, true⟩

def Piece.ofBranches (branches : List Piece) : Piece :=
  match branches with
  | [] => ⟨.empty, 0, true⟩
  | [p] => p
  | p :: rest =>
    ⟨rest.foldl (fun acc q => .alt q.regex acc) p.regex,
      heights (branches.map Piece.height) + 1, true⟩

-- What surrounds an open group.
structure Level where
  flags : Flags
  items : List Piece
  branches : List Piece

-- Items and branches are kept last one first.
structure Reader where
  flags : Flags
  items : List Piece
  branches : List Piece
  levels : List Level
  names : List String

namespace Reader

def initial : Reader := ⟨.initial, [], [], [], []⟩

def push (r : Reader) (regex : Regex) (height : Nat) : Reader :=
  { r with items := ⟨regex, height, true⟩ :: r.items }

-- All that was read since the innermost open group began.
def piece (r : Reader) : Piece := .ofBranches (.ofItems r.items :: r.branches)

def openGroup (r : Reader) (flags : Flags) : Reader :=
  { r with flags := flags, items := [], branches := [],
           levels := ⟨r.flags, r.items, r.branches⟩ :: r.levels }

def closeGroup? (r : Reader) : Option Reader :=
  match r.levels with
  | [] => none
  | level :: levels =>
    let inner := r.piece
    some { r with flags := level.flags, branches := level.branches, levels := levels,
                  items := ⟨inner.regex, inner.height + 1, true⟩ :: level.items }

def isNameChar (first : Bool) (c : Char) : Bool :=
  if first then c == '_' || CharSet.alphabetic.mem c
  else c == '_' || c == '.' || c == '[' || c == ']' || CharSet.alphanumeric.mem c

-- A group's name up to its angle bracket; no two groups share one.
def named? (r : Reader) (cs : List Char) : Option (Reader × List Char) :=
  let name := cs.takeWhile (· != '>')
  match name, cs.drop name.length with
  | c :: more, '>' :: rest =>
    let text := String.ofList name
    if !isNameChar true c || !more.all (isNameChar false) || r.names.contains text then none
    else some ({ r with names := text :: r.names }.openGroup r.flags, rest)
  | _, _ => none

-- A group or a directive, after its bracket.
def group? (r : Reader) (cs : List Char) : Option (Reader × List Char) :=
  match r.flags.skip cs with
  | '?' :: '=' :: _ | '?' :: '!' :: _ | '?' :: '<' :: '=' :: _ | '?' :: '<' :: '!' :: _ => none
  | '?' :: 'P' :: '<' :: rest | '?' :: '<' :: rest => r.named? rest
  | '?' :: rest =>
    match flagLetters? [] rest with
    | none => none
    | some (letters, ')', rest) =>
      if letters.isEmpty then none
      else some ({ r with flags := r.flags.change letters,
                          items := ⟨.empty, 0, false⟩ :: r.items }, rest)
    | some (letters, _, rest) => some (r.openGroup (r.flags.change letters), rest)
  | cs => some (r.openGroup r.flags, cs)

def repeatLast? (r : Reader) (least : Nat) (most : Option Nat) : Option Reader :=
  match r.items with
  | p :: items =>
    if p.repeatable then
      some { r with items := ⟨.repeated p.regex least most, p.height + 1, true⟩ :: items }
    else none
  | [] => none

def dropLazy : List Char → List Char
  | '?' :: rest => rest
  | cs => cs

-- The digits of a count; blanks may stand around them.
def countDigits (f : Flags) : Nat → List Char → List Char × List Char
  | 0, cs => ([], cs)
  | fuel + 1, cs =>
    match cs with
    | c :: rest =>
      if c.isDigit then
        let (ds, rest) := countDigits f fuel (f.skip rest)
        (c :: ds, rest)
      else ([], cs)
    | [] => ([], [])

def count? (f : Flags) (cs : List Char) : Option (Option Nat × List Char) :=
  let cs := cs.dropWhile Text.isBlank
  let (ds, rest) := countDigits f (cs.length + 1) cs
  let rest := f.skip (rest.dropWhile Text.isBlank)
  let n := Decimal.readDigits ds
  if ds.isEmpty then some (none, rest)
  else if n < UInt32.size then some (some n, rest)
  else none

-- A repetition in braces, after its first brace.
def counted? (r : Reader) (cs : List Char) : Option (Reader × List Char) := do
  let f := r.flags
  let (least, rest) ← count? f (f.skip cs)
  let least ← least
  let (most, rest) ← match rest with
    | ',' :: rest =>
      match f.skip rest with
      | '\x7d' :: rest => pure (none, '\x7d' :: rest)
      | rest => do
        let (most, rest) ← count? f rest
        pure (some (← most), rest)
    | rest => pure (some least, rest)
  match rest with
  | '\x7d' :: rest =>
    if most.any (· < least) then none
    else return (← r.repeatLast? least most, dropLazy (f.skip rest))
  | _ => none

-- A byte beyond ASCII is no character.
def literal? (r : Reader) (c : Char) (byte : Bool) : Option Reader :=
  if r.flags.unicode || c.toNat < 0x80 || !byte then
    some (r.push (.chars (r.flags.fold (.single c))) 0)
  else none

def atom? (r : Reader) : Atom → Option Reader
  | .literal c byte => r.literal? c byte
  | .chars set => some (r.push (.chars set) 0)
  | .look l => some (r.push (.look l) 0)

def dot? (r : Reader) : Option Reader :=
  let f := r.flags
  if !f.unicode then none
  else if f.dotAll then some (r.push (.chars .all) 0)
  else if f.wideLines then some (r.push (.chars (.compl (.runs [(10, 10), (13, 13)]))) 0)
  else some (r.push (.chars (.compl (.single '\n'))) 0)

def startLook (f : Flags) : Look :=
  if !f.multiLine then .textStart else if f.wideLines then .wideLineStart else .lineStart

def endLook (f : Flags) : Look :=
  if !f.multiLine then .textEnd else if f.wideLines then .wideLineEnd else .lineEnd

def step? [Library] (r : Reader) (c : Char) (rest : List Char) : Option (Reader × List Char) :=
  match c with
  | '(' => r.group? rest
  | ')' => r.closeGroup?.map (·, rest)
  | '|' => some ({ r with items := [], branches := .ofItems r.items :: r.branches }, rest)
  | '[' => do
    let (draft, rest) := r.flags.openClass rest
    let (part, rest) ← r.flags.class? (rest.length + 1) draft rest
    return (r.push (.chars part.set) part.height, rest)
  | '?' => (r.repeatLast? 0 (some 1)).map (·, dropLazy rest)
  | '*' => (r.repeatLast? 0 none).map (·, dropLazy rest)
  | '+' => (r.repeatLast? 1 none).map (·, dropLazy rest)
  | '\x7b' => r.counted? rest
  | '\\' => do
    let (atom, rest) ← r.flags.escape? rest
    return (← r.atom? atom, rest)
  | '.' => r.dot?.map (·, rest)
  | '^' => some (r.push (.look (startLook r.flags)) 0, rest)
  | '$' => some (r.push (.look (endLook r.flags)) 0, rest)
  | c => (r.literal? c false).map (·, rest)

-- The fuel is more than there are characters.
def run? [Library] : Nat → Reader → List Char → Option Reader
  | 0, _, _ => none
  | fuel + 1, r, cs =>
    match r.flags.skip cs with
    | [] => some r
    | c :: rest =>
      match r.step? c rest with
      | some (r, rest) => run? fuel r rest
      | none => none

end Reader

-- Texts that nest deeper are refused.
def maxHeight : Nat := 250

def read? [Library] (text : List Char) : Option Regex := do
  let r ← Reader.run? (text.length + 1) .initial text
  let p := r.piece
  if r.levels.isEmpty && p.height ≤ maxHeight && Library.hasRoom p.regex then some p.regex
  else none

end MetricRelay.Regex

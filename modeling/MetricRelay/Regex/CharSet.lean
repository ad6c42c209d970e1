import MetricRelay.Regex.Folding
import MetricRelay.Regex.Property

namespace MetricRelay.Regex

inductive CharSet
  | runs (r : Runs)
  | union (a b : CharSet)
  | inter (a b : CharSet)
  | diff (a b : CharSet)
  | compl (a : CharSet)
  -- with every character that differs from a member in case only
  | folded (a : CharSet)
  -- the same among ASCII letters
  | foldedAscii (a : CharSet)
deriving Repr, Inhabited

namespace CharSet

def isAsciiLetter (n : Nat) : Bool := (65 ≤ n && n ≤ 90) || (97 ≤ n && n ≤ 122)

def memCode : CharSet → Nat → Bool
  | .runs r, n => r.holds n
  | .union a b, n => a.memCode n || b.memCode n
  | .inter a b, n => a.memCode n && b.memCode n
  | .diff a b, n => a.memCode n && !b.memCode n
  | .compl a, n => !a.memCode n
  | .folded a, n => (foldingClass n).any a.memCode
  | .foldedAscii a, n => a.memCode n || (isAsciiLetter n && a.memCode (n ^^^ 0x20))

def mem (s : CharSet) (c : Char) : Bool := s.memCode c.toNat

def none : CharSet := .runs []

def all : CharSet := .runs [(0, 0x10FFFF)]

def single (c : Char) : CharSet := .runs [(c.toNat, c.toNat)]

def ascii : CharSet := .runs [(0, 0x7F)]

def unions : List CharSet → CharSet
  | [] => none
  | [s] => s
  | s :: rest => .union s (unions rest)

-- In exactly one of the two.
def symmDiff (a b : CharSet) : CharSet := .diff (.union a b) (.inter a b)

-- About how many automaton states the set needs.
def weight : CharSet → Nat
  | .runs r => if r.all (fun (_, last) => last ≤ 0x7F) then 1 else 2 * r.length
  | .union a b | .inter a b | .diff a b => a.weight + b.weight
  | .compl a => a.weight + 2
  | .folded a => 2 * a.weight
  | .foldedAscii a => a.weight

def named? (table : List (List String × List String)) (name : String) : Option CharSet :=
  (runsOf? table name).map .runs

def categories (names : List String) : CharSet :=
  unions (names.filterMap (named? categoryTable ·))

def letters : List String := ["lu", "ll", "lt", "lm", "lo"]
def marks : List String := ["mn", "mc", "me"]
def numbers : List String := ["nd", "nl", "no"]
def punctuation : List String := ["pc", "pd", "ps", "pe", "pi", "pf", "po"]
def symbols : List String := ["sm", "sc", "sk", "so"]
def separators : List String := ["zs", "zl", "zp"]
def controls : List String := ["cc", "cf", "co"]

def assigned : CharSet :=
  categories (letters ++ marks ++ numbers ++ punctuation ++ symbols ++ separators ++ controls)

-- General categories, also the groups of them.
def category? (name : String) : Option CharSet :=
  if name = "any" then some all
  else if name = "ascii" then some ascii
  else if name = "assigned" then some assigned
  else if name = "cn" ∨ name = "unassigned" then some (.compl assigned)
  else if name = "l" ∨ name = "letter" then some (categories letters)
  else if name = "lc" ∨ name = "casedletter" then some (categories ["lu", "ll", "lt"])
  else if name = "m" ∨ name = "mark" ∨ name = "combiningmark" then some (categories marks)
  else if name = "n" ∨ name = "number" then some (categories numbers)
  else if name = "p" ∨ name = "punctuation" ∨ name = "punct" then some (categories punctuation)
  else if name = "s" ∨ name = "symbol" then some (categories symbols)
  else if name = "z" ∨ name = "separator" then some (categories separators)
  else if name = "c" ∨ name = "other" then some (.union (categories controls) (.compl assigned))
  else named? categoryTable name

def script? (name : String) : Option CharSet := named? scriptTable name

-- Case, blanks, underscores and hyphens do not count, nor does a leading `is`.
def looseName (name : List Char) : String :=
  let lower := name.map Char.toLower
  let hasIs := lower.take 2 = ['i', 's']
  let rest := if hasIs then lower.drop 2 else lower
  let kept := rest.filter fun c => c.toNat < 0x80 && c != ' ' && c != '_' && c != '-'
  if hasIs && kept = ['c'] then "isc" else String.ofList kept

-- Binary properties and, under their bare names, categories and scripts.
def ofName? (name : List Char) : Option CharSet :=
  let name := looseName name
  let property? := if name = "word" then Option.none else named? propertyTable name
  property? <|> category? name <|> script? name

-- A property with one of its values.
def ofValue? (property value : List Char) : Option CharSet :=
  let property := looseName property
  let value := looseName value
  if property = "gc" ∨ property = "generalcategory" then category? value
  else if property = "sc" ∨ property = "script" ∨ property = "scx" ∨
      property = "scriptextensions" then script? value
  else Option.none

def word : CharSet := (named? propertyTable "word").getD none
def digits : CharSet := (named? categoryTable "nd").getD none
def blanks : CharSet := (named? propertyTable "whitespace").getD none
def alphabetic : CharSet := (named? propertyTable "alphabetic").getD none
def alphanumeric : CharSet := .union alphabetic (categories numbers)

def asciiWord : CharSet := .runs [(48, 57), (65, 90), (95, 95), (97, 122)]
def asciiDigits : CharSet := .runs [(48, 57)]
def asciiBlanks : CharSet := .runs [(9, 13), (32, 32)]

-- The classes of the portable character set.
def portable? (name : String) : Option CharSet :=
  match name with
  | "alnum" => some (.runs [(48, 57), (65, 90), (97, 122)])
  | "alpha" => some (.runs [(65, 90), (97, 122)])
  | "ascii" => some ascii
  | "blank" => some (.runs [(9, 9), (32, 32)])
  | "cntrl" => some (.runs [(0, 31), (127, 127)])
  | "digit" => some asciiDigits
  | "graph" => some (.runs [(33, 126)])
  | "lower" => some (.runs [(97, 122)])
  | "print" => some (.runs [(32, 126)])
  | "punct" => some (.runs [(33, 47), (58, 64), (91, 96), (123, 126)])
  | "space" => some asciiBlanks
  | "upper" => some (.runs [(65, 90)])
  | "word" => some asciiWord
  | "xdigit" => some (.runs [(48, 57), (65, 70), (97, 102)])
  | _ => Option.none

end CharSet

end MetricRelay.Regex

import MetricRelay.Regex.CharSet

-- Regular expressions and matching. A set of positions in a text is a number whose bit `i` says
-- whether position `i` is in the set; each expression takes the positions where a match may begin
-- to those where it may end.

namespace MetricRelay

-- Conditions on a position.
inductive Regex.Look
  | textStart
  | textEnd
  | lineStart
  | lineEnd
  -- lines may also end in a carriage return
  | wideLineStart
  | wideLineEnd
  | wordEdge (ascii : Bool)
  | wordInside (ascii : Bool)
  | wordStart (ascii : Bool)
  | wordEnd (ascii : Bool)
  -- no word character before
  | wordStartHalf (ascii : Bool)
  -- no word character after
  | wordEndHalf (ascii : Bool)
deriving Repr, Inhabited

inductive Regex
  | empty
  | chars (set : Regex.CharSet)
  | look (condition : Regex.Look)
  | seq (a b : Regex)
  | alt (a b : Regex)
  | repeated (a : Regex) (least : Nat) (most : Option Nat)
deriving Repr, Inhabited

namespace Regex

def isWord (ascii : Bool) : Option Char → Bool
  | none => false
  | some c => if ascii then CharSet.asciiWord.mem c else CharSet.word.mem c

-- Whether a condition holds between two characters, either of which may be missing.
def Look.holds (l : Look) (before after : Option Char) : Bool :=
  match l with
  | .textStart => before.isNone
  | .textEnd => after.isNone
  | .lineStart => before.isNone || before == some '\n'
  | .lineEnd => after.isNone || after == some '\n'
  | .wideLineStart =>
    before.isNone || before == some '\n' || (before == some '\r' && after != some '\n')
  | .wideLineEnd =>
    after.isNone || after == some '\r' || (after == some '\n' && before != some '\r')
  | .wordEdge ascii => isWord ascii before != isWord ascii after
  | .wordInside ascii => isWord ascii before == isWord ascii after
  | .wordStart ascii => !isWord ascii before && isWord ascii after
  | .wordEnd ascii => isWord ascii before && !isWord ascii after
  | .wordStartHalf ascii => !isWord ascii before
  | .wordEndHalf ascii => !isWord ascii after

-- The characters around each position of a text, one more than the text has characters.
def places (text : List Char) : List (Option Char × Option Char) :=
  (none :: text.map some).zip (text.map some ++ [none])

-- The set of the positions at which the list holds `true`.
def positions : List Bool → Nat
  | [] => 0
  | b :: rest => 2 * positions rest + b.toNat

-- Applies `f` as often as told, or until nothing changes.
def iterate (f : Nat → Nat) : Nat → Nat → Nat
  | 0, s => s
  | n + 1, s => let t := f s; if t = s then s else iterate f n t

-- The expression's ends for a set of its beginnings.
def advance (text : List Char) : Regex → Nat → Nat
  | .empty, s => s
  | .chars set, s => (s &&& positions (text.map set.mem)) <<< 1
  | .look l, s => s &&& positions ((places text).map fun (a, b) => l.holds a b)
  | .seq a b, s => advance text b (advance text a s)
  | .alt a b, s => advance text a s ||| advance text b s
  | .repeated a least most, s =>
    let more := match most with
      | none => text.length + 1
      | some most => most - least
    iterate (fun t => t ||| advance text a t) more (iterate (advance text a) least s)

-- Whether some part of the text matches.
def holdsIn (r : Regex) (text : String) : Bool :=
  let cs := text.toList
  advance cs r (Nat.pow 2 (cs.length + 1) - 1) != 0

-- Takes no characters whatever it matches.
def isZeroWidth : Regex → Bool
  | .empty | .look _ => true
  | .chars _ => false
  | .seq a b | .alt a b => a.isZeroWidth && b.isZeroWidth
  | .repeated a _ most => a.isZeroWidth || most == some 0

-- About how many automaton states the expression needs.
def weight : Regex → Nat
  | .empty | .look _ => 1
  | .chars set => set.weight
  | .seq a b => a.weight + b.weight
  | .alt a b => a.weight + b.weight + 1
  | .repeated a least most =>
    let copies := if a.isZeroWidth then min (most.getD 1) 1 else most.getD (max least 1)
    copies * (a.weight + 1)

-- Expressions above it are refused.
def maxWeight : Nat := 327680

-- What a reader of expressions leaves to a library: which characters have a property, by its name
-- alone or with a value, whether an expression is small enough to be compiled, and what is said of
-- a text that is refused. What is small enough has parts that are.
class Library where
  named? : List Char → Option CharSet
  valued? : List Char → List Char → Option CharSet
  hasRoom : Regex → Bool
  complaint : String → String
  hasRoom_of_seq : ∀ {a b : Regex}, hasRoom (.seq a b) = true → hasRoom a = true ∧ hasRoom b = true

-- It knows general categories, scripts and a few properties more, and only estimates sizes.
instance usual : Library where
  named? := CharSet.ofName?
  valued? := CharSet.ofValue?
  hasRoom r := r.weight ≤ maxWeight
  complaint _ := "regex parse error"
  hasRoom_of_seq {a b} h := by
    have hsum : a.weight + b.weight ≤ maxWeight := of_decide_eq_true h
    exact ⟨decide_eq_true (by omega), decide_eq_true (by omega)⟩

end Regex

end MetricRelay

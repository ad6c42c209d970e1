import MetricRelay.Error
import MetricRelay.Text.Blank
import MetricRelay.Time.Duration

-- Limits on size, count and age, and which of several reached limits is reported. Write batches and
-- indices are closed by the same rules.

namespace MetricRelay

inductive TriggerKind
  | size
  | count
  | age
deriving DecidableEq, Repr

namespace TriggerKind

def name : TriggerKind → String
  | .size => "size"
  | .count => "count"
  | .age => "age"

-- The name as error texts list it.
def title : TriggerKind → String
  | .size => "Size"
  | .count => "Count"
  | .age => "Age"

def parse (raw : String) : Except Error TriggerKind :=
  let word := Text.lowerAscii (Text.trim raw)
  if word = "size" then .ok .size
  else if word = "count" ∨ word = "docs" then .ok .count
  else if word = "age" then .ok .age
  else .error (.config ("unknown trigger '" ++ word ++ "'; expected one of size, count, age"))

end TriggerKind

-- The order in which limits are looked at: every kind once.
structure Precedence where
  first : TriggerKind
  second : TriggerKind
  third : TriggerKind
  distinct : first ≠ second ∧ second ≠ third ∧ first ≠ third := by decide
deriving DecidableEq, Repr

namespace Precedence

instance : Inhabited Precedence := ⟨{ first := .size, second := .count, third := .age }⟩

def order (p : Precedence) : List TriggerKind := [p.first, p.second, p.third]

theorem mem_order (p : Precedence) (k : TriggerKind) : k ∈ p.order := by
  obtain ⟨a, b, c, h⟩ := p
  simp only [order, List.mem_cons, List.not_mem_nil, or_false]
  revert h
  cases a <;> cases b <;> cases c <;> cases k <;> decide

def ofKinds (a b c : TriggerKind) : Except Error Precedence :=
  if h : a ≠ b ∧ b ≠ c ∧ a ≠ c then .ok ⟨a, b, c, h⟩
  else .error (.config ("trigger precedence must list size, count and age once each, got [" ++
    Text.joinWith ", " [a.title, b.title, c.title] ++ "]"))

-- A list separated by commas, such as `count,size,age`. An unknown name is reported before a
-- wrong number of names.
def parse (raw : String) : Except Error Precedence := do
  match ← (Text.pieces ',' raw).mapM TriggerKind.parse with
  | [a, b, c] => ofKinds a b c
  | kinds => .error (.config ("trigger precedence needs exactly 3 entries, got " ++
      toString kinds.length))

end Precedence

-- A limit that was reached and the value that reached it.
inductive Trigger
  | sizeExceeded (threshold measured : Nat)
  | countExceeded (threshold measured : Nat)
  | ageExceeded (threshold measured : Duration)
deriving DecidableEq, Repr

namespace Trigger

def kind : Trigger → TriggerKind
  | .sizeExceeded _ _ => .size
  | .countExceeded _ _ => .count
  | .ageExceeded _ _ => .age

def reason : Trigger → String
  | .sizeExceeded _ _ => "size_exceeded"
  | .countExceeded _ _ => "count_exceeded"
  | .ageExceeded _ _ => "age_exceeded"

def text : Trigger → String
  | .sizeExceeded threshold measured =>
    "size " ++ toString measured ++ "B >= max size " ++ toString threshold ++ "B"
  | .countExceeded threshold measured =>
    "count " ++ toString measured ++ " >= max count " ++ toString threshold
  | .ageExceeded threshold measured =>
    "age " ++ measured.text ++ " >= max age " ++ threshold.text

end Trigger

structure Measurement where
  size : Nat
  count : Nat
  age : Duration
deriving DecidableEq, Repr

-- `none` switches a limit off.
structure Thresholds where
  maxSize : Option Nat
  maxCount : Option Nat
  maxAge : Option Duration
deriving DecidableEq, Repr

namespace Thresholds

-- The limit of one kind, if it is on and reached.
def check (t : Thresholds) (m : Measurement) : TriggerKind → Option Trigger
  | .size =>
    t.maxSize.bind fun limit => if limit ≤ m.size then some (.sizeExceeded limit m.size) else none
  | .count =>
    t.maxCount.bind fun limit =>
      if limit ≤ m.count then some (.countExceeded limit m.count) else none
  | .age =>
    t.maxAge.bind fun limit => if limit ≤ m.age then some (.ageExceeded limit m.age) else none

def firstExceeded (t : Thresholds) (m : Measurement) (p : Precedence) (kinds : List TriggerKind) :
    Option Trigger :=
  (p.order.filter (kinds.contains ·)).findSome? (t.check m)

-- Nothing is reported of something empty.
def evaluateOnly (t : Thresholds) (m : Measurement) (p : Precedence) (kinds : List TriggerKind) :
    Option Trigger :=
  if m.count = 0 then none else t.firstExceeded m p kinds

def evaluate (t : Thresholds) (m : Measurement) (p : Precedence) : Option Trigger :=
  t.evaluateOnly m p p.order

def evaluateIncludingEmpty (t : Thresholds) (m : Measurement) (p : Precedence) : Option Trigger :=
  t.firstExceeded m p p.order

-- Limits of zero would be reached at every evaluation.
def validate (t : Thresholds) (what : String) : Except Error Unit :=
  if t.maxSize = some 0 ∨ t.maxCount = some 0 then
    .error (.config (what ++ " limits must be positive"))
  else if t.maxAge = some .zero then
    .error (.config (what ++ " max age must be positive"))
  else .ok ()

end Thresholds

end MetricRelay

import MetricRelay.Decimal.Text

-- JSON values and their text. Members of an object are kept in the order in which they are to be
-- written; `Json.sorted` puts them in key order.

namespace MetricRelay

-- Whole numbers are kept apart from the others: `1` and `1.0` are different values.
inductive Json
  | null
  | bool (value : Bool)
  | int (value : Int)
  | real (value : Binary64)
  | str (value : String)
  | arr (items : List Json)
  | obj (members : List (String × Json))
deriving Repr, Inhabited

namespace Json

mutual

def same : Json → Json → Bool
  | .null, .null => true
  | .bool a, .bool b => a == b
  | .int a, .int b => a == b
  | .real a, .real b => a == b
  | .str a, .str b => a == b
  | .arr a, .arr b => sameItems a b
  | .obj a, .obj b => sameMembers a b
  | _, _ => false

def sameItems : List Json → List Json → Bool
  | [], [] => true
  | a :: s, b :: t => same a b && sameItems s t
  | _, _ => false

def sameMembers : List (String × Json) → List (String × Json) → Bool
  | [], [] => true
  | (j, a) :: s, (k, b) :: t => j == k && same a b && sameMembers s t
  | _, _ => false

end

mutual

theorem eq_of_same {a b : Json} (h : same a b = true) : a = b := by
  cases a <;> cases b <;> simp_all [same]
  · exact eq_of_sameItems h
  · exact eq_of_sameMembers h

theorem eq_of_sameItems {a b : List Json} (h : sameItems a b = true) : a = b := by
  cases a <;> cases b <;> simp_all [sameItems]
  exact ⟨eq_of_same h.1, eq_of_sameItems h.2⟩

theorem eq_of_sameMembers {a b : List (String × Json)} (h : sameMembers a b = true) : a = b := by
  cases a <;> cases b <;> simp_all [sameMembers]
  exact ⟨Prod.ext h.1.1 (eq_of_same h.1.2), eq_of_sameMembers h.2⟩

end

mutual

theorem same_self (a : Json) : same a a = true := by
  cases a <;> simp [same]
  · exact sameItems_self _
  · exact sameMembers_self _

theorem sameItems_self (a : List Json) : sameItems a a = true := by
  cases a <;> simp [sameItems, same_self, sameItems_self]

theorem sameMembers_self (a : List (String × Json)) : sameMembers a a = true := by
  cases a <;> simp [sameMembers, same_self, sameMembers_self]

end

instance : DecidableEq Json := fun a b =>
  if h : same a b = true then isTrue (eq_of_same h)
  else isFalse fun e => h (e ▸ same_self a)

def insertMember (key : String) (value : Json) : List (String × Json) → List (String × Json)
  | [] => [(key, value)]
  | (k, v) :: rest =>
    if key < k then (key, value) :: (k, v) :: rest
    else if key = k then (key, value) :: rest
    else (k, v) :: insertMember key value rest

-- An object with its members in key order; the last of several with one key stays.
def object (members : List (String × Json)) : Json :=
  .obj (members.foldl (fun acc e => insertMember e.1 e.2 acc) [])

mutual

def sorted : Json → Json
  | .arr items => .arr (sortedItems items)
  | .obj members => object (sortedMembers members)
  | j => j

def sortedItems : List Json → List Json
  | [] => []
  | j :: rest => sorted j :: sortedItems rest

def sortedMembers : List (String × Json) → List (String × Json)
  | [] => []
  | (k, j) :: rest => (k, sorted j) :: sortedMembers rest

end

def get? (j : Json) (key : String) : Option Json :=
  match j with
  | .obj members => (members.find? (fun e => e.1 == key)).map Prod.snd
  | _ => none

def text? : Json → Option String
  | .str s => some s
  | _ => none

def int? : Json → Option Int
  | .int i => some i
  | _ => none

def bool? : Json → Option Bool
  | .bool b => some b
  | _ => none

def items? : Json → Option (List Json)
  | .arr items => some items
  | _ => none

def members? : Json → Option (List (String × Json))
  | .obj members => some members
  | _ => none

-- A natural number of at most sixty-four bits.
def nat? : Json → Option Nat
  | .int i => if 0 ≤ i then some i.toNat else none
  | _ => none

end Json

end MetricRelay

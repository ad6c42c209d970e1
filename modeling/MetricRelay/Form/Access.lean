import MetricRelay.Json.Basic

-- Looking into JSON values of which the shape is known. A value of another shape is complained of.

namespace MetricRelay.Form

abbrev Decoded := Except String

def field (j : Json) (key : String) : Decoded Json :=
  match j.get? key with
  | some v => .ok v
  | none => .error ("missing " ++ key)

def optional (j : Json) (key : String) : Option Json := j.get? key

def str (j : Json) : Decoded String :=
  match j with
  | .str s => .ok s
  | _ => .error "text expected"

def int (j : Json) : Decoded Int :=
  match j with
  | .int i => .ok i
  | _ => .error "integer expected"

def nat (j : Json) : Decoded Nat := do
  let i ← int j
  if 0 ≤ i then return i.toNat else .error "natural number expected"

def i64 (j : Json) : Decoded Int64 := return Int64.ofInt (← int j)

def bool (j : Json) : Decoded Bool :=
  match j with
  | .bool b => .ok b
  | _ => .error "boolean expected"

def list (j : Json) : Decoded (List Json) :=
  match j with
  | .arr l => .ok l
  | _ => .error "list expected"

def members (j : Json) : Decoded (List (String × Json)) :=
  match j with
  | .obj l => .ok l
  | _ => .error "object expected"

def listOf {α : Type} (f : Json → Decoded α) (j : Json) : Decoded (List α) := do (← list j).mapM f

def orNull {α : Type} (f : Json → Decoded α) (j : Json) : Decoded (Option α) :=
  match j with
  | .null => .ok none
  | j => some <$> f j

def withDefault {α : Type} (f : Json → Decoded α) (d : α) (j : Json) (key : String) : Decoded α :=
  match j.get? key with
  | some v => f v
  | none => .ok d

end MetricRelay.Form

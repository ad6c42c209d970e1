import MetricRelay.Json.Basic
import MetricRelay.Text.Blank

-- Pointers into JSON values: the way to a part, each step after a slash. In a step `~1` stands for
-- a slash and `~0` for a tilde.

namespace MetricRelay.Json

def unescapeStep : List Char → List Char
  | '~' :: '1' :: rest => '/' :: unescapeStep rest
  | '~' :: '0' :: rest => '~' :: unescapeStep rest
  | c :: rest => c :: unescapeStep rest
  | [] => []

-- Positions are decimal, without zeros in front.
def position? (cs : List Char) : Option Nat :=
  match cs with
  | [] => none
  | '0' :: _ :: _ => none
  | cs => if cs.all Char.isDigit then some (Decimal.readDigits cs) else none

def step? (j : Json) (step : List Char) : Option Json :=
  match j with
  | .obj _ => j.get? (String.ofList step)
  | .arr items => (position? step).bind fun n => items[n]?
  | _ => none

def pointer? (j : Json) (pointer : String) : Option Json :=
  match Text.splitAt '/' pointer.toList with
  | [[]] => some j
  | [] :: steps => steps.foldlM (fun j s => j.step? (unescapeStep s)) j
  | _ => none

end MetricRelay.Json

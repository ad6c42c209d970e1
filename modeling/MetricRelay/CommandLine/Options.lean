import MetricRelay.Keyed
import MetricRelay.Quantity

-- The options of the command line, each with a variable of the environment behind it, and how
-- arguments give them values. An option takes one value, after a sign of equality or as the next
-- argument, and may be given once.

namespace MetricRelay.CommandLine

inductive Kind
  | text
  -- `true` or `false`
  | flag
  -- a whole number below the limit; some take a negative zero
  | whole (limit : Nat) (negativeZero : Bool)
deriving DecidableEq, Repr

structure Setting where
  name : String
  -- of the environment
  source : String
  kind : Kind
  default : String
deriving DecidableEq, Repr

def word : Kind := .whole UInt64.size false
def halfWord : Kind := .whole UInt32.size true
def port : Kind := .whole UInt16.size true

-- In the order in which the environment is looked at.
def settings : List Setting :=
  [⟨"es-url", "ES_URL", .text, "http://localhost:9200"⟩,
   ⟨"es-workers", "ES_WORKERS", word, "1"⟩,
   ⟨"es-batch-max-age", "ES_BATCH_MAX_AGE", word, "10"⟩,
   ⟨"es-batch-max-docs", "ES_BATCH_MAX_DOCS", word, "1000"⟩,
   ⟨"es-batch-max-size", "ES_BATCH_MAX_SIZE", word, "4096"⟩,
   ⟨"es-alias", "ES_ALIAS", .text, "prom-metrics"⟩,
   ⟨"es-index-daily", "ES_INDEX_DAILY", .flag, "false"⟩,
   ⟨"es-index-shards", "ES_INDEX_SHARDS", halfWord, "5"⟩,
   ⟨"es-index-replicas", "ES_INDEX_REPLICAS", halfWord, "1"⟩,
   ⟨"es-index-max-age", "ES_INDEX_MAX_AGE", .text, "7d"⟩,
   ⟨"es-index-max-docs", "ES_INDEX_MAX_DOCS", word, "1000000"⟩,
   ⟨"es-index-max-size", "ES_INDEX_MAX_SIZE", .text, ""⟩,
   ⟨"es-index-roll-empty", "ES_INDEX_ROLL_EMPTY", .flag, "false"⟩,
   ⟨"es-search-max-docs", "ES_SEARCH_MAX_DOCS", word, "1000"⟩,
   ⟨"es-sniff", "ES_SNIFF", .flag, "false"⟩,
   ⟨"es-timeout", "ES_TIMEOUT", .text, "30s"⟩,
   ⟨"es-index-check-interval", "ES_INDEX_CHECK_INTERVAL", .text, "60s"⟩,
   ⟨"queue-capacity", "ADAPTER_QUEUE_CAPACITY", word, "16"⟩,
   ⟨"max-retries", "ADAPTER_MAX_RETRIES", halfWord, "3"⟩,
   ⟨"backoff-initial-ms", "ADAPTER_BACKOFF_INITIAL_MS", word, "100"⟩,
   ⟨"backoff-max-ms", "ADAPTER_BACKOFF_MAX_MS", word, "5000"⟩,
   ⟨"drain-timeout", "ADAPTER_DRAIN_TIMEOUT", .text, "30s"⟩,
   ⟨"trigger-precedence", "ADAPTER_TRIGGER_PRECEDENCE", .text, "size,count,age"⟩,
   ⟨"http-port", "ADAPTER_HTTP_PORT", port, "8000"⟩,
   ⟨"admin-port", "ADAPTER_ADMIN_PORT", port, "9000"⟩,
   ⟨"stats", "ADAPTER_STATS", .flag, "true"⟩,
   ⟨"debug", "ADAPTER_DEBUG", .flag, "false"⟩]

def setting? (name : String) : Option Setting := settings.find? (·.name == name)

-- Why arguments are not taken, or what was asked for instead.
inductive Usage
  | unknownArgument
  -- a missing value, or a flag that is neither `true` nor `false`
  | invalidValue
  | valueValidation
  -- an option given twice
  | argumentConflict
  -- a value where none is taken
  | tooManyValues
  | displayHelp
  | displayVersion
deriving DecidableEq, Repr

-- A whole number with an optional sign.
def wholeNumber? (kind : Kind) (value : String) : Option Nat :=
  let (negative, digits) := Decimal.splitSign value.toList
  if digits.isEmpty || !digits.all Char.isDigit then none
  else
    let n := Decimal.readDigits digits
    match kind with
    | .whole limit negativeZero =>
      if negative && !(negativeZero && n == 0) then none else if n < limit then some n else none
    | _ => none

def Kind.check (kind : Kind) (value : String) : Except Usage Unit :=
  match kind with
  | .text => .ok ()
  | .flag => if value = "true" ∨ value = "false" then .ok () else .error .invalidValue
  | .whole _ _ => if (wholeNumber? kind value).isSome then .ok () else .error .valueValidation

abbrev Values := Keyed String

-- Gives an option its value; an empty list means that none was there.
def assign (values : Values) (s : Setting) (given : List String) : Except Usage Values :=
  match given with
  | [] => .error .invalidValue
  | value :: _ =>
    if values.contains s.name then .error .argumentConflict
    else do
      s.kind.check value
      return values.insert s.name value

-- An option whose value, if it is there yet, is still to be looked at.
structure Pending where
  setting : Setting
  value : Option String

def resolve (values : Values) : Option Pending → Except Usage Values
  | none => .ok values
  | some p => assign values p.setting p.value.toList

inductive Argument
  -- everything after it is no option
  | escape
  | long (name : String) (value : Option String)
  | short (letters : List Char)
  | plain (value : String)
deriving DecidableEq, Repr

def Argument.ofString (s : String) : Argument :=
  match s.toList with
  | ['-', '-'] => .escape
  | '-' :: '-' :: rest =>
    let name := String.ofList (rest.takeWhile (· != '='))
    match rest.dropWhile (· != '=') with
    | [] => .long name none
    | _ :: value => .long name (some (String.ofList value))
  | ['-'] => .plain s
  | '-' :: rest => .short rest
  | _ => .plain s

-- Help and version are shown when all before them is in order.
def demand (values : Values) (pending : Option Pending) (what : Usage) : Except Usage Values := do
  let _ ← resolve values pending
  .error what

-- Reads arguments from the left. What is unknown is refused before a pending value is looked at.
def readArguments (values : Values) (pending : Option Pending) :
    List String → Except Usage Values
  | [] => resolve values pending
  | a :: rest =>
    match Argument.ofString a with
    | .escape => if rest.isEmpty then resolve values pending else .error .unknownArgument
    | .long name value =>
      match setting? name, value with
      | some s, some value => do
        let values ← resolve values pending
        readArguments (← assign values s [value]) none rest
      | some s, none => do
        let values ← resolve values pending
        readArguments values (some ⟨s, none⟩) rest
      | none, value =>
        if name = "help" ∨ name = "version" then
          if value.isSome then .error .tooManyValues
          else demand values pending (if name = "help" then .displayHelp else .displayVersion)
        else .error .unknownArgument
    | .short letters =>
      match letters with
      | 'h' :: _ => demand values pending .displayHelp
      | 'V' :: _ => demand values pending .displayVersion
      | _ => .error .unknownArgument
    | .plain value =>
      match pending with
      | some ⟨s, none⟩ => readArguments values (some ⟨s, some value⟩) rest
      | _ => .error .unknownArgument

-- The environment fills in what the arguments leave open.
def addEnvironment (lookup : String → Option String) (values : Values) : Except Usage Values :=
  settings.foldlM (fun values s =>
    if values.contains s.name then .ok values
    else
      match lookup s.source with
      | some value => assign values s [value]
      | none => .ok values) values

def addDefaults (values : Values) : Values :=
  settings.foldl (fun values s =>
    if values.contains s.name then values else values.insert s.name s.default) values

-- A value for every option.
def parse (arguments : List String) (lookup : String → Option String) : Except Usage Values := do
  let values ← readArguments ∅ none arguments
  return addDefaults (← addEnvironment lookup values)

namespace Values

def text (v : Values) (name : String) : String := (v.find? name).getD ""

def flag (v : Values) (name : String) : Bool := v.text name == "true"

def whole (v : Values) (name : String) : Nat :=
  ((setting? name).bind fun s => wholeNumber? s.kind (v.text name)).getD 0

end Values

end MetricRelay.CommandLine

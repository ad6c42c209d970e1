import MetricRelay.Index.Template
import MetricRelay.Text.Case
import MetricRelay.Trigger

namespace MetricRelay.Lifecycle

structure Policy where
  maxAge : Option Duration
  maxDocs : Option Nat
  maxSize : Option Nat
  precedence : Precedence
  -- an index without documents may be rolled over once it is too old
  rollEmpty : Bool
deriving DecidableEq, Repr

instance : Inhabited Policy :=
  ⟨{ maxAge := some (.ofSeconds (7 * 24 * 60 * 60)), maxDocs := some 1000000, maxSize := none,
     precedence := default, rollEmpty := false }⟩

def Policy.thresholds (p : Policy) : Thresholds := ⟨p.maxSize, p.maxDocs, p.maxAge⟩

inductive Phase
  -- takes the writes
  | active
  -- takes the writes and is past a limit
  | eligible
  -- read only
  | retired
deriving DecidableEq, Repr

def Phase.name : Phase → String
  | .active => "active"
  | .eligible => "eligible"
  | .retired => "retired"

structure IndexState where
  aliasName : String
  index : String
  docs : Nat
  bytes : Nat
  created : Int64
  phase : Phase
deriving DecidableEq

-- Never negative, and never past what a clock can tell.
def IndexState.age (s : IndexState) (now : Int64) : Duration :=
  .ofMillis (min (now.toInt - s.created.toInt) Int64.maxValue.toInt).toNat

def IndexState.measurement (s : IndexState) (now : Int64) : Measurement :=
  ⟨s.bytes, s.docs, s.age now⟩

def Policy.evaluate (p : Policy) (s : IndexState) (now : Int64) : Option Trigger :=
  if p.rollEmpty then p.thresholds.evaluateIncludingEmpty (s.measurement now) p.precedence
  else p.thresholds.evaluate (s.measurement now) p.precedence

-- How the indices of one alias are made and replaced.
structure Config where
  aliasName : String
  -- one index for each UTC day instead of rollover by limits
  daily : Bool
  settings : Index.Settings
  policy : Policy
  checkInterval : Duration
  requestTimeout : Duration
deriving DecidableEq, Repr

def defaultAlias : String := "prom-metrics"

instance : Inhabited Config :=
  ⟨{ aliasName := defaultAlias, daily := false, settings := default, policy := default,
     checkInterval := .ofSeconds 60, requestTimeout := .ofSeconds 30 }⟩

def Config.validate (c : Config) : Except Error Unit :=
  if c.aliasName = "" ∨ Text.isLowercase c.aliasName = false then
    .error (.config ("alias '" ++ c.aliasName ++ "' must be non-empty and lowercase"))
  else if c.settings.shards = 0 then .error (.config "an index needs at least one shard")
  else if c.checkInterval = .zero then
    .error (.config "lifecycle check interval must be positive")
  else c.policy.thresholds.validate "index"

-- The template under which the indices of the alias are made.
def Config.template (c : Config) : Index.Template :=
  { name := c.aliasName, patterns := [Index.namePattern c.aliasName], settings := c.settings,
    mappings := Index.metricMappings }

end MetricRelay.Lifecycle

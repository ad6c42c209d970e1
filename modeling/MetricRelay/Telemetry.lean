import MetricRelay.Decimal.Text
import MetricRelay.Error
import MetricRelay.Keyed
import MetricRelay.Text.Blank

-- How the relay names itself and which of its traces are kept, as variables of the environment say.

namespace MetricRelay

inductive Sampler
  | always
  | never
  -- this share of the traces
  | ratio (x : Binary64)
  -- as the caller's trace was sampled, or else as said
  | byParent (root : Sampler)
deriving DecidableEq

namespace Sampler

def text : Sampler → String
  | .always => "AlwaysOn"
  | .never => "AlwaysOff"
  | .ratio x => "TraceIdRatioBased(" ++ String.ofList (Decimal.finiteChars .plain x) ++ ")"
  | .byParent root => "ParentBased(" ++ root.text ++ ")"

def readRatio (arg : Option String) : Except Error Sampler :=
  let ratio? := (arg.bind fun raw => Decimal.read? (Text.trimChars raw.toList)).filter fun x =>
    Binary64.le (.zero false) x && x.le (.ofNat 1)
  match ratio? with
  | some x => .ok (.ratio x)
  | none => .error (.config "OTEL_TRACES_SAMPLER_ARG must be a ratio in [0,1]")

def read (name : String) (arg : Option String) : Except Error Sampler :=
  match Text.trim name with
  | "always_on" => .ok .always
  | "always_off" => .ok .never
  | "traceidratio" => readRatio arg
  | "parentbased_always_on" => .ok (.byParent .always)
  | "parentbased_traceidratio" => (readRatio arg).map .byParent
  | other => .error (.config ("unsupported OTEL_TRACES_SAMPLER '" ++ other ++ "'"))

end Sampler

structure Telemetry where
  service : String
  -- as it was given
  samplerName : String
  sampler : Sampler
  attributes : Keyed String
deriving DecidableEq

namespace Telemetry

-- One `key=value`; the value may contain more of the sign.
def readAttribute (pair : String) : Except Error (String × String) :=
  let cs := pair.toList
  let key := Text.trim (String.ofList (cs.takeWhile (· != '=')))
  match cs.dropWhile (· != '=') with
  | _ :: value =>
    if key = "" then .error (.config ("OTEL_RESOURCE_ATTRIBUTES entry '" ++ pair ++
      "' is not key=value"))
    else .ok (key, Text.trim (String.ofList value))
  | [] => .error (.config ("OTEL_RESOURCE_ATTRIBUTES entry '" ++ pair ++ "' is not key=value"))

-- Pairs between commas; blank ones are passed over and a later one of a key wins.
def readAttributes (raw : String) : Except Error (Keyed String) := do
  let pairs := ((Text.pieces ',' raw).map Text.trim).filter (· != "")
  return .ofList (← pairs.mapM readAttribute)

def defaultSampler : String := "parentbased_always_on"

-- The name of the service and the alias always stand among the attributes.
def ofVariables (service aliasName : String) (lookup : String → Option String) :
    Except Error Telemetry := do
  let service := ((lookup "OTEL_SERVICE_NAME").map Text.trim).getD service
  if service = "" then .error (.config "OTEL_SERVICE_NAME cannot be empty")
  else
    let samplerName := (lookup "OTEL_TRACES_SAMPLER").getD defaultSampler
    let sampler ← Sampler.read samplerName (lookup "OTEL_TRACES_SAMPLER_ARG")
    let given ← match lookup "OTEL_RESOURCE_ATTRIBUTES" with
      | some raw => readAttributes raw
      | none => .ok ∅
    let spaced :=
      if given.contains "service.namespace" then given
      else given.insert "service.namespace" "prometheus-es-adapter"
    return ⟨service, samplerName, sampler,
      (spaced.insert "service.name" service).insert "adapter.es.alias" aliasName⟩

end Telemetry

end MetricRelay

import MetricRelay.Form.Writer
import MetricRelay.Json.Printer
import MetricRelay.Telemetry

-- The command line: looks at options and environment and shows what a relay started with them would
-- work with, or why it would not start.

namespace MetricRelay.CommandLine

def helpText : String :=
  "Usage: relay [OPTIONS]\n\nOptions:\n" ++
    String.join (settings.map fun s =>
      "  --" ++ s.name ++ " <VALUE>  [env: " ++ s.source ++ "=] [default: " ++ s.default ++ "]\n")

def Usage.text : Usage → String
  | .unknownArgument => "unexpected argument"
  | .invalidValue => "missing or invalid value"
  | .valueValidation => "number malformed or out of range"
  | .argumentConflict => "option given more than once"
  | .tooManyValues => "value where none is taken"
  | .displayHelp => helpText
  | .displayVersion => "relay 0.1.0"

def Usage.isError : Usage → Bool
  | .displayHelp | .displayVersion => false
  | _ => true

def telemetrySources : List String :=
  ["OTEL_SERVICE_NAME", "OTEL_TRACES_SAMPLER", "OTEL_TRACES_SAMPLER_ARG",
    "OTEL_RESOURCE_ATTRIBUTES"]

-- What is shown of a relay that would start.
def describe (values : Values) (lookup : String → Option String) : Except Error String := do
  let telemetry ← Telemetry.ofVariables "prometheus-es-adapter" (values.text "es-alias") lookup
  let launch ← Launch.ofValues values
  launch.config.validate
  return (Json.obj (("service_name", .str telemetry.service) :: Form.launchFields launch)).render

end MetricRelay.CommandLine

open MetricRelay CommandLine in
def main (arguments : List String) : IO UInt32 := do
  let found ← (settings.map Setting.source ++ telemetrySources).mapM fun name => do
    return (name, ← IO.getEnv name)
  let lookup (name : String) : Option String := (found.find? fun v => v.1 == name).bind Prod.snd
  match parse arguments lookup with
  | .error usage =>
    if usage.isError then
      IO.eprintln usage.text
      return 2
    else
      IO.println usage.text
      return 0
  | .ok values =>
    match describe values lookup with
    | .ok text =>
      IO.println text
      return 0
    | .error e =>
      IO.eprintln e.message
      return 1

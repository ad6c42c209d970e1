import MetricRelay.Config
import MetricRelay.Form.Reader

-- Settings as JSON objects. What is not mentioned has its default, and a limit that is null is off.
-- A precedence that cannot be read is an error of the settings and not of their form.

namespace MetricRelay.Form

def precedenceOr (j : Json) (key : String) : Decoded (Except Error Precedence) := do
  match j.get? key with
  | some v => return Precedence.parse (← str v)
  | none => return .ok default

def writerConfig (j : Json) : Decoded (Except Error Write.Config) := do
  let d : Write.Config := default
  let config : Write.Config :=
    { workers := ← withDefault nat d.workers j "workers"
      batch := { maxSize := ← withDefault (orNull nat) d.batch.maxSize j "max_size"
                 maxCount := ← withDefault (orNull nat) d.batch.maxCount j "max_count"
                 maxAge := ← withDefault (orNull millis) d.batch.maxAge j "max_age_ms" }
      precedence := default
      ageCheckInterval := ← withDefault millis d.ageCheckInterval j "age_check_ms"
      queueCapacity := ← withDefault nat d.queueCapacity j "queue_capacity"
      maxRetries := ← withDefault nat d.maxRetries j "max_retries"
      backoff := { initial := ← withDefault millis d.backoff.initial j "backoff_initial_ms"
                   max := ← withDefault millis d.backoff.max j "backoff_max_ms" }
      requestTimeout := ← withDefault millis d.requestTimeout j "request_timeout_ms"
      drainTimeout := ← withDefault millis d.drainTimeout j "drain_timeout_ms"
      failureCapacity := ← withDefault nat d.failureCapacity j "failure_capacity" }
  return (← precedenceOr j "precedence").map fun p => { config with precedence := p }

def indexConfig (j : Json) : Decoded (Except Error Lifecycle.Config) := do
  let d : Lifecycle.Config := default
  let config : Lifecycle.Config :=
    { aliasName := ← withDefault str d.aliasName j "alias"
      daily := ← withDefault bool d.daily j "daily"
      settings := ← withDefault settings d.settings j "settings"
      policy := { maxAge := ← withDefault (orNull millis) d.policy.maxAge j "max_age_ms"
                  maxDocs := ← withDefault (orNull nat) d.policy.maxDocs j "max_docs"
                  maxSize := ← withDefault (orNull nat) d.policy.maxSize j "max_size"
                  precedence := default
                  rollEmpty := ← withDefault bool d.policy.rollEmpty j "roll_empty" }
      checkInterval := ← withDefault millis d.checkInterval j "check_interval_ms"
      requestTimeout := ← withDefault millis d.requestTimeout j "request_timeout_ms" }
  return (← precedenceOr j "precedence").map fun p =>
    { config with policy := { config.policy with precedence := p } }

def readConfig (j : Json) : Decoded Read.Config := do
  let d : Read.Config := default
  return { aliasName := ← withDefault str d.aliasName j "alias"
           maxDocs := ← withDefault nat d.maxDocs j "max_docs"
           requestTimeout := ← withDefault millis d.requestTimeout j "request_timeout_ms" }

def relayConfig (j : Json) : Decoded (Except Error Config) := do
  let writer ← withDefault writerConfig (.ok default) j "writer"
  let index ← withDefault indexConfig (.ok default) j "index"
  let reader ← withDefault readConfig default j "read"
  return do return { writer := ← writer, index := ← index, reader := reader }

end MetricRelay.Form

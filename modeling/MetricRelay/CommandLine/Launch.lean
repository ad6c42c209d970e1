import MetricRelay.CommandLine.Options
import MetricRelay.Config
import MetricRelay.Store.Access

-- What the options ask for: the store to reach, the settings of the relay and where it listens.

namespace MetricRelay

-- Where the relay listens.
structure Server where
  httpPort : Nat
  adminPort : Nat
  stats : Bool
deriving DecidableEq, Repr

namespace CommandLine

structure Launch where
  store : Store.Access
  config : Config
  server : Server
  debug : Bool
deriving DecidableEq, Repr

-- Texts that have a form of their own are read here, the precedence first.
def Launch.ofValues (v : Values) : Except Error Launch := do
  let precedence ← Precedence.parse (v.text "trigger-precedence")
  let requestTimeout ← Quantity.parseDuration (v.text "es-timeout")
  let drainTimeout ← Quantity.parseDuration (v.text "drain-timeout")
  let maxAge ← Quantity.parseDuration (v.text "es-index-max-age")
  let maxSize ← Quantity.parseOptionalByteSize (v.text "es-index-max-size")
  let checkInterval ← Quantity.parseDuration (v.text "es-index-check-interval")
  let writer : Write.Config :=
    { (default : Write.Config) with
      workers := v.whole "es-workers"
      batch := ⟨some (v.whole "es-batch-max-size"), some (v.whole "es-batch-max-docs"),
        some (.ofSeconds (v.whole "es-batch-max-age"))⟩
      precedence := precedence
      queueCapacity := v.whole "queue-capacity"
      maxRetries := v.whole "max-retries"
      backoff := ⟨.ofMillis (v.whole "backoff-initial-ms"), .ofMillis (v.whole "backoff-max-ms")⟩
      requestTimeout := requestTimeout
      drainTimeout := drainTimeout }
  let index : Lifecycle.Config :=
    { aliasName := v.text "es-alias"
      daily := v.flag "es-index-daily"
      settings := ⟨v.whole "es-index-shards", v.whole "es-index-replicas"⟩
      policy := ⟨some maxAge, some (v.whole "es-index-max-docs"), maxSize, precedence,
        v.flag "es-index-roll-empty"⟩
      checkInterval := checkInterval
      requestTimeout := requestTimeout }
  let reader : Read.Config := ⟨v.text "es-alias", v.whole "es-search-max-docs", requestTimeout⟩
  return { store := ⟨v.text "es-url", v.flag "es-sniff", requestTimeout⟩
           config := ⟨writer, index, reader⟩
           server := ⟨v.whole "http-port", v.whole "admin-port", v.flag "stats"⟩
           debug := v.flag "debug" }

end CommandLine

end MetricRelay

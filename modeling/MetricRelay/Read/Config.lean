import MetricRelay.Lifecycle.Policy

namespace MetricRelay.Read

structure Config where
  aliasName : String
  -- the most documents a query may return
  maxDocs : Nat
  requestTimeout : Duration
deriving DecidableEq, Repr

instance : Inhabited Config :=
  ⟨{ aliasName := Lifecycle.defaultAlias, maxDocs := 1000, requestTimeout := .ofSeconds 30 }⟩

end MetricRelay.Read

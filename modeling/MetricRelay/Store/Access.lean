import MetricRelay.Time.Duration

namespace MetricRelay.Store

structure Access where
  url : String
  -- find the other nodes of the cluster and use them too
  sniff : Bool
  requestTimeout : Duration
deriving DecidableEq, Repr

end MetricRelay.Store

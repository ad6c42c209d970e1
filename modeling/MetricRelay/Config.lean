import MetricRelay.Read.Config
import MetricRelay.Write.Config

namespace MetricRelay

structure Config where
  writer : Write.Config
  index : Lifecycle.Config
  reader : Read.Config
deriving DecidableEq, Repr, Inhabited

-- The writer is checked first; reads must go to the alias that is written.
def Config.validate (c : Config) : Except Error Unit := do
  c.writer.validate
  c.index.validate
  if c.reader.aliasName ≠ c.index.aliasName then
    .error (.config ("read alias " ++ c.reader.aliasName ++ " differs from index alias " ++
      c.index.aliasName))
  else if c.reader.maxDocs = 0 then .error (.config "search max docs must be positive")
  else .ok ()

end MetricRelay

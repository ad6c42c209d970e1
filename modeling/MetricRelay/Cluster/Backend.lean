import MetricRelay.Cluster.Client

namespace MetricRelay.Cluster

inductive Backend
  | cluster (client : Client)
  | memory

-- The cluster, unless the memory of the process is asked for.
def openBackend (name : Option String) (access : Store.Access) :
    Exchange (Except Error Backend) := do
  match name.getD "elasticsearch" with
  | "elasticsearch" => return (← connect access).map .cluster
  | "memory" => return .ok .memory
  | other =>
    return .error (.config ("Unknown STORE_BACKEND: " ++ other ++
      ". Use 'elasticsearch' or 'memory'"))

end MetricRelay.Cluster

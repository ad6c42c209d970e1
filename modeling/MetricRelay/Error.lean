namespace MetricRelay

-- Why a request to a node got no usable answer.
inductive TransportFault
  | unreachable
  | interrupted
  | timedOut
  | unsupportedScheme
  | undecodable
deriving DecidableEq, Repr

def TransportFault.message : TransportFault → String
  | .unreachable => "node unreachable"
  | .interrupted => "connection closed before an answer"
  | .timedOut => "no answer in time"
  | .unsupportedScheme => "unsupported scheme"
  | .undecodable => "undecodable answer"

-- Asking again can help against everything but a bad scheme or a body that is not what it claims.
def TransportFault.isPassing : TransportFault → Bool
  | .unreachable | .interrupted | .timedOut => true
  | .unsupportedScheme | .undecodable => false

inductive Error
  | transport (fault : TransportFault)
  | io (reason : String)
  | serialization (reason : String)
  | config (reason : String)
  | timeout (operation : String)
  | unavailable (reason : String)
  | store (status : Nat) (reason : String)
  | invalidSample (reason : String)
  | missingMetricName
  | invalidQuery (reason : String)
  | decode (reason : String)
  | aliasNotFound (aliasName : String)
  | indexConflict (index : String)
  | startup (reason : String)
  | lifecycle (reason : String)
  | bufferFull
  | shuttingDown
  | shutdownLoss (batches samples : Nat)
  | internal (reason : String)
deriving DecidableEq, Repr

-- What an error calls for.
inductive ErrorKind
  -- retry the operation
  | transient
  -- drop the document
  | partialDocument
  -- do not start
  | fatalStartup
  -- wait for the next cycle
  | lifecycleTransient
  -- count what was left behind
  | shutdownLoss
  -- refuse the request
  | request
  | internal
deriving DecidableEq, Repr

-- Statuses by which a store asks its caller to come back later.
def isRetryableStatus (status : Nat) : Bool :=
  status == 408 || status == 429 || status == 502 || status == 503 || status == 504

namespace Error

def kind : Error → ErrorKind
  | .transport fault => if fault.isPassing then .transient else .internal
  | .io _ | .timeout _ | .unavailable _ | .bufferFull => .transient
  | .store status _ => if isRetryableStatus status then .transient else .internal
  | .invalidSample _ | .missingMetricName | .invalidQuery _ | .decode _ => .request
  | .startup _ | .config _ => .fatalStartup
  | .lifecycle _ | .aliasNotFound _ | .indexConflict _ => .lifecycleTransient
  | .shutdownLoss _ _ => .shutdownLoss
  | .shuttingDown | .serialization _ | .internal _ => .internal

def isTransient (e : Error) : Bool := e.kind == .transient

def message : Error → String
  | .transport fault => "HTTP error: " ++ fault.message
  | .io reason => "IO error: " ++ reason
  | .serialization reason => "Serialization error: " ++ reason
  | .config reason => "Configuration error: " ++ reason
  | .timeout operation => "Store operation '" ++ operation ++ "' timed out"
  | .unavailable reason => "Store unavailable: " ++ reason
  | .store status reason => "Store rejected request (" ++ toString status ++ "): " ++ reason
  | .invalidSample reason => "Invalid sample: " ++ reason
  | .missingMetricName => "Missing metric name"
  | .invalidQuery reason => "Invalid query: " ++ reason
  | .decode reason => "Decode error: " ++ reason
  | .aliasNotFound aliasName => "Alias not found: " ++ aliasName
  | .indexConflict index => "Index " ++ index ++ " exists with different settings"
  | .startup reason => "Startup failed: " ++ reason
  | .lifecycle reason => "Index lifecycle error: " ++ reason
  | .bufferFull => "Write intake queue is full"
  | .shuttingDown => "Write service is shutting down"
  | .shutdownLoss batches samples =>
    "Shutdown deadline expired with " ++ toString batches ++ " batches (" ++ toString samples ++
      " samples) undrained"
  | .internal reason => "Internal error: " ++ reason

-- The text of the failure underneath, where there is one.
def cause? : Error → Option String
  | .transport fault => some fault.message
  | .io reason => some reason
  | _ => none

-- The status a remote-storage client sees: it resends on 5xx and drops its data on 4xx.
def httpStatus (e : Error) : Nat :=
  match e with
  | .shuttingDown => 503
  | e =>
    match e.kind with
    | .request => 400
    | .transient => 503
    | _ => 500

end Error

end MetricRelay

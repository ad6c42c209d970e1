import MetricRelay.Json.Basic
import MetricRelay.Lifecycle.Cycle
import MetricRelay.Read.Service
import MetricRelay.Remote.Body
import MetricRelay.Write.Pipeline

-- The two HTTP surfaces of a relay: remote writes and reads, and what an operator asks for.

namespace MetricRelay.Remote

open Store (Routine)

inductive Content
  | empty
  | text (s : String)
  | json (v : Json)
  -- a compressed message
  | message (b : Bytes)
deriving DecidableEq

structure Response where
  status : Nat
  content : Content
  -- the content is announced and not sent
  headOnly : Bool
deriving DecidableEq

namespace Response

def make (status : Nat) (content : Content) : Response := ⟨status, content, false⟩

def contentType? (r : Response) : Option String :=
  match r.content with
  | .empty => none
  | .text _ => some "text/plain; charset=utf-8"
  | .json _ => some "application/json"
  | .message _ => some "application/x-protobuf"

def contentEncoding? (r : Response) : Option String :=
  match r.content with
  | .message _ => some "snappy"
  | _ => none

def ofError (e : Error) : Response := make e.httpStatus (.text e.message)

end Response

inductive Surface
  | api
  | admin (withStats : Bool)
deriving DecidableEq, Repr

inductive Endpoint
  | write
  | read
  | live
  | ready
  | stats
deriving DecidableEq, Repr

namespace Surface

-- A query after the path does not matter.
def endpoint? (s : Surface) (path : String) : Option Endpoint :=
  match s, String.ofList (path.toList.takeWhile (· != '?')) with
  | .api, "/write" => some .write
  | .api, "/read" => some .read
  | .admin _, "/live" => some .live
  | .admin _, "/ready" => some .ready
  | .admin true, "/stats" => some .stats
  | _, _ => none

end Surface

def Endpoint.takesBody : Endpoint → Bool
  | .write | .read => true
  | .live | .ready | .stats => false

-- Where a request goes, and whether only the head of the answer is wanted.
def route (s : Surface) (method path : String) : Except Response (Endpoint × Bool) :=
  match s.endpoint? path with
  | none => .error (.make 404 .empty)
  | some e =>
    if e.takesBody then
      if method = "POST" then .ok (e, false) else .error (.make 405 .empty)
    else if method = "GET" then .ok (e, false)
    else if method = "HEAD" then .ok (e, true)
    else .error (.make 405 .empty)

-- The longest body that is taken.
def bodyLimit : Nat := 2 * 1024 * 1024

def checkBody (body : Bytes) : Except Response Bytes :=
  if bodyLimit < body.length then
    .error (.make 413 (.text "Failed to buffer the request body: length limit exceeded"))
  else .ok body

def writeResponse : Write.Result → Response
  | .ok _ => .make 204 .empty
  | .error e => .ofError e

-- A body that is refused leaves the pipeline as it was.
def postWrite (p : Write.Pipeline) (now id : Nat) (body : Bytes) :
    Option Response × Write.Pipeline :=
  match checkBody body with
  | .error refused => (some refused, p)
  | .ok body =>
    match decodeWrite body with
    | .error e => (some (.ofError e), p)
    | .ok samples =>
      let (result, p) := p.write now id samples.length samples
      (result.map writeResponse, p)

def readResponse : Except Error (List (List Series)) → Response
  | .ok results => .make 200 (.message (encodeRead results))
  | .error e => .ofError e

def postRead {ε : Type} (config : Read.Config) (body : Bytes) : Routine ε Response := do
  match checkBody body with
  | .error refused => return refused
  | .ok body =>
    match decodeRead body with
    | .error e => return .ofError e
    | .ok queries => return readResponse (← Read.readAll config queries)

def live : Response := .make 200 (.text "OK")

-- The store has to answer in this time.
def readinessLimit : Duration := .ofSeconds 5

def ready {ε : Type} : Routine ε Response := do
  match ← .askWithin readinessLimit .ping with
  | .ok () => return .make 200 (.text "READY")
  | .error _ => return .make 503 (.text "NOT READY")

def writeStats (s : Write.Stats) : Json :=
  .obj ([("samples_accepted", s.accepted), ("samples_rejected", s.rejected),
    ("batches_flushed", s.flushed), ("flushes_by_size", s.flushedBySize),
    ("flushes_by_count", s.flushedByCount), ("flushes_by_age", s.flushedByAge),
    ("flushes_on_close", s.flushedOnClose), ("samples_written", s.written),
    ("samples_dropped", s.dropped), ("retries", s.retries), ("batches_failed", s.failedBatches),
    ("samples_failed", s.failed), ("shutdown_lost_batches", s.lostBatches),
    ("shutdown_lost_samples", s.lost)].map fun (name, n) => (name, Json.int n))

def lifecycleStats (s : Lifecycle.Stats) : Json :=
  .obj ([("cycles", s.cycles), ("rollovers", s.rollovers), ("failures", s.failures)].map
    fun (name, n) => (name, Json.int n))

def stats (write : Write.Stats) (lifecycle : Option Lifecycle.Stats) : Response :=
  .make 200 (.json (.obj (("write", writeStats write) ::
    (lifecycle.map fun s => ("lifecycle", lifecycleStats s)).toList)))

end MetricRelay.Remote

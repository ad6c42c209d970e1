import MetricRelay.Error
import MetricRelay.Json.Spelling
import MetricRelay.Url.Basic

-- Questions put to the nodes of a cluster over HTTP, and what comes back. An exchange is one
-- question after another, each of which may depend on the answers before it.

namespace MetricRelay.Cluster

inductive Verb
  | get
  | post
  | put
deriving DecidableEq, Repr

structure Question where
  verb : Verb
  url : Url
  contentType : Option String
  body : String
deriving DecidableEq, Repr

-- The body is the text that its bytes spell in UTF-8; a body whose bytes spell none is no `Reply`.
structure Reply where
  status : Nat
  body : String
deriving DecidableEq, Repr

namespace Reply

def isSuccess (r : Reply) : Bool := 200 ≤ r.status && r.status < 300

-- Some statuses go without a body.
def content (r : Reply) : String := if r.status = 204 ∨ r.status = 304 then "" else r.body

end Reply

inductive Exchange (α : Type)
  | done (a : α)
  | send (q : Question) (next : Except TransportFault Reply → Exchange α)

namespace Exchange

variable {α β σ : Type}

def andThen (e : Exchange α) (f : α → Exchange β) : Exchange β :=
  match e with
  | .done a => f a
  | .send q next => .send q fun r => (next r).andThen f

instance : Monad Exchange where
  pure := .done
  bind := andThen

-- Carries an exchange out on a network, which may change with every question.
def run (network : σ → Question → Except TransportFault Reply × σ) (s : σ) : Exchange α → α × σ
  | .done a => (a, s)
  | .send q next =>
    let (r, s) := network s q
    (next r).run network s

end Exchange

end MetricRelay.Cluster

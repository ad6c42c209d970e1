import MetricRelay.Store.Request
import MetricRelay.Time.Duration

-- Routines: what a part of the relay does, as far as the outside can see it. A routine asks the
-- store, reads the wall clock, waits, makes a note of what happened, or is done. Between two
-- questions nothing else runs.

namespace MetricRelay.Store

-- A request and the time allowed for it.
structure Call where
  request : Request
  limit : Option Duration

inductive Routine (ε α : Type)
  | done (a : α)
  | note (e : ε) (rest : Routine ε α)
  | clock (next : Int64 → Routine ε α)
  | call (c : Call) (next : Except Error c.request.Answer → Routine ε α)
  | pause (span : Duration) (next : Routine ε α)

namespace Routine

variable {ε α β : Type}

-- One routine and then another, which may depend on the first one's result.
def andThen (r : Routine ε α) (f : α → Routine ε β) : Routine ε β :=
  match r with
  | .done a => f a
  | .note e rest => .note e (rest.andThen f)
  | .clock next => .clock fun now => (next now).andThen f
  | .call c next => .call c fun answer => (next answer).andThen f
  | .pause span next => .pause span (next.andThen f)

instance : Monad (Routine ε) where
  pure := .done
  bind := andThen

def tell (e : ε) : Routine ε Unit := .note e (.done ())

def now : Routine ε Int64 := .clock .done

-- Asks the store and gives up when the time is over.
def askWithin (limit : Duration) (r : Request) : Routine ε (Except Error r.Answer) :=
  .call ⟨r, some limit⟩ .done

-- Asks the store and waits as long as it takes.
def ask (r : Request) : Routine ε (Except Error r.Answer) := .call ⟨r, none⟩ .done

end Routine

end MetricRelay.Store

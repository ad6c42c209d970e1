import MetricRelay.Config
import MetricRelay.Lifecycle.Service
import MetricRelay.Remote.Router

-- A world with one store, in which pipelines, lifecycle services and requests go on at the same
-- time. Each of them is a task with a number of its own. Tasks that have a reason for a turn stand
-- in line; time stands still until the line is empty.

namespace MetricRelay.Scenario

open Store (Link Request Routine Suspended)

-- What a completed task has to say.
inductive Answer
  | stored (r : Request) (a : r.Answer)
  | installed (i : Store.Installation)
  | writeIndex (index : String)
  | rollover (r : Option Lifecycle.Rollover)
  | loopEnded
  | series (l : List Series)
  | seriesLists (l : List (List Series))
  | writing (d : Write.Done)
  | delivered (d : Write.Delivery) (unsettled : Nat) (reports : List Write.Reception)
      (stats : Write.Stats)
  | started
  | response (r : Remote.Response)

abbrev Result := Except Error Answer

-- A relay with all its parts, by their numbers.
structure Relay where
  pipeline : Nat
  service : Nat
  reader : Read.Config
  -- the task of the service's loop, until a stop takes charge of it
  loop : Option Nat

inductive Task
  | asking (s : Suspended Empty Result)
  -- an activity of a pipeline, by the same number
  | piped (pipeline : Nat) (answer : Write.Result → Result)
  | cycling (service : Nat) (s : Lifecycle.SuspendedCycle)
  | looping (service : Nat) (state : Lifecycle.Loop)
  -- a single batch with a record of its own
  | delivering (target : String) (record : Write.Record) (unsettled : Nat)
      (s : Suspended Write.Delivery.Note Write.Delivery)
  | starting (config : Config) (s : Suspended Empty (Except Error String))
  -- waits for a loop to end before the pipeline is shut down
  | stopping (pipeline loop : Nat)

structure World where
  link : Link
  pipelines : List Write.Pipeline
  services : List Lifecycle.Service
  -- those that actions are about
  writer : Option Nat
  service : Option Nat
  -- the last service by limits that was asked for
  observed : Option Nat
  reader : Read.Config
  -- who hears the reports of the writer
  listener : Nat
  relay : Option Relay
  tasks : List (Nat × Task)
  -- first come first
  line : List Nat
  -- the number of the next task
  next : Nat
  results : List (Nat × Result)

namespace World

def initial (clock : Clock) (reader : Read.Config) : World :=
  { link := ⟨Store.empty, clock, 0, ∅, [], 0, 0⟩, pipelines := [], services := [], writer := none,
    service := none, observed := none, reader := reader, listener := 0, relay := none, tasks := [], line := [],
    next := 0, results := [] }

def result? (w : World) (id : Nat) : Option Result :=
  (w.results.find? fun r => r.1 == id).map Prod.snd

-- Tasks.

def task? (w : World) (id : Nat) : Option Task := (w.tasks.find? fun t => t.1 == id).map Prod.snd

def isRunning (w : World) (id : Nat) : Bool := w.tasks.any fun t => t.1 == id

def setTask (w : World) (id : Nat) (t : Task) : World :=
  if w.isRunning id then
    { w with tasks := w.tasks.map fun e => if e.1 = id then (id, t) else e }
  else { w with tasks := w.tasks ++ [(id, t)] }

-- Whoever already stands in line keeps its place.
def wake (w : World) (ids : List Nat) : World :=
  { w with line := ids.foldl (fun line id => if line.contains id then line else line ++ [id]) w.line }

-- Those who wait for a loop's end are told.
def finish (w : World) (id : Nat) (result : Result) : World :=
  let w := { w with tasks := w.tasks.filter fun t => t.1 != id, results := (id, result) :: w.results }
  w.wake ((w.tasks.filter fun t =>
    match t.2 with
    | .stopping _ loop => loop == id
    | _ => false).map Prod.fst)

-- A number for a new task.
def newTask (w : World) : Nat × World := (w.next, { w with next := w.next + 1 })

-- Parts.

def pipeline? (w : World) (n : Nat) : Option Write.Pipeline := w.pipelines[n]?

-- What the pipeline wakes comes to stand in line.
def setPipeline (w : World) (n : Nat) (p : Write.Pipeline) : World :=
  { w with pipelines := w.pipelines.set n { p with woken := [] } }.wake p.woken

def setService (w : World) (n : Nat) (v : Lifecycle.Service) : World :=
  { w with services := w.services.set n v }

def writer? (w : World) : Option Write.Pipeline := w.writer.bind w.pipeline?

def service? (w : World) : Option Lifecycle.Service := w.service.bind fun n => w.services[n]?

-- Timers of all tasks.
def timers (w : World) : List (Timer × Nat) :=
  w.tasks.flatMap fun (id, t) =>
    let timers := match t with
      | .asking s => s.timers
      | .piped n _ =>
        match (w.pipeline? n).bind fun p => p.find? id with
        | some a => a.timers
        | none => []
      | .cycling _ s => s.timers
      | .looping _ state => state.timers
      | .delivering _ _ _ s => s.timers
      | .starting _ s => s.timers
      | .stopping _ _ => []
    timers.map fun timer => (timer, id)

end World

end MetricRelay.Scenario

import MetricRelay.Scenario.World

-- Turns of tasks. A turn goes as far as it can without waiting.

namespace MetricRelay.Scenario

open Store (Link Routine Suspended Reached)

-- A routine that makes no notes.
def noNotes (_ : Unit) (e : Empty) : Unit := e.elim

namespace World

-- Writing.

-- Adds a pipeline whose workers and timer have their first turns to come.
def addPipeline (w : World) (config : Write.Config) (target : String) : Except Error World := do
  let p ← Write.Pipeline.start config target w.link.now w.next
  let n := w.pipelines.length
  let members := p.workers ++ p.timer.toList
  let (listener, channel) := p.record.channel.subscribe
  let p := { p with record := { p.record with channel := channel } }
  let w := { w with pipelines := w.pipelines ++ [p], writer := some n, listener := listener,
                    next := w.next + members.length }
  let w := members.foldl (fun w id => w.setTask id (.piped n (Except.map .writing))) w
  return w.setPipeline n p

-- What a part of a pipeline came to: a result, or it goes on.
def settlePiped (w : World) (n id : Nat) (answer : Write.Result → Result)
    (turn : Option Write.Result × Write.Pipeline × Link) : World :=
  let (result, p, link) := turn
  let w := { w with link := link }.setPipeline n p
  match result with
  | some r => w.finish id (answer r)
  | none => w.setTask id (.piped n answer)

-- Asking.

def settleAsking (w : World) (id : Nat) (reached : Reached Empty Result × Link × Unit) : World :=
  let (state, link, _) := reached
  let w := { w with link := link }
  match state with
  | .finished r => w.finish id r
  | .suspended s => w.setTask id (.asking s)

def ask (w : World) (id : Nat) (r : Routine Empty Result) : World :=
  w.settleAsking id (r.run noNotes w.link ())

-- Lifecycle.

def settleCycling (w : World) (n id : Nat) (v : Lifecycle.Service)
    (reached : Reached Lifecycle.Note (Except Error (Option Lifecycle.Rollover)) × Link ×
      Lifecycle.Record) : World :=
  let (state, link, record) := reached
  let w := { w with link := link }.setService n { v with record := record }
  match state with
  | .finished r => w.finish id (r.map .rollover)
  | .suspended s => w.setTask id (.cycling n s)

def settleLooping (w : World) (n id : Nat)
    (turn : Option Lifecycle.Loop × Lifecycle.Service × Link) : World :=
  let (state, v, link) := turn
  let w := { w with link := link }.setService n v
  match state with
  | none => w.finish id (.ok .loopEnded)
  | some state => w.setTask id (.looping n state)

-- Adds a service, without a loop.
def addService (w : World) (config : Lifecycle.Config) : World :=
  { w with services := w.services ++ [.new config], service := some w.services.length }

-- Tells the loops of a service to stop.
def stopService (w : World) (n : Nat) : World :=
  match w.services[n]? with
  | none => w
  | some v =>
    (w.setService n { v with stopped := true }).wake ((w.tasks.filter fun t =>
      match t.2 with
      | .looping m _ => m == n
      | _ => false).map Prod.fst)

-- Single batches.

def settleDelivering (w : World) (id listener : Nat) (target : String)
    (reached : Reached Write.Delivery.Note Write.Delivery × Link × Write.Record × Nat) : World :=
  let (state, link, record, unsettled) := reached
  let w := { w with link := link }
  match state with
  | .finished d =>
    w.finish id (.ok (.delivered d unsettled (record.channel.drain listener).1 record.stats))
  | .suspended s => w.setTask id (.delivering target record unsettled s)

-- The one who hears of a single batch.
def batchListener : Nat := 0

-- Whole relays.

-- Everything is in place: the loop comes first, then the pipeline.
def launch (w : World) (id : Nat) (config : Config) : World :=
  let w := w.addService config.index
  let (loop, w) := w.newTask
  let service := w.services.length - 1
  let w := (w.setTask loop (.looping service .new)).wake [loop]
  match w.addPipeline config.writer config.index.aliasName with
  | .error e => w.finish id (.error e)
  | .ok w =>
    let relay : Relay := ⟨w.pipelines.length - 1, service, config.reader, some loop⟩
    { w with relay := some relay, reader := config.reader }.finish id (.ok .started)

def settleStarting (w : World) (id : Nat) (config : Config)
    (reached : Reached Empty (Except Error String) × Link × Unit) : World :=
  let (state, link, _) := reached
  let w := { w with link := link }
  match state with
  | .finished (.ok _) => w.launch id config
  | .finished (.error e) => w.finish id (.error e)
  | .suspended s => w.setTask id (.starting config s)

def shutDown (w : World) (n id : Nat) : World :=
  match w.pipeline? n with
  | none => w.finish id (.error .shuttingDown)
  | some p => w.settlePiped n id (Except.map .writing) (p.shutDown w.link id)

-- One turn of a task.
def turn (w : World) (id : Nat) : World :=
  match w.task? id with
  | none => w
  | some (.asking s) => w.settleAsking id (s.resume noNotes w.link ())
  | some (.piped n answer) =>
    match w.pipeline? n with
    | none => w
    | some p => w.settlePiped n id answer (p.turn w.link id)
  | some (.cycling n s) =>
    match w.services[n]? with
    | none => w
    | some v => w.settleCycling n id v (s.resume Lifecycle.Record.add w.link v.record)
  | some (.looping n state) =>
    match w.services[n]? with
    | none => w
    | some v => w.settleLooping n id (v.turn w.link state)
  | some (.delivering target record unsettled s) =>
    w.settleDelivering id batchListener target
      (s.resume (Write.Delivery.takeDown target) w.link (record, unsettled))
  | some (.starting config s) => w.settleStarting id config (s.resume noNotes w.link ())
  | some (.stopping n loop) => if w.isRunning loop then w else w.shutDown n id

-- Turns until the line is empty. The fuel bounds their number.
def settle (w : World) : Nat → World
  | 0 => w
  | fuel + 1 =>
    match w.line with
    | [] => w
    | id :: rest => ({ w with line := rest }.turn id).settle fuel

-- More turns than anything takes.
def turnLimit : Nat := 1000000000000

def settled (w : World) : World := w.settle turnLimit

-- Time.

-- Timers that are due, in the order of due time and then of setting.
def dueTimers (w : World) (now : Nat) : List (Timer × Nat) :=
  (w.timers.filter fun t => t.1.due ≤ now).mergeSort fun a b =>
    decide (a.1.due < b.1.due) || (a.1.due == b.1.due && decide (a.1.stamp ≤ b.1.stamp))

-- The next instant, up to `stop`, at which a timer is due.
def nextInstant? (w : World) (stop : Nat) : Option Nat :=
  ((w.timers.map fun t => t.1.due).filter (· ≤ stop)).min?

def setNow (w : World) (now : Nat) : World := { w with link := { w.link with now := now } }

-- Lets time pass until `stop`. At each instant at which timers are due everything that follows
-- is done before time goes on. The fuel bounds the number of those instants.
def passUntil (w : World) (stop : Nat) : Nat → World
  | 0 => w.setNow stop
  | fuel + 1 =>
    match w.nextInstant? stop with
    | none => w.setNow stop
    | some now =>
      let w := w.setNow (max now w.link.now)
      ((w.wake ((w.dueTimers w.link.now).map Prod.snd)).settled).passUntil stop fuel

def pass (w : World) (millis : Nat) : World :=
  let stop := w.link.now + millis
  w.passUntil stop turnLimit

end World

end MetricRelay.Scenario

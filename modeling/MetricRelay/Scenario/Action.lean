import MetricRelay.Scenario.Turn

-- What can be asked of a world. An action becomes a task with its first turn at once; it is
-- completed when its result is there, perhaps only after more time has passed.

namespace MetricRelay.Scenario

open Store (Request Routine)

-- The parts behind an HTTP surface: those of a relay, or those that actions are about.
inductive Backend
  | relay
  | parts
deriving DecidableEq, Repr

inductive Action
  -- straight to the store
  | ask (r : Request)
  | ensureTemplate (config : Lifecycle.Config)
  | bootstrap (config : Lifecycle.Config)
  | cycle
  | runLoop
  | read (q : Read.Query)
  | readAll (qs : List Read.Query)
  | add (s : Sample)
  | write (samples : List Sample)
  | flushExpired
  | runTimer (period : Duration)
  -- within a span of time
  | close (span : Duration)
  | shutDown
  | deliver (target : String) (samples : List Sample) (config : Write.Config)
  | start (config : Config)
  | stop
  | request (backend : Backend) (surface : Remote.Surface) (method path : String) (body : Bytes)

namespace World

def missing (what : String) : Result := .error (.internal ("there is no " ++ what))

-- Begins something about the writer's pipeline.
def onWriter (w : World) (id : Nat)
    (f : Nat → Write.Pipeline → Option Write.Result × Write.Pipeline × Store.Link) : World :=
  match w.writer, w.writer? with
  | some n, some p => w.settlePiped n id (Except.map .writing) (f n p)
  | _, _ => w.finish id (missing "writer")

def beginCycle (w : World) (id : Nat) : World :=
  match w.service, w.service? with
  | some n, some v =>
    w.settleCycling n id v ((Lifecycle.cycle v.config).run Lifecycle.Record.add w.link v.record)
  | _, _ => w.finish id (missing "lifecycle service")

def beginLoop (w : World) (id : Nat) : World :=
  match w.service, w.service? with
  | some n, some v => w.settleLooping n id (v.turn w.link .new)
  | _, _ => w.finish id (missing "lifecycle service")

def beginDelivery (w : World) (id : Nat) (target : String) (samples : List Sample)
    (config : Write.Config) : World :=
  let batch := samples.foldl Write.Batch.push (.empty w.link.now)
  let record := Write.Record.ofCapacity config.failureCapacity
  let (listener, channel) := record.channel.subscribe
  w.settleDelivering id listener target
    ((Write.Delivery.routine config target batch).run (Write.Delivery.takeDown target) w.link
      ({ record with channel := channel }, batch.size))

def beginStart (w : World) (id : Nat) (config : Config) : World :=
  match config.validate with
  | .error e => w.finish id (.error e)
  | .ok () =>
    w.settleStarting id config ((Lifecycle.provision config.index).run noNotes w.link ())

-- The loop is told to stop and waited for, once.
def beginStop (w : World) (id : Nat) : World :=
  match w.relay with
  | none => w.finish id (missing "relay")
  | some relay =>
    let w := { w with relay := some { relay with loop := none } }.stopService relay.service
    match relay.loop with
    | none => w.shutDown relay.pipeline id
    | some loop =>
      if w.isRunning loop then w.setTask id (.stopping relay.pipeline loop)
      else w.shutDown relay.pipeline id

def response (r : Remote.Response) : Result := .ok (.response r)

-- The pipeline, the reader and the counters of the lifecycle that a backend has.
def backend? (w : World) (b : Backend) :
    Option (Nat × Read.Config × Option Lifecycle.Stats) :=
  match b with
  | .relay => w.relay.map fun relay =>
    (relay.pipeline, relay.reader, w.services[relay.service]?.map fun v => v.record.stats)
  | .parts => w.writer.map fun n => (n, w.reader, none)

def beginRequest (w : World) (id : Nat) (b : Backend) (surface : Remote.Surface)
    (method path : String) (body : Bytes) : World :=
  match w.backend? b with
  | none => w.finish id (missing "backend")
  | some (n, reader, lifecycle) =>
    match w.pipeline? n with
    | none => w.finish id (missing "pipeline")
    | some p =>
      match Remote.route surface method path with
      | .error refused => w.finish id (response refused)
      | .ok (endpoint, headOnly) =>
        let answer (r : Remote.Response) : Result := response { r with headOnly := headOnly }
        match endpoint with
        | .write =>
          match Remote.postWrite p w.link.now id body with
          | (some r, p) => (w.setPipeline n p).finish id (answer r)
          | (none, p) =>
            (w.setPipeline n p).setTask id (.piped n fun r => answer (Remote.writeResponse r))
        | .read => w.ask id (do return answer (← Remote.postRead reader body))
        | .live => w.finish id (answer Remote.live)
        | .ready => w.ask id (do return answer (← Remote.ready))
        | .stats => w.finish id (answer (Remote.stats p.record.stats lifecycle))

def begin (w : World) (id : Nat) (a : Action) : World :=
  match a with
  | .ask r => w.ask id (do return (← .ask r).map (.stored r))
  | .ensureTemplate config =>
    w.ask id (do return (← Lifecycle.ensureTemplate config).map .installed)
  | .bootstrap config => w.ask id (do return (← Lifecycle.bootstrap config).map .writeIndex)
  | .cycle => w.beginCycle id
  | .runLoop => w.beginLoop id
  | .read q => w.ask id (do return (← Read.read w.reader q).map .series)
  | .readAll qs => w.ask id (do return (← Read.readAll w.reader qs).map .seriesLists)
  | .add s => w.onWriter id fun _ p =>
    let (result, p) := p.add w.link.now id s
    (result, p, w.link)
  | .write samples => w.onWriter id fun _ p =>
    let (result, p) := p.write w.link.now id samples.length samples
    (result, p, w.link)
  | .flushExpired => w.onWriter id fun _ p =>
    let (result, p) := p.flushExpired w.link.now id
    (result, p, w.link)
  | .runTimer period => w.onWriter id fun _ p =>
    p.runTimer w.link id period w.link.nanos
  | .close span => w.onWriter id fun _ p => p.close w.link id (w.link.now + span.wholeMillis)
  | .shutDown => w.onWriter id fun _ p => p.shutDown w.link id
  | .deliver target samples config => w.beginDelivery id target samples config
  | .start config => w.beginStart id config
  | .stop => w.beginStop id
  | .request b surface method path body => w.beginRequest id b surface method path body

-- Takes an action and does everything that follows without time passing. The task's number is
-- where its result will be.
def act (w : World) (a : Action) : Nat × World :=
  let (id, w) := w.newTask
  (id, (w.begin id a).settled)

-- What takes no time.

def mapLink (w : World) (f : Store.Link → Store.Link) : World := { w with link := f w.link }

-- Replaces the faults still to come.
def injectFaults (w : World) (f : Store.Faults → Store.Faults) : World :=
  w.mapLink fun l => { l with store := { l.store with faults := f l.store.faults } }

-- The requests since the last time, oldest first.
def takeLog (w : World) : List Store.LogEntry × World :=
  (w.link.log.reverse, w.mapLink fun l => { l with log := [] })

def moveClock (w : World) (f : Clock → Clock) : World :=
  w.mapLink fun l => { l with clock := f l.clock }

-- Changes the writer's pipeline and does what follows.
def changeWriter {α : Type} (w : World) (other : α) (f : Write.Pipeline → α × Write.Pipeline) :
    α × World :=
  match w.writer, w.writer? with
  | some n, some p =>
    let (a, p) := f p
    (a, (w.setPipeline n p).settled)
  | _, _ => (other, w)

-- A sample that never waits.
def tryAdd (w : World) (s : Sample) : Write.Result × World :=
  let (id, w) := w.newTask
  w.changeWriter (.error .shuttingDown) fun p => p.tryAdd w.link.now id s

-- The reports since the last time.
def takeReports (w : World) : List Write.Reception × World :=
  w.changeWriter [] fun p =>
    let (reports, channel) := p.record.channel.drain w.listener
    (reports, { p with record := { p.record with channel := channel } })

def startWriter (w : World) (target : String) (config : Write.Config) : Except Error World := do
  return (← w.addPipeline config target).settled

-- A pipeline without workers and timer, of which only the batches are of interest.
def withIdleWriter (w : World) (config : Write.Config) : World :=
  { w with pipelines := w.pipelines ++ [.idle config "" w.link.now],
           writer := some w.pipelines.length }

def useService (w : World) (config : Lifecycle.Config) : World :=
  let w := w.addService config
  if config.daily then w else { w with observed := w.service }

def stopLoop (w : World) : World :=
  match w.service with
  | some n => (w.stopService n).settled
  | none => w

end World

end MetricRelay.Scenario

import MetricRelay.Store.Link
import MetricRelay.Write.Delivery
import MetricRelay.Write.Intake

-- The write pipeline: samples are added to an open batch, closed batches queue up, and workers
-- deliver them. Whatever goes on at the same time is an activity with a number of its own; between
-- two of its turns every other activity may have one. `woken` lists those who have a reason for a
-- turn, in the order in which the reasons came up; a turn without a reason changes nothing.

namespace MetricRelay.Write

open Store (Link Routine Suspended Reached)

inductive WorkerStage
  | new
  -- in line for the receiving end of the queue
  | queued
  -- has the receiving end and waits for a batch
  | receiving
  | delivering (batch : Batch) (unsettled : Nat) (s : Suspended Delivery.Note Delivery)

-- Batches and samples that were not written.
structure Loss where
  batches : Nat
  samples : Nat
deriving DecidableEq, Repr

def Loss.none : Loss := ⟨0, 0⟩

def Loss.add (a b : Loss) : Loss := ⟨a.batches + b.batches, a.samples + b.samples⟩

inductive ShutdownStage
  | awaitingTimer (deadline timer : Nat)
  | closing (deadline : Nat) (batch : Batch) (limit : Timer)
  -- waits for the workers to come to an end by themselves
  | joining (workers : List Nat) (report : Loss) (limit : Timer)
  -- waits for them after they were told to give up
  | dismissing (workers : List Nat) (report : Loss)
  -- in line for the receiving end of the queue
  | collecting (report : Loss)

-- Activities that hold a batch wait for room in the queue.
inductive Activity
  | adding (batch : Batch) (trigger : Trigger)
  | writing (batch : Batch) (rest : List Sample) (total : Nat)
  | flushing (batch : Batch) (trigger : Trigger)
  -- the age timer, before its first tick
  | starting (period : Duration)
  -- `due` is the next tick, in nanoseconds
  | ticking (period : Duration) (due : Nat) (next : Timer)
  -- `due` is the tick after this flush
  | tickFlushing (period : Duration) (due : Nat) (batch : Batch)
  | closing (batch : Batch) (limit : Timer)
  | ending (stage : ShutdownStage)
  | working (stage : WorkerStage)

namespace Activity

-- The batch an activity wants to queue. It keeps the queue open meanwhile.
def held? : Activity → Option Batch
  | .adding batch _ => some batch
  | .writing batch _ _ => some batch
  | .flushing batch _ => some batch
  | .tickFlushing _ _ batch => some batch
  | .closing batch _ => some batch
  | .ending (.closing _ batch _) => some batch
  | _ => none

def timers : Activity → List Timer
  | .ticking _ _ next => [next]
  | .closing _ limit => [limit]
  | .ending (.closing _ _ limit) => [limit]
  | .ending (.joining _ _ limit) => [limit]
  | .working (.delivering _ _ s) => s.timers
  | _ => []

-- Whether the activity waits for another one to end.
def awaits (a : Activity) (id : Nat) : Bool :=
  match a with
  | .ending (.awaitingTimer _ timer) => timer == id
  | .ending (.joining workers _ _) => workers.contains id
  | .ending (.dismissing workers _) => workers.contains id
  | _ => false

end Activity

-- What an activity has to show for itself when it ends.
inductive Done
  | added (trigger : Option Trigger)
  | wrote (samples : Nat)
  | flushed (trigger : Option Trigger)
  | closed
  | timerStopped
  | shutDown
  | workerStopped
deriving DecidableEq, Repr

abbrev Result := Except Error Done

structure Pipeline where
  config : Config
  target : String
  -- the open batch
  batch : Batch
  -- no more samples are taken
  closed : Bool
  -- the accumulator keeps the queue open
  hasSender : Bool
  intake : Intake
  record : Record
  -- who has the receiving end of the queue, and who stands in line for it
  receiver : Option Nat
  line : List Nat
  -- the age timer was told to stop
  timerStopped : Bool
  -- the workers were told to give up
  dismissed : Bool
  -- what workers gave up, and what was left in the queue
  lost : Loss
  -- the age timer and the workers, until a shutdown takes charge of them
  timer : Option Nat
  workers : List Nat
  activities : List (Nat × Activity)
  woken : List Nat

namespace Pipeline

def idle (config : Config) (target : String) (now : Nat) : Pipeline :=
  { config := config, target := target, batch := .empty now, closed := false, hasSender := true,
    intake := .ofCapacity config.queueCapacity, record := .ofCapacity config.failureCapacity,
    receiver := none, line := [], timerStopped := false, dismissed := false, lost := .none,
    timer := none, workers := [], activities := [], woken := [] }

-- Activities.

def find? (p : Pipeline) (id : Nat) : Option Activity :=
  (p.activities.find? fun a => a.1 == id).map Prod.snd

def isActive (p : Pipeline) (id : Nat) : Bool := p.activities.any fun a => a.1 == id

def set (p : Pipeline) (id : Nat) (a : Activity) : Pipeline :=
  if p.isActive id then
    { p with activities := p.activities.map fun e => if e.1 = id then (id, a) else e }
  else { p with activities := p.activities ++ [(id, a)] }

def wake (p : Pipeline) (ids : List Nat) : Pipeline := { p with woken := p.woken ++ ids }

def remove (p : Pipeline) (id : Nat) : Pipeline :=
  { p with activities := p.activities.filter fun e => e.1 != id }

-- Those who wait for the activity's end are told.
def finish (p : Pipeline) (id : Nat) : Pipeline :=
  let p := p.remove id
  p.wake ((p.activities.filter fun e => e.2.awaits id).map Prod.fst)

def update (p : Pipeline) (f : Stats → Stats) : Pipeline :=
  { p with record := p.record.update f }

-- The queue.

-- Who has the receiving end, if anybody, is told.
def wakeReceiver (p : Pipeline) : Pipeline := p.wake p.receiver.toList

def senders (p : Pipeline) : Nat :=
  (if p.hasSender then 1 else 0) + p.activities.countP fun e => e.2.held?.isSome

-- When the last sender has gone, nothing can come any more.
def senderGone (p : Pipeline) : Pipeline := if p.senders = 0 then p.wakeReceiver else p

def settleOffer (p : Pipeline) (batch : Batch) (offer : Offer) : Pipeline :=
  match offer with
  | .sent => p.wakeReceiver
  | .refused => p.update fun s => s.addLoss 1 batch.size
  | .mustWait => p

-- Hands over a batch that was just closed.
def flush (p : Pipeline) (id : Nat) (batch : Batch) (trigger : Option Trigger) :
    Offer × Pipeline :=
  let p := p.update fun s => s.addFlush trigger
  let (offer, intake) := p.intake.offer id batch
  (offer, { p with intake := intake }.settleOffer batch offer)

-- Goes on handing over a batch.
def redeem (p : Pipeline) (id : Nat) (batch : Batch) : Offer × Pipeline :=
  let (offer, intake) := p.intake.redeem id batch
  (offer, { p with intake := intake }.settleOffer batch offer)

def withdraw (p : Pipeline) (id : Nat) : Pipeline :=
  let (told, intake) := p.intake.withdraw id
  { p with intake := intake }.wake told.toList

-- Samples.

def accepts (p : Pipeline) : Bool := p.hasSender && !p.closed

def evaluate (p : Pipeline) (m : Measurement) : Option Trigger :=
  p.config.batch.evaluate m p.config.precedence

-- Adds a sample to the open batch, which this may close.
def append (p : Pipeline) (now : Nat) (s : Sample) : Option (Trigger × Batch) × Pipeline :=
  let batch := p.batch.push s
  let p := p.update fun s => { s with accepted := s.accepted + 1 }
  match p.evaluate (batch.measure now) with
  | some trigger => (some (trigger, batch), { p with batch := .empty now })
  | none => (none, { p with batch := batch })

def add (p : Pipeline) (now id : Nat) (s : Sample) : Option Result × Pipeline :=
  if !p.accepts then (some (.error .shuttingDown), p)
  else
    match p.append now s with
    | (none, p) => (some (.ok (.added none)), p)
    | (some (trigger, batch), p) =>
      match p.flush id batch (some trigger) with
      | (.sent, p) => (some (.ok (.added (some trigger))), p)
      | (.refused, p) => (some (.error .shuttingDown), p)
      | (.mustWait, p) => (none, p.set id (.adding batch trigger))

-- Never waits: a sample that would close the batch is only taken if the queue has room.
def tryAdd (p : Pipeline) (now id : Nat) (s : Sample) : Result × Pipeline :=
  if !p.accepts then (.error .shuttingDown, p)
  else if (p.evaluate (p.batch.measureWith s now)).isNone then
    let p := p.update fun s => { s with accepted := s.accepted + 1 }
    (.ok (.added none), { p with batch := p.batch.push s })
  else if p.intake.closed then (.error .shuttingDown, p)
  else if p.intake.free = 0 then
    (.error .bufferFull, p.update fun s => { s with rejected := s.rejected + 1 })
  else
    match p.append now s with
    | (none, p) => (.ok (.added none), p)
    | (some (trigger, batch), p) => (.ok (.added (some trigger)), (p.flush id batch (some trigger)).2)

-- Adds samples one after the other.
def write (now id total : Nat) : List Sample → Pipeline → Option Result × Pipeline
  | [], p => (some (.ok (.wrote total)), p)
  | s :: rest, p =>
    if !p.accepts then (some (.error .shuttingDown), p)
    else
      match p.append now s with
      | (none, p) => write now id total rest p
      | (some (trigger, batch), p) =>
        match p.flush id batch (some trigger) with
        | (.sent, p) => write now id total rest p
        | (.refused, p) => (some (.error .shuttingDown), p)
        | (.mustWait, p) => (none, p.set id (.writing batch rest total))

-- Takes the open batch if it is past its age.
def expire (p : Pipeline) (now : Nat) : Option (Trigger × Batch) × Pipeline :=
  if !p.accepts then (none, p)
  else
    match p.config.batch.evaluateOnly (p.batch.measure now) p.config.precedence [.age] with
    | some trigger => (some (trigger, p.batch), { p with batch := .empty now })
    | none => (none, p)

def flushExpired (p : Pipeline) (now id : Nat) : Option Result × Pipeline :=
  match p.expire now with
  | (none, p) => (some (.ok (.flushed none)), p)
  | (some (trigger, batch), p) =>
    match p.flush id batch (some trigger) with
    | (.sent, p) => (some (.ok (.flushed (some trigger))), p)
    | (.refused, p) => (some (.error .shuttingDown), p)
    | (.mustWait, p) => (none, p.set id (.flushing batch trigger))

-- The age timer.

-- A tick that is more than this late does not make up for lost time.
def tickSlack : Nat := 5 * Duration.nanosPerMilli

def nextTick (now : Nat) (period : Duration) (due : Nat) : Nat :=
  if due + tickSlack < now then now + period.nanos else due + period.nanos

def awaitTick (p : Pipeline) (l : Link) (id : Nat) (period : Duration) (due : Nat) :
    Option Result × Pipeline × Link :=
  let (next, l) := l.setTimer (Timer.firing due)
  (none, p.set id (.ticking period due next), l)

-- Waits for the next tick, unless it is due or the timer was told to stop. With both at once it may
-- tick before it stops. The fuel bounds the ticks that can be due at once.
def tick (id : Nat) (period : Duration) :
    Nat → Nat → Nat → Pipeline → Link → Option Result × Pipeline × Link
  | 0, _, due, p, l => p.awaitTick l id period due
  | fuel + 1, overtime, due, p, l =>
    if p.timerStopped && (overtime == 0 || l.nanos < due) then
      (some (.ok .timerStopped), p.finish id, l)
    else if l.nanos < due then p.awaitTick l id period due
    else
      let due := nextTick l.nanos period due
      match p.expire l.now with
      | (none, p) => tick id period fuel (overtime - 1) due p l
      | (some (trigger, batch), p) =>
        match p.flush id batch (some trigger) with
        | (.mustWait, p) => (none, p.set id (.tickFlushing period due batch), l)
        | (_, p) => tick id period fuel (overtime - 1) due p l

def runTimer (p : Pipeline) (l : Link) (id : Nat) (period : Duration) (due : Nat) :
    Option Result × Pipeline × Link :=
  tick id period (l.nanos - due + 2) l.overtime due p l

-- The end of the intake.

-- Takes no more samples. The last batch, if there is one and it can still be queued.
def endIntake (p : Pipeline) (now : Nat) : Option Batch × Pipeline :=
  let batch := p.batch
  let last := if p.hasSender && !batch.isEmpty then some batch else none
  let p := { p with hasSender := false, closed := true,
                    batch := if batch.isEmpty then batch else .empty now }
  (last, if last.isNone then p.senderGone else p)

-- Closes the intake and hands over the last batch, by `deadline` at the latest.
def close (p : Pipeline) (l : Link) (id deadline : Nat) : Option Result × Pipeline × Link :=
  match p.endIntake l.now with
  | (none, p) => (some (.ok .closed), p, l)
  | (some batch, p) =>
    match p.flush id batch none with
    | (.sent, p) => (some (.ok .closed), p.senderGone, l)
    | (.refused, p) => (some (.error .shuttingDown), p.senderGone, l)
    | (.mustWait, p) =>
      let (limit, l) := l.setTimer deadline
      if deadline ≤ l.now then
        (some (.error (.shutdownLoss 1 batch.size)), (p.withdraw id).senderGone, l)
      else (none, p.set id (.closing batch limit), l)

-- The receiving end.

def releaseReceiver (p : Pipeline) : Pipeline :=
  match p.line with
  | [] => { p with receiver := none }
  | next :: rest => { p with receiver := some next, line := rest }.wake [next]

-- Takes the receiving end if nobody has it; otherwise one has to stand in line.
def takeReceiver (p : Pipeline) (id : Nat) : Bool × Pipeline :=
  if p.receiver.isNone then (true, { p with receiver := some id })
  else (false, { p with line := p.line ++ [id] })

-- Nothing can come out of the queue any more.
def isExhausted (p : Pipeline) : Bool :=
  p.intake.batches.isEmpty &&
    (p.senders == 0 || (p.intake.closed && p.intake.granted.isEmpty))

-- What somebody else finds who takes from the queue.
inductive Taken
  | batch (b : Batch)
  | nothing
  | closed
deriving DecidableEq

def take (p : Pipeline) : Taken × Pipeline :=
  match p.intake.pop? with
  | some (batch, told, intake) => (.batch batch, { p with intake := intake }.wake told.toList)
  | none => (if p.intake.closed || p.isExhausted then .closed else .nothing, p)

-- The receiving end goes away, and what is queued with it.
def hangUp (p : Pipeline) : Pipeline :=
  let (told, intake) := p.intake.close
  { p with intake := intake.clear.2 }.wake told

-- Workers.

def addLost (p : Pipeline) (samples : Nat) : Pipeline :=
  { p with lost := p.lost.add ⟨1, samples⟩ }

def deliverBatch (p : Pipeline) (l : Link) (batch : Batch) :
    Reached Delivery.Note Delivery × Link × Record × Nat :=
  (Delivery.routine p.config p.target batch).run (Delivery.takeDown p.target) l
    (p.record, batch.size)

mutual

-- Goes for the next batch. The fuel is more than there are batches in the queue.
def work (id : Nat) (fuel : Nat) (p : Pipeline) (l : Link) : Option Result × Pipeline × Link :=
  match fuel with
  | 0 => (none, p.set id (.working .new), l)
  | fuel + 1 =>
    match p.takeReceiver id with
    | (false, p) => (none, p.set id (.working .queued), l)
    | (true, p) => receive id fuel p l

-- Has the receiving end. Being told to give up comes first.
def receive (id : Nat) (fuel : Nat) (p : Pipeline) (l : Link) :
    Option Result × Pipeline × Link :=
  if p.dismissed then (some (.ok .workerStopped), p.releaseReceiver.finish id, l)
  else
    match p.intake.pop? with
    | none =>
      if p.isExhausted then (some (.ok .workerStopped), p.releaseReceiver.finish id, l)
      else (none, p.set id (.working .receiving), l)
    | some (batch, told, intake) =>
      let p := ({ p with intake := intake }.wake told.toList).releaseReceiver
      match p.deliverBatch l batch with
      | (.finished _, l, record, _) => work id fuel { p with record := record } l
      | (.suspended s, l, record, unsettled) =>
        (none, { p with record := record }.set id (.working (.delivering batch unsettled s)), l)

end

def workFuel (p : Pipeline) : Nat := p.intake.batches.length + 2

def workOn (p : Pipeline) (l : Link) (id : Nat) (stage : WorkerStage) :
    Option Result × Pipeline × Link :=
  match stage with
  | .new => work id p.workFuel p l
  | .queued => if p.receiver = some id then receive id p.workFuel p l else (none, p, l)
  | .receiving => receive id p.workFuel p l
  | .delivering batch unsettled s =>
    if p.dismissed then
      let p := if unsettled = 0 then p else p.addLost unsettled
      (some (.ok .workerStopped), p.finish id, l)
    else
      match s.resume (Delivery.takeDown p.target) l (p.record, unsettled) with
      | (.finished _, l, record, _) =>
        let p := { p with record := record }
        work id p.workFuel p l
      | (.suspended s, l, record, unsettled) =>
        (none, { p with record := record }.set id (.working (.delivering batch unsettled s)), l)

-- Shutdown.

-- Counts and reports what was lost, if anything.
def conclude (p : Pipeline) (id : Nat) (report : Loss) : Result × Pipeline :=
  let total := report.add p.lost
  let p := p.finish id
  if total.batches = 0 then (.ok .shutDown, p)
  else
    let p := p.update fun s => s.addLoss total.batches total.samples
    (.error (.shutdownLoss total.batches total.samples),
      { p with record := p.record.publish (.shutdownLoss total.batches total.samples) })

-- Has the receiving end: closes it and counts what is left in the queue.
def collect (p : Pipeline) (id : Nat) (report : Loss) : Result × Pipeline :=
  let (told, intake) := p.intake.close
  let (left, intake) := intake.clear
  let p := left.foldl (fun p b => p.addLost b.size) { p with intake := intake }
  (p.wake told).releaseReceiver.conclude id report

def beginCollect (p : Pipeline) (l : Link) (id : Nat) (report : Loss) :
    Option Result × Pipeline × Link :=
  match p.takeReceiver id with
  | (true, p) =>
    let (result, p) := p.collect id report
    (some result, p, l)
  | (false, p) => (none, p.set id (.ending (.collecting report)), l)

def anyActive (p : Pipeline) (ids : List Nat) : Bool := ids.any p.isActive

-- Workers that wait for a batch or for the store notice that they are to give up.
def dismiss (p : Pipeline) : Pipeline :=
  let p := { p with dismissed := true }
  p.wake ((p.activities.filter fun e =>
    match e.2 with
    | .working .receiving => true
    | .working (.delivering _ _ _) => true
    | _ => false).map Prod.fst)

def beginDismiss (p : Pipeline) (l : Link) (id : Nat) (workers : List Nat) (report : Loss) :
    Option Result × Pipeline × Link :=
  let p := p.dismiss
  if p.anyActive workers then (none, p.set id (.ending (.dismissing workers report)), l)
  else p.beginCollect l id report

-- Waits for the workers, but not past the deadline.
def drain (p : Pipeline) (l : Link) (id deadline : Nat) (report : Loss) :
    Option Result × Pipeline × Link :=
  let workers := p.workers
  let p := { p with workers := [] }
  if !p.anyActive workers then p.beginCollect l id report
  else
    let (limit, l) := l.setTimer deadline
    if deadline ≤ l.now then p.beginDismiss l id workers report
    else (none, p.set id (.ending (.joining workers report limit)), l)

-- Closes the intake; a last batch that finds no room in time is lost.
def beginClose (p : Pipeline) (l : Link) (id deadline : Nat) : Option Result × Pipeline × Link :=
  match p.close l id deadline with
  | (some (.error (.shutdownLoss batches samples)), p, l) =>
    p.drain l id deadline ⟨batches, samples⟩
  | (some _, p, l) => p.drain l id deadline .none
  | (none, p, l) =>
    match p.find? id with
    | some (.closing batch limit) => (none, p.set id (.ending (.closing deadline batch limit)), l)
    | _ => (none, p, l)

-- The timer notices that it is to stop when it waits for a tick.
def stopTimer (p : Pipeline) : Pipeline :=
  let p := { p with timerStopped := true }
  p.wake ((p.activities.filter fun e =>
    match e.2 with
    | .ticking _ _ _ => true
    | _ => false).map Prod.fst)

def shutDown (p : Pipeline) (l : Link) (id : Nat) : Option Result × Pipeline × Link :=
  let deadline := l.now + p.config.drainTimeout.wholeMillis
  let p := p.stopTimer
  match p.timer with
  | none => p.beginClose l id deadline
  | some timer =>
    let p := { p with timer := none }
    if p.isActive timer then (none, p.set id (.ending (.awaitingTimer deadline timer)), l)
    else p.beginClose l id deadline

def endOn (p : Pipeline) (l : Link) (id : Nat) (stage : ShutdownStage) :
    Option Result × Pipeline × Link :=
  match stage with
  | .awaitingTimer deadline timer =>
    if p.isActive timer then (none, p, l) else p.beginClose l id deadline
  | .closing deadline batch limit =>
    match p.redeem id batch with
    | (.sent, p) => (p.remove id).senderGone.drain l id deadline .none
    | (.refused, p) => (p.remove id).senderGone.drain l id deadline .none
    | (.mustWait, p) =>
      if limit.due ≤ l.now then
        ((p.withdraw id).remove id).senderGone.drain l id deadline ⟨1, batch.size⟩
      else (none, p, l)
  | .joining workers report limit =>
    if !p.anyActive workers then p.beginCollect l id report
    else if limit.due ≤ l.now then p.beginDismiss l id workers report
    else (none, p, l)
  | .dismissing workers report =>
    if !p.anyActive workers then p.beginCollect l id report else (none, p, l)
  | .collecting report =>
    if p.receiver = some id then
      let (result, p) := p.collect id report
      (some result, p, l)
    else (none, p, l)

-- One turn of an activity.
def turn (p : Pipeline) (l : Link) (id : Nat) : Option Result × Pipeline × Link :=
  match p.find? id with
  | none => (none, p, l)
  | some (.adding batch trigger) =>
    match p.redeem id batch with
    | (.sent, p) => (some (.ok (.added (some trigger))), (p.finish id).senderGone, l)
    | (.refused, p) => (some (.error .shuttingDown), (p.finish id).senderGone, l)
    | (.mustWait, p) => (none, p, l)
  | some (.writing batch rest total) =>
    match p.redeem id batch with
    | (.sent, p) =>
      let (result, p) := write l.now id total rest (p.remove id).senderGone
      (result, p, l)
    | (.refused, p) => (some (.error .shuttingDown), (p.finish id).senderGone, l)
    | (.mustWait, p) => (none, p, l)
  | some (.flushing batch trigger) =>
    match p.redeem id batch with
    | (.sent, p) => (some (.ok (.flushed (some trigger))), (p.finish id).senderGone, l)
    | (.refused, p) => (some (.error .shuttingDown), (p.finish id).senderGone, l)
    | (.mustWait, p) => (none, p, l)
  | some (.starting period) => p.runTimer l id period l.nanos
  | some (.ticking period due next) =>
    if !p.timerStopped && l.now < next.due then (none, p, l) else p.runTimer l id period due
  | some (.tickFlushing period due batch) =>
    match p.redeem id batch with
    | (.mustWait, p) => (none, p, l)
    | (_, p) => (p.set id (.starting period)).senderGone.runTimer l id period due
  | some (.closing batch limit) =>
    match p.redeem id batch with
    | (.sent, p) => (some (.ok .closed), (p.finish id).senderGone, l)
    | (.refused, p) => (some (.error .shuttingDown), (p.finish id).senderGone, l)
    | (.mustWait, p) =>
      if limit.due ≤ l.now then
        (some (.error (.shutdownLoss 1 batch.size)), ((p.withdraw id).finish id).senderGone, l)
      else (none, p, l)
  | some (.ending stage) => p.endOn l id stage
  | some (.working stage) => p.workOn l id stage

-- The caller of an activity gives it up: the batch it holds goes with it.
def abandon (p : Pipeline) (id : Nat) : Pipeline := ((p.withdraw id).finish id).senderGone

def timers (p : Pipeline) : List (Nat × Timer) :=
  p.activities.flatMap fun (id, a) => a.timers.map fun t => (id, t)

-- How many samples the open batch holds.
def pending (p : Pipeline) : Nat := p.batch.size

-- A running pipeline: workers and the age timer are activities with the numbers from `first` on,
-- and all have a reason for a turn.
def start (config : Config) (target : String) (now first : Nat) : Except Error Pipeline := do
  config.validate
  let workers := (List.range config.workers).map (first + ·)
  let timer := first + config.workers
  return { idle config target now with
    workers := workers
    timer := some timer
    activities := workers.map (fun id => (id, .working .new)) ++
      [(timer, .starting config.ageCheckInterval)]
    woken := workers ++ [timer] }

end Pipeline

end MetricRelay.Write

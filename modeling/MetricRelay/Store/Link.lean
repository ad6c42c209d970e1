import MetricRelay.Store.Routine
import MetricRelay.Time.Clock

-- A store as the relay reaches it: requests may be delayed, answers may be laid down in advance,
-- and every request is logged. Time is counted in whole milliseconds and stands still while
-- something runs.

namespace MetricRelay

-- When a timer is due, and how many were set before it.
structure Timer where
  due : Nat
  stamp : Nat
deriving DecidableEq, Repr

-- A timer for a moment, given in nanoseconds, fires in the next whole millisecond: never early.
def Timer.firing (moment : Nat) : Nat :=
  (moment + (Duration.nanosPerMilli - 1)) / Duration.nanosPerMilli

def Duration.wholeMillis (d : Duration) : Nat := Timer.firing d.nanos

namespace Store

inductive Reply
  | fail (e : Error)
  -- to a bulk request
  | outcomes (l : List Outcome)

-- What is to happen to one request. Without a reply the store answers.
structure Rehearsal where
  delay : Nat
  reply : Option Reply

structure LogEntry where
  time : Nat
  name : String
  target : String
  size : Nat
deriving DecidableEq, Repr

structure Link where
  store : Store
  clock : Clock
  now : Nat
  -- for each kind of request, the next ones first
  rehearsals : Keyed (List Rehearsal)
  -- latest first
  log : List LogEntry
  -- how many timers were set
  stamp : Nat
  -- a loop that was told to stop may find a tick due as well: so many of them it does first
  overtime : Nat

-- A request that is under way.
inductive Leg
  -- on its way to a rehearsed reply, or to the store
  | travelling (reply : Option Reply)
  -- at the store, which takes its time
  | lingering

structure Pending where
  leg : Leg
  arrival : Timer
  deadline : Option Timer

def Pending.timers (p : Pending) : List Timer := p.arrival :: p.deadline.toList

namespace Link

def setTimer (l : Link) (due : Nat) : Timer × Link :=
  (⟨due, l.stamp⟩, { l with stamp := l.stamp + 1 })

def wallTime (l : Link) : Int64 := l.clock.read l.now

def nanos (l : Link) : Nat := l.now * Duration.nanosPerMilli

def takeRehearsal (l : Link) (name : String) : Option Rehearsal × Link :=
  match l.rehearsals.find? name with
  | some (r :: rest) => (some r, { l with rehearsals := l.rehearsals.insert name rest })
  | _ => (none, l)

def rehearse (l : Link) (name : String) (more : List Rehearsal) : Link :=
  { l with rehearsals := l.rehearsals.insert name ((l.rehearsals.find? name).getD [] ++ more) }

-- Either an answer, or where the request is.
inductive Progress (r : Request)
  | answered (a : Except Error r.Answer)
  | pending (leg : Leg) (arrival : Timer)

def atStore (l : Link) (r : Request) : Progress r × Link :=
  let (a, store) := l.store.answer l.wallTime r
  (.answered a, { l with store := store })

def replyTo (l : Link) : (r : Request) → Reply → Progress r × Link
  | _, .fail e => (.answered (.error e), l)
  | .bulk _ _, .outcomes outcomes => (.answered (.ok outcomes), l)
  | r, .outcomes _ => l.atStore r

-- The request has arrived. A store that lingers over bulk requests does so now.
def arrive (l : Link) (r : Request) (reply : Option Reply) : Progress r × Link :=
  match reply, r with
  | some reply, r => l.replyTo r reply
  | none, .bulk target docs =>
    if l.store.faults.latency = 0 then l.atStore (.bulk target docs)
    else
      let (timer, l) := l.setTimer (l.now + l.store.faults.latency)
      (.pending .lingering timer, l)
  | none, r => l.atStore r

-- A request sets out: it is logged and, if so rehearsed, delayed.
def depart (l : Link) (r : Request) : Progress r × Link :=
  let l := { l with log := ⟨l.now, r.name, r.target, r.size⟩ :: l.log }
  match l.takeRehearsal r.name with
  | (none, l) => l.arrive r none
  | (some rehearsal, l) =>
    if rehearsal.delay = 0 then l.arrive r rehearsal.reply
    else
      let (timer, l) := l.setTimer (l.now + rehearsal.delay)
      (.pending (.travelling rehearsal.reply) timer, l)

def advance (l : Link) (r : Request) (leg : Leg) : Progress r × Link :=
  match leg with
  | .travelling reply => l.arrive r reply
  | .lingering => l.atStore r

-- What the caller learns: an answer, possibly that the time is over, or that it has to wait.
inductive Turn (c : Call)
  | answered (a : Except Error c.request.Answer)
  | waiting (p : Pending)

-- An answer that is there counts even when the time is over.
def within (l : Link) (c : Call) (deadline : Option Timer) (progress : Progress c.request) :
    Turn c :=
  match progress with
  | .answered a => .answered a
  | .pending leg arrival =>
    if deadline.any (·.due ≤ l.now) then .answered (.error (.timeout c.request.name))
    else .waiting ⟨leg, arrival, deadline⟩

def start (l : Link) (c : Call) : Turn c × Link :=
  match l.depart c.request, c.limit with
  | (.answered a, l), _ => (.answered a, l)
  | (.pending leg arrival, l), none => (l.within c none (.pending leg arrival), l)
  | (.pending leg arrival, l), some limit =>
    let (deadline, l) := l.setTimer (l.now + limit.wholeMillis)
    (l.within c (some deadline) (.pending leg arrival), l)

def resume (l : Link) (c : Call) (p : Pending) : Turn c × Link :=
  if p.arrival.due ≤ l.now then
    let (progress, l) := l.advance c.request p.leg
    (l.within c p.deadline progress, l)
  else (l.within c p.deadline (.pending p.leg p.arrival), l)

end Link

-- A routine that waits.
inductive Suspended (ε α : Type)
  | onCall (c : Call) (p : Pending) (next : Except Error c.request.Answer → Routine ε α)
  | onTimer (timer : Timer) (next : Routine ε α)

def Suspended.timers {ε α : Type} : Suspended ε α → List Timer
  | .onCall _ p _ => p.timers
  | .onTimer timer _ => [timer]

-- How far a routine got.
inductive Reached (ε α : Type)
  | finished (a : α)
  | suspended (s : Suspended ε α)

variable {ε α σ : Type}

-- Runs a routine until it is done or has to wait; `add` takes down its notes.
def Routine.run (add : σ → ε → σ) (l : Link) (s : σ) : Routine ε α → Reached ε α × Link × σ
  | .done a => (.finished a, l, s)
  | .note e rest => rest.run add l (add s e)
  | .clock next => (next l.wallTime).run add l s
  | .call c next =>
    match l.start c with
    | (.answered a, l) => (next a).run add l s
    | (.waiting p, l) => (.suspended (.onCall c p next), l, s)
  | .pause span next =>
    let ms := span.wholeMillis
    if ms = 0 then next.run add l s
    else
      let (timer, l) := l.setTimer (l.now + ms)
      (.suspended (.onTimer timer next), l, s)

-- Goes on with a routine, if what it waits for has come.
def Suspended.resume (add : σ → ε → σ) (l : Link) (s : σ) (w : Suspended ε α) :
    Reached ε α × Link × σ :=
  match w with
  | .onCall c p next =>
    match l.resume c p with
    | (.answered a, l) => (next a).run add l s
    | (.waiting p, l) => (.suspended (.onCall c p next), l, s)
  | .onTimer timer next =>
    if timer.due ≤ l.now then next.run add l s else (.suspended (.onTimer timer next), l, s)

end Store

end MetricRelay

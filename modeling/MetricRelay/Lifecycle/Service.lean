import MetricRelay.Lifecycle.Cycle
import MetricRelay.Store.Link

-- A lifecycle service and its loop, which looks at the alias again and again until it is told to
-- stop. A cycle that has begun is always completed.

namespace MetricRelay.Lifecycle

open Store (Link Reached Suspended)

structure Service where
  config : Config
  record : Record
  -- the loop was told to stop
  stopped : Bool

def Service.new (config : Config) : Service := ⟨config, .initial config.aliasName, false⟩

abbrev SuspendedCycle := Suspended Note (Except Error (Option Rollover))

inductive Loop
  | new
  -- for the look that is due at a moment, in nanoseconds
  | waiting (due : Nat) (timer : Timer)
  -- in the cycle that was due at a moment
  | busy (due : Nat) (s : SuspendedCycle)

def Loop.timers : Loop → List Timer
  | .new => []
  | .waiting _ timer => [timer]
  | .busy _ s => s.timers

namespace Service

-- Looks come at a fixed pace and none is left out. By the day, the pace starts anew each time.
def firstLook (v : Service) (l : Link) : Nat :=
  if v.config.daily then l.nanos + (untilNextLook v.config l.wallTime).nanos else l.nanos

def nextLook (v : Service) (l : Link) (due : Nat) : Nat :=
  if v.config.daily then v.firstLook l else due + v.config.checkInterval.nanos

-- Waits for the next look, unless it is due. The fuel bounds the looks that can be due at once.
-- A loop that has ended is `none`.
def look (fuel overtime due : Nat) (v : Service) (l : Link) : Option Loop × Service × Link :=
  if v.stopped && (overtime == 0 || l.nanos < due) then (none, v, l)
  else if l.nanos < due then
    let (timer, l) := l.setTimer (Timer.firing due)
    (some (.waiting due timer), v, l)
  else
    match fuel with
    | 0 => (some .new, v, l)
    | fuel + 1 =>
      match (cycle v.config).run Record.add l v.record with
      | (.finished _, l, record) =>
        let v := { v with record := record }
        look fuel (overtime - 1) (v.nextLook l due) v l
      | (.suspended s, l, record) => (some (.busy due s), { v with record := record }, l)

def keepLooking (v : Service) (l : Link) (due : Nat) : Option Loop × Service × Link :=
  look (l.nanos - due + 2) l.overtime due v l

-- One turn of the loop.
def turn (v : Service) (l : Link) (loop : Loop) : Option Loop × Service × Link :=
  match loop with
  | .new => v.keepLooking l (v.firstLook l)
  | .waiting due timer =>
    if !v.stopped && l.now < timer.due then (some loop, v, l) else v.keepLooking l due
  | .busy due s =>
    match s.resume Record.add l v.record with
    | (.finished _, l, record) =>
      let v := { v with record := record }
      v.keepLooking l (v.nextLook l due)
    | (.suspended s, l, record) => (some (.busy due s), { v with record := record }, l)

end Service

end MetricRelay.Lifecycle

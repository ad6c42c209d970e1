import MetricRelay.Proofs.Write.Shutdown

-- A pipeline among its clients, from its start on, with turns in any order and a store that does
-- what it likes. No sample that was accepted is ever unaccounted for.

namespace MetricRelay.Write

open Store (Link)

inductive Ending
  | notBegun
  | underWay (id : Nat)
  | returned (r : Result)
deriving DecidableEq

-- A turn of the activity that is the shutdown may complete it.
def Ending.after (ending : Ending) (id : Nat) (result : Option Result) : Ending :=
  match ending, result with
  | .underWay shutdown, some r => if id = shutdown then .returned r else ending
  | _, _ => ending

structure Course where
  pipeline : Pipeline
  link : Link
  -- the number of the next client
  next : Nat
  ending : Ending

namespace Course

inductive Event
  | add (s : Sample)
  | write (samples : List Sample)
  | tryAdd (s : Sample)
  | flushExpired
  | turn (id : Nat)
  | shutDown
  -- time passes, the clock is set, the store or its faults change, answers are laid down
  | world (l : Link)

-- A client calls, under a number of its own.
def call (c : Course) (f : Nat → Pipeline → Pipeline) : Course :=
  { c with pipeline := f c.next c.pipeline, next := c.next + 1 }

-- Only the first shutdown is one.
def step (c : Course) : Event → Course
  | .add s => c.call fun id p => (p.add c.link.now id s).2
  | .write samples =>
    c.call fun id p => (Pipeline.write c.link.now id samples.length samples p).2
  | .tryAdd s => c.call fun id p => (p.tryAdd c.link.now id s).2
  | .flushExpired => c.call fun id p => (p.flushExpired c.link.now id).2
  | .turn id =>
    let (result, p, l) := c.pipeline.turn c.link id
    { c with pipeline := p, link := l, ending := c.ending.after id result }
  | .shutDown =>
    match c.ending with
    | .notBegun =>
      let (result, p, l) := c.pipeline.shutDown c.link c.next
      ⟨p, l, c.next + 1, (Ending.underWay c.next).after c.next result⟩
    | _ => c
  | .world l => { c with link := l }

def after (c : Course) (events : List Event) : Course := events.foldl step c

def begin (config : Config) (target : String) (l : Link) (first : Nat) : Except Error Course := do
  let p ← Pipeline.start config target l.now first
  return ⟨p, l, first + config.workers + 1, .notBegun⟩

end Course

namespace Pipeline

-- Samples of closed batches that wait for room in the queue.
def waiting (p : Pipeline) : Nat := (p.activities.map fun e => e.2.waiting).sum

-- Unsettled samples of batches that are being delivered.
def inFlight (p : Pipeline) : Nat := (p.activities.map fun e => e.2.unsettled).sum

-- Samples in the report of a shutdown.
def reported (p : Pipeline) : Nat := (p.activities.map fun e => e.2.report.samples).sum

theorem held_activities (p : Pipeline) :
    held p.activities = p.waiting + p.inFlight + p.reported := by
  unfold held waiting inFlight reported
  induction p.activities with
  | nil => rfl
  | cons e rest ih =>
    simp only [List.map_cons, List.sum_cons, Activity.samples] at ih ⊢
    omega

-- What holds of a pipeline while its shutdown has got so far.
def During (p : Pipeline) : Ending → Prop
  | .notBegun => p.hasSender = true ∧ p.Staffed ⟨p.timer, p.workers, none⟩
  | .underWay id => ∃ stage, p.AtStage id stage
  | .returned _ => p.Over

-- Losses that are not yet among those recorded.
def unreported (p : Pipeline) : Ending → Nat
  | .returned _ => 0
  | _ => p.lost.samples

section

variable {id : Nat} {role : Role} {p q : Pipeline} {n : Nat} {ending : Ending}

theorem own_eq_of_others {other : Nat} (h : q.others id = p.others id) (hne : other ≠ id) :
    q.own other = p.own other := by
  have hown : ∀ r : Pipeline, r.own other = (r.others id).filter fun e => e.1 == other := by
    intro r
    unfold own others
    rw [List.filter_filter]
    refine List.filter_congr fun e _ => ?_
    by_cases he : e.1 = other <;> simp [he, hne]
  rw [hown q, hown p, h]

theorem Turns.staffed {staff : Staff} (h : Turns id role p n q)
    (hs : p.Staffed staff) (hallows : staff.allows id role) : q.Staffed staff :=
  hs.moves h.moves.others fun e he => (h.own e he).1 ▸ hallows

-- Nobody else gets in the way of a shutdown.
theorem Turns.during (h : Turns id role p n q)
    (hallows : ∀ staff, p.Staffed staff → staff.allows id role)
    (hother : ∀ other stage, p.own other = [(other, .ending stage)] → other ≠ id)
    (hp : p.During ending) : q.During ending := by
  cases ending with
  | notBegun =>
    obtain ⟨hsender, hs⟩ := hp
    refine ⟨h.hasSender.trans hsender, ?_⟩
    rw [h.timer, h.workers]
    exact h.staffed hs (hallows _ hs)
  | underWay shutdown =>
    obtain ⟨stage, hat⟩ := hp
    have hstaff : q.staffAt shutdown stage = p.staffAt shutdown stage := by
      cases stage <;> simp [staffAt, h.workers]
    refine ⟨stage, ?_, ?_, ?_, hat.plain⟩
    · rw [own_eq_of_others h.moves.others (hother shutdown stage hat.here)]
      exact hat.here
    · rw [hstaff]
      exact h.staffed hat.staffed (hallows _ hat.staffed)
    · have hdoor := hat.door
      cases stage with
      | awaitingTimer deadline timer => exact h.hasSender.trans hdoor
      | _ => exact Shut.frame hdoor h.toFrame
  | returned r =>
    exact ⟨hp.shut.frame h.toFrame, hp.emptied.frame h.toFrame,
      h.staffed hp.staffed (hallows _ hp.staffed)⟩

end

end Pipeline

namespace Course

open Pipeline

-- What holds at every moment.
structure Sound (c : Course) : Prop where
  balance : c.pipeline.record.stats.accepted =
    c.pipeline.placed + held c.pipeline.activities + c.pipeline.unreported c.ending
  distinct : c.pipeline.Distinct
  fresh : ∀ e ∈ c.pipeline.activities, e.1 < c.next
  sound : ∀ e ∈ c.pipeline.activities, e.2.Sound c.pipeline.target
  plain : c.pipeline.lost.Plain
  during : c.pipeline.During c.ending

section

variable {c : Course} {id : Nat} {role : Role} {q : Pipeline} {n m : Nat}

private theorem fresh_of_others (hc : c.Sound) (hid : id < n) (hnext : c.next ≤ n)
    (h : q.others id = c.pipeline.others id) : ∀ e ∈ q.activities, e.1 < n := by
  intro e he
  by_cases heq : e.1 = id
  · omega
  · have hother := mem_others_iff.mpr ⟨he, heq⟩
    rw [h] at hother
    have hold := hc.fresh e (mem_others_iff.mp hother).1
    omega

private theorem sound_of_others (hc : c.Sound) (h : Moves id c.pipeline n q m)
    (hown : ∀ e ∈ q.own id, e.2.Sound q.target) : ∀ e ∈ q.activities, e.2.Sound q.target := by
  intro e he
  by_cases heq : e.1 = id
  · exact hown e (mem_own_iff.mpr ⟨he, heq⟩)
  · have hother := mem_others_iff.mpr ⟨he, heq⟩
    rw [h.others] at hother
    rw [h.target]
    exact hc.sound e (mem_others_iff.mp hother).1

-- A turn of anybody but the shutdown.
theorem turns_sound (hc : c.Sound) (l : Link) (next : Nat)
    (h : Turns id role c.pipeline (held (c.pipeline.own id)) q) (hid : id < next)
    (hnext : c.next ≤ next) (hr : role ≠ .shutdown)
    (hrole : role = .client ∨ ∃ a, (id, a) ∈ c.pipeline.activities ∧ a.role = role)
    (hother : ∀ other stage, c.pipeline.own other = [(other, .ending stage)] → other ≠ id) :
    Sound ⟨q, l, next, c.ending⟩ := by
  have hallows : ∀ staff, c.pipeline.Staffed staff → staff.allows id role := by
    intro staff hs
    rcases hrole with rfl | ⟨a, ha, rfl⟩
    · trivial
    · exact hs _ ha
  refine ⟨?_, h.moves.distinct hc.distinct, fresh_of_others hc hid hnext h.moves.others,
    sound_of_others hc h.moves fun e he => (h.own e he).2, h.plain hc.plain,
    h.during hallows hother hc.during⟩
  have hlost : ∀ r, c.ending = .returned r → q.lost = c.pipeline.lost := by
    intro r hreturned
    refine h.lost fun hworker => ?_
    -- after its return no worker is left
    have hover := hc.during
    rw [hreturned] at hover
    have hnobody := hallows _ hover.staffed
    rw [hworker] at hnobody
    cases hnobody
  have hbalance := h.moves.balance
  have hbefore := hc.balance
  have hsplit := held_own_add_held_others c.pipeline id
  have hsplit' := held_own_add_held_others q id
  rw [h.moves.others] at hsplit'
  dsimp only
  cases hending : c.ending with
  | returned r =>
    rw [hending] at hbefore
    rw [hlost r hending] at hbalance
    simp only [unreported] at hbefore ⊢
    omega
  | _ =>
    rw [hending] at hbefore
    simp only [unreported] at hbefore ⊢
    omega

-- A turn of the shutdown.
theorem ends_sound {result : Option Result} (hc : c.Sound) (l : Link) (next : Nat)
    (h : Ends id c.pipeline (held (c.pipeline.own id)) result q) (hid : id < next)
    (hnext : c.next ≤ next) (hending : ∀ r, c.ending ≠ .returned r) :
    Sound ⟨q, l, next, (Ending.underWay id).after id result⟩ := by
  have hbefore := hc.balance
  have hunreported : c.pipeline.unreported c.ending = c.pipeline.lost.samples := by
    cases hcase : c.ending with
    | returned r => exact absurd hcase (hending r)
    | _ => rfl
  rw [hunreported] at hbefore
  have hsplit := held_own_add_held_others c.pipeline id
  have hsplit' := held_own_add_held_others q id
  cases result with
  | none =>
    obtain ⟨hmoves, stage, hat⟩ := h.goesOn rfl
    have hbalance := hmoves.balance
    rw [hmoves.others] at hsplit'
    refine ⟨?_, hmoves.distinct hc.distinct, fresh_of_others hc hid hnext hmoves.others,
      sound_of_others hc hmoves ?_, h.plain, stage, hat⟩
    · simp only [Ending.after, unreported]
      omega
    · rw [hat.here]
      simp [Activity.Sound]
  | some r =>
    obtain ⟨hmoves, hgone, hover⟩ := h.returns rfl
    have hbalance := hmoves.balance
    rw [hmoves.others, hgone] at hsplit'
    have hreturned : (Ending.underWay id).after id (some r) = .returned r := if_pos rfl
    rw [hreturned]
    refine ⟨?_, hmoves.distinct hc.distinct, fresh_of_others hc hid hnext hmoves.others,
      sound_of_others hc hmoves ?_, h.plain, hover⟩
    · simp only [unreported, held, List.map_nil, List.sum_nil] at hsplit' ⊢
      unfold held at hsplit hbefore hbalance
      omega
    · rw [hgone]
      exact fun e he => absurd he List.not_mem_nil

theorem own_next (hc : c.Sound) : c.pipeline.own c.next = [] := by
  refine List.filter_eq_nil_iff.mpr fun e he hid => ?_
  have hlt := hc.fresh e he
  have heq := beq_iff_eq.mp hid
  omega

theorem call_sound (hc : c.Sound) (h : Turns c.next .client c.pipeline 0 q) :
    Sound ⟨q, c.link, c.next + 1, c.ending⟩ := by
  have hnew := own_next hc
  have hturn : Turns c.next .client c.pipeline (held (c.pipeline.own c.next)) q := by
    rw [hnew]
    exact h
  refine turns_sound hc c.link (c.next + 1) hturn (by omega) (by omega) (by simp) (.inl rfl) ?_
  rintro other stage hhere rfl
  rw [hnew] at hhere
  cases hhere

-- What has the role of the shutdown is the shutdown.
theorem ending_of_role {a : Activity} (hc : c.Sound) (ha : (id, a) ∈ c.pipeline.activities)
    (hr : a.role = .shutdown) :
    c.ending = .underWay id ∧ ∃ stage, a = .ending stage ∧ c.pipeline.AtStage id stage := by
  have hduring := hc.during
  cases hending : c.ending with
  | notBegun =>
    rw [hending] at hduring
    have hallows := hduring.2 _ ha
    rw [hr] at hallows
    cases hallows
  | returned r =>
    rw [hending] at hduring
    have hallows := hduring.staffed _ ha
    rw [hr] at hallows
    cases hallows
  | underWay shutdown =>
    rw [hending] at hduring
    obtain ⟨stage, hat⟩ := hduring
    have hallows := hat.staffed _ ha
    have hid : shutdown = id := by
      rw [hr] at hallows
      cases stage <;> exact Option.some.inj hallows
    subst hid
    have hown := mem_own_iff.mpr ⟨ha, rfl⟩
    rw [hat.here, List.mem_singleton] at hown
    cases hown
    exact ⟨rfl, stage, rfl, hat⟩

theorem turn_sound (hc : c.Sound) (id : Nat) : (c.step (.turn id)).Sound := by
  change Sound ⟨(c.pipeline.turn c.link id).2.1, (c.pipeline.turn c.link id).2.2, c.next,
    c.ending.after id (c.pipeline.turn c.link id).1⟩
  cases hfind : c.pipeline.find? id with
  | none =>
    have hafter : c.ending.after id none = c.ending := by
      cases c.ending <;> rfl
    rw [turn_of_none c.link hfind, hafter]
    exact hc
  | some a =>
    have ha := mem_of_find? hfind
    have hown := own_eq_of_find? hc.distinct hfind
    have hheld : held (c.pipeline.own id) = a.samples := by
      rw [hown]
      simp [held]
    by_cases hr : a.role = .shutdown
    · obtain ⟨hending, stage, rfl, hat⟩ := ending_of_role hc ha hr
      rw [turn_of_ending c.link hfind, hending]
      refine ends_sound hc _ c.next ?_ (hc.fresh _ ha) (by omega) ?_
      · rw [hheld]
        exact endOn_ends c.link hc.distinct hat hc.plain
      · rw [hending]
        exact fun r h => by cases h
    · have hother : ∀ other stage, c.pipeline.own other = [(other, .ending stage)] →
          other ≠ id := by
        rintro other stage hhere rfl
        rw [hown] at hhere
        cases hhere
        exact hr rfl
      have hafter : ∀ result, c.ending.after id result = c.ending := by
        intro result
        have hduring := hc.during
        cases hending : c.ending with
        | underWay shutdown =>
          rw [hending] at hduring
          obtain ⟨stage, hat⟩ := hduring
          cases result with
          | none => rfl
          | some r => exact if_neg (hother shutdown stage hat.here).symm
        | notBegun => rfl
        | returned r => rfl
      have hturns := turn_turns c.link hc.distinct hfind (hc.sound _ ha) hr
      rw [← hheld] at hturns
      rw [hafter]
      exact turns_sound hc _ c.next hturns (hc.fresh _ ha) (by omega) hr (.inr ⟨a, ha, rfl⟩) hother

theorem step_sound (hc : c.Sound) (e : Event) : (c.step e).Sound := by
  have hnew := own_next hc
  cases e with
  | add s => exact call_sound hc (add_turns _ s hc.distinct hnew)
  | write samples => exact call_sound hc (write_turns _ _ samples hc.distinct hnew)
  | tryAdd s => exact call_sound hc (tryAdd_turns _ s hnew)
  | flushExpired => exact call_sound hc (flushExpired_turns _ hc.distinct hnew)
  | turn id => exact turn_sound hc id
  | shutDown =>
    unfold step
    dsimp only
    split
    · rename_i hending
      have hduring := hc.during
      rw [hending] at hduring
      have hends : Ends c.next c.pipeline 0 (c.pipeline.shutDown c.link c.next).1
          (c.pipeline.shutDown c.link c.next).2.1 :=
        shutDown_ends c.link hc.distinct hduring.1 hduring.2 hc.plain
      refine ends_sound hc _ (c.next + 1) ?_ (by omega) (by omega) ?_
      · rw [hnew]
        exact hends
      · rw [hending]
        exact fun r h => by cases h
    · exact hc
  | world l => exact ⟨hc.balance, hc.distinct, hc.fresh, hc.sound, hc.plain, hc.during⟩

theorem after_sound (hc : c.Sound) (events : List Event) : (c.after events).Sound :=
  List.foldlRecOn events step hc fun _ h e _ => step_sound h e

-- What no step of a sound course ends does not end.
theorem after_keeps {P : Course → Prop} (hstep : ∀ d e, d.Sound → P d → P (d.step e))
    (hc : c.Sound) (h : P c) (events : List Event) :
    (c.after events).Sound ∧ P (c.after events) :=
  List.foldlRecOn (motive := fun d => d.Sound ∧ P d) events step ⟨hc, h⟩
    fun d hd e _ => ⟨step_sound hd.1 e, hstep d e hd.1 hd.2⟩

-- What was accepted, place by place.
theorem Sound.accounted (hc : c.Sound) :
    let p := c.pipeline
    let stats := p.record.stats
    stats.accepted = p.pending + p.waiting + p.queued + p.inFlight +
      stats.written + stats.dropped + stats.failed +
      (stats.lost + p.reported + p.unreported c.ending) := by
  have hbalance := hc.balance
  rw [held_activities] at hbalance
  unfold placed Stats.settled at hbalance
  dsimp only
  omega

theorem after_append (c : Course) (events more : List Event) :
    c.after (events ++ more) = (c.after events).after more :=
  List.foldl_append

end

-- A course that begins is sound.

private theorem ids_distinct (first workers : Nat) :
    ((List.range workers).map (first + ·) ++ [first + workers]).Nodup := by
  rw [List.nodup_append]
  refine ⟨List.Nodup.map (fun a b h => Nat.add_left_cancel h) List.nodup_range, by simp, ?_⟩
  intro a ha b hb
  obtain ⟨k, hk, rfl⟩ := List.mem_map.mp ha
  rw [List.mem_singleton.mp hb]
  have hlt := List.mem_range.mp hk
  omega

-- At first nothing is held, and the workers and the age timer are active.
theorem start_ok {config : Config} (hv : config.validate = .ok ()) (target : String)
    (now first : Nat) : ∃ p, Pipeline.start config target now first = .ok p ∧
      p.placed = 0 ∧ p.record.stats.accepted = 0 ∧ p.lost = .none ∧ p.hasSender = true ∧
      p.timer = some (first + config.workers) ∧
      p.workers = (List.range config.workers).map (first + ·) ∧
      p.activities = p.workers.map (fun id => (id, .working .new)) ++
        [(first + config.workers, .starting config.ageCheckInterval)] := by
  cases h : Pipeline.start config target now first with
  | error e =>
    unfold Pipeline.start at h
    rw [hv] at h
    cases h
  | ok p =>
    refine ⟨p, rfl, ?_⟩
    unfold Pipeline.start at h
    rw [hv] at h
    cases h
    exact ⟨rfl, rfl, rfl, rfl, rfl, rfl, rfl⟩

theorem begin_sound {config : Config} (hv : config.validate = .ok ()) (target : String) (l : Link)
    (first : Nat) : ∃ c, begin config target l first = .ok c ∧ c.Sound := by
  obtain ⟨p, hstart, hplaced, haccepted, hlost, hsender, htimer, hworkers, hactivities⟩ :=
    start_ok hv target l.now first
  have hkeys : p.activities.map Prod.fst =
      (List.range config.workers).map (first + ·) ++ [first + config.workers] := by
    rw [hactivities, hworkers]
    simp
  have hmem : ∀ e ∈ p.activities, (e.1 ∈ p.workers ∧ e.2 = .working .new) ∨
      (e.1 = first + config.workers ∧
        e.2 = .starting config.ageCheckInterval) := by
    intro e he
    rw [hactivities] at he
    rcases List.mem_append.mp he with he | he
    · obtain ⟨id, hid, rfl⟩ := List.mem_map.mp he
      exact .inl ⟨hid, rfl⟩
    · rw [List.mem_singleton.mp he]
      exact .inr ⟨rfl, rfl⟩
  have hheld : held p.activities = 0 := by
    refine List.sum_eq_zero_iff_forall_eq_nat.mpr fun n hn => ?_
    obtain ⟨e, he, rfl⟩ := List.mem_map.mp hn
    rcases hmem e he with ⟨_, h⟩ | ⟨_, h⟩ <;> rw [h] <;> rfl
  have hbegin : begin config target l first =
      .ok ⟨p, l, first + config.workers + 1, .notBegun⟩ := by
    unfold begin
    rw [hstart]
    rfl
  refine ⟨_, hbegin, ?_, ?_, ?_, ?_, ?_, ?_, ?_⟩
  · dsimp only
    rw [hheld, hplaced, haccepted]
    simp [unreported, hlost, Loss.none]
  · unfold Distinct
    rw [hkeys]
    exact ids_distinct first config.workers
  · intro e he
    have hid := List.mem_map_of_mem (f := Prod.fst) he
    rw [hkeys] at hid
    rcases List.mem_append.mp hid with hid | hid
    · obtain ⟨k, hk, heq⟩ := List.mem_map.mp hid
      have hlt := List.mem_range.mp hk
      dsimp only
      omega
    · have heq := List.mem_singleton.mp hid
      dsimp only
      omega
  · intro e he
    rcases hmem e he with ⟨_, h⟩ | ⟨_, h⟩ <;> rw [h] <;> trivial
  · dsimp only
    rw [hlost]
    exact plain_none
  · exact hsender
  · intro e he
    rcases hmem e he with ⟨hid, h⟩ | ⟨hid, h⟩
    · rw [h]
      exact hid
    · rw [h, hid, htimer]
      rfl

-- Every sample that was accepted is in one place, at every moment. When the shutdown has
-- returned and no client waits, it was written, refused, given up or lost.
theorem samples_conserved (config : Config) (hv : config.validate = .ok ()) (target : String)
    (l : Link) (first : Nat) :
    ∃ c, begin config target l first = .ok c ∧ ∀ events,
      let p := (c.after events).pipeline
      let ending := (c.after events).ending
      let stats := p.record.stats
      stats.accepted = p.pending + p.waiting + p.queued + p.inFlight +
        stats.written + stats.dropped + stats.failed +
        (stats.lost + p.reported + p.unreported ending) ∧
      ∀ r, ending = .returned r → (∀ e ∈ p.activities, e.2.role ≠ .client) →
        stats.accepted = stats.written + stats.dropped + stats.failed + stats.lost := by
  obtain ⟨c, hbegin, hc⟩ := begin_sound hv target l first
  refine ⟨c, hbegin, fun events => ?_⟩
  have hsound := after_sound hc events
  generalize c.after events = d at hsound ⊢
  have hbalance := hsound.balance
  rw [held_activities] at hbalance
  unfold placed Stats.settled at hbalance
  refine ⟨by omega, fun r hr hidle => ?_⟩
  have hover := hsound.during
  rw [hr] at hover hbalance
  have hnobody : d.pipeline.activities = [] := by
    refine List.eq_nil_iff_forall_not_mem.mpr fun e he => ?_
    have hallows := hover.staffed e he
    cases hrole : e.2.role with
    | client => exact hidle e he hrole
    | _ =>
      rw [hrole] at hallows
      cases hallows
  have hpending := hover.shut.empty
  simp only [waiting, inFlight, reported, hnobody, queued, hover.emptied.empty, unreported,
    List.map_nil, List.sum_nil] at hbalance
  omega

theorem samples_conserved_by_default :
    (default : Config).validate = .ok () ∧
    ∃ c, begin default "metrics" ⟨.empty, .manual 0, 0, ∅, [], 0, 0⟩ 0 = .ok c ∧ ∀ events,
      let p := (c.after events).pipeline
      let ending := (c.after events).ending
      let stats := p.record.stats
      stats.accepted = p.pending + p.waiting + p.queued + p.inFlight +
        stats.written + stats.dropped + stats.failed +
        (stats.lost + p.reported + p.unreported ending) ∧
      ∀ r, ending = .returned r → (∀ e ∈ p.activities, e.2.role ≠ .client) →
        stats.accepted = stats.written + stats.dropped + stats.failed + stats.lost :=
  have hv : (default : Config).validate = .ok () := by rfl
  ⟨hv, samples_conserved default hv "metrics" ⟨.empty, .manual 0, 0, ∅, [], 0, 0⟩ 0⟩

end Course

end MetricRelay.Write

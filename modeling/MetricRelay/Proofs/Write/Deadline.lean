import MetricRelay.Proofs.Write.Quiet

-- The deadline of a shutdown, when time passes only while nothing has anything to do. There is one
-- thing for which a shutdown waits past its deadline, an age timer that cannot queue its batch.

namespace MetricRelay.Write.Course

open Store (Link)
open Pipeline

-- No turn changes anything.
def Quiet (c : Course) : Prop :=
  ∀ id, c.pipeline.turn c.link id = (none, c.pipeline, c.link)

-- Time passes in quiet moments only, and not past the next timer.
def Allows (c : Course) : Event → Prop
  | .world l => l.now = c.link.now ∨ (c.Quiet ∧ c.link.now < l.now ∧
    ∀ e ∈ c.pipeline.timers, c.link.now < e.2.due → l.now ≤ e.2.due)
  | _ => True

def Timely : Course → List Event → Prop
  | _, [] => True
  | c, e :: rest => c.Allows e ∧ (c.step e).Timely rest

-- The shutdown waits for the age timer, and that waits for room in the queue.
def Detained (deadline id : Nat) (c : Course) : Prop :=
  ∃ timer, c.pipeline.find? id = some (.ending (.awaitingTimer deadline timer)) ∧
    ∃ period due batch, c.pipeline.find? timer = some (.tickFlushing period due batch) ∧
      c.pipeline.redeem timer batch = (.mustWait, c.pipeline)

section

variable {config : Config} {deadline post id : Nat} {c : Course} {e : Event}
  {events more : List Event}

theorem timely_append :
    c.Timely (events ++ more) ↔ c.Timely events ∧ (c.after events).Timely more := by
  induction events generalizing c with
  | nil => exact ⟨fun h => ⟨trivial, h⟩, fun h => h.2⟩
  | cons e rest ih =>
    change c.Allows e ∧ (c.step e).Timely (rest ++ more) ↔
      (c.Allows e ∧ (c.step e).Timely rest) ∧ ((c.step e).after rest).Timely more
    rw [ih, and_assoc]

-- Nothing but the world makes time pass.
theorem now_step (he : ∀ l, e ≠ .world l) : (c.step e).link.now = c.link.now := by
  cases e with
  | turn id => exact now_turn c.pipeline c.link id
  | shutDown =>
    unfold step
    dsimp only
    split
    · exact (shutDown_advances c.pipeline c.link c.next).now
    · rfl
  | world l => exact absurd rfl (he l)
  | _ => rfl

-- A shutdown that is under way has been so since it began.
theorem ending_of_step (hbegun : c.ending ≠ .notBegun)
    (h : (c.step e).ending = .underWay id) : c.ending = .underWay id := by
  cases e with
  | turn other =>
    change c.ending.after other (c.pipeline.turn c.link other).1 = .underWay id at h
    cases hending : c.ending with
    | notBegun => exact absurd hending hbegun
    | underWay shutdown =>
      rw [hending] at h
      unfold Ending.after at h
      split at h
      · rename_i heq _
        cases heq
        split at h
        · cases h
        · exact h
      · exact h
    | returned r =>
      rw [hending] at h
      cases h
  | shutDown =>
    unfold step at h
    dsimp only at h
    split at h
    · rename_i hending
      exact absurd hending hbegun
    · exact h
  | _ => exact h

theorem begun_after {ending : Ending} {other : Nat} {result : Option Result}
    (h : ending ≠ .notBegun) : ending.after other result ≠ .notBegun := by
  unfold Ending.after
  split
  · split
    · exact fun hreturned => by cases hreturned
    · exact h
  · exact h

theorem begun_of_shutDown (c : Course) : (c.step .shutDown).ending ≠ .notBegun := by
  unfold step
  dsimp only
  split
  · exact begun_after (by simp)
  · assumption

theorem begun_of_step (hbegun : c.ending ≠ .notBegun) : (c.step e).ending ≠ .notBegun := by
  cases e with
  | turn other => exact begun_after hbegun
  | shutDown => exact begun_of_shutDown c
  | _ => exact hbegun

theorem ending_of_after (events : List Event) (hbegun : c.ending ≠ .notBegun)
    (h : (c.after events).ending = .underWay id) : c.ending = .underWay id := by
  induction events generalizing c with
  | nil => exact h
  | cons e rest ih => exact ending_of_step hbegun (ih (begun_of_step hbegun) h)

-- Whoever has the receiving end is a worker, or the shutdown at its last stage.
theorem seated_cases {other : Nat} (hc : c.Sound) (hp : c.Paced config deadline post)
    (hending : c.ending = .underWay id) (hm : other ∈ c.pipeline.seats) :
    (∃ stage, c.pipeline.find? other = some (.working stage)) ∨
      (other = id ∧ ∃ report, c.pipeline.find? id = some (.ending (.collecting report))) := by
  obtain ⟨a, ha, hseated⟩ := (hp.seated.each other).iff.mp hm
  have hfind := find?_of_mem hc.distinct ha
  cases a with
  | working stage => exact .inl ⟨stage, hfind⟩
  | ending stage =>
    obtain ⟨hother, _⟩ := ending_of_role hc ha rfl
    rw [hending] at hother
    cases hother
    cases stage with
    | collecting report => exact .inr ⟨rfl, report, hfind⟩
    | _ => cases hseated
  | _ => cases hseated

-- When the workers were told to give up, they do so, however they stand at the receiving end.
theorem dismissed_moves {worker : Nat} {stage : WorkerStage} (hc : c.Sound)
    (hp : c.Paced config deadline post) (hending : c.ending = .underWay id) (hquiet : c.Quiet)
    (hdismissed : c.pipeline.dismissed = true)
    (hcollecting : ∀ report, c.pipeline.find? id ≠ some (.ending (.collecting report)))
    (hworker : c.pipeline.find? worker = some (.working stage)) : False := by
  obtain ⟨rfl, _⟩ := dismissed_stays hdismissed hworker (hquiet worker)
  have hm : worker ∈ c.pipeline.seats :=
    (hp.seated.mem_seats_iff (own_eq_of_find? hc.distinct hworker)).mpr rfl
  obtain ⟨first, hreceiver, hfirst⟩ := hp.seated.receiver_of_mem hm
  rcases seated_cases hc hp hending hfirst with ⟨stage, hstage⟩ | ⟨_, report, hreport⟩
  · exact (dismissed_stays hdismissed hstage (hquiet first)).2 hreceiver
  · exact hcollecting report hreport

-- At the last stage nobody else is left who could have the receiving end.
theorem receiver_of_collecting {report : Loss} (hc : c.Sound)
    (hp : c.Paced config deadline post) (hending : c.ending = .underWay id)
    (hat : c.pipeline.AtStage id (.collecting report)) : c.pipeline.receiver = some id := by
  have hm : id ∈ c.pipeline.seats := (hp.seated.mem_seats_iff hat.here).mpr rfl
  obtain ⟨first, hreceiver, hfirst⟩ := hp.seated.receiver_of_mem hm
  rcases seated_cases hc hp hending hfirst with ⟨stage, hstage⟩ | ⟨rfl, _⟩
  · cases hat.staffed _ (mem_of_find? hstage)
  · exact hreceiver

-- In a quiet moment of a shutdown either its deadline is still to come, with a timer set for it,
-- or the shutdown is detained.
theorem quiet_cases (hc : c.Sound) (hp : c.Paced config deadline post)
    (hending : c.ending = .underWay id) (hquiet : c.Quiet) :
    (∃ e ∈ c.pipeline.timers, e.2.due = deadline ∧ c.link.now < deadline) ∨
      c.Detained deadline id := by
  have hkeeping := hp.keeping
  have hduring := hc.during
  rw [hending] at hkeeping hduring
  obtain ⟨_, hstopped, stage, hown, hwithin⟩ := hkeeping
  obtain ⟨stage', hat⟩ := hduring
  obtain rfl : stage' = stage := by
    have hhere := hat.here
    rw [hown] at hhere
    simpa using hhere.symm
  have hmem := (mem_activities_iff hown _).mpr rfl
  have hfind := find?_of_mem hc.distinct hmem
  have hstays := hquiet id
  rw [turn_of_ending c.link hfind] at hstays
  have hheld : c.pipeline.HeldUp c.link id stage' := by
    rcases endOn_advances c.pipeline c.link id stage' with hadvances | ⟨_, hheld⟩
    · rw [hstays] at hadvances
      exact (hadvances.ne hfind).elim
    · exact hheld
  have htimer : ∀ limit ∈ (Activity.ending stage').timers, limit.due = deadline →
      c.link.now < limit.due →
      ∃ e ∈ c.pipeline.timers, e.2.due = deadline ∧ c.link.now < deadline :=
    fun limit hlimit hdue hahead =>
      ⟨(id, limit), List.mem_flatMap.mpr ⟨_, hmem, List.mem_map_of_mem hlimit⟩, hdue,
        hdue ▸ hahead⟩
  cases stage' with
  | awaitingTimer due timer =>
    obtain ⟨rfl, rfl⟩ := hwithin
    obtain ⟨⟨t, a⟩, ha, ht⟩ := List.any_eq_true.mp hheld
    obtain rfl : t = timer := by simpa using ht
    have hfound := find?_of_mem hc.distinct ha
    obtain ⟨period, next, batch, rfl, hredeem⟩ :=
      stopped_stays hstopped hfound ((hp.manned _ ha).1 rfl) (hquiet t)
    exact .inr ⟨t, hfind, period, next, batch, hfound, hredeem⟩
  | closing due batch limit => exact .inl (htimer limit (by simp [Activity.timers]) hwithin.2 hheld)
  | joining workers report limit =>
    exact .inl (htimer limit (by simp [Activity.timers]) hwithin.1 hheld)
  | dismissing workers report =>
    obtain ⟨hdismissed, hcrew, _⟩ := hwithin
    obtain ⟨worker, hworker, hactive⟩ := List.any_eq_true.mp hheld
    obtain ⟨⟨w, a⟩, ha, hw⟩ := List.any_eq_true.mp hactive
    obtain rfl : w = worker := by simpa using hw
    have hrole := (hp.manned _ ha).2 (hcrew w hworker)
    cases a with
    | working stage =>
      refine (dismissed_moves hc hp hending hquiet hdismissed (fun report hcollecting => ?_)
        (find?_of_mem hc.distinct ha)).elim
      rw [hfind] at hcollecting
      cases hcollecting
    | _ => cases hrole
  | collecting report => exact absurd (receiver_of_collecting hc hp hending hat) hheld

-- A shutdown that outlasts its deadline is detained at the moment at which time passes it.
theorem detained_of_late (hc : c.Sound) (hp : c.Paced config deadline post)
    (hbegun : c.ending ≠ .notBegun) (hnow : c.link.now ≤ deadline) (htimely : c.Timely events)
    (hending : (c.after events).ending = .underWay id)
    (hlate : deadline < (c.after events).link.now) :
    ∃ early l late, events = early ++ .world l :: late ∧
      (c.after early).link.now ≤ deadline ∧ deadline < l.now ∧
      (c.after early).Detained deadline id := by
  induction events generalizing c with
  | nil => exact absurd hnow (Nat.not_le.mpr hlate)
  | cons e rest ih =>
    obtain ⟨hallows, hrest⟩ := htimely
    by_cases hstep : (c.step e).link.now ≤ deadline
    · obtain ⟨early, l, late, rfl, h⟩ := ih (step_sound hc e)
        (step_paced hc hp e fun _ hnot => absurd hnot hbegun) (begun_of_step hbegun) hstep hrest
        hending hlate
      exact ⟨e :: early, l, late, rfl, h⟩
    · have hunderWay := ending_of_after (e :: rest) hbegun hending
      have hworld : ∃ l, e = .world l := by
        by_contra hnone
        have hsame : (c.step e).link.now = c.link.now := now_step fun l hl => hnone ⟨l, hl⟩
        omega
      obtain ⟨l, rfl⟩ := hworld
      have hpast : deadline < l.now := Nat.not_le.mp hstep
      refine ⟨[], l, rest, rfl, hnow, hpast, ?_⟩
      rcases hallows with hsame | ⟨hquiet, _, htimers⟩
      · omega
      · rcases quiet_cases hc hp hunderWay hquiet with ⟨t, ht, hdue, hahead⟩ | hdetained
        · have hle := htimers t ht (hdue ▸ hahead)
          omega
        · exact hdetained

end

-- A shutdown that is under way past its deadline was held up by the age timer alone: when time
-- passed the deadline it waited for the timer, and the timer for room in the queue.
theorem late_shutdown_detained (config : Config) (hv : config.validate = .ok ())
    (target : String) (l : Link) (first : Nat) :
    ∃ c, begin config target l first = .ok c ∧ ∀ before after id,
      c.Timely (before ++ .shutDown :: after) → (c.after before).ending = .notBegun →
      let deadline := (c.after before).link.now + config.drainTimeout.wholeMillis
      let d := c.after (before ++ .shutDown :: after)
      d.ending = .underWay id → deadline < d.link.now →
        ∃ early l' late, after = early ++ .world l' :: late ∧
          let e := c.after (before ++ .shutDown :: early)
          e.link.now ≤ deadline ∧ deadline < l'.now ∧ e.Detained deadline id := by
  obtain ⟨c, hbegin, hc, _, _, hpaced⟩ := begin_paced hv target l first
  refine ⟨c, hbegin, fun before after id htimely hnotBegun => ?_⟩
  obtain ⟨hsound, _, hkept⟩ := after_paced hc ⟨0, hpaced 0⟩ before
  have hsplit : ∀ events, c.after (before ++ .shutDown :: events) =
      ((c.after before).step .shutDown).after events :=
    fun events => after_append c before (.shutDown :: events)
  obtain ⟨_, _, hrest⟩ := timely_append.mp htimely
  generalize c.after before = d at hsound hkept hnotBegun hsplit hrest ⊢
  intro deadline
  have hnow : (d.step .shutDown).link.now ≤ deadline := by
    rw [now_step (by simp)]
    exact Nat.le_add_right _ _
  have hpaced' := step_paced hsound (hkept.unbegun hnotBegun deadline) .shutDown fun _ _ => rfl
  simp only [hsplit]
  exact detained_of_late (step_sound hsound _) hpaced' (begun_of_shutDown d) hnow hrest

-- Whether all surely wait until some later moment.
def waitsUntil (c : Course) (due : Nat) : Bool :=
  (c.pipeline.activities.map Prod.fst).Nodup &&
    (c.pipeline.activities.all fun e => c.pipeline.waits c.link e.1 e.2) &&
    c.link.now < due && c.pipeline.timers.all fun e => e.2.due ≤ c.link.now || due ≤ e.2.due

theorem allows_of_waitsUntil {c : Course} {due : Nat} (h : c.waitsUntil due = true) :
    c.Allows (.world { c.link with now := due }) := by
  unfold waitsUntil at h
  simp only [Bool.and_eq_true, decide_eq_true_eq, List.all_eq_true, Bool.or_eq_true] at h
  obtain ⟨⟨⟨hd, hwaits⟩, hnow⟩, htimers⟩ := h
  refine .inr ⟨fun id => ?_, hnow, fun e he hahead => ?_⟩
  · cases hfind : c.pipeline.find? id with
    | none => exact turn_of_none c.link hfind
    | some a => exact turn_of_waits hd hfind (hwaits _ (mem_of_find? hfind))
  · rcases htimers e he with hover | hlater
    · omega
    · exact hlater

-- A single place in the queue, batches of two samples, and one second for everything.
private def crowded : Config :=
  { (default : Config) with
    batch := ⟨none, some 2, some (.ofSeconds 1)⟩
    queueCapacity := 1
    drainTimeout := .ofSeconds 1 }

-- The store takes a minute for each bulk request.
private def sluggish : Link :=
  let faults := { Store.Faults.none with latency := 60000 }
  ⟨{ Store.empty with faults := faults }, .manual 0, 0, ∅, [], 0, 0⟩

private def load : Sample := ⟨"load", ∅, 0, .zero false, by decide⟩

-- One batch is with the worker, one fills the queue, and the age timer waits for its tick.
private def congestion : List Event :=
  [.add load, .add load] ++ .turn 0 :: [.add load, .add load, .add load, .turn 1]

-- When the tick comes there is no room for the open batch, and the shutdown, called in that very
-- moment, waits for the timer until the worker is done.
theorem deadline_missed :
    ∃ c, begin crowded "metrics" sluggish 0 = .ok c ∧ ∃ before after id,
      c.Timely (before ++ .shutDown :: after) ∧ (c.after before).ending = .notBegun ∧
      let d := c.after (before ++ .shutDown :: after)
      d.ending = .underWay id ∧
        (c.after before).link.now + crowded.drainTimeout.wholeMillis < d.link.now := by
  refine ⟨_, rfl, ?_⟩
  generalize hc : Course.mk _ _ _ _ = c
  generalize hd : c.after [.add load, .add load] = d
  have hworker : d.pipeline.isNew 0 = true := by
    subst hd hc
    decide +kernel
  generalize he : d.step (.turn 0) = e
  generalize hf : e.after [.add load, .add load, .add load, .turn 1] = f
  generalize hg : f.step (.world { f.link with now := 1000 }) = g
  generalize hh : (g.step (.turn 1)).step .shutDown = h
  have hcongested : c.after congestion = f := by
    unfold congestion
    rw [after_append, hd, ← hf, ← he]
    rfl
  have hbefore : c.after (congestion ++ [.world { f.link with now := 1000 }, .turn 1]) =
      g.step (.turn 1) := by
    rw [after_append, hcongested, ← hg]
    rfl
  -- the worker's recursion is opened by hand, everything else is evaluated
  unfold step at he
  dsimp only at he
  rw [turn_of_isNew d.link hworker, workFuel, work] at he
  unfold receive at he
  have hfirst : f.waitsUntil 1000 = true := by
    subst hf he hd hc
    decide +kernel
  obtain ⟨hnotBegun, hcalled⟩ : (g.step (.turn 1)).ending = .notBegun ∧
      (g.step (.turn 1)).link.now = 1000 := by
    subst hg hf he hd hc
    decide +kernel
  obtain ⟨hsecond, hending⟩ : h.waitsUntil 2001 = true ∧ h.ending = .underWay 7 := by
    subst hh hg hf he hd hc
    decide +kernel
  have hafter : c.after (congestion ++ [.world { f.link with now := 1000 }, .turn 1] ++
      [.shutDown, .world { h.link with now := 2001 }]) =
      h.step (.world { h.link with now := 2001 }) := by
    rw [after_append, hbefore, ← hh]
    rfl
  refine ⟨congestion ++ [.world { f.link with now := 1000 }, .turn 1],
    [.world { h.link with now := 2001 }], 7, ?_, ?_, ?_⟩
  · refine timely_append.mpr ⟨timely_append.mpr ⟨?_, ?_⟩, ?_⟩
    · exact ⟨trivial, trivial, trivial, trivial, trivial, trivial, trivial, trivial⟩
    · rw [hcongested]
      exact ⟨allows_of_waitsUntil hfirst, trivial, trivial⟩
    · rw [hbefore]
      refine ⟨trivial, ?_, trivial⟩
      rw [hh]
      exact allows_of_waitsUntil hsecond
  · rw [hbefore]
    exact hnotBegun
  · rw [hafter, hbefore, hcalled]
    have hlate : 1000 + crowded.drainTimeout.wholeMillis < 2001 := by decide
    exact ⟨hending, hlate⟩

theorem late_shutdown_detained_of_crowded :
    crowded.validate = .ok () ∧ ∃ c, begin crowded "metrics" sluggish 0 = .ok c ∧
      ∀ before after id,
      c.Timely (before ++ .shutDown :: after) → (c.after before).ending = .notBegun →
      let deadline := (c.after before).link.now + crowded.drainTimeout.wholeMillis
      let d := c.after (before ++ .shutDown :: after)
      d.ending = .underWay id → deadline < d.link.now →
        ∃ early l' late, after = early ++ .world l' :: late ∧
          let e := c.after (before ++ .shutDown :: early)
          e.link.now ≤ deadline ∧ deadline < l'.now ∧ e.Detained deadline id :=
  have hv : crowded.validate = .ok () := by rfl
  ⟨hv, late_shutdown_detained crowded hv "metrics" sluggish 0⟩

end MetricRelay.Write.Course

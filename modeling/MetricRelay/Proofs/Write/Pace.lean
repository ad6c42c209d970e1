import MetricRelay.Proofs.Write.Receiver

-- How a shutdown goes on. The deadline it began with is the one it keeps to at every stage, and
-- when it returns the age timer and the workers are gone for good.

namespace MetricRelay.Write

open Store (Link)

namespace Pipeline

-- What the shutdown knows at a stage. The timer bears the number `post`, the workers smaller ones.
def Within (deadline post : Nat) (p : Pipeline) : ShutdownStage → Prop
  | .awaitingTimer due timer => due = deadline ∧ timer = post
  | .closing due _ limit => due = deadline ∧ limit.due = deadline
  | .joining workers _ limit =>
    limit.due = deadline ∧ (∀ id ∈ workers, id < post) ∧ p.workers = []
  | .dismissing workers _ => p.dismissed = true ∧ (∀ id ∈ workers, id < post) ∧ p.workers = []
  | .collecting _ => p.workers = []

-- What a turn of the shutdown makes of a pipeline, apart from its samples.
structure Paces (deadline post id : Nat) (p : Pipeline) (result : Option Result) (q : Pipeline) :
    Prop where
  config : q.config = p.config
  timer : q.timer = p.timer
  timerStopped : p.timerStopped = true → q.timerStopped = true
  workers : ∀ worker ∈ q.workers, worker ∈ p.workers
  seated : q.Seated
  goesOn : result = none →
    ∃ stage, q.own id = [(id, .ending stage)] ∧ q.Within deadline post stage
  returns : result.isSome = true → q.workers = []

-- What a pipeline keeps while the shutdown gets ready for its next stage.
structure Readies (id : Nat) (p q : Pipeline) : Prop where
  config : q.config = p.config
  timer : q.timer = p.timer
  timerStopped : p.timerStopped = true → q.timerStopped = true
  workers : ∀ worker ∈ q.workers, worker ∈ p.workers
  others : q.others id = p.others id

section

variable {deadline post id : Nat} {p q r : Pipeline} {result : Option Result} {report : Loss}
  {workers : List Nat}

theorem Readies.paces (h : Readies id p q) (h' : Paces deadline post id q result r) :
    Paces deadline post id p result r where
  config := h'.config.trans h.config
  timer := h'.timer.trans h.timer
  timerStopped ht := h'.timerStopped (h.timerStopped ht)
  workers worker hw := h.workers worker (h'.workers worker hw)
  seated := h'.seated
  goesOn := h'.goesOn
  returns := h'.returns

theorem Heeds.readies {n m : Nat} (h : Heeds p q) (h' : Carries id p n q m) :
    Readies id p q where
  config := h.config
  timer := h'.timer
  timerStopped ht := h.timerStopped.trans ht
  workers _ hw := h'.workers ▸ hw
  others := h'.others

theorem set_paces {stage : ShutdownStage} (hd : p.Distinct) (h : SeatedBut id p)
    (hseat : id ∈ p.seats ↔ (Activity.ending stage).isSeated = true)
    (hwithin : p.Within deadline post stage) :
    Paces deadline post id p none (p.set id (.ending stage)) := by
  have hset := aside_set p id (.ending stage)
  have hcarries := carries_set id p 0 (.ending stage)
  have hreseats := set_reseats hd h hseat fun ha => by cases ha
  refine ⟨hset.config, hset.timer, fun ht => hset.timerStopped.trans ht,
    fun worker hw => hcarries.workers ▸ hw, hreseats.seated,
    fun _ => ⟨stage, own_set hd id _, ?_⟩, fun h => (by cases h)⟩
  cases stage <;> simpa [Within, hset.dismissed, hcarries.workers] using hwithin

-- The last stage.

theorem conclude_paces (h : SeatedBut id p) (hn : id ∉ p.seats) (hw : p.workers = []) :
    Paces deadline post id p (some (p.conclude id report).1) (p.conclude id report).2 := by
  have hrecord : ∀ record : Record,
      Paces deadline post id p (some (p.conclude id report).1)
        { p.finish id with record := record } := by
    intro record
    have hbut : SeatedBut id { p.finish id with record := record } :=
      h.congr rfl rfl (others_remove p id)
    exact ⟨rfl, rfl, fun ht => ht, fun worker hworker => hworker,
      hbut.seated (seat_of_own_nil (own_finish p id) hn), fun h => (by cases h), fun _ => hw⟩
  unfold conclude at hrecord ⊢
  dsimp only at hrecord ⊢
  split
  · rename_i hnone
    rw [if_pos hnone] at hrecord
    exact hrecord _
  · rename_i hsome
    rw [if_neg hsome] at hrecord
    exact hrecord _

theorem collect_paces (h : SeatedBut id p) (hreceiver : p.receiver = some id)
    (hw : p.workers = []) :
    Paces deadline post id p (some (p.collect id report).1) (p.collect id report).2 := by
  unfold collect
  dsimp only [Intake.close, Intake.clear]
  rw [foldl_addLost]
  generalize hcleared : Pipeline.wake _ _ = q
  have hready : Readies id p q.releaseReceiver := by
    have hrelease := (heeds_releaseReceiver q).readies (carries_releaseReceiver id q 0)
    subst hcleared
    exact ⟨hrelease.config, hrelease.timer, hrelease.timerStopped, hrelease.workers,
      hrelease.others⟩
  have hbut : SeatedBut id q := by
    subst hcleared
    exact h.congr rfl rfl rfl
  have hhas : q.receiver = some id := by
    subst hcleared
    exact hreceiver
  obtain ⟨hreleased, hn⟩ := hbut.release hhas
  refine hready.paces (conclude_paces hreleased hn ?_)
  rw [(carries_releaseReceiver id q 0).workers]
  subst hcleared
  exact hw

theorem beginCollect_paces (l : Link) (hd : p.Distinct) (h : SeatedBut id p)
    (hn : id ∉ p.seats) (hw : p.workers = []) :
    Paces deadline post id p (p.beginCollect l id report).1 (p.beginCollect l id report).2.1 := by
  have htaken := carries_takeReceiver id p 0
  unfold beginCollect
  split
  · rename_i q htake
    rw [htake] at htaken
    obtain ⟨hbut, _, hreceiver⟩ := h.take hn htake
    exact ((heeds_takeReceiver htake).readies htaken).paces
      (collect_paces hbut (hreceiver rfl) (htaken.workers.trans hw))
  · rename_i q htake
    rw [htake] at htaken
    obtain ⟨hbut, hm, _⟩ := h.take hn htake
    exact ((heeds_takeReceiver htake).readies htaken).paces (set_paces (htaken.distinct hd) hbut
      ⟨fun _ => rfl, fun _ => hm⟩ (htaken.workers.trans hw))

theorem beginDismiss_paces (l : Link) (hd : p.Distinct) (h : SeatedBut id p)
    (hn : id ∉ p.seats) (hcrew : ∀ worker ∈ workers, worker < post) (hw : p.workers = []) :
    Paces deadline post id p (p.beginDismiss l id workers report).1
      (p.beginDismiss l id workers report).2.1 := by
  have hready : Readies id p p.dismiss := ⟨rfl, rfl, fun ht => ht, fun _ hworker => hworker, rfl⟩
  have hbut : SeatedBut id p.dismiss := h.congr rfl rfl rfl
  refine hready.paces ?_
  unfold beginDismiss
  dsimp only
  split
  · exact set_paces hd hbut ⟨fun hm => absurd hm hn, fun hm => (by cases hm)⟩ ⟨rfl, hcrew, hw⟩
  · exact beginCollect_paces l hd hbut hn hw

-- Before the losses are counted.

theorem drain_paces (l : Link) (hd : p.Distinct) (h : SeatedBut id p) (hn : id ∉ p.seats)
    (hcrew : ∀ worker ∈ p.workers, worker < post) :
    Paces deadline post id p (p.drain l id deadline report).1
      (p.drain l id deadline report).2.1 := by
  have hready : Readies id p { p with workers := [] } :=
    ⟨rfl, rfl, fun ht => ht, fun _ hworker => (by cases hworker), rfl⟩
  have hbut : SeatedBut id { p with workers := [] } := h.congr rfl rfl rfl
  refine hready.paces ?_
  unfold drain
  dsimp only
  split
  · exact beginCollect_paces l hd hbut hn rfl
  · split
    · exact beginDismiss_paces _ hd hbut hn hcrew rfl
    · exact set_paces hd hbut ⟨fun hm => absurd hm hn, fun hm => (by cases hm)⟩ ⟨rfl, hcrew, rfl⟩

theorem aside_endIntake {now : Nat} {last : Option Batch} (h : p.endIntake now = (last, q)) :
    Aside p q := by
  unfold endIntake at h
  simp only [Prod.mk.injEq] at h
  obtain ⟨hlast, rfl⟩ := h
  have hclosed : Aside p { p with hasSender := false, closed := true, batch :=
      if p.batch.isEmpty then p.batch else .empty now } := ⟨⟨rfl, rfl, rfl⟩, rfl, rfl, rfl⟩
  rw [hlast]
  split
  · exact hclosed.trans (aside_senderGone _)
  · exact hclosed

theorem aside_withdraw (p : Pipeline) (id : Nat) : Aside p (p.withdraw id) :=
  ⟨⟨rfl, rfl, rfl⟩, rfl, rfl, rfl⟩

-- Closing the intake either is done or waits until the deadline.
theorem close_aside (p : Pipeline) (l : Link) (id deadline : Nat) :
    Aside p (p.close l id deadline).2.1 ∧ ((p.close l id deadline).1 = none →
      ∃ batch limit, (p.close l id deadline).2.1.find? id = some (.closing batch limit) ∧
        limit.due = deadline) := by
  unfold close
  split
  · rename_i q hend
    exact ⟨aside_endIntake hend, fun h => (by cases h)⟩
  · rename_i batch q hend
    have hended := aside_endIntake hend
    split
    · rename_i r hflush
      exact ⟨(hended.trans (aside_flush hflush)).trans (aside_senderGone r), fun h => (by cases h)⟩
    · rename_i r hflush
      exact ⟨(hended.trans (aside_flush hflush)).trans (aside_senderGone r), fun h => (by cases h)⟩
    · rename_i r hflush
      have hflushed := hended.trans (aside_flush hflush)
      dsimp only
      split
      · have hgone := (aside_withdraw r id).trans (aside_senderGone _)
        exact ⟨hflushed.trans hgone, fun h => (by cases h)⟩
      · exact ⟨hflushed.trans (aside_set r id _), fun _ => ⟨batch, _, find?_set r id _, rfl⟩⟩

theorem Closes.others (h : Closes id p result q) :
    q.others id = p.others id ∧ q.workers = p.workers ∧ (p.Distinct → q.Distinct) := by
  cases h with
  | done h _ => exact ⟨h.moves.others, h.workers, h.moves.distinct⟩
  | late h => exact ⟨h.moves.others, h.workers, h.moves.distinct⟩
  | @waits q _ batch limit h hr =>
    have hset := carries_set id q 0 (.closing batch limit)
    subst hr
    exact ⟨hset.others.trans h.moves.others, hset.workers.trans h.workers,
      fun hd => hset.distinct (h.moves.distinct hd)⟩

theorem beginClose_paces (l : Link) (hd : p.Distinct) (hsender : p.hasSender = true)
    (h : SeatedBut id p) (hn : id ∉ p.seats) (hcrew : ∀ worker ∈ p.workers, worker < post) :
    Paces deadline post id p (p.beginClose l id deadline).1
      (p.beginClose l id deadline).2.1 := by
  obtain ⟨haside, hwaits⟩ := close_aside p l id deadline
  have hcloses : Closes id p (p.close l id deadline).1 (p.close l id deadline).2.1 :=
    close_closes l deadline hsender
  obtain ⟨hothers, hworkers, hdistinct⟩ := hcloses.others
  have hready : Readies id p (p.close l id deadline).2.1 :=
    ⟨haside.config, haside.timer, fun ht => haside.timerStopped.trans ht,
      fun _ hw => hworkers ▸ hw, hothers⟩
  unfold beginClose
  generalize p.close l id deadline = closing at haside hwaits hothers hworkers hdistinct hready ⊢
  obtain ⟨result, r, l'⟩ := closing
  dsimp only at haside hwaits hothers hworkers hdistinct hready
  have hbut : SeatedBut id r := h.congr haside.receiver haside.line hothers
  have hseats : id ∉ r.seats := by
    unfold seats
    rw [haside.receiver, haside.line]
    exact hn
  have hcrew' : ∀ worker ∈ r.workers, worker < post := hworkers ▸ hcrew
  split
  · rename_i heq
    cases heq
    exact hready.paces (drain_paces l' (hdistinct hd) hbut hseats hcrew')
  · rename_i heq
    cases heq
    exact hready.paces (drain_paces l' (hdistinct hd) hbut hseats hcrew')
  · rename_i heq
    cases heq
    obtain ⟨batch, limit, hfind, hlimit⟩ := hwaits rfl
    rw [hfind]
    exact hready.paces (set_paces (hdistinct hd) hbut
      ⟨fun hm => absurd hm hseats, fun hm => (by cases hm)⟩ ⟨rfl, hlimit⟩)

-- The first turn, which takes charge of the age timer.
theorem shutDown_paces (l : Link) (hd : p.Distinct) (hsender : p.hasSender = true)
    (hp : p.Seated) (hn : id ∉ p.seats) (htimer : p.timer = some post)
    (hcrew : ∀ worker ∈ p.workers, worker < post) :
    (p.shutDown l id).2.1.timerStopped = true ∧
      Paces (l.now + p.config.drainTimeout.wholeMillis) post id { p with timer := none }
        (p.shutDown l id).1 (p.shutDown l id).2.1 := by
  have htimer' : p.stopTimer.timer = some post := htimer
  have hready : Readies id { p with timer := none } { p.stopTimer with timer := none } :=
    ⟨rfl, rfl, fun _ => rfl, fun _ hworker => hworker, rfl⟩
  have hbut : SeatedBut id { p.stopTimer with timer := none } := (hp.but id).congr rfl rfl rfl
  have hpaces : Paces (l.now + p.config.drainTimeout.wholeMillis) post id
      { p.stopTimer with timer := none } (p.shutDown l id).1 (p.shutDown l id).2.1 := by
    unfold shutDown
    dsimp only
    rw [htimer']
    dsimp only
    split
    · exact set_paces hd hbut ⟨fun hm => absurd hm hn, fun hm => (by cases hm)⟩ ⟨rfl, rfl⟩
    · exact beginClose_paces l hd hsender hbut hn hcrew
  exact ⟨hpaces.timerStopped rfl, hready.paces hpaces⟩

-- A shutdown that cannot go on.
theorem stay_paces {stage : ShutdownStage} (hp : p.Seated)
    (hown : p.own id = [(id, .ending stage)]) (hwithin : p.Within deadline post stage) :
    Paces deadline post id p none p :=
  ⟨rfl, rfl, fun ht => ht, fun _ hworker => hworker, hp, fun _ => ⟨stage, hown, hwithin⟩,
    fun h => (by cases h)⟩

theorem endOn_paces {stage : ShutdownStage} (l : Link) (hd : p.Distinct) (hp : p.Seated)
    (hat : p.AtStage id stage) (hcrew : ∀ worker ∈ p.workers, worker < post)
    (hwithin : p.Within deadline post stage) :
    Paces deadline post id p (p.endOn l id stage).1 (p.endOn l id stage).2.1 := by
  have hstay := stay_paces hp hat.here hwithin
  have hseat := hp.mem_seats_iff hat.here
  unfold endOn
  cases stage with
  | awaitingTimer due timer =>
    obtain ⟨rfl, _⟩ := hwithin
    dsimp only
    split
    · exact hstay
    · exact beginClose_paces l hd hat.door (hp.but id) (fun hm => by cases hseat.mp hm) hcrew
  | closing due batch limit =>
    obtain ⟨rfl, _⟩ := hwithin
    have hgone : ∀ (q : Pipeline) (n m : Nat) (report : Loss), Aside p q → Carries id p n q m →
        Paces due post id p ((q.remove id).senderGone.drain l id due report).1
          ((q.remove id).senderGone.drain l id due report).2.1 := by
      intro q n m report haside hcarries
      have hleft := (haside.trans (aside_remove q id)).trans (aside_senderGone _)
      have hmoved := (hcarries.trans (carries_remove id q m)).trans (carries_senderGone id _ m)
      refine (hleft.toHeeds.readies hmoved).paces
        (drain_paces l (hmoved.distinct hd) ?_ (fun hm => ?_) (hmoved.workers ▸ hcrew))
      · exact (hp.but id).congr hleft.receiver hleft.line hmoved.others
      · unfold seats at hm
        rw [hleft.receiver, hleft.line] at hm
        cases hseat.mp hm
    dsimp only
    split
    · rename_i q hredeem
      exact hgone q _ _ .none (aside_redeem hredeem) (redeem_carries hredeem)
    · rename_i q hredeem
      exact hgone q _ _ .none (aside_redeem hredeem) (redeem_carries hredeem)
    · rename_i q hredeem
      split
      · exact hgone _ _ _ _ ((aside_redeem hredeem).trans (aside_withdraw q id))
          ((redeem_carries hredeem).trans (withdraw_carries _))
      · rw [redeem_mustWait hredeem]
        exact hstay
  | joining workers report limit =>
    obtain ⟨_, hcrew', hw⟩ := hwithin
    have hn : id ∉ p.seats := fun hm => by cases hseat.mp hm
    dsimp only
    split
    · exact beginCollect_paces l hd (hp.but id) hn hw
    · split
      · exact beginDismiss_paces l hd (hp.but id) hn hcrew' hw
      · exact hstay
  | dismissing workers report =>
    obtain ⟨_, _, hw⟩ := hwithin
    dsimp only
    split
    · exact beginCollect_paces l hd (hp.but id) (fun hm => by cases hseat.mp hm) hw
    · exact hstay
  | collecting report =>
    dsimp only
    split
    · rename_i hreceiver
      exact collect_paces (hp.but id) hreceiver hwithin
    · exact hstay

theorem Ends.others {n : Nat} (h : Ends id p n result q) : q.others id = p.others id := by
  cases result with
  | none => exact (h.goesOn rfl).1.others
  | some r => exact (h.returns rfl).1.others

end

-- What is known of a pipeline while its shutdown has got so far.
def Keeping (deadline post : Nat) (p : Pipeline) : Ending → Prop
  | .notBegun => p.timer = some post
  | .underWay id => p.timer = none ∧ p.timerStopped = true ∧
    ∃ stage, p.own id = [(id, .ending stage)] ∧ p.Within deadline post stage
  | .returned _ => p.timer = none ∧ p.workers = []

end Pipeline

namespace Course

open Pipeline

-- A course whose shutdown, once it has begun, is to end at `deadline`.
structure Paced (config : Config) (deadline post : Nat) (c : Course) : Prop where
  config : c.pipeline.config = config
  seated : c.pipeline.Seated
  crew : ∀ worker ∈ c.pipeline.workers, worker < post
  -- numbers tell the timer and the workers from the others
  manned : ∀ e ∈ c.pipeline.activities,
    (e.1 = post → e.2.role = .timer) ∧ (e.1 < post → e.2.role = .worker)
  before : post < c.next
  keeping : c.pipeline.Keeping deadline post c.ending

section

variable {config : Config} {deadline post id : Nat} {c : Course} {role : Role} {q : Pipeline}
  {n : Nat}

theorem manned_of_others (h : c.Paced config deadline post)
    (ho : q.others id = c.pipeline.others id)
    (hown : ∀ e ∈ q.own id, (id = post → e.2.role = .timer) ∧ (id < post → e.2.role = .worker)) :
    ∀ e ∈ q.activities,
      (e.1 = post → e.2.role = .timer) ∧ (e.1 < post → e.2.role = .worker) := by
  intro e he
  by_cases hid : e.1 = id
  · rw [hid]
    exact hown e (mem_own_iff.mpr ⟨he, hid⟩)
  · have hother := mem_others_iff.mpr ⟨he, hid⟩
    rw [ho] at hother
    exact h.manned e (mem_others_iff.mp hother).1

-- A turn of anybody but the shutdown.
theorem turns_paced (h : c.Paced config deadline post) (l : Link) (next : Nat)
    (hmoves : Turns id role c.pipeline n q) (hseats : Reseats c.pipeline q)
    (hrole : (id = post → role = .timer) ∧ (id < post → role = .worker))
    (hnext : c.next ≤ next)
    (hother : ∀ other, c.ending = .underWay other → other ≠ id) :
    Paced config deadline post ⟨q, l, next, c.ending⟩ := by
  refine ⟨hseats.config.trans h.config, hseats.seated, hmoves.workers ▸ h.crew,
    manned_of_others h hmoves.moves.others fun e he => (hmoves.own e he).1 ▸ hrole,
    Nat.lt_of_lt_of_le h.before hnext, ?_⟩
  have hkeeping := h.keeping
  dsimp only
  cases hending : c.ending with
  | notBegun =>
    rw [hending] at hkeeping
    exact hmoves.timer.trans hkeeping
  | underWay shutdown =>
    rw [hending] at hkeeping
    obtain ⟨htimer, hstopped, stage, hown, hwithin⟩ := hkeeping
    refine ⟨hmoves.timer.trans htimer, hseats.timerStopped.trans hstopped, stage, ?_, ?_⟩
    · rw [own_eq_of_others hmoves.moves.others (hother shutdown hending)]
      exact hown
    · cases stage <;> simpa [Within, hmoves.workers, hseats.dismissed] using hwithin
  | returned r =>
    rw [hending] at hkeeping
    exact ⟨hmoves.timer.trans hkeeping.1, hmoves.workers.trans hkeeping.2⟩

-- A turn of the shutdown.
theorem paces_paced {p : Pipeline} {result : Option Result} (h : c.Paced config deadline post)
    (l : Link) (next : Nat) (hpaces : Paces deadline post id p result q)
    (hconfig : p.config = config) (htimer : p.timer = none) (hstopped : q.timerStopped = true)
    (hcrew : ∀ worker ∈ p.workers, worker < post) (ho : q.others id = c.pipeline.others id)
    (hid : post < id) (hnext : c.next ≤ next) :
    Paced config deadline post ⟨q, l, next, (Ending.underWay id).after id result⟩ := by
  refine ⟨hpaces.config.trans hconfig, hpaces.seated,
    fun worker hw => hcrew worker (hpaces.workers worker hw),
    manned_of_others h ho fun e he => ⟨fun heq => ?_, fun hlt => ?_⟩,
    Nat.lt_of_lt_of_le h.before hnext, ?_⟩
  · omega
  · omega
  · cases result with
    | none =>
      exact ⟨hpaces.timer.trans htimer, hstopped, hpaces.goesOn rfl⟩
    | some r =>
      have hreturned : (Ending.underWay id).after id (some r) = .returned r := if_pos rfl
      rw [hreturned]
      exact ⟨hpaces.timer.trans htimer, hpaces.returns rfl⟩

theorem call_paced (hc : c.Sound) (h : c.Paced config deadline post)
    (hturns : Turns c.next .client c.pipeline 0 q) (haside : Aside c.pipeline q) :
    Paced config deadline post ⟨q, c.link, c.next + 1, c.ending⟩ := by
  have hnew := own_next hc
  have hseated : q.Seated := by
    refine haside.seated h.seated hturns.moves.others (h.seated.not_mem_seats hnew) ?_
    exact fun e he => .inl (hturns.own e he).1
  have hbefore := h.before
  refine turns_paced h c.link (c.next + 1) hturns ⟨haside.toHeeds, hseated⟩ ⟨?_, ?_⟩ (by omega) ?_
  · omega
  · omega
  · intro other hending heq
    have hkeeping := h.keeping
    rw [hending] at hkeeping
    obtain ⟨_, _, stage, hown, _⟩ := hkeeping
    rw [heq, hnew] at hown
    cases hown

theorem turn_paced (hc : c.Sound) (h : c.Paced config deadline post) (id : Nat) :
    (c.step (.turn id)).Paced config deadline post := by
  change Paced config deadline post ⟨(c.pipeline.turn c.link id).2.1,
    (c.pipeline.turn c.link id).2.2, c.next, c.ending.after id (c.pipeline.turn c.link id).1⟩
  cases hfind : c.pipeline.find? id with
  | none =>
    have hafter : c.ending.after id none = c.ending := by
      cases c.ending <;> rfl
    rw [turn_of_none c.link hfind, hafter]
    exact h
  | some a =>
    have ha := mem_of_find? hfind
    have hown := own_eq_of_find? hc.distinct hfind
    by_cases hr : a.role = .shutdown
    · obtain ⟨hending, stage, rfl, hat⟩ := ending_of_role hc ha hr
      have hkeeping := h.keeping
      rw [hending] at hkeeping
      obtain ⟨htimer, hstopped, stage', hown', hwithin⟩ := hkeeping
      have hstage : stage' = stage := by
        rw [hat.here] at hown'
        simpa using hown'.symm
      subst hstage
      have hpaces := endOn_paces c.link hc.distinct h.seated hat h.crew hwithin
      have hid : post < id := by
        have hmanned := h.manned _ ha
        by_contra hle
        rcases Nat.lt_or_eq_of_le (Nat.not_lt.mp hle) with hlt | heq
        · cases hmanned.2 hlt
        · cases hmanned.1 heq
      have hothers : (c.pipeline.endOn c.link id stage').2.1.others id =
          c.pipeline.others id := (endOn_ends c.link hc.distinct hat hc.plain).others
      rw [turn_of_ending c.link hfind, hending]
      exact paces_paced h _ c.next hpaces h.config htimer (hpaces.timerStopped hstopped) h.crew
        hothers hid (Nat.le_refl _)
    · have hother : ∀ other, c.ending = .underWay other → other ≠ id := by
        rintro other hending rfl
        have hkeeping := h.keeping
        rw [hending] at hkeeping
        obtain ⟨_, _, stage, hown', _⟩ := hkeeping
        rw [hown] at hown'
        cases hown'
        exact hr rfl
      have hafter : ∀ result, c.ending.after id result = c.ending := by
        intro result
        cases hending : c.ending with
        | underWay shutdown =>
          cases result with
          | none => rfl
          | some r => exact if_neg (hother shutdown hending).symm
        | notBegun => rfl
        | returned r => rfl
      rw [hafter]
      exact turns_paced h _ c.next (turn_turns c.link hc.distinct hfind (hc.sound _ ha) hr)
        (turn_reseats c.link hc.distinct h.seated hfind (hc.sound _ ha) hr) (h.manned _ ha)
        (Nat.le_refl _) hother

-- The deadline counts from the moment at which the shutdown begins.
theorem step_paced (hc : c.Sound) (h : c.Paced config deadline post) (e : Event)
    (hdeadline : e = .shutDown → c.ending = .notBegun →
      deadline = c.link.now + config.drainTimeout.wholeMillis) :
    (c.step e).Paced config deadline post := by
  have hnew := own_next hc
  cases e with
  | add s => exact call_paced hc h (add_turns _ s hc.distinct hnew) (aside_add _ _ _ s)
  | write samples =>
    exact call_paced hc h (write_turns _ _ samples hc.distinct hnew) (aside_write _ _ _ samples _)
  | tryAdd s => exact call_paced hc h (tryAdd_turns _ s hnew) (aside_tryAdd _ _ _ s)
  | flushExpired =>
    exact call_paced hc h (flushExpired_turns _ hc.distinct hnew) (aside_flushExpired _ _ _)
  | turn id => exact turn_paced hc h id
  | shutDown =>
    unfold step
    dsimp only
    split
    · rename_i hending
      have hduring := hc.during
      have hkeeping := h.keeping
      rw [hending] at hduring hkeeping
      have hn := h.seated.not_mem_seats hnew
      obtain ⟨hstopped, hpaces⟩ :=
        shutDown_paces c.link hc.distinct hduring.1 h.seated hn hkeeping h.crew
      obtain rfl : deadline = c.link.now + c.pipeline.config.drainTimeout.wholeMillis := by
        rw [h.config]
        exact hdeadline rfl hending
      have hothers : (c.pipeline.shutDown c.link c.next).2.1.others c.next =
          c.pipeline.others c.next :=
        (shutDown_ends c.link hc.distinct hduring.1 hduring.2 hc.plain).others
      exact paces_paced h _ (c.next + 1) hpaces h.config rfl hstopped h.crew hothers h.before
        (by omega)
    · exact h
  | world l => exact ⟨h.config, h.seated, h.crew, h.manned, h.before, h.keeping⟩

-- A shutdown that has not begun may still be given any deadline.
theorem Paced.unbegun (h : c.Paced config deadline post) (hending : c.ending = .notBegun)
    (later : Nat) : c.Paced config later post := by
  have hkeeping := h.keeping
  rw [hending] at hkeeping
  refine ⟨h.config, h.seated, h.crew, h.manned, h.before, ?_⟩
  rw [hending]
  exact hkeeping

theorem after_paced (hc : c.Sound) (h : ∃ deadline, c.Paced config deadline post)
    (events : List Event) :
    (c.after events).Sound ∧ ∃ deadline, (c.after events).Paced config deadline post := by
  refine after_keeps (P := fun d => ∃ deadline, d.Paced config deadline post) ?_ hc h events
  rintro d e hd ⟨deadline, hpaced⟩
  by_cases hending : d.ending = .notBegun
  · exact ⟨_, step_paced hd (hpaced.unbegun hending _) e fun _ _ => rfl⟩
  · exact ⟨deadline, step_paced hd hpaced e fun _ hnot => absurd hnot hending⟩

end

theorem begin_paced {config : Config} (hv : config.validate = .ok ()) (target : String) (l : Link)
    (first : Nat) : ∃ c, begin config target l first = .ok c ∧ c.Sound ∧ c.ending = .notBegun ∧
      c.link = l ∧ ∀ deadline, c.Paced config deadline (first + config.workers) := by
  obtain ⟨c, hbegin, hc⟩ := begin_sound hv target l first
  refine ⟨c, hbegin, hc, ?_⟩
  unfold begin Pipeline.start at hbegin
  rw [hv] at hbegin
  cases hbegin
  have hworker : ∀ worker ∈ (List.range config.workers).map (first + ·),
      worker < first + config.workers := by
    intro worker hw
    obtain ⟨k, hk, rfl⟩ := List.mem_map.mp hw
    have hlt := List.mem_range.mp hk
    omega
  refine ⟨rfl, rfl, fun deadline => ⟨rfl, ⟨List.nodup_nil, fun _ => rfl, fun id => ⟨?_, ?_⟩⟩,
    hworker, ?_, Nat.lt_succ_self _, rfl⟩⟩
  · refine ⟨fun hm => absurd hm List.not_mem_nil, ?_⟩
    rintro ⟨a, ha, hseated⟩
    rcases List.mem_append.mp ha with ha | ha
    · obtain ⟨_, _, heq⟩ := List.mem_map.mp ha
      cases heq
      cases hseated
    · cases List.mem_singleton.mp ha
      cases hseated
  · intro ha
    rcases List.mem_append.mp ha with ha | ha
    · obtain ⟨_, _, heq⟩ := List.mem_map.mp ha
      cases heq
    · cases List.mem_singleton.mp ha
  · intro e he
    rcases List.mem_append.mp he with he | he
    · obtain ⟨worker, hw, rfl⟩ := List.mem_map.mp he
      have hlt := hworker worker hw
      exact ⟨fun heq => absurd heq (Nat.ne_of_lt hlt), fun _ => rfl⟩
    · rw [List.mem_singleton.mp he]
      exact ⟨fun _ => rfl, fun hlt => absurd hlt (Nat.lt_irrefl _)⟩

end Course

end MetricRelay.Write

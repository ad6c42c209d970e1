import MetricRelay.Proofs.Write.Conservation

-- What clients, the age timer and the shutdown do with samples, step by step. There are few kinds
-- of steps, so whatever each kind of step preserves is preserved by a turn.

namespace MetricRelay.Write

open Store (Link)

-- A closed batch in somebody's hand, and what a shutdown will report as lost.
structure Hand where
  batch : Option Batch
  report : Loss

namespace Hand

def empty : Hand := ⟨none, .none⟩

def holding (b : Batch) : Hand := ⟨some b, .none⟩

def taking (closed : Option (Trigger × Batch)) : Hand := ⟨closed.map Prod.snd, .none⟩

-- What a sender has in hand after an offer.
def after (b : Batch) : Offer → Hand
  | .mustWait => holding b
  | _ => empty

theorem after_of_ne {b : Batch} {offer : Offer} (h : offer ≠ .mustWait) : after b offer = empty := by
  cases offer with
  | mustWait => exact absurd rfl h
  | _ => rfl

end Hand

def Activity.hand (a : Activity) : Hand := ⟨a.held?, a.report⟩

-- Samples that a client has still to add.
def Activity.rest : Activity → List Sample
  | .writing _ rest _ => rest
  | _ => []

-- Whether the activity has a batch on its way to the store.
def Activity.delivers : Activity → Bool
  | .working (.delivering _ _ _) => true
  | _ => false

theorem Activity.delivers_of_hand {a : Activity} {batch : Batch} (h : a.hand = .holding batch) :
    a.delivers = false := by
  unfold delivers
  split
  · cases h
  · rfl

-- Counters that say nothing about samples that were taken in.
structure Stats.Alike (s t : Stats) : Prop where
  accepted : t.accepted = s.accepted
  written : t.written = s.written
  dropped : t.dropped = s.dropped
  failed : t.failed = s.failed
  lostBatches : t.lostBatches = s.lostBatches
  lost : t.lost = s.lost

theorem Stats.alike_addFlush (s : Stats) (trigger : Option Trigger) :
    s.Alike (s.addFlush trigger) := by
  unfold addFlush
  dsimp only
  split <;> exact ⟨rfl, rfl, rfl, rfl, rfl, rfl⟩

namespace Intake

-- Only a closed queue refuses a batch.

theorem closed_of_offer {q : Intake} {sender : Nat} {b : Batch}
    (h : (q.offer sender b).1 = .refused) : q.closed = true := by
  by_contra hopen
  unfold offer at h
  rw [if_neg hopen] at h
  split at h <;> cases h

theorem closed_of_redeem {q : Intake} {sender : Nat} {b : Batch}
    (h : (q.redeem sender b).1 = .refused) : q.closed = true := by
  by_contra hopen
  unfold redeem at h
  rw [if_neg hopen] at h
  split at h <;> cases h

end Intake

namespace Pipeline

-- No sample changes its place; the activity `id` may change, and so may who is told what and who
-- stands where in line.
structure Shifts (id : Nat) (p q : Pipeline) : Prop where
  target : q.target = p.target
  batch : q.batch = p.batch
  closed : q.closed = p.closed
  batches : q.intake.batches = p.intake.batches
  queue : q.intake.closed = p.intake.closed
  record : q.record = p.record
  lost : q.lost = p.lost
  others : q.others id = p.others id
  distinct : p.Distinct → q.Distinct

-- From one hand to another, with the samples that go into the open batch on the way.
inductive Trace (id : Nat) : Pipeline → Hand → List Sample → Pipeline → Hand → Prop
  | stop (p : Pipeline) (hand : Hand) : Trace id p hand [] p hand
  | shift {p q r : Pipeline} {hand last : Hand} {taken : List Sample} (h : Shifts id p q)
      (rest : Trace id q hand taken r last) : Trace id p hand taken r last
  | count {p r : Pipeline} {hand last : Hand} {taken : List Sample} {f : Stats → Stats}
      (h : p.record.stats.Alike (f p.record.stats))
      (rest : Trace id (p.update f) hand taken r last) : Trace id p hand taken r last
  | append {p q r : Pipeline} {now : Nat} {s : Sample} {closed : Option (Trigger × Batch)}
      {last : Hand} {taken : List Sample} (ha : p.accepts = true)
      (h : p.append now s = (closed, q)) (rest : Trace id q (.taking closed) taken r last) :
      Trace id p .empty (s :: taken) r last
  | expire {p q r : Pipeline} {now : Nat} {closed : Option (Trigger × Batch)} {last : Hand}
      {taken : List Sample} (h : p.expire now = (closed, q))
      (rest : Trace id q (.taking closed) taken r last) : Trace id p .empty taken r last
  | offer {p r : Pipeline} {batch : Batch} {offer : Offer} {intake : Intake} {last : Hand}
      {taken : List Sample} (h : p.intake.Answers batch offer intake)
      (hrefused : offer = .refused → p.intake.closed = true)
      (rest : Trace id ({ p with intake := intake }.settleOffer batch offer) (.after batch offer)
        taken r last) : Trace id p (.holding batch) taken r last
  | endIntake {p q r : Pipeline} {now : Nat} {batch : Option Batch} {last : Hand}
      {taken : List Sample} (hsender : p.hasSender = true) (h : p.endIntake now = (batch, q))
      (rest : Trace id q ⟨batch, .none⟩ taken r last) : Trace id p .empty taken r last
  -- there is no more time
  | giveUp {p r : Pipeline} {batch : Batch} {last : Hand} {taken : List Sample}
      (rest : Trace id p ⟨none, ⟨1, batch.size⟩⟩ taken r last) :
      Trace id p (.holding batch) taken r last

section

variable {id : Nat} {p q r : Pipeline} {hand middle last : Hand} {taken more : List Sample}
  {batch : Batch} {offer : Offer}

theorem Trace.trans (h : Trace id p hand taken q middle) (h' : Trace id q middle more r last) :
    Trace id p hand (taken ++ more) r last := by
  induction h with
  | stop => exact h'
  | shift h _ ih => exact .shift h (ih h')
  | count h _ ih => exact .count h (ih h')
  | append ha h _ ih => exact .append ha h (ih h')
  | expire h _ ih => exact .expire h (ih h')
  | offer h hrefused _ ih => exact .offer h hrefused (ih h')
  | endIntake hsender h _ ih => exact .endIntake hsender h (ih h')
  | giveUp _ ih => exact .giveUp (ih h')

theorem Shifts.refl (id : Nat) (p : Pipeline) : Shifts id p p :=
  ⟨rfl, rfl, rfl, rfl, rfl, rfl, rfl, rfl, fun hd => hd⟩

theorem Shifts.trans (h : Shifts id p q) (h' : Shifts id q r) : Shifts id p r where
  target := h'.target.trans h.target
  batch := h'.batch.trans h.batch
  closed := h'.closed.trans h.closed
  batches := h'.batches.trans h.batches
  queue := h'.queue.trans h.queue
  record := h'.record.trans h.record
  lost := h'.lost.trans h.lost
  others := h'.others.trans h.others
  distinct hd := h'.distinct (h.distinct hd)

theorem Shifts.trace (h : Shifts id p q) (hand : Hand) : Trace id p hand [] q hand :=
  .shift h (.stop q hand)

theorem shifts_set (id : Nat) (p : Pipeline) (a : Activity) : Shifts id p (p.set id a) := by
  have hrest : ∃ activities, p.set id a = { p with activities := activities } := by
    unfold set
    split <;> exact ⟨_, rfl⟩
  obtain ⟨activities, hset⟩ := hrest
  have ho := others_set p id a
  have hd := fun hd : p.Distinct => distinct_set hd id a
  rw [hset] at ho hd ⊢
  exact ⟨rfl, rfl, rfl, rfl, rfl, rfl, rfl, ho, hd⟩

theorem shifts_remove (id : Nat) (p : Pipeline) : Shifts id p (p.remove id) :=
  ⟨rfl, rfl, rfl, rfl, rfl, rfl, rfl, others_remove p id, fun hd => distinct_remove hd id⟩

theorem shifts_finish (id : Nat) (p : Pipeline) : Shifts id p (p.finish id) :=
  ⟨rfl, rfl, rfl, rfl, rfl, rfl, rfl, others_remove p id, fun hd => distinct_remove hd id⟩

theorem shifts_wake (id : Nat) (p : Pipeline) (ids : List Nat) : Shifts id p (p.wake ids) :=
  ⟨rfl, rfl, rfl, rfl, rfl, rfl, rfl, rfl, fun hd => hd⟩

theorem shifts_senderGone (id : Nat) (p : Pipeline) : Shifts id p p.senderGone := by
  unfold senderGone
  split
  · exact shifts_wake id p _
  · exact .refl id p

theorem shifts_releaseReceiver (id : Nat) (p : Pipeline) : Shifts id p p.releaseReceiver := by
  unfold releaseReceiver
  split <;> exact ⟨rfl, rfl, rfl, rfl, rfl, rfl, rfl, rfl, fun hd => hd⟩

theorem shifts_takeReceiver (id : Nat) (p : Pipeline) : Shifts id p (p.takeReceiver id).2 := by
  unfold takeReceiver
  split <;> exact ⟨rfl, rfl, rfl, rfl, rfl, rfl, rfl, rfl, fun hd => hd⟩

theorem shifts_withdraw (id : Nat) (p : Pipeline) : Shifts id p (p.withdraw id) :=
  ⟨rfl, rfl, rfl, Intake.batches_withdraw p.intake id, Intake.closed_withdraw p.intake id, rfl,
    rfl, rfl, fun hd => hd⟩

theorem trace_flush {trigger : Option Trigger} (h : p.flush id batch trigger = (offer, q)) :
    Trace id p (.holding batch) [] q (.after batch offer) := by
  cases h
  exact .count (Stats.alike_addFlush _ trigger)
    (.offer (Intake.offer_answers _ id batch) Intake.closed_of_offer (.stop _ _))

theorem trace_redeem (h : p.redeem id batch = (offer, q)) :
    Trace id p (.holding batch) [] q (.after batch offer) := by
  cases h
  exact .offer (Intake.redeem_answers _ id batch) Intake.closed_of_redeem (.stop _ _)

theorem trace_append (id : Nat) {now : Nat} {s : Sample} {closed : Option (Trigger × Batch)}
    (ha : p.accepts = true) (h : p.append now s = (closed, q)) :
    Trace id p .empty [s] q (.taking closed) :=
  .append ha h (.stop _ _)

-- Where a turn leaves an activity that had samples to add: over with, or with a batch in hand
-- and with what it has still to add.
inductive Lands (id : Nat) (q : Pipeline) (left : List Sample) (hand : Hand) : Prop
  | gone (hown : q.own id = []) (hhand : hand = .empty)
  | stays (a : Activity) (hown : q.own id = [(id, a)]) (hhand : a.hand = hand)
      (hrest : a.rest = left) (hdelivers : a.delivers = false)

-- A turn that begins with a hand and with samples to add.
def Turned (id : Nat) (p : Pipeline) (hand : Hand) (samples : List Sample) (q : Pipeline) : Prop :=
  ∃ taken left last, taken ++ left = samples ∧ Trace id p hand taken q last ∧ Lands id q left last

theorem Trace.turned {samples : List Sample} (h : Trace id p hand taken q middle)
    (h' : Turned id q middle samples r) : Turned id p hand (taken ++ samples) r := by
  obtain ⟨more, left, last, rfl, htrace, hlands⟩ := h'
  exact ⟨taken ++ more, left, last, List.append_assoc _ _ _, h.trans htrace, hlands⟩

-- Whatever it had still to add, an activity that is over with adds nothing more.
theorem turned_gone (left : List Sample) (hown : p.own id = []) :
    Turned id p .empty left p :=
  ⟨[], left, .empty, rfl, .stop _ _, .gone hown rfl⟩

theorem Shifts.turned_gone (h : Shifts id p q) (left : List Sample) (hown : q.own id = []) :
    Turned id p .empty left q :=
  ⟨[], left, .empty, rfl, h.trace _, .gone hown rfl⟩

theorem turned_set (id : Nat) (a : Activity) (ha : a.delivers = false) (hd : p.Distinct) :
    Turned id p a.hand a.rest (p.set id a) :=
  ⟨[], a.rest, a.hand, rfl, (shifts_set id p a).trace _, .stays a (own_set hd id a) rfl rfl ha⟩

-- An activity that cannot go on.
theorem turned_stay {a : Activity} (ha : a.delivers = false) (hown : p.own id = [(id, a)]) :
    Turned id p a.hand a.rest p :=
  ⟨[], a.rest, a.hand, rfl, .stop _ _, .stays a hown rfl rfl ha⟩

-- What a turn of `id` leaves alone.
structure Apart (id : Nat) (p q : Pipeline) : Prop where
  target : q.target = p.target
  others : q.others id = p.others id
  distinct : p.Distinct → q.Distinct

theorem Apart.refl (id : Nat) (p : Pipeline) : Apart id p p := ⟨rfl, rfl, fun hd => hd⟩

theorem Apart.trans (h : Apart id p q) (h' : Apart id q r) : Apart id p r :=
  ⟨h'.target.trans h.target, h'.others.trans h.others, fun hd => h'.distinct (h.distinct hd)⟩

theorem Moves.apart {n m : Nat} (h : Moves id p n q m) : Apart id p q :=
  ⟨h.target, h.others, h.distinct⟩

theorem Shifts.apart (h : Shifts id p q) : Apart id p q := ⟨h.target, h.others, h.distinct⟩

theorem Trace.apart (h : Trace id p hand taken q last) : Apart id p q := by
  induction h with
  | stop => exact .refl id _
  | shift h _ ih => exact h.apart.trans ih
  | count _ _ ih => exact ⟨ih.target, ih.others, ih.distinct⟩
  | append ha h _ ih => exact (append_carries id ha h).apart.trans ih
  | expire h _ ih => exact (expire_carries id h).apart.trans ih
  | offer h _ _ ih =>
    have hcarries : Carries id _ _ _ _ := settleOffer_carries h
    exact hcarries.apart.trans ih
  | endIntake hsender h _ ih =>
    have hclosed : Closed id _ _ _ := endIntake_closed hsender h
    exact hclosed.moves.apart.trans ih
  | giveUp _ ih => exact ih

theorem Trace.distinct (h : Trace id p hand taken q last) (hd : p.Distinct) : q.Distinct :=
  h.apart.distinct hd

-- A batch that the queue takes or refuses leaves its sender with nothing.
theorem Trace.flushed {trigger : Option Trigger}
    (h : Trace id p hand taken q (.holding batch)) (hown : q.own id = [])
    (hflush : q.flush id batch trigger = (offer, r)) (hoffer : offer ≠ .mustWait)
    (left : List Sample) : Turned id p hand (taken ++ left) r := by
  have hflushed := trace_flush hflush
  rw [Hand.after_of_ne hoffer] at hflushed
  have htrace := h.trans hflushed
  rw [List.append_nil] at htrace
  refine htrace.turned (turned_gone left ?_)
  rw [own_congr (activities_flush hflush), hown]

-- With any other its sender waits.
theorem Trace.waits {a : Activity} {trigger : Option Trigger}
    (h : Trace id p hand taken q (.holding batch)) (hd : p.Distinct)
    (hflush : q.flush id batch trigger = (.mustWait, r)) (ha : a.hand = .holding batch) :
    Turned id p hand (taken ++ a.rest) (r.set id a) := by
  have htrace := h.trans (trace_flush hflush)
  rw [List.append_nil] at htrace
  refine htrace.turned ?_
  have hset := turned_set id a (Activity.delivers_of_hand ha) (htrace.distinct hd)
  rw [ha] at hset
  exact hset

end

-- Clients.

section

variable {id : Nat} {p : Pipeline}

theorem add_turned (now : Nat) (s : Sample) (hd : p.Distinct) (hnew : p.own id = []) :
    Turned id p .empty [s] (p.add now id s).2 := by
  unfold add
  split
  · exact turned_gone [s] hnew
  · rename_i ha
    split
    · rename_i q happend
      refine (trace_append id (by simpa using ha) happend).turned (turned_gone [] ?_)
      rw [own_congr (activities_append happend), hnew]
    · rename_i trigger batch q happend
      have happended := trace_append id (by simpa using ha) happend
      have hown : q.own id = [] := (own_congr (activities_append happend)).trans hnew
      split
      · rename_i r hflush
        exact happended.flushed hown hflush (by simp) []
      · rename_i r hflush
        exact happended.flushed hown hflush (by simp) []
      · rename_i r hflush
        exact happended.waits (a := .adding batch trigger) hd hflush rfl

-- A sample that fits, added without a look at whether the batch is to be closed.
theorem trace_push {now : Nat} {s : Sample} (ha : p.accepts = true)
    (hfits : (p.evaluate (p.batch.measureWith s now)).isNone = true) :
    Trace id p .empty [s] { p with
      batch := p.batch.push s
      record := p.record.update fun s => { s with accepted := s.accepted + 1 } } .empty := by
  suffices happend : p.append now s = (none, { p with
      batch := p.batch.push s
      record := p.record.update fun s => { s with accepted := s.accepted + 1 } }) from
    trace_append id ha happend
  have hmeasure : (p.batch.push s).measure now = p.batch.measureWith s now := by
    unfold Batch.measure Batch.measureWith
    rw [size_push]
    rfl
  have hnone : (p.update fun s => { s with accepted := s.accepted + 1 }).evaluate
      ((p.batch.push s).measure now) = none := by
    rw [hmeasure]
    exact Option.isNone_iff_eq_none.mp hfits
  unfold append
  dsimp only
  rw [hnone]
  rfl

theorem tryAdd_turned (now : Nat) (s : Sample) (hnew : p.own id = []) :
    Turned id p .empty [s] (p.tryAdd now id s).2 := by
  unfold tryAdd
  split
  · exact turned_gone [s] hnew
  · rename_i ha
    split
    · rename_i hfits
      exact (trace_push (by simpa using ha) hfits).turned (turned_gone [] hnew)
    · split
      · exact turned_gone [s] hnew
      · -- with a place free in an open queue the batch need not wait
        rename_i hopen
        split
        · exact Trace.turned (.count ⟨rfl, rfl, rfl, rfl, rfl, rfl⟩ (.stop _ _))
            (turned_gone [s] hnew)
        · rename_i hfree
          split
          · rename_i q happend
            refine (trace_append id (by simpa using ha) happend).turned (turned_gone [] ?_)
            rw [own_congr (activities_append happend), hnew]
          · rename_i trigger batch q happend
            have happended := trace_append id (by simpa using ha) happend
            cases hflush : q.flush id batch (some trigger) with
            | mk offer r =>
              have hsent : offer = .sent := sent_of_flush hflush
                (by rw [intake_append happend]; simpa using hopen)
                (by rw [intake_append happend]; omega)
              have hown : q.own id = [] := (own_congr (activities_append happend)).trans hnew
              exact happended.flushed hown hflush (by simp [hsent]) []

theorem write_turned (now total : Nat) (samples : List Sample) (hd : p.Distinct)
    (hnew : p.own id = []) : Turned id p .empty samples (write now id total samples p).2 := by
  induction samples generalizing p with
  | nil => exact turned_gone [] hnew
  | cons s rest ih =>
    unfold write
    split
    · exact turned_gone (s :: rest) hnew
    · rename_i ha
      split
      · rename_i q happend
        have happended := trace_append id (by simpa using ha) happend
        refine happended.turned (ih (happended.distinct hd) ?_)
        rw [own_congr (activities_append happend), hnew]
      · rename_i trigger batch q happend
        have happended := trace_append id (by simpa using ha) happend
        have hown : q.own id = [] := (own_congr (activities_append happend)).trans hnew
        split
        · rename_i r hflush
          have hflushed := happended.trans (trace_flush hflush)
          exact hflushed.turned (ih (hflushed.distinct hd)
            ((own_congr (activities_flush hflush)).trans hown))
        · rename_i r hflush
          exact happended.flushed hown hflush (by simp) rest
        · rename_i r hflush
          exact happended.waits (a := .writing batch rest total) hd hflush rfl

theorem flushExpired_turned (now : Nat) (hd : p.Distinct) (hnew : p.own id = []) :
    Turned id p .empty [] (p.flushExpired now id).2 := by
  unfold flushExpired
  split
  · rename_i q hexpire
    have hexpired : Trace id p .empty [] q (.taking none) := .expire hexpire (.stop _ _)
    refine hexpired.turned (turned_gone [] ?_)
    rw [own_congr (activities_expire hexpire), hnew]
  · rename_i trigger batch q hexpire
    have hexpired : Trace id p .empty [] q (.taking (some (trigger, batch))) :=
      .expire hexpire (.stop _ _)
    have hown : q.own id = [] := (own_congr (activities_expire hexpire)).trans hnew
    split
    · rename_i r hflush
      exact hexpired.flushed hown hflush (by simp) []
    · rename_i r hflush
      exact hexpired.flushed hown hflush (by simp) []
    · rename_i r hflush
      exact hexpired.waits (a := .flushing batch trigger) hd hflush rfl

end

-- The age timer.

section

variable {id : Nat} {p : Pipeline}

theorem awaitTick_turned (l : Link) (period : Duration) (due : Nat) (hd : p.Distinct) :
    Turned id p .empty [] (p.awaitTick l id period due).2.1 :=
  turned_set id (.ticking period due (l.setTimer (Timer.firing due)).1) rfl hd

theorem finish_turned (left : List Sample) : Turned id p .empty left (p.finish id) :=
  (shifts_finish id p).turned_gone left (own_finish p id)

theorem tick_turned (period : Duration) (fuel overtime due : Nat) (l : Link) (hd : p.Distinct) :
    Turned id p .empty [] (tick id period fuel overtime due p l).2.1 := by
  induction fuel generalizing overtime due p with
  | zero => exact awaitTick_turned l period due hd
  | succ fuel ih =>
    unfold tick
    split
    · exact finish_turned []
    · split
      · exact awaitTick_turned l period due hd
      · dsimp only
        split
        · rename_i q hexpire
          have hexpired : Trace id p .empty [] q (.taking none) := .expire hexpire (.stop _ _)
          exact hexpired.turned (ih _ _ (hexpired.distinct hd))
        · rename_i trigger batch q hexpire
          have hexpired : Trace id p .empty [] q (.taking (some (trigger, batch))) :=
            .expire hexpire (.stop _ _)
          split
          · rename_i r hflush
            exact hexpired.waits (a := .tickFlushing period (nextTick l.nanos period due) batch) hd
              hflush rfl
          · rename_i offer r hne hflush
            have hflushed := hexpired.trans (trace_flush hflush)
            rw [Hand.after_of_ne hne] at hflushed
            exact hflushed.turned (ih _ _ (hflushed.distinct hd))

-- A turn that tries to hand over a batch, and goes on if that is over with.
theorem redeem_turned {a : Activity} {batch : Batch} {offer : Offer} {q r : Pipeline}
    (hown : p.own id = [(id, a)]) (hhand : a.hand = .holding batch)
    (hredeem : p.redeem id batch = (offer, q)) (hwaits : offer = .mustWait → r = q)
    (hgoes : offer ≠ .mustWait → Turned id q .empty a.rest r) : Turned id p a.hand a.rest r := by
  by_cases ho : offer = .mustWait
  · subst ho
    rw [hwaits rfl, redeem_mustWait hredeem]
    exact turned_stay (Activity.delivers_of_hand hhand) hown
  · have hredeemed := trace_redeem hredeem
    rw [Hand.after_of_ne ho, ← hhand] at hredeemed
    exact hredeemed.turned (hgoes ho)

theorem finish_senderGone_turned (left : List Sample) :
    Turned id p .empty left (p.finish id).senderGone :=
  ((shifts_finish id p).trans (shifts_senderGone id _)).turned_gone left
    ((own_senderGone _ id).trans (own_finish p id))

-- A turn of a client or of the age timer.
theorem turn_turned {a : Activity} (l : Link) (hd : p.Distinct) (h : p.find? id = some a)
    (hr : a.role = .client ∨ a.role = .timer) : Turned id p a.hand a.rest (p.turn l id).2.1 := by
  have hown := own_eq_of_find? hd h
  unfold turn
  rw [h]
  cases a with
  | adding batch trigger | flushing batch trigger =>
    dsimp only
    cases hredeem : p.redeem id batch with
    | mk offer q =>
      refine redeem_turned hown rfl hredeem ?_ ?_
      · rintro rfl
        rfl
      · intro hne
        cases offer with
        | sent => exact finish_senderGone_turned []
        | refused => exact finish_senderGone_turned []
        | mustWait => exact absurd rfl hne
  | writing batch rest total =>
    dsimp only
    cases hredeem : p.redeem id batch with
    | mk offer q =>
      have hdq := (trace_redeem hredeem).distinct hd
      refine redeem_turned hown rfl hredeem ?_ ?_
      · rintro rfl
        rfl
      · intro hne
        cases offer with
        | sent =>
          have hgone := (shifts_remove id q).trans (shifts_senderGone id _)
          refine (hgone.trace .empty).turned (write_turned _ _ _ (hgone.distinct hdq) ?_)
          rw [own_senderGone, own_remove]
        | refused => exact finish_senderGone_turned rest
        | mustWait => exact absurd rfl hne
  | starting period => exact tick_turned period _ _ _ l hd
  | ticking period due next =>
    dsimp only
    split
    · exact turned_stay rfl hown
    · exact tick_turned period _ _ _ l hd
  | tickFlushing period due batch =>
    dsimp only
    cases hredeem : p.redeem id batch with
    | mk offer q =>
      have hdq := (trace_redeem hredeem).distinct hd
      have hset := (shifts_set id q (.starting period)).trans (shifts_senderGone id _)
      have hgoes : Turned id q .empty []
          ((q.set id (.starting period)).senderGone.runTimer l id period due).2.1 :=
        (hset.trace .empty).turned (tick_turned period _ _ due l (hset.distinct hdq))
      refine redeem_turned hown rfl hredeem ?_ ?_
      · rintro rfl
        rfl
      · intro hne
        cases offer with
        | sent => exact hgoes
        | refused => exact hgoes
        | mustWait => exact absurd rfl hne
  | closing batch limit => simp [Activity.role] at hr
  | ending stage => simp [Activity.role] at hr
  | working stage => simp [Activity.role] at hr

end

-- The shutdown.

-- A turn of the shutdown: it goes on, or collects what is left and returns.
inductive Heads (id : Nat) (p : Pipeline) (hand : Hand) : Option Result → Pipeline → Prop
  | goesOn {q : Pipeline} (h : Turned id p hand [] q) : Heads id p hand none q
  | collects {q : Pipeline} {report : Loss} (h : Trace id p hand [] q ⟨none, report⟩) :
      Heads id p hand (some (q.collect id report).1) (q.collect id report).2

-- How closing the intake may go: to the end, with the last batch given up, or not yet.
inductive Ceases (id : Nat) (p : Pipeline) : Option Result → Pipeline → Prop
  | done {q : Pipeline} {r : Result} (h : Trace id p .empty [] q .empty)
      (hr : ∀ batches samples, r ≠ .error (.shutdownLoss batches samples)) :
      Ceases id p (some r) q
  | late {q : Pipeline} {n : Nat} (h : Trace id p .empty [] q ⟨none, ⟨1, n⟩⟩) :
      Ceases id p (some (.error (.shutdownLoss 1 n))) q
  | waits {q r : Pipeline} {batch : Batch} {limit : Timer}
      (h : Trace id p .empty [] q (.holding batch)) (hr : r = q.set id (.closing batch limit)) :
      Ceases id p none r

section

variable {id : Nat} {p q r : Pipeline} {hand middle : Hand} {result : Option Result}
  {report : Loss} {workers : List Nat}

theorem Trace.heads (h : Trace id p hand [] q middle) (h' : Heads id q middle result r) :
    Heads id p hand result r := by
  cases h' with
  | goesOn h' => exact .goesOn (h.turned h')
  | collects h' => exact .collects (h.trans h')

theorem set_heads (stage : ShutdownStage) (hd : p.Distinct) :
    Heads id p (Activity.ending stage).hand none (p.set id (.ending stage)) :=
  .goesOn (turned_set id (.ending stage) rfl hd)

theorem beginCollect_heads (l : Link) (hd : p.Distinct) :
    Heads id p ⟨none, report⟩ (p.beginCollect l id report).1
      (p.beginCollect l id report).2.1 := by
  have htaken := shifts_takeReceiver id p
  unfold beginCollect
  split
  · rename_i q htake
    rw [htake] at htaken
    exact .collects (htaken.trace _)
  · rename_i q htake
    rw [htake] at htaken
    exact (htaken.trace _).heads (set_heads (.collecting report) (htaken.distinct hd))

theorem beginDismiss_heads (l : Link) (hd : p.Distinct) :
    Heads id p ⟨none, report⟩ (p.beginDismiss l id workers report).1
      (p.beginDismiss l id workers report).2.1 := by
  have hdismiss : Shifts id p p.dismiss :=
    ⟨rfl, rfl, rfl, rfl, rfl, rfl, rfl, rfl, fun hd => hd⟩
  refine (hdismiss.trace _).heads ?_
  unfold beginDismiss
  dsimp only
  split
  · exact set_heads (.dismissing workers report) (hdismiss.distinct hd)
  · exact beginCollect_heads l (hdismiss.distinct hd)

theorem drain_heads (l : Link) (deadline : Nat) (hd : p.Distinct) :
    Heads id p ⟨none, report⟩ (p.drain l id deadline report).1
      (p.drain l id deadline report).2.1 := by
  have hcharge : Shifts id p { p with workers := [] } :=
    ⟨rfl, rfl, rfl, rfl, rfl, rfl, rfl, rfl, fun hd => hd⟩
  refine (hcharge.trace _).heads ?_
  unfold drain
  dsimp only
  split
  · exact beginCollect_heads l (hcharge.distinct hd)
  · split
    · exact beginDismiss_heads _ (hcharge.distinct hd)
    · exact set_heads (.joining p.workers report (l.setTimer deadline).1) (hcharge.distinct hd)

theorem close_ceases (l : Link) (deadline : Nat) (hsender : p.hasSender = true) :
    Ceases id p (p.close l id deadline).1 (p.close l id deadline).2.1 := by
  unfold close
  split
  · rename_i q hend
    exact .done (.endIntake hsender hend (.stop _ _)) (by simp)
  · rename_i batch q hend
    have hended : Trace id p .empty [] q (.holding batch) :=
      .endIntake hsender hend (.stop _ _)
    split
    · rename_i r hflush
      have hflushed := hended.trans (trace_flush hflush)
      exact .done (hflushed.trans ((shifts_senderGone id r).trace _)) (by simp)
    · rename_i r hflush
      have hflushed := hended.trans (trace_flush hflush)
      exact .done (hflushed.trans ((shifts_senderGone id r).trace _)) (by simp)
    · rename_i r hflush
      have hflushed := hended.trans (trace_flush hflush)
      dsimp only
      split
      · have hgone := (shifts_withdraw id r).trans (shifts_senderGone id _)
        exact .late (hflushed.trans (.giveUp (hgone.trace _)))
      · exact .waits hflushed rfl

theorem beginClose_heads (l : Link) (deadline : Nat) (hd : p.Distinct)
    (hsender : p.hasSender = true) :
    Heads id p .empty (p.beginClose l id deadline).1 (p.beginClose l id deadline).2.1 := by
  unfold beginClose
  have hceases : Ceases id p (p.close l id deadline).1 (p.close l id deadline).2.1 :=
    close_ceases l deadline hsender
  generalize p.close l id deadline = closing at hceases ⊢
  obtain ⟨result, r, l'⟩ := closing
  cases hceases with
  | late h => exact h.heads (drain_heads l' deadline (h.distinct hd))
  | @done _ r h hr =>
    split
    · rename_i batches samples _ _ heq
      cases heq
      exact absurd rfl (hr batches samples)
    · rename_i heq
      cases heq
      exact h.heads (drain_heads l' deadline (h.distinct hd))
    · rename_i heq
      cases heq
  | @waits q _ batch limit h hr =>
    have hr : r = q.set id (.closing batch limit) := hr
    have hset : Shifts id q r := hr ▸ shifts_set id q _
    have hfind : r.find? id = some (.closing batch limit) := hr ▸ find?_set q id _
    dsimp only
    rw [hfind]
    exact (h.trans (hset.trace _)).heads
      (set_heads (.closing deadline batch limit) (hset.distinct (h.distinct hd)))

theorem shutDown_heads (l : Link) (hd : p.Distinct) (hsender : p.hasSender = true) :
    Heads id p .empty (p.shutDown l id).1 (p.shutDown l id).2.1 := by
  have hstop : Shifts id p p.stopTimer :=
    ⟨rfl, rfl, rfl, rfl, rfl, rfl, rfl, rfl, fun hd => hd⟩
  unfold shutDown
  dsimp only
  split
  · exact (hstop.trace _).heads (beginClose_heads l _ (hstop.distinct hd) hsender)
  · rename_i timer _
    have hcharge : Shifts id p { p.stopTimer with timer := none } :=
      ⟨rfl, rfl, rfl, rfl, rfl, rfl, rfl, rfl, fun hd => hd⟩
    refine (hcharge.trace _).heads ?_
    split
    · exact set_heads (.awaitingTimer _ timer) (hcharge.distinct hd)
    · exact beginClose_heads l _ (hcharge.distinct hd) hsender

-- A shutdown that cannot go on.
theorem stay_heads {stage : ShutdownStage} (hown : p.own id = [(id, .ending stage)]) :
    Heads id p (Activity.ending stage).hand none p :=
  .goesOn (turned_stay rfl hown)

theorem endOn_heads {stage : ShutdownStage} (l : Link) (hd : p.Distinct)
    (h : p.AtStage id stage) :
    Heads id p (Activity.ending stage).hand (p.endOn l id stage).1 (p.endOn l id stage).2.1 := by
  have hstay := stay_heads h.here
  cases stage with
  | awaitingTimer deadline timer =>
    unfold endOn
    dsimp only
    split
    · exact hstay
    · exact beginClose_heads l deadline hd h.door
  | joining workers report limit =>
    unfold endOn
    dsimp only
    split
    · exact beginCollect_heads l hd
    · split
      · exact beginDismiss_heads l hd
      · exact hstay
  | dismissing workers report =>
    unfold endOn
    dsimp only
    split
    · exact beginCollect_heads l hd
    · exact hstay
  | collecting report =>
    unfold endOn
    dsimp only
    split
    · exact .collects (.stop _ _)
    · exact hstay
  | closing deadline batch limit =>
    unfold endOn
    dsimp only
    cases hredeem : p.redeem id batch with
    | mk offer q =>
      have hredeemed := trace_redeem hredeem
      have hgone := (shifts_remove id q).trans (shifts_senderGone id _)
      have hhanded := hredeemed.trans (hgone.trace _)
      cases offer with
      | sent => exact hhanded.heads (drain_heads l deadline (hhanded.distinct hd))
      | refused => exact hhanded.heads (drain_heads l deadline (hhanded.distinct hd))
      | mustWait =>
        rw [redeem_mustWait hredeem]
        dsimp only
        split
        · have hleft := ((shifts_withdraw id p).trans (shifts_remove id _)).trans
            (shifts_senderGone id _)
          exact (Trace.giveUp (hleft.trace _)).heads (drain_heads l deadline (hleft.distinct hd))
        · exact hstay

end

end Pipeline

end MetricRelay.Write

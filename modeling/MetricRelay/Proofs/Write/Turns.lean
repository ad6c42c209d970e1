import MetricRelay.Proofs.Write.Queue

-- Turns of clients, of the age timer and of workers: whatever samples one has in hand at first are
-- placed at its end, counted as lost, or still its own.

namespace MetricRelay.Write.Pipeline

open Store (Link)

-- What a turn of an activity with `n` samples in hand makes of a pipeline. Losses that a
-- shutdown has still to report count as samples in hand.
structure Turns (id : Nat) (role : Role) (p : Pipeline) (n : Nat) (q : Pipeline) : Prop
    extends Frame p q where
  moves : Moves id p (n + p.lost.samples) q (held (q.own id) + q.lost.samples)
  own : ∀ e ∈ q.own id, e.2.role = role ∧ e.2.Sound q.target
  plain : p.lost.Plain → q.lost.Plain
  lost : role ≠ .worker → q.lost = p.lost

section

variable {id : Nat} {role : Role} {p q r : Pipeline} {n m : Nat} {a : Activity}

theorem Moves.add (h : Moves id p n q m) (k : Nat) : Moves id p (n + k) q (m + k) := by
  refine ⟨?_, h.others, h.distinct, h.target⟩
  have hb := h.balance
  omega

theorem Carries.turns (h : Carries id p n q m) (h' : Turns id role q m r) :
    Turns id role p n r := by
  refine ⟨h.toFrame.trans h'.toFrame, ?_, h'.own, fun hp => h'.plain (h.lost ▸ hp),
    fun hr => (h'.lost hr).trans h.lost⟩
  have hmoves := h.toMoves.add p.lost.samples
  rw [← h.lost] at hmoves ⊢
  exact hmoves.trans h'.moves

theorem Carries.ended (h : Carries id p n q 0) (hown : q.own id = []) :
    Turns id role p n q := by
  refine h.turns ⟨.refl q, ?_, ?_, fun hp => hp, fun _ => rfl⟩
  · rw [hown]
    exact .refl id q _
  · rw [hown]
    exact fun e he => absurd he List.not_mem_nil

theorem turns_set (hd : p.Distinct) (hn : a.samples = n) (hr : a.role = role)
    (hs : a.Sound p.target) : Turns id role p n (p.set id a) := by
  have hset := carries_set id p n a
  refine ⟨hset.toFrame, ?_, ?_, fun hp => hset.lost ▸ hp, fun _ => hset.lost⟩
  · rw [own_set hd, hset.lost]
    simpa [held, hn] using hset.toMoves.add p.lost.samples
  · rw [own_set hd, hset.target]
    simp [hr, hs]

-- An activity that cannot go on.
theorem turns_stay (hd : p.Distinct) (h : p.find? id = some a) (hs : a.Sound p.target) :
    Turns id a.role p a.samples p := by
  have hown := own_eq_of_find? hd h
  refine ⟨.refl p, ?_, ?_, fun hp => hp, fun _ => rfl⟩
  · rw [hown]
    simpa [held] using Moves.refl id p (a.samples + p.lost.samples)
  · rw [hown]
    simp [hs]

theorem own_finish (p : Pipeline) (id : Nat) : (p.finish id).own id = [] := own_remove p id

theorem own_senderGone (p : Pipeline) (id : Nat) : p.senderGone.own id = p.own id := by
  unfold senderGone
  split <;> rfl

theorem own_congr (h : q.activities = p.activities) : q.own id = p.own id := by
  unfold own
  rw [h]

theorem turns_finish (id : Nat) (role : Role) (p : Pipeline) :
    Turns id role p 0 (p.finish id) :=
  (carries_finish id p 0).ended (own_finish p id)

theorem turns_finish_senderGone (id : Nat) (role : Role) (p : Pipeline) :
    Turns id role p 0 (p.finish id).senderGone :=
  ((carries_finish id p 0).trans (carries_senderGone id _ 0)).ended
    ((own_senderGone _ id).trans (own_finish p id))

-- A batch that the queue takes or refuses leaves its sender with nothing.
theorem Carries.flushed {batch : Batch} {trigger : Option Trigger} {offer : Offer}
    (h : Carries id p n q batch.size) (hown : q.own id = [])
    (hflush : q.flush id batch trigger = (offer, r)) (hoffer : offer ≠ .mustWait) :
    Turns id role p n r := by
  have hflushed := h.trans (flush_carries hflush)
  rw [Offer.left_eq_zero hoffer] at hflushed
  exact hflushed.ended ((own_congr (activities_flush hflush)).trans hown)

-- With any other its sender waits.
theorem Carries.waits {batch : Batch} {trigger : Option Trigger}
    (h : Carries id p n q batch.size) (hd : p.Distinct)
    (hflush : q.flush id batch trigger = (.mustWait, r)) (hheld : a.held? = some batch)
    (hr : a.role = role) (hs : a.Sound r.target) : Turns id role p n (r.set id a) := by
  have hflushed := h.trans (flush_carries hflush)
  exact hflushed.turns (turns_set (hflushed.distinct hd) (Activity.samples_of_held hheld) hr hs)

end

-- Clients.

section

variable {id : Nat} {p : Pipeline}

theorem add_turns (now : Nat) (s : Sample) (hd : p.Distinct) (hnew : p.own id = []) :
    Turns id .client p 0 (p.add now id s).2 := by
  unfold add
  split
  · exact (Carries.refl id p 0).ended hnew
  · rename_i ha
    split
    · rename_i q happend
      refine (append_carries id (by simpa using ha) happend).ended ?_
      rw [own_congr (activities_append happend), hnew]
    · rename_i trigger batch q happend
      have happended := append_carries id (by simpa using ha) happend
      have hown := (own_congr (activities_append happend)).trans hnew
      split
      · rename_i r hflush
        exact happended.flushed hown hflush (by simp)
      · rename_i r hflush
        exact happended.flushed hown hflush (by simp)
      · rename_i r hflush
        exact happended.waits hd hflush rfl rfl trivial

theorem tryAdd_turns (now : Nat) (s : Sample) (hnew : p.own id = []) :
    Turns id .client p 0 (p.tryAdd now id s).2 := by
  unfold tryAdd
  split
  · exact (Carries.refl id p 0).ended hnew
  · rename_i ha
    split
    · have hpush : Carries id p 0
          { p with batch := p.batch.push s
                   record := p.record.update fun s => { s with accepted := s.accepted + 1 } } 0 := by
        refine carries_batch (by simpa using ha) rfl ?_
        simp only [Record.update, size_push]
        omega
      exact hpush.ended hnew
    · split
      · exact (Carries.refl id p 0).ended hnew
      · -- with a place free in an open queue the batch need not wait
        rename_i hopen
        split
        · have hcount : Carries id p 0
              (p.update fun s => { s with rejected := s.rejected + 1 }) 0 := carries_record rfl rfl
          exact hcount.ended hnew
        · rename_i hfree
          split
          · rename_i q happend
            refine (append_carries id (by simpa using ha) happend).ended ?_
            rw [own_congr (activities_append happend), hnew]
          · rename_i trigger batch q happend
            have happended := append_carries id (by simpa using ha) happend
            cases hflush : q.flush id batch (some trigger) with
            | mk offer r =>
              have hsent : offer = .sent := sent_of_flush hflush
                (by rw [intake_append happend]; simpa using hopen)
                (by rw [intake_append happend]; omega)
              have hown := (own_congr (activities_append happend)).trans hnew
              exact happended.flushed hown hflush (by simp [hsent])

theorem write_turns (now total : Nat) (samples : List Sample) (hd : p.Distinct)
    (hnew : p.own id = []) : Turns id .client p 0 (write now id total samples p).2 := by
  induction samples generalizing p with
  | nil => exact (Carries.refl id p 0).ended hnew
  | cons s rest ih =>
    unfold write
    split
    · exact (Carries.refl id p 0).ended hnew
    · rename_i ha
      split
      · rename_i q happend
        have happended := append_carries id (by simpa using ha) happend
        refine happended.turns (ih (happended.distinct hd) ?_)
        rw [own_congr (activities_append happend), hnew]
      · rename_i trigger batch q happend
        have happended := append_carries id (by simpa using ha) happend
        have hown := (own_congr (activities_append happend)).trans hnew
        split
        · rename_i r hflush
          have hflushed := happended.trans (flush_carries hflush)
          exact hflushed.turns (ih (hflushed.distinct hd)
            ((own_congr (activities_flush hflush)).trans hown))
        · rename_i r hflush
          exact happended.flushed hown hflush (by simp)
        · rename_i r hflush
          exact happended.waits hd hflush rfl rfl trivial

theorem flushExpired_turns (now : Nat) (hd : p.Distinct) (hnew : p.own id = []) :
    Turns id .client p 0 (p.flushExpired now id).2 := by
  unfold flushExpired
  split
  · rename_i q hexpire
    refine (expire_carries id hexpire).ended ?_
    rw [own_congr (activities_expire hexpire), hnew]
  · rename_i trigger batch q hexpire
    have hexpired := expire_carries id hexpire
    have hown := (own_congr (activities_expire hexpire)).trans hnew
    split
    · rename_i r hflush
      exact hexpired.flushed hown hflush (by simp)
    · rename_i r hflush
      exact hexpired.flushed hown hflush (by simp)
    · rename_i r hflush
      exact hexpired.waits hd hflush rfl rfl trivial

end

-- The age timer.

section

variable {id : Nat} {p : Pipeline}

theorem awaitTick_turns (l : Link) (period : Duration) (due : Nat) (hd : p.Distinct) :
    Turns id .timer p 0 (p.awaitTick l id period due).2.1 :=
  turns_set hd rfl rfl trivial

theorem tick_turns (period : Duration) (fuel overtime due : Nat) (l : Link) (hd : p.Distinct) :
    Turns id .timer p 0 (tick id period fuel overtime due p l).2.1 := by
  induction fuel generalizing overtime due p with
  | zero => exact awaitTick_turns l period due hd
  | succ fuel ih =>
    unfold tick
    split
    · exact turns_finish id .timer p
    · split
      · exact awaitTick_turns l period due hd
      · dsimp only
        split
        · rename_i q hexpire
          have hexpired := expire_carries id hexpire
          exact hexpired.turns (ih _ _ (hexpired.distinct hd))
        · rename_i trigger batch q hexpire
          have hexpired := expire_carries id hexpire
          split
          · rename_i r hflush
            exact hexpired.waits hd hflush rfl rfl trivial
          · rename_i offer r hne hflush
            have hflushed := hexpired.trans (flush_carries hflush)
            rw [Offer.left_eq_zero hne] at hflushed
            exact hflushed.turns (ih _ _ (hflushed.distinct hd))

theorem runTimer_turns (l : Link) (period : Duration) (due : Nat) (hd : p.Distinct) :
    Turns id .timer p 0 (p.runTimer l id period due).2.1 :=
  tick_turns period _ _ due l hd

end

-- Workers.

section

variable {id : Nat} {p : Pipeline}

-- What a run of a delivery took down goes into the pipeline's record.
theorem Continues.carries (id : Nat) {target : String} {owed : Nat}
    {run : Store.Reached Delivery.Note Delivery × Link × Record × Nat}
    (h : Delivery.Continues target p.record owed run) :
    Carries id p owed { p with record := run.2.2.1 } run.2.2.2 :=
  carries_record h.settled h.accepted

theorem deliverBatch_continues (p : Pipeline) (l : Link) (batch : Batch) :
    Delivery.Continues p.target p.record batch.size (p.deliverBatch l batch) := by
  have h := (Delivery.routine_settles p.config p.target batch).run l p.record
  have hsize : batch.documents.length = batch.size := by simp [Batch.documents, Batch.size]
  rw [hsize] at h
  exact h

theorem delivering_turns {owed : Nat} {batch : Batch} {record : Record}
    {s : Store.Suspended Delivery.Note Delivery} (hd : p.Distinct)
    (h : ∃ docs soFar, Delivery.Settles p.target owed docs soFar s.rest) :
    Turns id .worker { p with record := record } owed
      ({ p with record := record }.set id (.working (.delivering batch owed s))) := by
  exact turns_set (hd : Distinct { p with record := record })
    (Activity.samples_delivering batch owed s) rfl h

theorem stop_turns : Turns id .worker p 0 (p.releaseReceiver.finish id) :=
  (carries_releaseReceiver id p 0).turns (turns_finish id .worker _)

-- A worker that goes from batch to batch, by induction on how often it may.
theorem receive_turns {fuel : Nat}
    (hwork : ∀ (p : Pipeline) (l : Link), p.Distinct →
      Turns id .worker p 0 (work id fuel p l).2.1)
    (l : Link) (hd : p.Distinct) : Turns id .worker p 0 (receive id fuel p l).2.1 := by
  unfold receive
  split
  · exact stop_turns
  · split
    · split
      · exact stop_turns
      · exact turns_set hd rfl rfl trivial
    · rename_i batch told intake hpop
      have hpopped := pop?_carries id 0 hpop
      rw [Nat.zero_add] at hpopped
      have htaken := hpopped.trans (carries_releaseReceiver id _ batch.size)
      dsimp only
      generalize (({ p with intake := intake }.wake told.toList).releaseReceiver) = q at htaken ⊢
      have hcontinues := deliverBatch_continues q l batch
      have hrun := htaken.trans (Continues.carries id hcontinues)
      split
      · rename_i d l' record owed hreached
        rw [hreached] at hcontinues hrun
        rw [hcontinues.finished d rfl] at hrun
        exact hrun.turns (hwork _ _ (hrun.distinct hd))
      · rename_i s l' record owed hreached
        rw [hreached] at hcontinues hrun
        exact hrun.turns (delivering_turns (hrun.distinct hd) (hcontinues.suspended s rfl))

theorem work_turns (fuel : Nat) (l : Link) (hd : p.Distinct) :
    Turns id .worker p 0 (work id fuel p l).2.1 := by
  induction fuel generalizing p l with
  | zero =>
    unfold work
    exact turns_set hd rfl rfl trivial
  | succ fuel ih =>
    unfold work
    have htaken := carries_takeReceiver id p 0
    split
    · rename_i q htake
      rw [htake] at htaken
      exact htaken.turns (turns_set (htaken.distinct hd) rfl rfl trivial)
    · rename_i q htake
      rw [htake] at htaken
      exact htaken.turns (receive_turns (fun p l hd => ih l hd) l (htaken.distinct hd))

theorem moves_addLost (id : Nat) (p : Pipeline) (n k : Nat) : Moves id p n (p.addLost k) n :=
  ⟨rfl, rfl, fun hd => hd, rfl⟩

theorem plain_addLost {k : Nat} : (p.addLost k).lost.Plain := by
  intro h
  simp [addLost, Loss.add] at h

-- A worker that is told to give up counts what it had not settled as lost.
theorem giveUp_turns (owed : Nat) :
    Turns id .worker p owed ((if owed = 0 then p else p.addLost owed).finish id) := by
  by_cases howed : owed = 0
  · rw [if_pos howed, howed]
    exact turns_finish id .worker p
  · rw [if_neg howed]
    have hfinish := turns_finish id .worker (p.addLost owed)
    refine ⟨⟨rfl, rfl, rfl, rfl, fun _ => rfl, fun hc hb => ⟨hc, hb⟩⟩, ?_, hfinish.own,
      fun _ => hfinish.plain plain_addLost, fun hr => absurd rfl hr⟩
    have hlost : 0 + (p.addLost owed).lost.samples = owed + p.lost.samples := by
      simp only [addLost, Loss.add]
      omega
    have hmoves := moves_addLost id p (owed + p.lost.samples) owed
    rw [← hlost] at hmoves ⊢
    exact hmoves.trans hfinish.moves

theorem workOn_turns {stage : WorkerStage} (l : Link) (hd : p.Distinct)
    (h : p.find? id = some (.working stage)) (hs : (Activity.working stage).Sound p.target) :
    Turns id .worker p (Activity.working stage).samples (p.workOn l id stage).2.1 := by
  unfold workOn
  split
  · exact work_turns _ l hd
  · split
    · exact receive_turns (fun p l hd => work_turns _ l hd) l hd
    · exact turns_stay hd h hs
  · exact receive_turns (fun p l hd => work_turns _ l hd) l hd
  · rename_i batch owed s
    rw [Activity.samples_delivering]
    split
    · exact giveUp_turns owed
    · obtain ⟨docs, soFar, hsettles⟩ := hs
      have hcontinues := hsettles.resume l p.record
      have hrun := Continues.carries id hcontinues
      split
      · rename_i d l' record left hreached
        rw [hreached] at hcontinues hrun
        rw [hcontinues.finished d rfl] at hrun
        exact hrun.turns (work_turns _ _ (hrun.distinct hd))
      · rename_i s' l' record left hreached
        rw [hreached] at hcontinues hrun
        exact hrun.turns (delivering_turns (hrun.distinct hd) (hcontinues.suspended s' rfl))

end

-- Whose turn it is.

section

variable {id : Nat} {p : Pipeline}

theorem turn_of_none (l : Link) (h : p.find? id = none) : p.turn l id = (none, p, l) := by
  unfold turn
  rw [h]

-- Whether a worker has had no turn yet.
def isNew (p : Pipeline) (id : Nat) : Bool :=
  match p.find? id with
  | some (.working .new) => true
  | _ => false

theorem turn_of_isNew (l : Link) (h : p.isNew id = true) :
    p.turn l id = work id p.workFuel p l := by
  unfold isNew at h
  split at h
  · rename_i hfind
    unfold turn
    rw [hfind]
    rfl
  · cases h

theorem turn_of_ending {stage : ShutdownStage} (l : Link)
    (h : p.find? id = some (.ending stage)) : p.turn l id = p.endOn l id stage := by
  unfold turn
  rw [h]

theorem turn_of_working {stage : WorkerStage} (l : Link)
    (h : p.find? id = some (.working stage)) : p.turn l id = p.workOn l id stage := by
  unfold turn
  rw [h]

-- A turn that tries to hand over a batch, and goes on if that is over with.
theorem redeem_turns {a : Activity} {batch : Batch} {offer : Offer} {q r : Pipeline}
    (hd : p.Distinct) (h : p.find? id = some a) (hs : a.Sound p.target)
    (hheld : a.held? = some batch) (hredeem : p.redeem id batch = (offer, q))
    (hwaits : offer = .mustWait → r = q) (hgoes : offer ≠ .mustWait → Turns id a.role q 0 r) :
    Turns id a.role p a.samples r := by
  by_cases ho : offer = .mustWait
  · subst ho
    rw [hwaits rfl, redeem_mustWait hredeem]
    exact turns_stay hd h hs
  · have hredeemed := redeem_carries hredeem
    rw [Offer.left_eq_zero ho] at hredeemed
    rw [Activity.samples_of_held hheld]
    exact hredeemed.turns (hgoes ho)

theorem turn_turns {a : Activity} (l : Link) (hd : p.Distinct) (h : p.find? id = some a)
    (hs : a.Sound p.target) (hr : a.role ≠ .shutdown) :
    Turns id a.role p a.samples (p.turn l id).2.1 := by
  unfold turn
  rw [h]
  cases a with
  | adding batch trigger | flushing batch trigger =>
    dsimp only
    cases hredeem : p.redeem id batch with
    | mk offer q =>
      refine redeem_turns hd h hs rfl hredeem ?_ ?_
      · rintro rfl
        rfl
      · intro hne
        cases offer with
        | sent => exact turns_finish_senderGone id _ q
        | refused => exact turns_finish_senderGone id _ q
        | mustWait => exact absurd rfl hne
  | writing batch rest total =>
    dsimp only
    cases hredeem : p.redeem id batch with
    | mk offer q =>
      have hdq := (redeem_carries hredeem).distinct hd
      refine redeem_turns hd h hs rfl hredeem ?_ ?_
      · rintro rfl
        rfl
      · intro hne
        cases offer with
        | sent =>
          have hgone := (carries_remove id q 0).trans (carries_senderGone id _ 0)
          refine hgone.turns (write_turns _ _ _ (hgone.distinct hdq) ?_)
          rw [own_senderGone, own_remove]
        | refused => exact turns_finish_senderGone id _ q
        | mustWait => exact absurd rfl hne
  | starting period => exact runTimer_turns l period l.nanos hd
  | ticking period due next =>
    dsimp only
    split
    · exact turns_stay hd h hs
    · exact runTimer_turns l period due hd
  | tickFlushing period due batch =>
    dsimp only
    cases hredeem : p.redeem id batch with
    | mk offer q =>
      have hdq := (redeem_carries hredeem).distinct hd
      have hset := (carries_set id q 0 (.starting period)).trans (carries_senderGone id _ 0)
      refine redeem_turns hd h hs rfl hredeem ?_ ?_
      · rintro rfl
        rfl
      · intro hne
        cases offer with
        | sent => exact hset.turns (runTimer_turns l period due (hset.distinct hdq))
        | refused => exact hset.turns (runTimer_turns l period due (hset.distinct hdq))
        | mustWait => exact absurd rfl hne
  | closing batch limit => exact absurd rfl hr
  | ending stage => exact absurd rfl hr
  | working stage => exact workOn_turns l hd h hs

end

end MetricRelay.Write.Pipeline

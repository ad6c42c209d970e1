import MetricRelay.Proofs.Write.Repetition
import MetricRelay.Proofs.Write.Turning

-- Whether losses that are counted are also reported. Workers and the shutdown report what they
-- count. A client whose batch is refused counts it and reports nothing, and that happens to those
-- who wait for room in the queue when the shutdown returns.

namespace MetricRelay.Write

open Store (Link Routine Suspended)

-- How many samples the reports of one kind account for.
def Record.told (r : Record) (kind : ErrorKind) : Nat :=
  ((r.published.filter fun f => f.kind == kind).map Failure.samples).sum

theorem Record.told_publish (r : Record) (f : Failure) (kind : ErrorKind) :
    (r.publish f).told kind = r.told kind + if f.kind = kind then f.samples else 0 := by
  unfold told publish
  rw [List.filter_cons]
  by_cases hk : f.kind = kind
  · simp [hk, Nat.add_comm]
  · simp [hk]

@[simp] theorem Record.told_update (r : Record) (f : Stats → Stats) (kind : ErrorKind) :
    (r.update f).told kind = r.told kind := rfl

-- What is dropped or failed is reported as such, and nothing else is counted or reported.
structure Record.Tells (r r' : Record) : Prop where
  dropped : r'.stats.dropped + r.told .partialDocument = r.stats.dropped + r'.told .partialDocument
  failed : r'.stats.failed + r.told .transient = r.stats.failed + r'.told .transient
  lost : r'.stats.lost = r.stats.lost
  ended : r'.told .shutdownLoss = r.told .shutdownLoss

namespace Record

variable {r r' r'' : Record}

theorem Tells.refl (r : Record) : Tells r r := ⟨rfl, rfl, rfl, rfl⟩

theorem Tells.trans (h : Tells r r') (h' : Tells r' r'') : Tells r r'' := by
  refine ⟨?_, ?_, h'.lost.trans h.lost, h'.ended.trans h.ended⟩
  · have hb := h.dropped
    have hb' := h'.dropped
    omega
  · have hb := h.failed
    have hb' := h'.failed
    omega

-- What is counted as lost is reported as such, and nothing else is counted or reported.
structure Owns (r r' : Record) : Prop where
  dropped : r'.stats.dropped = r.stats.dropped ∧ r'.told .partialDocument = r.told .partialDocument
  failed : r'.stats.failed = r.stats.failed ∧ r'.told .transient = r.told .transient
  lost : r'.stats.lost + r.told .shutdownLoss = r.stats.lost + r'.told .shutdownLoss

theorem reckon_owns (r : Record) (loss : Loss) : r.Owns (r.reckon loss) := by
  unfold reckon
  split
  · exact ⟨⟨rfl, rfl⟩, ⟨rfl, rfl⟩, rfl⟩
  · have htold := told_publish (r.update fun s => s.addLoss loss.batches loss.samples)
      (.shutdownLoss loss.batches loss.samples)
    refine ⟨⟨rfl, ?_⟩, ⟨rfl, ?_⟩, ?_⟩
    · rw [htold]
      simp [Failure.kind]
    · rw [htold]
      simp [Failure.kind]
    · rw [htold, told_update]
      change r.stats.lost + loss.samples + _ = _ + (_ + loss.samples)
      omega

end Record

-- A relation between records that every note preserves.
structure Record.Noted (R : Record → Record → Prop) : Prop where
  refl : ∀ r, R r r
  trans : ∀ {r r' r''}, R r r' → R r' r'' → R r r''
  takeDown : ∀ target r owed note, R r (Delivery.takeDown target (r, owed) note).1

namespace Delivery

section

variable {α : Type} {R : Record → Record → Prop}

theorem run_noted (hR : Record.Noted R) (target : String) (routine : Routine Note α) (l : Link)
    (r : Record) (owed : Nat) : R r (routine.run (takeDown target) l (r, owed)).2.2.1 := by
  induction routine generalizing l r owed with
  | done a => exact hR.refl r
  | note n rest ih => exact hR.trans (hR.takeDown target r owed n) (ih l _ _)
  | clock next ih => exact ih _ l r owed
  | call c next ih =>
    unfold Routine.run
    split
    · exact ih _ _ r owed
    · exact hR.refl r
  | pause span next ih =>
    rw [Routine.run]
    generalize span.wholeMillis = ms
    dsimp only
    split
    · exact ih l r owed
    · exact hR.refl r

theorem resume_noted (hR : Record.Noted R) (target : String) (s : Suspended Note α) (l : Link)
    (r : Record) (owed : Nat) : R r (s.resume (takeDown target) l (r, owed)).2.2.1 := by
  cases s with
  | onCall c pending next =>
    unfold Suspended.resume
    dsimp only
    split
    · exact run_noted hR target _ _ r owed
    · exact hR.refl r
  | onTimer timer next =>
    unfold Suspended.resume
    dsimp only
    split
    · exact run_noted hR target _ l r owed
    · exact hR.refl r

end

theorem takeDown_tells (target : String) (r : Record) (owed : Nat) (note : Note) :
    r.Tells (takeDown target (r, owed) note).1 := by
  cases note with
  | settled written dropped reason left =>
    simp only [takeDown]
    split
    · exact ⟨rfl, rfl, rfl, rfl⟩
    · refine ⟨?_, ?_, rfl, ?_⟩
      · simp only [Record.told_publish, Failure.kind, Failure.samples, Record.told_update,
          stats_publish, stats_update, if_true]
        omega
      · simp [Record.told_publish, Failure.kind]
      · simp [Record.told_publish, Failure.kind]
  | retrying => exact ⟨rfl, rfl, rfl, rfl⟩
  | failed samples attempts error =>
    refine ⟨?_, ?_, rfl, ?_⟩
    · simp [takeDown, Record.told_publish, Failure.kind]
    · simp only [takeDown, Record.told_publish, Failure.kind, Failure.samples, Record.told_update,
        stats_publish, stats_update, if_true]
      omega
    · simp [takeDown, Record.told_publish, Failure.kind]

theorem tells_noted : Record.Noted Record.Tells :=
  ⟨Record.Tells.refl, Record.Tells.trans, takeDown_tells⟩

end Delivery

namespace Pipeline

-- What a turn of anybody but the shutdown does to the record, as long as the queue is open.
structure Reports (p q : Pipeline) : Prop where
  queue : q.intake.closed = p.intake.closed
  tells : p.intake.closed = false → p.record.Tells q.record

-- A turn after which nothing more is reported. As long as the queue is open nothing is lost in it,
-- and when no more samples are taken nothing but that is counted.
structure Silent (p q : Pipeline) : Prop where
  closed : p.closed = true → q.closed = true
  queue : q.intake.closed = p.intake.closed
  published : q.record.published = p.record.published
  accepted : p.closed = true → q.record.stats.accepted = p.record.stats.accepted
  written : q.record.stats.written = p.record.stats.written
  dropped : q.record.stats.dropped = p.record.stats.dropped
  failed : q.record.stats.failed = p.record.stats.failed
  lost : p.intake.closed = false → q.record.stats.lost = p.record.stats.lost

section

variable {id : Nat} {p q r : Pipeline} {hand last : Hand} {taken : List Sample}

theorem Silent.refl (p : Pipeline) : Silent p p :=
  ⟨fun hc => hc, rfl, rfl, fun _ => rfl, rfl, rfl, rfl, fun _ => rfl⟩

theorem Silent.trans (h : Silent p q) (h' : Silent q r) : Silent p r where
  closed hc := h'.closed (h.closed hc)
  queue := h'.queue.trans h.queue
  published := h'.published.trans h.published
  accepted hc := (h'.accepted (h.closed hc)).trans (h.accepted hc)
  written := h'.written.trans h.written
  dropped := h'.dropped.trans h.dropped
  failed := h'.failed.trans h.failed
  lost ho := (h'.lost (h.queue.trans ho)).trans (h.lost ho)

theorem Silent.told (h : Silent p q) (kind : ErrorKind) :
    q.record.told kind = p.record.told kind := by
  unfold Record.told
  rw [h.published]

theorem silent_of_record (hclosed : p.closed = true → q.closed = true)
    (hqueue : q.intake.closed = p.intake.closed) (hrecord : q.record = p.record) :
    Silent p q := by
  refine ⟨hclosed, hqueue, ?_, fun _ => ?_, ?_, ?_, ?_, fun _ => ?_⟩ <;> rw [hrecord]

theorem Shifts.silent (h : Shifts id p q) : Silent p q :=
  silent_of_record (fun hc => h.closed.trans hc) h.queue h.record

theorem silent_append {now : Nat} {s : Sample} {closed : Option (Trigger × Batch)}
    (ha : p.accepts = true) (h : p.append now s = (closed, q)) : Silent p q := by
  have hopen : p.closed ≠ true := by
    rw [closed_of_accepts ha]
    simp
  unfold append at h
  dsimp only at h
  split at h <;> cases h <;>
    exact ⟨fun hc => hc, rfl, rfl, fun hc => absurd hc hopen, rfl, rfl, rfl, fun _ => rfl⟩

theorem silent_expire {now : Nat} {closed : Option (Trigger × Batch)}
    (h : p.expire now = (closed, q)) : Silent p q := by
  unfold expire at h
  split at h
  · cases h
    exact .refl p
  · split at h <;> cases h <;> exact silent_of_record (fun hc => hc) rfl rfl

theorem silent_endIntake {now : Nat} {batch : Option Batch}
    (h : p.endIntake now = (batch, q)) : Silent p q := by
  unfold endIntake at h
  cases h
  have hends : ∀ b : Batch, Silent p { p with hasSender := false, closed := true, batch := b } :=
    fun b => silent_of_record (fun _ => rfl) rfl rfl
  generalize Option.isNone _ = gone
  cases gone with
  | true => exact (hends _).trans (shifts_senderGone 0 _).silent
  | false => exact hends _

-- An open queue refuses nothing, and a closed one only what was taken in before.
theorem silent_settleOffer {batch : Batch} {offer : Offer} {intake : Intake}
    (h : p.intake.Answers batch offer intake)
    (hrefused : offer = .refused → p.intake.closed = true) :
    Silent p ({ p with intake := intake }.settleOffer batch offer) := by
  cases offer with
  | sent => exact silent_of_record (fun hc => hc) h.closed rfl
  | refused =>
    refine ⟨fun hc => hc, h.closed, rfl, fun _ => rfl, rfl, rfl, rfl, fun hopen => ?_⟩
    rw [hrefused rfl] at hopen
    cases hopen
  | mustWait => exact silent_of_record (fun hc => hc) h.closed rfl

theorem Trace.silent (h : Trace id p hand taken q last) : Silent p q := by
  induction h with
  | stop => exact .refl _
  | shift h _ ih => exact h.silent.trans ih
  | @count p r hand last taken f h _ ih =>
    have hcount : Silent p (p.update f) :=
      ⟨fun hc => hc, rfl, rfl, fun _ => h.accepted, h.written, h.dropped, h.failed, fun _ => h.lost⟩
    exact hcount.trans ih
  | append ha h _ ih => exact (silent_append ha h).trans ih
  | expire h _ ih => exact (silent_expire h).trans ih
  | offer h hrefused _ ih => exact (silent_settleOffer h hrefused).trans ih
  | endIntake _ h _ ih => exact (silent_endIntake h).trans ih
  | giveUp _ ih => exact ih

theorem Turned.silent {samples : List Sample} (h : Turned id p hand samples q) : Silent p q := by
  obtain ⟨_, _, _, _, htrace, _⟩ := h
  exact htrace.silent

end

-- Workers.

-- A relation between pipelines that whatever a worker does preserves.
structure Worked (R : Pipeline → Pipeline → Prop) : Prop where
  trans : ∀ {p q r}, R p q → R q r → R p r
  shift : ∀ {id p q}, Shifts id p q → R p q
  pop : ∀ {p : Pipeline} {batch told intake}, p.intake.pop? = some (batch, told, intake) →
    R p { p with intake := intake }
  note : ∀ (p : Pipeline) target owed note,
    R p { p with record := (Delivery.takeDown target (p.record, owed) note).1 }
  giveUp : ∀ p n, R p (p.addLost n)

section

variable {id : Nat} {p : Pipeline} {R : Pipeline → Pipeline → Prop}

theorem Worked.noted (hR : Worked R) (p : Pipeline) :
    Record.Noted fun r r' => R { p with record := r } { p with record := r' } where
  refl _ := hR.shift (Shifts.refl 0 _)
  trans := hR.trans
  takeDown target r owed note := hR.note { p with record := r } target owed note

theorem stop_worked (hR : Worked R) : R p (p.releaseReceiver.finish id) :=
  hR.shift ((shifts_releaseReceiver id p).trans (shifts_finish id _))

theorem receive_worked (hR : Worked R) {fuel : Nat}
    (hwork : ∀ (p : Pipeline) (l : Link), R p (work id fuel p l).2.1) (l : Link) :
    R p (receive id fuel p l).2.1 := by
  unfold receive
  split
  · exact stop_worked hR
  · split
    · split
      · exact stop_worked hR
      · exact hR.shift (shifts_set id p _)
    · rename_i batch told intake hpop
      have hpopped : R p (({ p with intake := intake }.wake told.toList).releaseReceiver) :=
        hR.trans (hR.pop hpop) (hR.shift ((shifts_wake id _ _).trans (shifts_releaseReceiver id _)))
      dsimp only
      generalize (({ p with intake := intake }.wake told.toList).releaseReceiver) = q at hpopped ⊢
      have hnoted : R q { q with record := (q.deliverBatch l batch).2.2.1 } :=
        Delivery.run_noted (hR.noted q) q.target _ l q.record batch.size
      split
      · rename_i hreached
        rw [hreached] at hnoted
        exact hR.trans (hR.trans hpopped hnoted) (hwork _ _)
      · rename_i hreached
        rw [hreached] at hnoted
        exact hR.trans (hR.trans hpopped hnoted) (hR.shift (shifts_set id _ _))

theorem work_worked (hR : Worked R) (fuel : Nat) (l : Link) : R p (work id fuel p l).2.1 := by
  induction fuel generalizing p l with
  | zero =>
    unfold work
    exact hR.shift (shifts_set id p _)
  | succ fuel ih =>
    unfold work
    have htaken := hR.shift (shifts_takeReceiver id p)
    split
    · rename_i htake
      rw [htake] at htaken
      exact hR.trans htaken (hR.shift (shifts_set id _ _))
    · rename_i htake
      rw [htake] at htaken
      exact hR.trans htaken (receive_worked hR (fun p l => ih l) l)

theorem workOn_worked (hR : Worked R) (l : Link) (stage : WorkerStage) :
    R p (p.workOn l id stage).2.1 := by
  unfold workOn
  split
  · exact work_worked hR _ l
  · split
    · exact receive_worked hR (fun p l => work_worked hR _ l) l
    · exact hR.shift (Shifts.refl id p)
  · exact receive_worked hR (fun p l => work_worked hR _ l) l
  · rename_i batch owed s
    split
    · dsimp only
      split
      · exact hR.shift (shifts_finish id p)
      · -- what a worker gives up is left to the shutdown to count
        exact hR.trans (hR.giveUp p owed) (hR.shift (shifts_finish id _))
    · have hnoted : R p { p with record :=
          (s.resume (Delivery.takeDown p.target) l (p.record, owed)).2.2.1 } :=
        Delivery.resume_noted (hR.noted p) p.target s l p.record owed
      split
      · rename_i hreached
        rw [hreached] at hnoted
        exact hR.trans hnoted (work_worked hR _ _)
      · rename_i hreached
        rw [hreached] at hnoted
        exact hR.trans hnoted (hR.shift (shifts_set id _ _))

end

-- Beside the record workers change what does not matter to it.
structure Works (R : Record → Record → Prop) (p q : Pipeline) : Prop where
  queue : q.intake.closed = p.intake.closed
  record : R p.record q.record

section

variable {id : Nat} {p : Pipeline} {R : Record → Record → Prop}

theorem works_worked (hR : Record.Noted R) : Worked (Works R) where
  trans h h' := ⟨h'.queue.trans h.queue, hR.trans h.record h'.record⟩
  shift h := ⟨h.queue, by rw [h.record]; exact hR.refl _⟩
  pop h := ⟨(Intake.pop?_eq_some h).2, hR.refl _⟩
  note p target owed note := ⟨rfl, hR.takeDown target p.record owed note⟩
  giveUp p _ := ⟨rfl, hR.refl p.record⟩

theorem workOn_works (hR : Record.Noted R) (l : Link) (stage : WorkerStage) :
    Works R p (p.workOn l id stage).2.1 :=
  workOn_worked (works_worked hR) l stage

theorem workOn_reports (l : Link) (stage : WorkerStage) :
    Reports p (p.workOn l id stage).2.1 :=
  have h := workOn_works Delivery.tells_noted l stage
  ⟨h.queue, fun _ => h.record⟩

end

-- The shutdown.

theorem conclude_record (p : Pipeline) (id : Nat) (report : Loss) :
    (p.conclude id report).2.record = p.record.reckon (report.add p.lost) := by
  unfold conclude Record.reckon
  dsimp only
  split <;> rfl

theorem collect_record (p : Pipeline) (id : Nat) (report : Loss) :
    ∃ loss, (p.collect id report).2.record = p.record.reckon loss := by
  unfold collect
  dsimp only [Intake.close, Intake.clear]
  rw [foldl_addLost, conclude_record, (shifts_releaseReceiver id _).record]
  exact ⟨_, rfl⟩

theorem collect_owns (p : Pipeline) (id : Nat) (report : Loss) :
    p.record.Owns (p.collect id report).2.record := by
  obtain ⟨loss, hrecord⟩ := collect_record p id report
  rw [hrecord]
  exact Record.reckon_owns p.record loss

end Pipeline

def Ending.isOver : Ending → Bool
  | .returned _ => true
  | _ => false

namespace Course

open Pipeline

-- Samples of the clients that wait for room in the queue at the moment the shutdown returns.
def stranded (c : Course) : List Event → Nat
  | [] => 0
  | e :: rest =>
    if !c.ending.isOver && (c.step e).ending.isOver then (c.step e).pipeline.waiting
    else (c.step e).stranded rest

-- What is counted is reported, but for `n` samples that clients had in hand when the queue was
-- closed.
structure Candid (n : Nat) (c : Course) : Prop where
  dropped : c.pipeline.record.stats.dropped = c.pipeline.record.told .partialDocument
  failed : c.pipeline.record.stats.failed = c.pipeline.record.told .transient
  before : c.ending.isOver = false → c.pipeline.intake.closed = false ∧
    c.pipeline.record.stats.lost = c.pipeline.record.told .shutdownLoss
  after : c.ending.isOver = true → c.pipeline.record.stats.lost + c.pipeline.waiting =
    c.pipeline.record.told .shutdownLoss + n

section

variable {c : Course} {id : Nat} {q : Pipeline} {n : Nat}

-- After the return.

theorem over_of_isOver (hc : c.Sound) (h : c.ending.isOver = true) : c.pipeline.Over := by
  have hduring := hc.during
  cases hending : c.ending with
  | returned r =>
    rw [hending] at hduring
    exact hduring
  | notBegun => rw [hending] at h; cases h
  | underWay id => rw [hending] at h; cases h

theorem clients_of_over (h : c.pipeline.Over) : ∀ e ∈ c.pipeline.activities, e.2.role = .client := by
  intro e he
  have hallows := h.staffed e he
  cases hrole : e.2.role with
  | client => rfl
  | _ =>
    rw [hrole] at hallows
    cases hallows

-- What was taken in is settled, or still in the hands of a client.
theorem balance_of_isOver (hc : c.Sound) (h : c.ending.isOver = true) :
    c.pipeline.record.stats.accepted =
      c.pipeline.record.stats.settled + c.pipeline.waiting := by
  have hover := over_of_isOver hc h
  have hbalance := hc.balance
  have hunreported : c.pipeline.unreported c.ending = 0 := by
    cases hending : c.ending with
    | returned r => rfl
    | _ => rw [hending] at h; cases h
  rw [hunreported, held_clients (clients_of_over hover)] at hbalance
  have hpending := hover.shut.empty
  have hqueued : c.pipeline.queued = 0 := by
    unfold queued
    rw [hover.emptied.empty]
    rfl
  unfold placed at hbalance
  unfold waiting
  omega

-- Counters of losses move with the batches of those who wait.
theorem candid_of_over {d : Course} (hc : c.Sound) (hd : d.Sound) (h : Candid n c)
    (hover : c.ending.isOver = true) (hover' : d.ending.isOver = true)
    (hsilent : Silent c.pipeline d.pipeline) : Candid n d := by
  have hbefore := balance_of_isOver hc hover
  have hafter := balance_of_isOver hd hover'
  have hclosed := (over_of_isOver hc hover).shut.closed
  have hold := h.after hover
  rw [hsilent.accepted hclosed] at hafter
  unfold Stats.settled at hbefore hafter
  rw [hsilent.written, hsilent.dropped, hsilent.failed] at hafter
  refine ⟨?_, ?_, fun hnot => ?_, fun _ => ?_⟩
  · rw [hsilent.dropped, hsilent.told, h.dropped]
  · rw [hsilent.failed, hsilent.told, h.failed]
  · rw [hover'] at hnot
    cases hnot
  · rw [hsilent.told]
    omega

-- How a step may go: nobody reports anything, or a worker does, or the shutdown returns.
inductive Goes (c d : Course) : Prop
  | silent (hover : d.ending.isOver = c.ending.isOver)
      (h : Silent c.pipeline d.pipeline)
  | works (hc : c.ending.isOver = false) (hd : d.ending.isOver = false)
      (h : Reports c.pipeline d.pipeline)
  | returns (hc : c.ending.isOver = false) (hd : d.ending.isOver = true)
      (p : Pipeline) (h : Silent c.pipeline p) (h' : p.record.Owns d.pipeline.record)

theorem goes_of_heads {hand : Hand} {result : Option Result}
    (h : Heads id c.pipeline hand result q) (hc : c.ending.isOver = false) (l : Link)
    (next : Nat) : Goes c ⟨q, l, next, (Ending.underWay id).after id result⟩ := by
  cases h with
  | goesOn h => exact .silent hc.symm h.silent
  | @collects p report h =>
    have hreturned : (Ending.underWay id).after id (some (p.collect id report).1) =
        .returned (p.collect id report).1 := if_pos rfl
    refine .returns hc ?_ p h.silent (collect_owns p id report)
    rw [hreturned]
    rfl

theorem turn_goes (hc : c.Sound) (id : Nat) : Goes c (c.step (.turn id)) := by
  change Goes c ⟨(c.pipeline.turn c.link id).2.1, (c.pipeline.turn c.link id).2.2, c.next,
    c.ending.after id (c.pipeline.turn c.link id).1⟩
  have htakes := turn_takes hc id
  generalize c.pipeline.turn c.link id = turn at htakes
  obtain ⟨result, q, l⟩ := turn
  cases htakes with
  | nobody =>
    have hending : c.ending.after id none = c.ending := by
      cases c.ending <;> rfl
    rw [hending]
    exact .silent rfl (.refl _)
  | carries hown h hl hending =>
    rw [hending]
    exact .silent rfl h.silent
  | shutsDown hending hat h hl =>
    rw [hending]
    exact goes_of_heads h (by rw [hending]; rfl) _ _
  | @works stage hown hending =>
    rw [hending]
    have hnot : c.ending.isOver = false := by
      rw [← Bool.not_eq_true]
      intro hover
      have ha : (id, .working stage) ∈ c.pipeline.activities := by
        have hmem : (id, .working stage) ∈ c.pipeline.own id := by simp [hown]
        exact (mem_own_iff.mp hmem).1
      cases clients_of_over (over_of_isOver hc hover) _ ha
    exact .works hnot hnot (workOn_reports c.link stage)

theorem step_goes (hc : c.Sound) (e : Event) : Goes c (c.step e) := by
  have hnew := own_next hc
  cases e with
  | add s => exact .silent rfl (add_turned _ s hc.distinct hnew).silent
  | write samples => exact .silent rfl (write_turned _ _ samples hc.distinct hnew).silent
  | tryAdd s => exact .silent rfl (tryAdd_turned _ s hnew).silent
  | flushExpired => exact .silent rfl (flushExpired_turned _ hc.distinct hnew).silent
  | turn id => exact turn_goes hc id
  | shutDown =>
    unfold step
    dsimp only
    split
    · rename_i hending
      have hduring := hc.during
      rw [hending] at hduring
      exact goes_of_heads (shutDown_heads c.link hc.distinct hduring.1) (by rw [hending]; rfl) _ _
    · exact .silent rfl (.refl _)
  | world l => exact .silent rfl (.refl _)

theorem step_candid (hc : c.Sound) (h : Candid n c) (e : Event) :
    Candid (if !c.ending.isOver && (c.step e).ending.isOver then
      (c.step e).pipeline.waiting else n) (c.step e) := by
  have hd := step_sound hc e
  have hgoes := step_goes hc e
  generalize c.step e = d at hd hgoes ⊢
  cases hgoes with
  | silent hover hsilent =>
    rw [hover, Bool.not_and_self, if_neg Bool.false_ne_true]
    by_cases ho : c.ending.isOver = true
    · exact candid_of_over hc hd h ho (hover.trans ho) hsilent
    · have ho := Bool.eq_false_iff.mpr ho
      obtain ⟨hopen, hlost⟩ := h.before ho
      refine ⟨?_, ?_, fun _ => ⟨hsilent.queue.trans hopen, ?_⟩, fun hnow => ?_⟩
      · rw [hsilent.dropped, hsilent.told, h.dropped]
      · rw [hsilent.failed, hsilent.told, h.failed]
      · rw [hsilent.lost hopen, hsilent.told, hlost]
      · rw [hover, ho] at hnow
        cases hnow
  | works ho ho' hreports =>
    rw [ho', Bool.and_false, if_neg Bool.false_ne_true]
    obtain ⟨hopen, hlost⟩ := h.before ho
    have htells := hreports.tells hopen
    have hdropped := htells.dropped
    have hfailed := htells.failed
    rw [h.dropped] at hdropped
    rw [h.failed] at hfailed
    refine ⟨by omega, by omega, fun _ => ⟨hreports.queue.trans hopen, ?_⟩, fun hnow => ?_⟩
    · rw [htells.lost, htells.ended, hlost]
    · rw [ho'] at hnow
      cases hnow
  | returns ho ho' p hsilent howns =>
    rw [ho, ho', Bool.not_false, Bool.and_true, if_pos rfl]
    obtain ⟨hopen, hlost⟩ := h.before ho
    have hreturn := howns.lost
    rw [hsilent.lost hopen, hsilent.told, hlost] at hreturn
    refine ⟨?_, ?_, fun hnot => ?_, fun _ => by omega⟩
    · rw [howns.dropped.1, howns.dropped.2, hsilent.dropped, hsilent.told, h.dropped]
    · rw [howns.failed.1, howns.failed.2, hsilent.failed, hsilent.told, h.failed]
    · rw [ho'] at hnot
      cases hnot

theorem isOver_step (hc : c.Sound) (hover : c.ending.isOver = true) (e : Event) :
    (c.step e).ending.isOver = true := by
  cases step_goes hc e with
  | silent hsame _ => exact hsame.trans hover
  | works ho _ _ => rw [ho] at hover; cases hover
  | returns ho _ _ _ _ => rw [ho] at hover; cases hover

theorem after_candid (hc : c.Sound) (h : Candid n c) (events : List Event) :
    Candid (if c.ending.isOver then n else c.stranded events) (c.after events) := by
  induction events generalizing c n with
  | nil =>
    change Candid _ c
    by_cases ho : c.ending.isOver = true
    · rw [if_pos ho]
      exact h
    · rw [if_neg ho]
      exact ⟨h.dropped, h.failed, h.before, fun hover => absurd hover ho⟩
  | cons e rest ih =>
    have hstep := ih (step_sound hc e) (step_candid hc h e)
    change Candid _ ((c.step e).after rest)
    by_cases ho : c.ending.isOver = true
    · simpa [ho, isOver_step hc ho e] using hstep
    · -- the shutdown returns with this step, or it does so later
      by_cases ho' : (c.step e).ending.isOver = true
      · simpa [ho, ho', stranded] using hstep
      · simpa [ho, ho', stranded] using hstep

end

theorem begin_candid {config : Config} (hv : config.validate = .ok ()) (target : String) (l : Link)
    (first : Nat) : ∃ c, begin config target l first = .ok c ∧ c.Sound ∧ Candid 0 c ∧
      c.ending.isOver = false := by
  obtain ⟨c, hbegin, hc⟩ := begin_sound hv target l first
  refine ⟨c, hbegin, hc, ?_⟩
  unfold begin Pipeline.start at hbegin
  rw [hv] at hbegin
  cases hbegin
  exact ⟨⟨rfl, rfl, fun _ => ⟨rfl, rfl⟩, fun h => by cases h⟩, rfl⟩

-- Dropped and failed samples are all reported, and lost ones are until the shutdown returns. Then
-- those are missing from the reports that clients had in hand who waited for room at that moment:
-- each of their batches is counted as lost when its client has its next turn.
theorem losses_reported (config : Config) (hv : config.validate = .ok ()) (target : String)
    (l : Link) (first : Nat) :
    ∃ c, begin config target l first = .ok c ∧ ∀ events,
      let d := c.after events
      let r := d.pipeline.record
      r.stats.dropped = r.told .partialDocument ∧ r.stats.failed = r.told .transient ∧
      (d.ending.isOver = false → r.stats.lost = r.told .shutdownLoss) ∧
      (d.ending.isOver = true →
        r.stats.lost + d.pipeline.waiting = r.told .shutdownLoss + c.stranded events ∧
        ((∀ e ∈ d.pipeline.activities, e.2.role ≠ .client) →
          (r.stats.lost = r.told .shutdownLoss ↔ c.stranded events = 0))) := by
  obtain ⟨c, hbegin, hc, hcandid, hnot⟩ := begin_candid hv target l first
  refine ⟨c, hbegin, fun events => ?_⟩
  have hafter := after_candid hc hcandid events
  rw [hnot, if_neg Bool.false_ne_true] at hafter
  have hsound := after_sound hc events
  generalize c.after events = d at hafter hsound
  refine ⟨hafter.dropped, hafter.failed, fun ho => (hafter.before ho).2, fun ho => ?_⟩
  have hlost := hafter.after ho
  refine ⟨hlost, fun hidle => ?_⟩
  have hnobody : d.pipeline.activities = [] := by
    refine List.eq_nil_iff_forall_not_mem.mpr fun e he => ?_
    exact hidle e he (clients_of_over (over_of_isOver hsound ho) e he)
  have hwaiting : d.pipeline.waiting = 0 := by
    unfold waiting
    rw [hnobody]
    rfl
  omega

-- A queue for one batch, batches of one sample, and no time for the workers at the end.
private def abrupt : Config :=
  { (default : Config) with
    batch := ⟨none, some 1, none⟩, queueCapacity := 1, drainTimeout := .zero }

private def quiet : Link := ⟨.empty, .manual 0, 0, ∅, [], 0, 0⟩

private def single : Sample := ⟨"misses", ∅, 0, .zero false, by decide⟩

-- The second client waits for room until the shutdown has closed the queue.
private def untilRefused : List Event :=
  [.add single, .add single, .shutDown, .turn 1, .turn 4] ++ [.turn 0, .turn 4, .turn 3]

-- Of two samples that were lost one is reported.
theorem loss_unreported :
    ∃ c, begin abrupt "metrics" quiet 0 = .ok c ∧
      let d := c.after untilRefused
      d.ending = .returned (.error (.shutdownLoss 1 1)) ∧
      d.pipeline.activities.isEmpty = true ∧
      d.pipeline.record.stats.lost = 2 ∧ d.pipeline.record.told .shutdownLoss = 1 := by
  refine ⟨_, rfl, ?_⟩
  generalize hc : Course.mk _ _ _ _ = c
  generalize hd : c.after [.add single, .add single, .shutDown, .turn 1, .turn 4] = d
  obtain ⟨hnew, hdismissed, hnobody, hline⟩ : d.pipeline.isNew 0 = true ∧
      d.pipeline.dismissed = true ∧ d.pipeline.receiver = none ∧ d.pipeline.line = [] := by
    subst hd hc
    decide +kernel
  -- the worker's recursion is opened by hand, everything else is evaluated
  have hturn : d.step (.turn 0) = { d with
      pipeline := d.pipeline.finish 0
      ending := d.ending.after 0 (some (.ok .workerStopped)) } := by
    unfold Course.step
    dsimp only
    rw [turn_dismissed d.link hnew hdismissed hnobody hline]
  have hafter : c.after untilRefused = ((d.step (.turn 0)).step (.turn 4)).step (.turn 3) := by
    unfold untilRefused
    rw [after_append, hd]
    rfl
  rw [hafter, hturn]
  subst hd hc
  decide +kernel

theorem losses_reported_of_abrupt :
    abrupt.validate = .ok () ∧ ∃ c, begin abrupt "metrics" quiet 0 = .ok c ∧ ∀ events,
      let d := c.after events
      let r := d.pipeline.record
      r.stats.dropped = r.told .partialDocument ∧ r.stats.failed = r.told .transient ∧
      (d.ending.isOver = false → r.stats.lost = r.told .shutdownLoss) ∧
      (d.ending.isOver = true →
        r.stats.lost + d.pipeline.waiting = r.told .shutdownLoss + c.stranded events ∧
        ((∀ e ∈ d.pipeline.activities, e.2.role ≠ .client) →
          (r.stats.lost = r.told .shutdownLoss ↔ c.stranded events = 0))) :=
  have hv : abrupt.validate = .ok () := by rfl
  ⟨hv, losses_reported abrupt hv "metrics" quiet 0⟩

end Course

end MetricRelay.Write

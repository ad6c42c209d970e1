import MetricRelay.Proofs.Write.Turns

-- The stages of a shutdown. It waits for the age timer, closes the intake and waits for the
-- workers, so that nobody is left who could lose a sample once it has counted the losses.

namespace MetricRelay.Write

open Store (Link)

-- Who may be active besides the clients.
structure Staff where
  timer : Option Nat
  workers : List Nat
  shutdown : Option Nat

def Staff.allows (staff : Staff) (id : Nat) : Role → Prop
  | .client => True
  | .timer => staff.timer = some id
  | .shutdown => staff.shutdown = some id
  | .worker => id ∈ staff.workers

namespace Pipeline

def Staffed (p : Pipeline) (staff : Staff) : Prop :=
  ∀ e ∈ p.activities, staff.allows e.1 e.2.role

-- Nothing is taken in any more, and the last batch has left.
structure Shut (p : Pipeline) : Prop where
  closed : p.closed = true
  empty : p.pending = 0

-- Nothing can come into the queue any more.
structure Emptied (p : Pipeline) : Prop where
  closed : p.intake.closed = true
  empty : p.intake.batches = []

section

variable {id : Nat} {p q : Pipeline} {n m : Nat} {staff : Staff} {timer : Option Nat}
  {workers : List Nat} {shutdown : Option Nat}

theorem Staffed.moves (h : p.Staffed staff) (ho : q.others id = p.others id)
    (hown : ∀ e ∈ q.own id, staff.allows id e.2.role) : q.Staffed staff := by
  intro e he
  by_cases hid : e.1 = id
  · rw [hid]
    exact hown e (mem_own_iff.mpr ⟨he, hid⟩)
  · have hother := mem_others_iff.mpr ⟨he, hid⟩
    rw [ho] at hother
    exact h e (mem_others_iff.mp hother).1

theorem Staffed.congr (h : p.Staffed staff) (ha : q.activities = p.activities) :
    q.Staffed staff := by
  unfold Staffed
  rw [ha]
  exact h

theorem not_mem_of_not_isActive {e : Nat × Activity} (h : ¬ p.isActive e.1 = true) :
    e ∉ p.activities :=
  fun he => h (List.any_eq_true.mpr ⟨e, he, by simp⟩)

-- Other staff will do if it has everyone who is active.
theorem Staffed.instead {staff' : Staff} (h : p.Staffed staff)
    (htimer : ∀ e ∈ p.activities, staff.timer = some e.1 → staff'.timer = some e.1)
    (hworkers : ∀ e ∈ p.activities, e.1 ∈ staff.workers → e.1 ∈ staff'.workers)
    (hshutdown : ∀ e ∈ p.activities, staff.shutdown = some e.1 → staff'.shutdown = some e.1) :
    p.Staffed staff' := by
  intro e he
  have hallows := h e he
  generalize e.2.role = role at hallows ⊢
  cases role with
  | client => trivial
  | timer => exact htimer e he hallows
  | shutdown => exact hshutdown e he hallows
  | worker => exact hworkers e he hallows

theorem Staffed.withoutTimer {t : Nat} (h : p.Staffed ⟨some t, workers, shutdown⟩)
    (ht : ¬ p.isActive t = true) : p.Staffed ⟨none, workers, shutdown⟩ := by
  refine h.instead (fun e he htimer => ?_) (fun _ _ hw => hw) fun _ _ hs => hs
  have hid : t = e.1 := Option.some.inj htimer
  exact absurd he (not_mem_of_not_isActive (hid ▸ ht))

theorem Staffed.withoutWorkers (h : p.Staffed ⟨timer, workers, shutdown⟩)
    (hw : ¬ p.anyActive workers = true) : p.Staffed ⟨timer, [], shutdown⟩ := by
  refine h.instead (fun _ _ ht => ht) (fun e he hworker => ?_) fun _ _ hs => hs
  refine absurd he (not_mem_of_not_isActive fun hactive => hw ?_)
  exact List.any_eq_true.mpr ⟨e.1, hworker, hactive⟩

theorem Staffed.withoutShutdown (h : p.Staffed ⟨timer, workers, some id⟩)
    (hown : p.own id = []) : p.Staffed ⟨timer, workers, none⟩ := by
  refine h.instead (fun _ _ ht => ht) (fun _ _ hw => hw) fun e he hshutdown => ?_
  have hid : id = e.1 := Option.some.inj hshutdown
  have hmem := mem_own_iff.mpr ⟨he, hid.symm⟩
  rw [hown] at hmem
  cases hmem

theorem Staffed.withShutdown (h : p.Staffed ⟨timer, workers, none⟩) :
    p.Staffed ⟨timer, workers, some id⟩ :=
  h.instead (fun _ _ ht => ht) (fun _ _ hw => hw) fun _ _ hs => by cases hs

theorem Shut.frame (h : p.Shut) (hf : Frame p q) : q.Shut := by
  refine ⟨hf.closed.trans h.closed, ?_⟩
  unfold pending
  rw [hf.batch h.closed]
  exact h.empty

end

-- Who is still active at a stage.
def staffAt (p : Pipeline) (id : Nat) : ShutdownStage → Staff
  | .awaitingTimer _ timer => ⟨some timer, p.workers, some id⟩
  | .closing _ _ _ => ⟨none, p.workers, some id⟩
  | .joining workers _ _ => ⟨none, workers, some id⟩
  | .dismissing workers _ => ⟨none, workers, some id⟩
  | .collecting _ => ⟨none, [], some id⟩

-- Whether samples are still taken at a stage.
def doorAt (p : Pipeline) : ShutdownStage → Prop
  | .awaitingTimer _ _ => p.hasSender = true
  | _ => p.Shut

structure AtStage (p : Pipeline) (id : Nat) (stage : ShutdownStage) : Prop where
  here : p.own id = [(id, .ending stage)]
  staffed : p.Staffed (p.staffAt id stage)
  door : p.doorAt stage
  plain : (Activity.ending stage).report.Plain

-- What holds for good once a shutdown has returned.
structure Over (p : Pipeline) : Prop where
  shut : p.Shut
  emptied : p.Emptied
  staffed : p.Staffed ⟨none, [], none⟩

-- What becomes of a pipeline when its shutdown has a turn with `n` samples in hand. With its
-- return they are counted, and so are those that workers gave up.
structure Ends (id : Nat) (p : Pipeline) (n : Nat) (result : Option Result) (q : Pipeline) :
    Prop where
  goesOn : result = none →
    Moves id p (n + p.lost.samples) q (held (q.own id) + q.lost.samples) ∧
      ∃ stage, q.AtStage id stage
  returns : result.isSome = true →
    Moves id p (n + p.lost.samples) q 0 ∧ q.own id = [] ∧ q.Over
  plain : q.lost.Plain

section

variable {id : Nat} {p q r : Pipeline} {n m : Nat} {report : Loss} {workers : List Nat}

theorem Moves.ends {result : Option Result}
    (h : Moves id p (n + p.lost.samples) q (m + q.lost.samples)) (h' : Ends id q m result r) :
    Ends id p n result r where
  goesOn hn := ⟨h.trans (h'.goesOn hn).1, (h'.goesOn hn).2⟩
  returns hs := ⟨h.trans (h'.returns hs).1, (h'.returns hs).2⟩
  plain := h'.plain

theorem Carries.ends {result : Option Result} (h : Carries id p n q m)
    (h' : Ends id q m result r) : Ends id p n result r := by
  refine Moves.ends ?_ h'
  rw [h.lost]
  exact h.toMoves.add p.lost.samples

theorem ends_set {stage : ShutdownStage} (hd : p.Distinct)
    (hn : (Activity.ending stage).samples = n) (hs : p.Staffed (p.staffAt id stage))
    (hdoor : p.doorAt stage) (hreport : (Activity.ending stage).report.Plain)
    (hlost : p.lost.Plain) : Ends id p n none (p.set id (.ending stage)) := by
  have hset := carries_set id p n (.ending stage)
  have hown := own_set hd id (.ending stage)
  refine ⟨fun _ => ⟨?_, stage, hown, ?_, ?_, hreport⟩, fun h => (by cases h), hset.lost ▸ hlost⟩
  · rw [hown, hset.lost]
    simpa [held, hn] using hset.toMoves.add p.lost.samples
  · have hstaff : (p.set id (.ending stage)).staffAt id stage = p.staffAt id stage := by
      cases stage <;> simp [staffAt, hset.workers]
    rw [hstaff]
    refine hs.moves hset.others fun e he => ?_
    rw [hown] at he
    rw [List.mem_singleton.mp he]
    cases stage <;> rfl
  · cases stage with
    | awaitingTimer deadline timer => exact hset.hasSender.trans hdoor
    | _ => exact Shut.frame hdoor hset.toFrame

-- The last stage.

theorem foldl_addLost (batches : List Batch) (p : Pipeline) :
    batches.foldl (fun p b => p.addLost b.size) p =
      { p with lost := p.lost.add ⟨batches.length, (batches.map Batch.size).sum⟩ } := by
  induction batches generalizing p with
  | nil => simp [Loss.add]
  | cons b rest ih =>
    rw [List.foldl_cons, ih]
    simp only [addLost, Loss.add, List.length_cons, List.map_cons, List.sum_cons]
    congr 2 <;> omega

theorem conclude_ends (hshut : p.Shut) (hemptied : p.Emptied)
    (hs : p.Staffed ⟨none, [], some id⟩) (hreport : report.Plain) (hlost : p.lost.Plain) :
    Ends id p report.samples (some (p.conclude id report).1) (p.conclude id report).2 := by
  have hfinish := carries_finish id p 0
  have hgone := own_finish p id
  have hnone : ∀ e ∈ (p.finish id).own id,
      (⟨none, [], some id⟩ : Staff).allows id e.2.role := by
    rw [hgone]
    exact fun e he => absurd he List.not_mem_nil
  have hover : ∀ record : Record, ({ p.finish id with record := record } : Pipeline).Over :=
    fun record => ⟨⟨hfinish.closed.trans hshut.closed, (hshut.frame hfinish.toFrame).empty⟩,
      ⟨(hfinish.intake hemptied.closed hemptied.empty).1,
        (hfinish.intake hemptied.closed hemptied.empty).2⟩,
      (Staffed.withoutShutdown (hs.moves hfinish.others hnone) hgone).congr rfl⟩
  have hbalance := hfinish.balance
  unfold conclude
  dsimp only
  split
  · rename_i hnone
    have hsum : report.samples + p.lost.samples = 0 := by
      simp only [Loss.add] at hnone
      have := hreport (by omega)
      have := hlost (by omega)
      omega
    refine ⟨fun h => (by cases h), fun _ => ⟨?_, hgone, hover _⟩, hfinish.lost ▸ hlost⟩
    rw [hsum]
    exact hfinish.toMoves
  · refine ⟨fun h => (by cases h), fun _ => ⟨?_, hgone, hover _⟩, hfinish.lost ▸ hlost⟩
    refine ⟨?_, hfinish.others, hfinish.distinct, hfinish.target⟩
    simp only [placed, pending, queued, update, Record.update, Record.publish, Stats.addLoss,
      Stats.settled, Loss.add] at hbalance ⊢
    omega

theorem Emptied.frame (h : p.Emptied) (hf : Frame p q) : q.Emptied :=
  ⟨(hf.intake h.closed h.empty).1, (hf.intake h.closed h.empty).2⟩

theorem activities_releaseReceiver (p : Pipeline) :
    p.releaseReceiver.activities = p.activities := by
  unfold releaseReceiver
  split <;> rfl

theorem activities_takeReceiver (p : Pipeline) (id : Nat) :
    (p.takeReceiver id).2.activities = p.activities := by
  unfold takeReceiver
  split <;> rfl

theorem plain_add_sizes {lost : Loss} (h : lost.Plain) (batches : List Batch) :
    (lost.add ⟨batches.length, (batches.map Batch.size).sum⟩).Plain := by
  intro hzero
  simp only [Loss.add] at hzero ⊢
  have hnil : batches = [] := List.length_eq_zero_iff.mp (by omega)
  rw [h (by omega), hnil]
  rfl

-- What is left in the queue is counted with what workers gave up.
theorem collect_ends (hshut : p.Shut) (hs : p.Staffed ⟨none, [], some id⟩)
    (hreport : report.Plain) (hlost : p.lost.Plain) :
    Ends id p report.samples (some (p.collect id report).1) (p.collect id report).2 := by
  unfold collect
  dsimp only [Intake.close, Intake.clear]
  rw [foldl_addLost]
  generalize hcleared : Pipeline.wake _ _ = q
  have hmoves : Moves id p (report.samples + p.lost.samples) q
      (report.samples + q.lost.samples) := by
    subst hcleared
    refine ⟨?_, rfl, fun hd => hd, rfl⟩
    simp only [placed, pending, queued, wake, Loss.add, List.map_nil, List.sum_nil]
    omega
  have hshut' : q.Shut := by
    subst hcleared
    exact ⟨hshut.closed, hshut.empty⟩
  have hemptied : q.Emptied := by
    subst hcleared
    exact ⟨rfl, rfl⟩
  have hs' : q.Staffed ⟨none, [], some id⟩ := by
    subst hcleared
    exact hs.congr rfl
  have hlost' : q.lost.Plain := by
    subst hcleared
    exact plain_add_sizes hlost p.intake.batches
  have hrelease := carries_releaseReceiver id q report.samples
  exact hmoves.ends (hrelease.ends (conclude_ends (hshut'.frame hrelease.toFrame)
    (hemptied.frame hrelease.toFrame) (hs'.congr (activities_releaseReceiver q)) hreport
    (hrelease.lost ▸ hlost')))

theorem beginCollect_ends (l : Link) (hd : p.Distinct) (hshut : p.Shut)
    (hs : p.Staffed ⟨none, [], some id⟩) (hreport : report.Plain) (hlost : p.lost.Plain) :
    Ends id p report.samples (p.beginCollect l id report).1 (p.beginCollect l id report).2.1 := by
  unfold beginCollect
  have htaken := carries_takeReceiver id p report.samples
  have hactivities := activities_takeReceiver p id
  split
  · rename_i q htake
    rw [htake] at htaken hactivities
    exact htaken.ends (collect_ends (hshut.frame htaken.toFrame) (hs.congr hactivities) hreport
      (htaken.lost ▸ hlost))
  · rename_i q htake
    rw [htake] at htaken hactivities
    exact htaken.ends (ends_set (htaken.distinct hd) (Activity.samples_of_report rfl rfl)
      (hs.congr hactivities) (hshut.frame htaken.toFrame) hreport (htaken.lost ▸ hlost))

theorem beginDismiss_ends (l : Link) (hd : p.Distinct) (hshut : p.Shut)
    (hs : p.Staffed ⟨none, workers, some id⟩) (hreport : report.Plain) (hlost : p.lost.Plain) :
    Ends id p report.samples (p.beginDismiss l id workers report).1
      (p.beginDismiss l id workers report).2.1 := by
  have hdismiss : Carries id p report.samples p.dismiss report.samples :=
    carries_signals id p _ _ _ _ _ _
  have hs' : p.dismiss.Staffed ⟨none, workers, some id⟩ := hs.congr rfl
  refine hdismiss.ends ?_
  unfold beginDismiss
  dsimp only
  split
  · exact ends_set hd (Activity.samples_of_report rfl rfl) hs' (hshut.frame hdismiss.toFrame)
      hreport hlost
  · rename_i hgone
    exact beginCollect_ends l hd (hshut.frame hdismiss.toFrame) (hs'.withoutWorkers hgone)
      hreport hlost

-- Before the losses are counted.

theorem drain_ends (l : Link) (deadline : Nat) (hd : p.Distinct) (hshut : p.Shut)
    (hs : p.Staffed ⟨none, p.workers, some id⟩) (hreport : report.Plain) (hlost : p.lost.Plain) :
    Ends id p report.samples (p.drain l id deadline report).1
      (p.drain l id deadline report).2.1 := by
  unfold drain
  dsimp only
  have hs' : ({ p with workers := [] } : Pipeline).Staffed ⟨none, p.workers, some id⟩ := hs.congr rfl
  have hshut' : ({ p with workers := [] } : Pipeline).Shut := ⟨hshut.closed, hshut.empty⟩
  -- the workers are the shutdown's from now on
  have hmoves : Moves id p (report.samples + p.lost.samples) { p with workers := [] }
      (report.samples + p.lost.samples) := ⟨rfl, rfl, fun hd => hd, rfl⟩
  refine hmoves.ends ?_
  split
  · rename_i hgone
    exact beginCollect_ends l hd hshut' (hs'.withoutWorkers (by simpa using hgone)) hreport hlost
  · split
    · exact beginDismiss_ends _ hd hshut' hs' hreport hlost
    · exact ends_set hd (Activity.samples_of_report rfl rfl) hs' hshut' hreport hlost

-- The intake has ended with `n` samples still in hand.
structure Closed (id : Nat) (p : Pipeline) (n : Nat) (q : Pipeline) : Prop where
  moves : Moves id p 0 q n
  shut : q.Shut
  activities : q.activities = p.activities
  workers : q.workers = p.workers
  lost : q.lost = p.lost

theorem Closed.carries (h : Closed id p n q) (h' : Carries id q n r m)
    (ha : r.activities = q.activities) : Closed id p m r where
  moves := h.moves.trans h'.toMoves
  shut := h.shut.frame h'.toFrame
  activities := ha.trans h.activities
  workers := h'.workers.trans h.workers
  lost := h'.lost.trans h.lost

theorem activities_senderGone (p : Pipeline) : p.senderGone.activities = p.activities := by
  unfold senderGone
  split <;> rfl

theorem Closed.senderGone (h : Closed id p n q) : Closed id p n q.senderGone :=
  h.carries (carries_senderGone id q n) (activities_senderGone q)

-- The last batch is in hand.
theorem endIntake_closed {now : Nat} {last : Option Batch} (hsender : p.hasSender = true)
    (h : p.endIntake now = (last, q)) : Closed id p ((last.map Batch.size).getD 0) q := by
  unfold endIntake at h
  cases hempty : p.batch.isEmpty with
  | true =>
    have hsize : p.batch.size = 0 := by
      simpa [Batch.isEmpty, Batch.size] using hempty
    simp only [hempty, Bool.not_true, Bool.and_false] at h
    cases h
    exact Closed.senderGone ⟨⟨rfl, rfl, fun hd => hd, rfl⟩, ⟨rfl, hsize⟩, rfl, rfl, rfl⟩
  | false =>
    simp only [hsender, hempty, Bool.not_false, Bool.and_true, if_true, Option.isNone_some,
      Bool.false_eq_true, if_false] at h
    cases h
    refine ⟨⟨?_, rfl, fun hd => hd, rfl⟩, ⟨rfl, rfl⟩, rfl, rfl, rfl⟩
    simp only [placed, pending, queued, Batch.size, Batch.empty, Option.map_some,
      Option.getD_some, List.length_nil]
    omega

-- How closing the intake may go: to the end, with the last batch given up, or not yet.
inductive Closes (id : Nat) (p : Pipeline) : Option Result → Pipeline → Prop
  | done {q : Pipeline} {r : Result} (h : Closed id p 0 q)
      (hr : ∀ batches samples, r ≠ .error (.shutdownLoss batches samples)) :
      Closes id p (some r) q
  | late {q : Pipeline} {n : Nat} (h : Closed id p n q) :
      Closes id p (some (.error (.shutdownLoss 1 n))) q
  | waits {q r : Pipeline} {batch : Batch} {limit : Timer} (h : Closed id p batch.size q)
      (hr : r = q.set id (.closing batch limit)) : Closes id p none r

theorem close_closes (l : Link) (deadline : Nat) (hsender : p.hasSender = true) :
    Closes id p (p.close l id deadline).1 (p.close l id deadline).2.1 := by
  unfold close
  split
  · rename_i q hend
    exact .done (endIntake_closed hsender hend) (by simp)
  · rename_i batch q hend
    have hclosed : Closed id p batch.size q := endIntake_closed hsender hend
    split
    · rename_i r hflush
      have hflushed := hclosed.carries (flush_carries hflush) (activities_flush hflush)
      exact .done hflushed.senderGone (by simp)
    · rename_i r hflush
      have hflushed := hclosed.carries (flush_carries hflush) (activities_flush hflush)
      exact .done hflushed.senderGone (by simp)
    · rename_i r hflush
      have hflushed := hclosed.carries (flush_carries hflush) (activities_flush hflush)
      dsimp only
      split
      · have hgone := hflushed.carries (withdraw_carries batch.size) rfl
        exact .late hgone.senderGone
      · exact .waits hflushed rfl

theorem plain_none : Loss.none.Plain := fun _ => rfl

theorem plain_one (samples : Nat) : (⟨1, samples⟩ : Loss).Plain := fun h => by cases h

theorem Closed.drain_ends {report : Loss} (h : Closed id p report.samples q) (l : Link)
    (deadline : Nat) (hd : p.Distinct) (hs : p.Staffed ⟨none, p.workers, some id⟩)
    (hreport : report.Plain) (hlost : p.lost.Plain) :
    Ends id p 0 (q.drain l id deadline report).1 (q.drain l id deadline report).2.1 := by
  have hmoves := h.moves.add p.lost.samples
  rw [← h.lost] at hmoves
  refine Moves.ends (h.lost ▸ hmoves) (Pipeline.drain_ends l deadline (h.moves.distinct hd) h.shut ?_
    hreport (h.lost ▸ hlost))
  rw [h.workers]
  exact hs.congr h.activities

theorem beginClose_ends (l : Link) (deadline : Nat) (hd : p.Distinct)
    (hsender : p.hasSender = true) (hs : p.Staffed ⟨none, p.workers, some id⟩)
    (hlost : p.lost.Plain) :
    Ends id p 0 (p.beginClose l id deadline).1 (p.beginClose l id deadline).2.1 := by
  unfold beginClose
  have hcloses : Closes id p (p.close l id deadline).1 (p.close l id deadline).2.1 :=
    close_closes l deadline hsender
  generalize p.close l id deadline = closing at hcloses ⊢
  obtain ⟨result, r, l'⟩ := closing
  cases hcloses with
  | @late _ n h => exact h.drain_ends l' deadline hd hs (plain_one n) hlost
  | @done _ r h hr =>
    split
    · rename_i batches samples _ _ heq
      cases heq
      exact absurd rfl (hr batches samples)
    · rename_i heq
      cases heq
      exact h.drain_ends l' deadline hd hs plain_none hlost
    · rename_i heq
      cases heq
  | @waits q _ batch limit h hr =>
    have hr : r = q.set id (.closing batch limit) := hr
    have hfind : r.find? id = some (.closing batch limit) := hr ▸ find?_set q id _
    have hset : Carries id q batch.size r batch.size := hr ▸ carries_set id q _ _
    have hown : r.own id = [(id, .closing batch limit)] := hr ▸ own_set (h.moves.distinct hd) id _
    have hlost' : r.lost = p.lost := hset.lost.trans h.lost
    have hmoves := (h.moves.trans hset.toMoves).add p.lost.samples
    rw [← hlost'] at hmoves
    dsimp only
    rw [hfind]
    refine Moves.ends (hlost' ▸ hmoves) (ends_set (hset.distinct (h.moves.distinct hd))
      (Activity.samples_of_held rfl) ?_ (h.shut.frame hset.toFrame) plain_none (hlost' ▸ hlost))
    have hstaff : r.staffAt id (.closing deadline batch limit) = ⟨none, p.workers, some id⟩ := by
      simp only [staffAt, hset.workers, h.workers]
    rw [hstaff]
    refine Staffed.moves (hs.congr h.activities) hset.others fun e he => ?_
    rw [hown] at he
    rw [List.mem_singleton.mp he]
    rfl

theorem shutDown_ends (l : Link) (hd : p.Distinct) (hsender : p.hasSender = true)
    (hs : p.Staffed ⟨p.timer, p.workers, none⟩) (hlost : p.lost.Plain) :
    Ends id p 0 (p.shutDown l id).1 (p.shutDown l id).2.1 := by
  have hstop : Carries id p 0 p.stopTimer 0 := carries_signals id p 0 _ _ _ _ _
  refine hstop.ends ?_
  unfold shutDown
  dsimp only
  have hs' : p.stopTimer.Staffed ⟨p.timer, p.workers, some id⟩ := hs.withShutdown.congr rfl
  split
  · rename_i htimer
    exact beginClose_ends l _ hd hsender ((show p.timer = none from htimer) ▸ hs') hlost
  · rename_i timer htimer
    have htimer' : p.timer = some timer := htimer
    rw [htimer'] at hs'
    have hmoves : Moves id p.stopTimer (0 + p.lost.samples) { p.stopTimer with timer := none }
        (0 + p.lost.samples) := ⟨rfl, rfl, fun hd => hd, rfl⟩
    refine Moves.ends hmoves ?_
    split
    · exact ends_set hd rfl (hs'.congr rfl) hsender plain_none hlost
    · rename_i hgone
      exact beginClose_ends l _ hd hsender ((hs'.withoutTimer hgone).congr rfl) hlost

-- A shutdown that cannot go on.
theorem ends_stay {stage : ShutdownStage} (h : p.AtStage id stage) (hlost : p.lost.Plain) :
    Ends id p (Activity.ending stage).samples none p := by
  refine ⟨fun _ => ⟨?_, stage, h⟩, fun h => (by cases h), hlost⟩
  rw [h.here]
  simpa [held] using Moves.refl id p ((Activity.ending stage).samples + p.lost.samples)

theorem closing_drain_ends (l : Link) (deadline : Nat) (h : Carries id p n q report.samples)
    (hd : p.Distinct) (hshut : p.Shut) (hs : p.Staffed ⟨none, p.workers, some id⟩)
    (hown : ∀ e ∈ q.own id, e.2.role = .shutdown) (hreport : report.Plain) (hlost : p.lost.Plain) :
    Ends id p n (q.drain l id deadline report).1 (q.drain l id deadline report).2.1 := by
  refine h.ends (drain_ends l deadline (h.distinct hd) (hshut.frame h.toFrame) ?_ hreport
    (h.lost ▸ hlost))
  rw [h.workers]
  refine hs.moves h.others fun e he => ?_
  rw [hown e he]
  rfl

theorem endOn_ends {stage : ShutdownStage} (l : Link) (hd : p.Distinct) (h : p.AtStage id stage)
    (hlost : p.lost.Plain) :
    Ends id p (Activity.ending stage).samples (p.endOn l id stage).1 (p.endOn l id stage).2.1 := by
  have hstay := ends_stay h hlost
  cases stage with
  | awaitingTimer deadline timer =>
    unfold endOn
    dsimp only
    split
    · exact hstay
    · rename_i hgone
      exact beginClose_ends l deadline hd h.door (h.staffed.withoutTimer hgone) hlost
  | joining workers report limit =>
    have hsamples : (Activity.ending (.joining workers report limit)).samples = report.samples :=
      Activity.samples_of_report rfl rfl
    rw [hsamples] at hstay ⊢
    unfold endOn
    dsimp only
    split
    · rename_i hgone
      exact beginCollect_ends l hd h.door (h.staffed.withoutWorkers (by simpa using hgone))
        h.plain hlost
    · split
      · exact beginDismiss_ends l hd h.door h.staffed h.plain hlost
      · exact hstay
  | dismissing workers report =>
    have hsamples : (Activity.ending (.dismissing workers report)).samples = report.samples :=
      Activity.samples_of_report rfl rfl
    rw [hsamples] at hstay ⊢
    unfold endOn
    dsimp only
    split
    · rename_i hgone
      exact beginCollect_ends l hd h.door (h.staffed.withoutWorkers (by simpa using hgone))
        h.plain hlost
    · exact hstay
  | collecting report =>
    have hsamples : (Activity.ending (.collecting report)).samples = report.samples :=
      Activity.samples_of_report rfl rfl
    rw [hsamples] at hstay ⊢
    unfold endOn
    dsimp only
    split
    · exact collect_ends h.door h.staffed h.plain hlost
    · exact hstay
  | closing deadline batch limit =>
    have hsamples : (Activity.ending (.closing deadline batch limit)).samples = batch.size :=
      Activity.samples_of_held rfl
    rw [hsamples] at hstay ⊢
    unfold endOn
    dsimp only
    cases hredeem : p.redeem id batch with
    | mk offer q =>
      have hredeemed := redeem_carries hredeem
      have hgone : ∀ r : Pipeline, ∀ e ∈ (r.remove id).senderGone.own id, e.2.role = .shutdown := by
        intro r
        rw [own_senderGone, own_remove]
        exact fun e he => absurd he List.not_mem_nil
      cases offer with
      | sent =>
        exact closing_drain_ends l deadline ((hredeemed.trans (carries_remove id q _)).trans
          (carries_senderGone id _ _)) hd h.door h.staffed (hgone q) plain_none hlost
      | refused =>
        exact closing_drain_ends l deadline ((hredeemed.trans (carries_remove id q _)).trans
          (carries_senderGone id _ _)) hd h.door h.staffed (hgone q) plain_none hlost
      | mustWait =>
        dsimp only
        split
        · exact closing_drain_ends l deadline (((hredeemed.trans (withdraw_carries _)).trans
            (carries_remove id _ _)).trans (carries_senderGone id _ _)) hd h.door h.staffed
            (hgone _) (plain_one _) hlost
        · rw [redeem_mustWait hredeem]
          exact hstay

end

end Pipeline

end MetricRelay.Write

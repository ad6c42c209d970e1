import MetricRelay.Proofs.Write.Conservation

-- The receiving end of the queue goes from hand to hand. Workers and the shutdown stand in line for
-- it, first come first served; whoever has it or waits for it says so, and nobody else does.

namespace MetricRelay.Write

open Store (Link)

-- Whether an activity has the receiving end or stands in line for it.
def Activity.isSeated : Activity → Bool
  | .working .queued => true
  | .working .receiving => true
  | .ending (.collecting _) => true
  | _ => false

namespace Pipeline

-- What nobody but a shutdown says: that the timer is to stop and the workers are to give up.
structure Heeds (p q : Pipeline) : Prop where
  config : q.config = p.config
  timerStopped : q.timerStopped = p.timerStopped
  dismissed : q.dismissed = p.dismissed

-- Clients and the age timer have no business at the receiving end either.
structure Aside (p q : Pipeline) : Prop extends Heeds p q where
  receiver : q.receiver = p.receiver
  line : q.line = p.line
  timer : q.timer = p.timer

section

variable {id : Nat} {p q r : Pipeline} {batch : Batch} {offer : Offer}

theorem Aside.refl (p : Pipeline) : Aside p p := ⟨⟨rfl, rfl, rfl⟩, rfl, rfl, rfl⟩

theorem Heeds.trans (h : Heeds p q) (h' : Heeds q r) : Heeds p r :=
  ⟨h'.config.trans h.config, h'.timerStopped.trans h.timerStopped,
    h'.dismissed.trans h.dismissed⟩

theorem Aside.trans (h : Aside p q) (h' : Aside q r) : Aside p r :=
  ⟨h.toHeeds.trans h'.toHeeds, h'.receiver.trans h.receiver, h'.line.trans h.line,
    h'.timer.trans h.timer⟩

theorem aside_set (p : Pipeline) (id : Nat) (a : Activity) : Aside p (p.set id a) := by
  unfold set
  split <;> exact ⟨⟨rfl, rfl, rfl⟩, rfl, rfl, rfl⟩

theorem aside_remove (p : Pipeline) (id : Nat) : Aside p (p.remove id) :=
  ⟨⟨rfl, rfl, rfl⟩, rfl, rfl, rfl⟩

theorem aside_finish (p : Pipeline) (id : Nat) : Aside p (p.finish id) :=
  ⟨⟨rfl, rfl, rfl⟩, rfl, rfl, rfl⟩

theorem aside_senderGone (p : Pipeline) : Aside p p.senderGone := by
  unfold senderGone
  split <;> exact ⟨⟨rfl, rfl, rfl⟩, rfl, rfl, rfl⟩

theorem aside_settleOffer (p : Pipeline) (intake : Intake) (batch : Batch) (offer : Offer) :
    Aside p ({ p with intake := intake }.settleOffer batch offer) := by
  cases offer <;> exact ⟨⟨rfl, rfl, rfl⟩, rfl, rfl, rfl⟩

theorem aside_flush {trigger : Option Trigger} (h : p.flush id batch trigger = (offer, q)) :
    Aside p q := by
  have hcount : Aside p (p.update fun s => s.addFlush trigger) := ⟨⟨rfl, rfl, rfl⟩, rfl, rfl, rfl⟩
  cases h
  exact hcount.trans (aside_settleOffer _ _ batch _)

theorem aside_redeem (h : p.redeem id batch = (offer, q)) : Aside p q := by
  cases h
  exact aside_settleOffer p _ batch _

theorem aside_append {now : Nat} {s : Sample} {taken : Option (Trigger × Batch)}
    (h : p.append now s = (taken, q)) : Aside p q := by
  unfold append at h
  dsimp only at h
  split at h <;> cases h <;> exact ⟨⟨rfl, rfl, rfl⟩, rfl, rfl, rfl⟩

theorem aside_expire {now : Nat} {taken : Option (Trigger × Batch)}
    (h : p.expire now = (taken, q)) : Aside p q := by
  unfold expire at h
  split at h
  · cases h
    exact .refl p
  · split at h <;> cases h <;> exact ⟨⟨rfl, rfl, rfl⟩, rfl, rfl, rfl⟩

theorem aside_add (p : Pipeline) (now id : Nat) (s : Sample) : Aside p (p.add now id s).2 := by
  unfold add
  split
  · exact .refl p
  · split
    · rename_i happend
      exact aside_append happend
    · rename_i trigger batch q happend
      have happended := aside_append happend
      split
      · rename_i hflush
        exact happended.trans (aside_flush hflush)
      · rename_i hflush
        exact happended.trans (aside_flush hflush)
      · rename_i hflush
        exact (happended.trans (aside_flush hflush)).trans (aside_set _ id _)

theorem aside_tryAdd (p : Pipeline) (now id : Nat) (s : Sample) :
    Aside p (p.tryAdd now id s).2 := by
  unfold tryAdd
  split
  · exact .refl p
  · split
    · exact ⟨⟨rfl, rfl, rfl⟩, rfl, rfl, rfl⟩
    · split
      · exact .refl p
      · split
        · exact ⟨⟨rfl, rfl, rfl⟩, rfl, rfl, rfl⟩
        · split
          · rename_i happend
            exact aside_append happend
          · rename_i trigger batch q happend
            exact (aside_append happend).trans (aside_flush rfl)

theorem aside_write (now id total : Nat) (samples : List Sample) (p : Pipeline) :
    Aside p (write now id total samples p).2 := by
  induction samples generalizing p with
  | nil => exact .refl p
  | cons s rest ih =>
    unfold write
    split
    · exact .refl p
    · split
      · rename_i happend
        exact (aside_append happend).trans (ih _)
      · rename_i trigger batch q happend
        have happended := aside_append happend
        split
        · rename_i hflush
          exact (happended.trans (aside_flush hflush)).trans (ih _)
        · rename_i hflush
          exact happended.trans (aside_flush hflush)
        · rename_i hflush
          exact (happended.trans (aside_flush hflush)).trans (aside_set _ id _)

theorem aside_flushExpired (p : Pipeline) (now id : Nat) :
    Aside p (p.flushExpired now id).2 := by
  unfold flushExpired
  split
  · rename_i hexpire
    exact aside_expire hexpire
  · rename_i trigger batch q hexpire
    have hexpired := aside_expire hexpire
    split
    · rename_i hflush
      exact hexpired.trans (aside_flush hflush)
    · rename_i hflush
      exact hexpired.trans (aside_flush hflush)
    · rename_i hflush
      exact (hexpired.trans (aside_flush hflush)).trans (aside_set _ id _)

theorem aside_tick (id : Nat) (period : Duration) (fuel overtime due : Nat) (p : Pipeline)
    (l : Link) : Aside p (tick id period fuel overtime due p l).2.1 := by
  induction fuel generalizing overtime due p with
  | zero => exact aside_set p id _
  | succ fuel ih =>
    unfold tick
    split
    · exact aside_finish p id
    · split
      · exact aside_set p id _
      · dsimp only
        split
        · rename_i hexpire
          exact (aside_expire hexpire).trans (ih _ _ _)
        · rename_i trigger batch q hexpire
          have hexpired := aside_expire hexpire
          split
          · rename_i hflush
            exact (hexpired.trans (aside_flush hflush)).trans (aside_set _ id _)
          · rename_i hflush
            exact (hexpired.trans (aside_flush hflush)).trans (ih _ _ _)

-- A turn of a client or of the age timer.
theorem aside_turn {a : Activity} (l : Link) (h : p.find? id = some a)
    (hr : a.role = .client ∨ a.role = .timer) : Aside p (p.turn l id).2.1 := by
  have hgone : ∀ q : Pipeline, Aside q (q.finish id).senderGone := fun q =>
    (aside_finish q id).trans (aside_senderGone _)
  unfold turn
  rw [h]
  cases a with
  | adding batch trigger | flushing batch trigger =>
    dsimp only
    split
    · rename_i hredeem
      exact (aside_redeem hredeem).trans (hgone _)
    · rename_i hredeem
      exact (aside_redeem hredeem).trans (hgone _)
    · rename_i hredeem
      exact aside_redeem hredeem
  | writing batch rest total =>
    dsimp only
    split
    · rename_i q hredeem
      have hremoved : Aside q (q.remove id).senderGone :=
        (aside_remove q id).trans (aside_senderGone _)
      exact ((aside_redeem hredeem).trans hremoved).trans (aside_write _ _ _ _ _)
    · rename_i hredeem
      exact (aside_redeem hredeem).trans (hgone _)
    · rename_i hredeem
      exact aside_redeem hredeem
  | starting period => exact aside_tick _ _ _ _ _ _ _
  | ticking period due next =>
    dsimp only
    split
    · exact .refl p
    · exact aside_tick _ _ _ _ _ _ _
  | tickFlushing period due batch =>
    dsimp only
    split
    · rename_i hredeem
      exact aside_redeem hredeem
    · rename_i q _ hredeem
      have hset : Aside q (q.set id (.starting period)).senderGone :=
        (aside_set q id _).trans (aside_senderGone _)
      exact ((aside_redeem hredeem).trans hset).trans (aside_tick _ _ _ _ _ _ _)
  | closing batch limit => simp [Activity.role] at hr
  | ending stage => simp [Activity.role] at hr
  | working stage => simp [Activity.role] at hr

end

-- Who has the receiving end, and then who stands in line for it.
def seats (p : Pipeline) : List Nat := p.receiver.toList ++ p.line

-- An activity has a seat exactly if it says so.
structure Seat (p : Pipeline) (id : Nat) : Prop where
  iff : id ∈ p.seats ↔ ∃ a, (id, a) ∈ p.activities ∧ a.isSeated = true
  receiving : (id, .working .receiving) ∈ p.activities → p.receiver = some id

-- So it is with all activities but one, which is about to move.
structure SeatedBut (id : Nat) (p : Pipeline) : Prop where
  nodup : p.seats.Nodup
  -- nobody stands in line for what is free
  vacant : p.receiver = none → p.line = []
  others : ∀ other, other ≠ id → p.Seat other

structure Seated (p : Pipeline) : Prop where
  nodup : p.seats.Nodup
  vacant : p.receiver = none → p.line = []
  each : ∀ id, p.Seat id

section

variable {id : Nat} {p q r : Pipeline} {a : Activity}

theorem Seated.but (h : p.Seated) (id : Nat) : SeatedBut id p :=
  ⟨h.nodup, h.vacant, fun other _ => h.each other⟩

theorem SeatedBut.seated (h : SeatedBut id p) (hseat : p.Seat id) : p.Seated := by
  refine ⟨h.nodup, h.vacant, fun other => ?_⟩
  by_cases ho : other = id
  · rw [ho]
    exact hseat
  · exact h.others other ho

theorem SeatedBut.congr (h : SeatedBut id p) (hreceiver : q.receiver = p.receiver)
    (hline : q.line = p.line) (ho : q.others id = p.others id) : SeatedBut id q := by
  have hseats : q.seats = p.seats := by
    unfold seats
    rw [hreceiver, hline]
  refine ⟨hseats ▸ h.nodup, fun hnone => ?_, fun other hne => ?_⟩
  · rw [hline]
    exact h.vacant (hreceiver ▸ hnone)
  · have hmem : ∀ a, (other, a) ∈ q.activities ↔ (other, a) ∈ p.activities := by
      intro a
      have hothers : (other, a) ∈ q.others id ↔ (other, a) ∈ p.others id := by rw [ho]
      simpa [mem_others_iff, hne] using hothers
    obtain ⟨hiff, hreceiving⟩ := h.others other hne
    refine ⟨?_, fun hm => ?_⟩
    · simp only [hseats, hmem, hiff]
    · rw [hreceiver]
      exact hreceiving ((hmem _).mp hm)

theorem seat_of_own_nil (hown : p.own id = []) (hn : id ∉ p.seats) : p.Seat id := by
  have hnone : ∀ a, (id, a) ∉ p.activities := by
    intro a ha
    have hm : (id, a) ∈ p.own id := mem_own_iff.mpr ⟨ha, rfl⟩
    rw [hown] at hm
    cases hm
  refine ⟨⟨fun h => absurd h hn, ?_⟩, fun h => absurd h (hnone _)⟩
  rintro ⟨a, ha, _⟩
  exact absurd ha (hnone a)

theorem mem_activities_iff (hown : p.own id = [(id, a)]) (b : Activity) :
    (id, b) ∈ p.activities ↔ b = a := by
  have hm : (id, b) ∈ p.own id ↔ (id, b) ∈ p.activities := by simp [mem_own_iff]
  rw [← hm, hown]
  simp

theorem seat_of_own (hown : p.own id = [(id, a)]) (h : id ∈ p.seats ↔ a.isSeated = true)
    (hreceiving : a = .working .receiving → p.receiver = some id) : p.Seat id := by
  refine ⟨?_, fun hm => hreceiving ((mem_activities_iff hown _).mp hm).symm⟩
  simp [mem_activities_iff hown, h]

theorem Seated.mem_seats_iff (h : p.Seated) (hown : p.own id = [(id, a)]) :
    id ∈ p.seats ↔ a.isSeated = true := by
  rw [(h.each id).iff]
  simp [mem_activities_iff hown]

theorem Seated.not_mem_seats (h : p.Seated) (hown : p.own id = []) : id ∉ p.seats := by
  intro hm
  obtain ⟨a, ha, _⟩ := (h.each id).iff.mp hm
  have howned : (id, a) ∈ p.own id := mem_own_iff.mpr ⟨ha, rfl⟩
  rw [hown] at howned
  cases howned

-- Where somebody stands in line, somebody has the receiving end.
theorem Seated.receiver_of_mem (h : p.Seated) (hm : id ∈ p.seats) :
    ∃ first, p.receiver = some first ∧ first ∈ p.seats := by
  cases hreceiver : p.receiver with
  | none =>
    have hline := h.vacant hreceiver
    simp [seats, hreceiver, hline] at hm
  | some first => exact ⟨first, rfl, by simp [seats, hreceiver]⟩

-- Taking the receiving end and passing it on.

theorem SeatedBut.take {taken : Bool} (h : SeatedBut id p) (hn : id ∉ p.seats)
    (htake : p.takeReceiver id = (taken, q)) :
    SeatedBut id q ∧ id ∈ q.seats ∧ (taken = true → q.receiver = some id) := by
  have hseat : ∀ q : Pipeline, q.activities = p.activities → (∀ other, other ≠ id →
      (other ∈ q.seats ↔ other ∈ p.seats)) → (∀ other, p.receiver = some other →
      q.receiver = some other) → ∀ other, other ≠ id → q.Seat other := by
    intro q hactivities hmem hreceiver other hne
    obtain ⟨hiff, hreceiving⟩ := h.others other hne
    rw [← hactivities] at hiff hreceiving
    exact ⟨(hmem other hne).trans hiff, fun hm => hreceiver other (hreceiving hm)⟩
  unfold takeReceiver at htake
  split at htake
  · rename_i hnone
    have hfree : p.receiver = none := Option.isNone_iff_eq_none.mp hnone
    have hline := h.vacant hfree
    cases htake
    refine ⟨⟨?_, by simp, hseat _ rfl ?_ ?_⟩, by simp [seats], fun _ => rfl⟩
    · simp [seats, hline]
    · intro other hne
      simp [seats, hfree, hline, hne]
    · simp [hfree]
  · rename_i hsome
    have hseats : ({ p with line := p.line ++ [id] } : Pipeline).seats = p.seats ++ [id] := by
      simp [seats]
    cases htake
    refine ⟨⟨?_, fun hnone => ?_, hseat _ rfl ?_ fun _ h => h⟩, by simp [seats], by simp⟩
    · rw [hseats, List.nodup_append]
      refine ⟨h.nodup, by simp, fun x hx y hy => ?_⟩
      rw [List.mem_singleton.mp hy]
      exact fun he => hn (he ▸ hx)
    · exact absurd (Option.isNone_iff_eq_none.mpr hnone) hsome
    · intro other hne
      simp [hseats, hne]

theorem seats_releaseReceiver (p : Pipeline) : p.releaseReceiver.seats = p.line := by
  unfold releaseReceiver seats
  split
  · rename_i hline
    simp [hline]
  · rename_i hline
    simp [wake, hline]

theorem SeatedBut.release (h : SeatedBut id p) (hreceiver : p.receiver = some id) :
    SeatedBut id p.releaseReceiver ∧ id ∉ p.releaseReceiver.seats := by
  have hseats : p.seats = id :: p.line := by simp [seats, hreceiver]
  have hnodup := h.nodup
  rw [hseats, List.nodup_cons] at hnodup
  refine ⟨⟨?_, fun hnone => ?_, fun other hne => ?_⟩, ?_⟩
  · rw [seats_releaseReceiver]
    exact hnodup.2
  · unfold releaseReceiver at hnone ⊢
    split
    · rename_i hline
      exact hline
    · rename_i hline
      rw [hline] at hnone
      cases hnone
  · obtain ⟨hiff, hreceiving⟩ := h.others other hne
    refine ⟨?_, fun hm => ?_⟩
    · rw [seats_releaseReceiver, activities_releaseReceiver, ← hiff, hseats]
      simp [hne]
    · -- whoever receives has the receiving end, and that was `id`
      rw [activities_releaseReceiver] at hm
      have hother := hreceiving hm
      rw [hreceiver] at hother
      exact absurd (Option.some.inj hother).symm hne
  · rw [seats_releaseReceiver]
    exact hnodup.1

-- Clients and the age timer stay out of it.

theorem isSeated_of_role (h : a.role = .client ∨ a.role = .timer) : a.isSeated = false := by
  cases a with
  | ending stage => simp [Activity.role] at h
  | working stage => simp [Activity.role] at h
  | _ => rfl

theorem Aside.seated (h : Aside p q) (hp : p.Seated) (ho : q.others id = p.others id)
    (hn : id ∉ p.seats) (hown : ∀ e ∈ q.own id, e.2.role = .client ∨ e.2.role = .timer) :
    q.Seated := by
  have hseats : q.seats = p.seats := by
    unfold seats
    rw [h.receiver, h.line]
  have hnone : ∀ a, (id, a) ∈ q.activities → a.isSeated = false := fun a ha =>
    isSeated_of_role (hown _ (mem_own_iff.mpr ⟨ha, rfl⟩))
  refine ((hp.but id).congr h.receiver h.line ho).seated ⟨?_, fun hm => ?_⟩
  · rw [hseats]
    refine ⟨fun hm => absurd hm hn, ?_⟩
    rintro ⟨a, ha, hseated⟩
    rw [hnone a ha] at hseated
    cases hseated
  · have hseated := hnone _ hm
    cases hseated

-- Workers.

-- Everybody is seated again after a worker has moved.
structure Reseats (p q : Pipeline) : Prop extends Heeds p q where
  seated : q.Seated

theorem Heeds.reseats (h : Heeds p q) (h' : Reseats q r) : Reseats p r :=
  ⟨h.trans h'.toHeeds, h'.seated⟩

theorem heeds_takeReceiver {taken : Bool} (h : p.takeReceiver id = (taken, q)) : Heeds p q := by
  unfold takeReceiver at h
  split at h <;> cases h <;> exact ⟨rfl, rfl, rfl⟩

theorem heeds_releaseReceiver (p : Pipeline) : Heeds p p.releaseReceiver := by
  unfold releaseReceiver
  split <;> exact ⟨rfl, rfl, rfl⟩

theorem set_reseats (hd : p.Distinct) (h : SeatedBut id p)
    (hseat : id ∈ p.seats ↔ a.isSeated = true)
    (hreceiving : a = .working .receiving → p.receiver = some id) : Reseats p (p.set id a) := by
  have hset := aside_set p id a
  have hseats : (p.set id a).seats = p.seats := by
    unfold seats
    rw [hset.receiver, hset.line]
  refine ⟨hset.toHeeds, (h.congr hset.receiver hset.line (others_set p id a)).seated
    (seat_of_own (own_set hd id a) ?_ fun ha => ?_)⟩
  · rw [hseats]
    exact hseat
  · rw [hset.receiver]
    exact hreceiving ha

theorem finish_reseats (h : SeatedBut id p) (hn : id ∉ p.seats) : Reseats p (p.finish id) := by
  have hfinished : SeatedBut id (p.finish id) := h.congr rfl rfl (others_remove p id)
  exact ⟨(aside_finish p id).toHeeds, hfinished.seated (seat_of_own_nil (own_finish p id) hn)⟩

theorem stop_reseats (h : SeatedBut id p) (hreceiver : p.receiver = some id) :
    Reseats p (p.releaseReceiver.finish id) := by
  obtain ⟨hbut, hn⟩ := h.release hreceiver
  exact (heeds_releaseReceiver p).reseats (finish_reseats hbut hn)

theorem receive_reseats {fuel : Nat}
    (hwork : ∀ (p : Pipeline) (l : Link), p.Distinct → SeatedBut id p → id ∉ p.seats →
      Reseats p (work id fuel p l).2.1)
    (l : Link) (hd : p.Distinct) (h : SeatedBut id p) (hreceiver : p.receiver = some id) :
    Reseats p (receive id fuel p l).2.1 := by
  unfold receive
  split
  · exact stop_reseats h hreceiver
  · split
    · split
      · exact stop_reseats h hreceiver
      · refine set_reseats hd h ?_ fun _ => hreceiver
        simp [seats, hreceiver, Activity.isSeated]
    · rename_i batch told intake hpop
      have hpopped : SeatedBut id ({ p with intake := intake }.wake told.toList) :=
        h.congr rfl rfl rfl
      obtain ⟨hbut, hn⟩ := hpopped.release hreceiver
      have htaken : Heeds p ({ p with intake := intake }.wake told.toList) := ⟨rfl, rfl, rfl⟩
      have hheeds := htaken.trans (heeds_releaseReceiver _)
      have hdq : ({ p with intake := intake }.wake told.toList).releaseReceiver.Distinct :=
        (carries_releaseReceiver id _ 0).distinct hd
      dsimp only
      generalize ({ p with intake := intake }.wake told.toList).releaseReceiver = q
        at hbut hn hheeds hdq ⊢
      have hrecord : ∀ record : Record, SeatedBut id { q with record := record } :=
        fun record => hbut.congr rfl rfl rfl
      split
      · rename_i d l' record owed _
        have hnoted : Heeds p { q with record := record } := hheeds.trans ⟨rfl, rfl, rfl⟩
        exact hnoted.reseats (hwork _ _ hdq (hrecord record) hn)
      · rename_i s l' record owed _
        have hnoted : Heeds p { q with record := record } := hheeds.trans ⟨rfl, rfl, rfl⟩
        exact hnoted.reseats (set_reseats hdq (hrecord record)
          ⟨fun hm => absurd hm hn, fun hm => (by cases hm)⟩ fun ha => by cases ha)

theorem work_reseats (fuel : Nat) (l : Link) (hd : p.Distinct) (h : SeatedBut id p)
    (hn : id ∉ p.seats) : Reseats p (work id fuel p l).2.1 := by
  induction fuel generalizing p l with
  | zero =>
    unfold work
    exact set_reseats hd h ⟨fun hm => absurd hm hn, fun hm => (by cases hm)⟩ fun ha => by cases ha
  | succ fuel ih =>
    unfold work
    split
    · rename_i q htake
      obtain ⟨hbut, hm, _⟩ := h.take hn htake
      have hdq : q.Distinct := by
        have htaken := carries_takeReceiver id p 0
        rw [htake] at htaken
        exact htaken.distinct hd
      exact (heeds_takeReceiver htake).reseats
        (set_reseats hdq hbut ⟨fun _ => rfl, fun _ => hm⟩ fun ha => by cases ha)
    · rename_i q htake
      obtain ⟨hbut, _, hreceiver⟩ := h.take hn htake
      have hdq : q.Distinct := by
        have htaken := carries_takeReceiver id p 0
        rw [htake] at htaken
        exact htaken.distinct hd
      exact (heeds_takeReceiver htake).reseats
        (receive_reseats (fun p l => ih l) l hdq hbut (hreceiver rfl))

theorem workOn_reseats {stage : WorkerStage} (l : Link) (hd : p.Distinct) (h : p.Seated)
    (hown : p.own id = [(id, .working stage)]) : Reseats p (p.workOn l id stage).2.1 := by
  have hseat := h.mem_seats_iff hown
  unfold workOn
  split
  · exact work_reseats _ l hd (h.but id) fun hm => by cases hseat.mp hm
  · split
    · rename_i hreceiver
      exact receive_reseats (fun p l => work_reseats _ l) l hd (h.but id) hreceiver
    · exact ⟨⟨rfl, rfl, rfl⟩, h⟩
  · have hreceiver := (h.each id).receiving ((mem_activities_iff hown _).mpr rfl)
    exact receive_reseats (fun p l => work_reseats _ l) l hd (h.but id) hreceiver
  · rename_i batch owed s
    have hn : id ∉ p.seats := fun hm => by cases hseat.mp hm
    split
    · have hlost : ∀ n, SeatedBut id (p.addLost n) := fun n => (h.but id).congr rfl rfl rfl
      by_cases howed : owed = 0
      · rw [if_pos howed]
        exact finish_reseats (h.but id) hn
      · rw [if_neg howed]
        have hheeds : Heeds p (p.addLost owed) := ⟨rfl, rfl, rfl⟩
        exact hheeds.reseats (finish_reseats (hlost owed) hn)
    · have hrecord : ∀ record : Record, SeatedBut id { p with record := record } :=
        fun record => (h.but id).congr rfl rfl rfl
      have hheeds : ∀ record : Record, Heeds p { p with record := record } :=
        fun record => ⟨rfl, rfl, rfl⟩
      split
      · rename_i d l' record left _
        exact (hheeds record).reseats (work_reseats _ _ hd (hrecord record) hn)
      · rename_i s' l' record left _
        exact (hheeds record).reseats (set_reseats hd (hrecord record)
          ⟨fun hm => absurd hm hn, fun hm => (by cases hm)⟩ fun ha => by cases ha)

-- A turn of anybody but the shutdown.
theorem turn_reseats (l : Link) (hd : p.Distinct) (hp : p.Seated)
    (h : p.find? id = some a) (hs : a.Sound p.target) (hr : a.role ≠ .shutdown) :
    Reseats p (p.turn l id).2.1 := by
  have hown := own_eq_of_find? hd h
  by_cases hw : a.role = .worker
  · cases a with
    | working stage =>
      have hturn : p.turn l id = p.workOn l id stage := by
        unfold turn
        rw [h]
      rw [hturn]
      exact workOn_reseats l hd hp hown
    | _ => cases hw
  · have hrole : a.role = .client ∨ a.role = .timer := by
      cases hcase : a.role with
      | client => exact .inl rfl
      | timer => exact .inr rfl
      | shutdown => exact absurd hcase hr
      | worker => exact absurd hcase hw
    have haside := aside_turn l h hrole
    have hturns := turn_turns l hd h hs hr
    refine ⟨haside.toHeeds, haside.seated hp hturns.moves.others ?_ fun e he => ?_⟩
    · rw [hp.mem_seats_iff hown, isSeated_of_role hrole]
      exact Bool.false_ne_true
    · rw [(hturns.own e he).1]
      exact hrole

end

-- A worker for which the receiving end is free.

section

variable {p q : Pipeline} {id fuel owed : Nat} {batch : Batch} {l l' : Link} {d : Delivery}
  {record : Record}

theorem takeReceiver_of_nobody (id : Nat) (hnobody : p.receiver = none) :
    p.takeReceiver id = (true, { p with receiver := some id }) := by
  simp [takeReceiver, hnobody]

theorem releaseReceiver_of_alone (h : p.line = []) :
    p.releaseReceiver = { p with receiver := none } := by
  unfold releaseReceiver
  rw [h]

theorem releaseReceiver_of_taken (id : Nat) (hnobody : p.receiver = none) (hline : p.line = []) :
    ({ p with receiver := some id } : Pipeline).releaseReceiver = p := by
  have halone : ({ p with receiver := some id } : Pipeline).line = [] := hline
  rw [releaseReceiver_of_alone halone, ← hnobody]

-- A worker that was told to give up before its first turn ends with that turn.
theorem turn_dismissed (l : Link) (hnew : p.isNew id = true) (hdismissed : p.dismissed = true)
    (hnobody : p.receiver = none) (hline : p.line = []) :
    p.turn l id = (some (.ok .workerStopped), p.finish id, l) := by
  rw [turn_of_isNew l hnew, workFuel, work, takeReceiver_of_nobody id hnobody]
  dsimp only
  rw [receive, if_pos hdismissed, releaseReceiver_of_taken id hnobody hline]

theorem receive_of_pop {told : Option Nat} {intake : Intake} (hdismissed : p.dismissed = false)
    (hpop : p.intake.pop? = some (batch, told, intake))
    (hq : ({ p with intake := intake }.wake told.toList).releaseReceiver = q)
    (hrun : q.deliverBatch l batch = (.finished d, l', record, owed)) :
    receive id fuel p l = work id fuel { q with record := record } l' := by
  rw [receive, if_neg (by simp [hdismissed]), hpop]
  dsimp only
  rw [hq, hrun]

-- Nothing is queued, and nothing can come.
theorem work_of_exhausted (fuel : Nat) (l : Link) (hdismissed : p.dismissed = false)
    (hnobody : p.receiver = none) (hline : p.line = []) (hempty : p.intake.batches = [])
    (hsenders : p.senders = 0) :
    work id (fuel + 1) p l = (some (.ok .workerStopped), p.finish id, l) := by
  have hpop : ({ p with receiver := some id } : Pipeline).intake.pop? = none := by
    unfold Intake.pop?
    rw [hempty]
  have hexhausted : ({ p with receiver := some id } : Pipeline).isExhausted = true := by
    unfold isExhausted
    rw [hempty, show ({ p with receiver := some id } : Pipeline).senders = 0 from hsenders]
    rfl
  rw [work, takeReceiver_of_nobody id hnobody]
  dsimp only
  rw [receive, if_neg (by simp [hdismissed]), hpop]
  dsimp only
  rw [if_pos hexhausted, releaseReceiver_of_taken id hnobody hline]

-- A worker that finds one last batch delivers it in its first turn and ends.
theorem turn_of_last (hnew : p.isNew id = true) (hdismissed : p.dismissed = false)
    (hnobody : p.receiver = none) (hline : p.line = []) (hwaiting : p.intake.line = [])
    (hbatches : p.intake.batches = [batch]) (hsenders : p.senders = 0)
    (hrun : p.deliverBatch l batch = (.finished d, l', record, owed)) :
    p.turn l id = (some (.ok .workerStopped), ({ p with
      intake := { p.intake with batches := [], free := p.intake.free + 1 }
      record := record } : Pipeline).finish id, l') := by
  have hpop : p.intake.pop? = some (batch, none,
      { p.intake with batches := [], free := p.intake.free + 1 }) := by
    unfold Intake.pop?
    rw [hbatches]
    unfold Intake.release
    dsimp only
    rw [hwaiting]
  generalize hleft : { p.intake with batches := [], free := p.intake.free + 1 } = intake at hpop ⊢
  have hempty : intake.batches = [] := by
    subst hleft
    rfl
  have hq : (({ p with receiver := some id, intake := intake } : Pipeline).wake
      (none : Option Nat).toList).releaseReceiver = { p with intake := intake } := by
    have halone : (({ p with receiver := some id, intake := intake } : Pipeline).wake
        (none : Option Nat).toList).line = [] := hline
    rw [releaseReceiver_of_alone halone]
    simp [wake, hnobody]
  rw [turn_of_isNew l hnew, workFuel, hbatches, work, takeReceiver_of_nobody id hnobody]
  dsimp only
  rw [receive_of_pop (p := { p with receiver := some id }) hdismissed hpop hq hrun]
  exact work_of_exhausted _ l' hdismissed hnobody hline hempty hsenders

end

end Pipeline

end MetricRelay.Write

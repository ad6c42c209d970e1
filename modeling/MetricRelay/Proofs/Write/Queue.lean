import MetricRelay.Proofs.Write.Holdings

-- Batches on their way into the queue and out of it. One that the queue takes is in it, one that it
-- refuses is counted as lost, and any other stays with its sender.

namespace MetricRelay.Write

namespace Intake

@[simp] theorem batches_release (q : Intake) : q.release.2.batches = q.batches := by
  unfold release
  split <;> rfl

@[simp] theorem closed_release (q : Intake) : q.release.2.closed = q.closed := by
  unfold release
  split <;> rfl

@[simp] theorem batches_withdraw (q : Intake) (sender : Nat) :
    (q.withdraw sender).2.batches = q.batches := by
  unfold withdraw
  split
  · rw [batches_release]
  · rfl

@[simp] theorem closed_withdraw (q : Intake) (sender : Nat) :
    (q.withdraw sender).2.closed = q.closed := by
  unfold withdraw
  split
  · rw [closed_release]
  · rfl

theorem pop?_eq_some {q left : Intake} {b : Batch} {told : Option Nat}
    (h : q.pop? = some (b, told, left)) :
    q.batches = b :: left.batches ∧ left.closed = q.closed := by
  unfold pop? at h
  split at h
  · cases h
  · rename_i first rest hbatches
    simp only [Option.some.injEq, Prod.mk.injEq] at h
    obtain ⟨rfl, _, rfl⟩ := h
    rw [batches_release, closed_release]
    exact ⟨hbatches, rfl⟩

-- What a queue may become when a batch is offered. A closed one refuses.
structure Answers (q : Intake) (b : Batch) (offer : Offer) (left : Intake) : Prop where
  batches : left.batches = if offer = .sent then q.batches ++ [b] else q.batches
  closed : left.closed = q.closed
  refuses : q.closed = true → offer = .refused

theorem offer_answers (q : Intake) (sender : Nat) (b : Batch) :
    q.Answers b (q.offer sender b).1 (q.offer sender b).2 := by
  unfold offer
  by_cases hc : q.closed = true
  · rw [if_pos hc]
    exact ⟨rfl, rfl, fun _ => rfl⟩
  · rw [if_neg hc]
    split
    · exact ⟨rfl, rfl, fun h => absurd h hc⟩
    · exact ⟨rfl, rfl, fun h => absurd h hc⟩

theorem offer_sent {q : Intake} (sender : Nat) (b : Batch) (hopen : q.closed = false)
    (hfree : 0 < q.free) : (q.offer sender b).1 = .sent := by
  simp [offer, hopen, hfree]

theorem redeem_answers (q : Intake) (sender : Nat) (b : Batch) :
    q.Answers b (q.redeem sender b).1 (q.redeem sender b).2 := by
  unfold redeem
  by_cases hc : q.closed = true
  · rw [if_pos hc]
    exact ⟨by simp, closed_withdraw q sender, fun _ => rfl⟩
  · rw [if_neg hc]
    split
    · exact ⟨rfl, rfl, fun h => absurd h hc⟩
    · exact ⟨rfl, rfl, fun h => absurd h hc⟩

theorem redeem_mustWait {q : Intake} {sender : Nat} {b : Batch}
    (h : (q.redeem sender b).1 = .mustWait) : (q.redeem sender b).2 = q := by
  unfold redeem at h ⊢
  split at h
  · cases h
  · rename_i hc
    split at h
    · cases h
    · rename_i hg
      rw [if_neg hc, if_neg hg]

end Intake

-- How much of an offered batch its sender has still in hand.
def Offer.left (b : Batch) : Offer → Nat
  | .sent => 0
  | .refused => 0
  | .mustWait => b.size

theorem Offer.left_eq_zero {b : Batch} {offer : Offer} (h : offer ≠ .mustWait) :
    offer.left b = 0 := by
  cases offer with
  | sent => rfl
  | refused => rfl
  | mustWait => exact absurd rfl h

namespace Pipeline

variable {id : Nat} {p q : Pipeline} {batch : Batch} {offer : Offer}

theorem settleOffer_carries {intake : Intake} (h : p.intake.Answers batch offer intake) :
    Carries id p batch.size ({ p with intake := intake }.settleOffer batch offer)
      (offer.left batch) := by
  have hclosed : offer ≠ .sent → p.intake.closed = true → intake.closed = true ∧
      (p.intake.batches = [] → intake.batches = []) := by
    intro hne hc
    rw [h.batches, if_neg hne]
    exact ⟨h.closed.trans hc, fun hb => hb⟩
  have hkeeps : offer ≠ .sent → Carries id p batch.size { p with intake := intake } batch.size := by
    intro hne
    refine carries_intake ?_ (hclosed hne)
    rw [h.batches, if_neg hne]
    rfl
  cases offer with
  | sent =>
    refine Carries.trans (carries_intake (m := 0) ?_ fun hc => absurd (h.refuses hc) (by simp))
      (carries_wakeReceiver id _ _)
    rw [h.batches, if_pos rfl, List.map_append, List.sum_append]
    simp [queued]
  | refused =>
    refine (hkeeps (by simp)).trans (carries_record ?_ rfl)
    simp only [Record.update, Stats.addLoss, Stats.settled, Offer.left]
    omega
  | mustWait => exact hkeeps (by simp)

theorem flush_carries {trigger : Option Trigger} (h : p.flush id batch trigger = (offer, q)) :
    Carries id p batch.size q (offer.left batch) := by
  have hcount : Carries id p batch.size (p.update fun s => s.addFlush trigger) batch.size := by
    refine carries_record ?_ ?_
    · simp only [Record.update, Stats.addFlush]
      split <;> rfl
    · simp only [Record.update, Stats.addFlush]
      split <;> rfl
  cases h
  exact hcount.trans (settleOffer_carries (Intake.offer_answers _ id batch))

theorem sent_of_flush {trigger : Option Trigger} (h : p.flush id batch trigger = (offer, q))
    (hopen : p.intake.closed = false) (hfree : 0 < p.intake.free) : offer = .sent := by
  simp only [flush, Prod.mk.injEq] at h
  obtain ⟨rfl, _⟩ := h
  exact Intake.offer_sent id batch hopen hfree

theorem redeem_carries (h : p.redeem id batch = (offer, q)) :
    Carries id p batch.size q (offer.left batch) := by
  cases h
  exact settleOffer_carries (Intake.redeem_answers _ id batch)

theorem activities_settleOffer (p : Pipeline) (batch : Batch) (offer : Offer) :
    (p.settleOffer batch offer).activities = p.activities := by
  cases offer <;> rfl

theorem activities_flush {trigger : Option Trigger}
    (h : p.flush id batch trigger = (offer, q)) : q.activities = p.activities := by
  cases h
  exact activities_settleOffer _ batch _

-- One who has to go on waiting finds everything as it was.
theorem redeem_mustWait (h : p.redeem id batch = (.mustWait, q)) : q = p := by
  simp only [redeem, Prod.mk.injEq] at h
  obtain ⟨hoffer, rfl⟩ := h
  rw [hoffer, Intake.redeem_mustWait hoffer]
  rfl

theorem withdraw_carries (n : Nat) : Carries id p n (p.withdraw id) n := by
  have hintake : Carries id p n { p with intake := (p.intake.withdraw id).2 } n := by
    refine carries_intake ?_ fun hc => ?_
    · rw [Intake.batches_withdraw]
      rfl
    · rw [Intake.batches_withdraw, Intake.closed_withdraw]
      exact ⟨hc, fun hb => hb⟩
  exact hintake.trans (carries_wake id _ n _)

theorem pop?_carries (id : Nat) {intake : Intake} {told : Option Nat} (n : Nat)
    (h : p.intake.pop? = some (batch, told, intake)) :
    Carries id p n ({ p with intake := intake }.wake told.toList) (n + batch.size) := by
  obtain ⟨hbatches, hclosed⟩ := Intake.pop?_eq_some h
  refine Carries.trans (carries_intake ?_ fun hc => ?_) (carries_wake id _ _ _)
  · simp only [queued, hbatches, List.map_cons, List.sum_cons]
    omega
  · exact ⟨hclosed.trans hc, fun hb => by rw [hbatches] at hb; cases hb⟩

-- Samples on their way into a batch.

-- How many samples somebody has in hand who closed a batch.
def inHand (taken : Option (Trigger × Batch)) : Nat := (taken.map fun t => t.2.size).getD 0

theorem closed_of_accepts (h : p.accepts = true) : p.closed = false := by
  unfold accepts at h
  simp only [Bool.and_eq_true, Bool.not_eq_true'] at h
  exact h.2

-- The open batch may change while the pipeline accepts samples.
theorem carries_batch {b : Batch} {record : Record} {n m : Nat} (ha : p.accepts = true)
    (hsettled : record.stats.settled = p.record.stats.settled)
    (hsize : b.size + m + p.record.stats.accepted =
      p.batch.size + n + record.stats.accepted) :
    Carries id p n { p with batch := b, record := record } m := by
  refine ⟨⟨?_, rfl, fun hd => hd, rfl⟩,
    ⟨rfl, rfl, rfl, rfl, fun hc => ?_, fun hc hb => ⟨hc, hb⟩⟩, rfl⟩
  · simp only [placed, pending, queued]
    omega
  · rw [closed_of_accepts ha] at hc
    cases hc

theorem size_push (b : Batch) (s : Sample) : (b.push s).size = b.size + 1 := by
  simp [Batch.push, Batch.size]

theorem append_carries (id : Nat) {now : Nat} {s : Sample} {taken : Option (Trigger × Batch)}
    (ha : p.accepts = true) (h : p.append now s = (taken, q)) :
    Carries id p 0 q (inHand taken) := by
  have hsize := size_push p.batch s
  unfold append at h
  dsimp only at h
  split at h
  · cases h
    refine carries_batch ha rfl ?_
    simp only [update, Record.update, inHand, Option.map_some, Option.getD_some, Batch.size, Batch.empty,
      List.length_nil] at hsize ⊢
    omega
  · cases h
    refine carries_batch ha rfl ?_
    simp only [update, Record.update, inHand, Option.map_none, Option.getD_none]
    omega

theorem intake_append {now : Nat} {s : Sample} {taken : Option (Trigger × Batch)}
    (h : p.append now s = (taken, q)) : q.intake = p.intake := by
  unfold append at h
  dsimp only at h
  split at h <;> cases h <;> rfl

theorem activities_append {now : Nat} {s : Sample} {taken : Option (Trigger × Batch)}
    (h : p.append now s = (taken, q)) : q.activities = p.activities := by
  unfold append at h
  dsimp only at h
  split at h <;> cases h <;> rfl

theorem expire_carries (id : Nat) {now : Nat} {taken : Option (Trigger × Batch)}
    (h : p.expire now = (taken, q)) : Carries id p 0 q (inHand taken) := by
  unfold expire at h
  split at h
  · cases h
    exact .refl id p 0
  · rename_i ha
    split at h
    · cases h
      refine carries_batch (by simpa using ha) rfl ?_
      simp only [inHand, Option.map_some, Option.getD_some, Batch.size, Batch.empty,
        List.length_nil]
      omega
    · cases h
      exact .refl id p 0

theorem activities_expire {now : Nat} {taken : Option (Trigger × Batch)}
    (h : p.expire now = (taken, q)) : q.activities = p.activities := by
  unfold expire at h
  split at h
  · cases h
    rfl
  · split at h <;> cases h <;> rfl

end Pipeline

end MetricRelay.Write

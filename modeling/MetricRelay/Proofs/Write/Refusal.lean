import MetricRelay.Proofs.Write.Accumulation

-- Adding a sample without waiting. It comes to the same as adding it whenever the queue has room or
-- the sample closes no batch; a full queue refuses a sample that would close the batch, and nothing
-- else changes. Once the intake was closed every sample is refused.

namespace MetricRelay.Write

open Store (Link)

namespace Intake

-- A sender would get a place at once.
def HasRoom (q : Intake) : Prop := q.closed = false ∧ 0 < q.free

-- A sender would have to wait for a place.
def IsFull (q : Intake) : Prop := q.closed = false ∧ q.free = 0

end Intake

namespace Pipeline

-- The sample would close the open batch.
def Fills (p : Pipeline) (now : Nat) (s : Sample) : Prop := (p.append now s).1.isSome = true

section

variable {p q : Pipeline} {now : Nat} {s : Sample} {taken : Option (Trigger × Batch)}

-- The batch as it will be is judged as the batch that has the sample.
theorem fst_append (p : Pipeline) (now : Nat) (s : Sample) :
    (p.append now s).1 =
      (p.evaluate (p.batch.measureWith s now)).map fun trigger => (trigger, p.batch.push s) := by
  have hsame : ∀ m, (p.update fun t => { t with accepted := t.accepted + 1 }).evaluate m =
      p.evaluate m := fun _ => rfl
  unfold append
  dsimp only
  rw [hsame, Batch.measure_push]
  cases p.evaluate (p.batch.measureWith s now) <;> rfl

theorem fills_iff : p.Fills now s ↔ p.evaluate (p.batch.measureWith s now) ≠ none := by
  rw [Fills, fst_append, Option.isSome_map, Option.isSome_iff_ne_none]

theorem append_of_not_fills (h : ¬p.Fills now s) :
    p.append now s = (none, { p.update fun t => { t with accepted := t.accepted + 1 } with
      batch := p.batch.push s }) := by
  unfold Fills at h
  unfold append at h ⊢
  dsimp only at h ⊢
  split
  · rename_i trigger heq
    rw [heq] at h
    exact absurd rfl h
  · rfl

theorem tryAdd_of_not_accepts (id : Nat) (h : p.accepts = false) :
    p.tryAdd now id s = (.error .shuttingDown, p) := by
  unfold tryAdd
  rw [h, Bool.not_false, if_pos rfl]

theorem add_of_not_accepts (id : Nat) (h : p.accepts = false) :
    p.add now id s = (some (.error .shuttingDown), p) := by
  unfold add
  rw [h, Bool.not_false, if_pos rfl]

-- What a call that does not wait makes of a sample that would close the batch.
theorem tryAdd_of_fills (id : Nat) (ha : p.accepts = true) (h : p.Fills now s) :
    p.tryAdd now id s =
      if p.intake.closed then (.error .shuttingDown, p)
      else if p.intake.free = 0 then
        (.error .bufferFull, p.update fun t => { t with rejected := t.rejected + 1 })
      else
        match p.append now s with
        | (none, p) => (.ok (.added none), p)
        | (some (trigger, batch), p) =>
          (.ok (.added (some trigger)), (p.flush id batch (some trigger)).2) := by
  have hfull : ¬(p.evaluate (p.batch.measureWith s now)).isNone = true :=
    mt Option.isNone_iff_eq_none.mp (fills_iff.mp h)
  have hopen : ¬(!p.accepts) = true := by simp [ha]
  unfold tryAdd
  exact (if_neg hopen).trans (if_neg hfull)

-- A sample that closes no batch is added in the same way by both.
theorem add_of_not_fills (id : Nat) (ha : p.accepts = true) (h : ¬p.Fills now s) :
    p.add now id s = (some (p.tryAdd now id s).1, (p.tryAdd now id s).2) := by
  have hfits : (p.evaluate (p.batch.measureWith s now)).isNone = true :=
    Option.isNone_iff_eq_none.mpr (not_not.mp (mt fills_iff.mpr h))
  have htry : p.tryAdd now id s = (.ok (.added none),
      { p.update fun t => { t with accepted := t.accepted + 1 } with
        batch := p.batch.push s }) := by
    unfold tryAdd
    rw [ha, Bool.not_true, if_neg Bool.false_ne_true, if_pos hfits]
    rfl
  unfold add
  rw [htry, ha, Bool.not_true, if_neg Bool.false_ne_true, append_of_not_fills h]

-- So is one that closes a batch for which there is room.
theorem add_of_room (id : Nat) (ha : p.accepts = true) (h : p.Fills now s)
    (hroom : p.intake.HasRoom) :
    p.add now id s = (some (p.tryAdd now id s).1, (p.tryAdd now id s).2) := by
  obtain ⟨hopen, hfree⟩ := hroom
  rw [tryAdd_of_fills id ha h, hopen, if_neg Bool.false_ne_true, if_neg (by omega)]
  unfold add
  rw [ha, Bool.not_true, if_neg Bool.false_ne_true]
  cases happend : p.append now s with
  | mk taken q =>
    have hsame := (append_refilled happend).1.intake
    cases taken with
    | none => rfl
    | some taken =>
      have hflush : q.flush id taken.2 (some taken.1) =
          (.sent, (q.flush id taken.2 (some taken.1)).2) :=
        Prod.ext (sent_of_flush rfl (hsame ▸ hopen) (hsame ▸ hfree)) rfl
      dsimp only
      rw [hflush]

theorem refused_of_flush {id : Nat} {batch : Batch} {trigger : Option Trigger} {offer : Offer}
    (h : p.flush id batch trigger = (offer, q)) (hgone : p.intake.closed = true) :
    offer = .refused := by
  simp only [flush, Prod.mk.injEq] at h
  obtain ⟨rfl, _⟩ := h
  exact congrArg Prod.fst (if_pos hgone : p.intake.offer id batch = (.refused, p.intake))

-- With the other end of the queue gone, a batch that is closed is lost.
theorem add_of_gone (id : Nat) (ha : p.accepts = true) (h : p.Fills now s)
    (hgone : p.intake.closed = true) : (p.add now id s).1 = some (.error .shuttingDown) := by
  unfold add
  rw [ha, Bool.not_true, if_neg Bool.false_ne_true]
  unfold Fills at h
  cases happend : p.append now s with
  | mk taken q =>
    have hsame := (append_refilled happend).1.intake
    cases taken with
    | none => rw [happend] at h; cases h
    | some taken =>
      have hflush : q.flush id taken.2 (some taken.1) =
          (.refused, (q.flush id taken.2 (some taken.1)).2) :=
        Prod.ext (refused_of_flush rfl (hsame ▸ hgone)) rfl
      dsimp only
      rw [hflush]

-- The end of the intake.

theorem closed_flush {id : Nat} {batch : Batch} {trigger : Option Trigger} {offer : Offer}
    (h : p.flush id batch trigger = (offer, q)) : q.closed = p.closed := by
  cases h
  exact (besides_settleOffer _ batch _).closed

theorem closed_endIntake (p : Pipeline) (now : Nat) : (p.endIntake now).2.closed = true := by
  unfold endIntake
  dsimp only
  generalize (if p.hasSender && !p.batch.isEmpty then some p.batch else none) = last
  cases last with
  | none => exact (besides_senderGone _).closed
  | some batch => rfl

theorem closed_close (p : Pipeline) (l : Link) (id deadline : Nat) :
    (p.close l id deadline).2.1.closed = true := by
  have hended := closed_endIntake p l.now
  unfold close
  split
  · rename_i q hend
    rw [hend] at hended
    exact hended
  · rename_i batch q hend
    rw [hend] at hended
    split
    · rename_i r hflush
      exact (besides_senderGone r).closed.trans ((closed_flush hflush).trans hended)
    · rename_i r hflush
      exact (besides_senderGone r).closed.trans ((closed_flush hflush).trans hended)
    · rename_i r hflush
      have hclosed := (closed_flush hflush).trans hended
      dsimp only
      split
      · have hgone := (besides_withdraw r id).trans (besides_senderGone _)
        exact hgone.closed.trans hclosed
      · exact (besides_set r id _).closed.trans hclosed

theorem not_accepts_of_closed (h : p.closed = true) : p.accepts = false := by
  rw [accepts, h, Bool.not_true, Bool.and_false]

end

end Pipeline

namespace Session

section

variable {config : Config} {s : Session} {l : Link}

-- An intake that was closed stays so, whatever the client asks and whoever empties the queue.
theorem step_attended (hp : s.pipeline.Attended config) (l : Link) (m : Move) :
    (s.step l m).pipeline.Attended config ∧
      (s.pipeline.closed = true → (s.step l m).pipeline.closed = true) := by
  cases m with
  | call c =>
    unfold step
    dsimp only
    split
    · exact ⟨hp, id⟩
    · rename_i hidle
      have hcalled := called l c hp (idle_of_not_isActive hp hidle)
      exact ⟨hcalled.attended, fun hclosed => (hcalled.closed hclosed).2.2.1⟩
  | proceed =>
    have hproceeded := Pipeline.turn_proceeded l hp
    exact ⟨hproceeded.attended, hproceeded.closed.trans⟩
  | take =>
    unfold step
    dsimp only
    split
    · rename_i b q htake
      obtain ⟨hq, -, hclosed, -, -⟩ := Pipeline.take_batch hp htake
      exact ⟨hq, hclosed.trans⟩
    · rename_i taken q hnone htake
      rw [Pipeline.take_nothing htake fun b hb => hnone b hb]
      exact ⟨hp, id⟩

theorem after_attended (hp : s.pipeline.Attended config) (moves : List (Link × Move)) :
    (s.after moves).pipeline.Attended config ∧
      (s.pipeline.closed = true → (s.after moves).pipeline.closed = true) := by
  induction moves generalizing s with
  | nil => exact ⟨hp, id⟩
  | cons m rest ih =>
    obtain ⟨hstep, hstays⟩ := step_attended hp m.1 m.2
    obtain ⟨hafter, hkeeps⟩ := ih hstep
    exact ⟨hafter, fun hclosed => hkeeps (hstays hclosed)⟩

theorem begin_attended (config : Config) (target : String) (now : Nat) :
    (begin config target now).pipeline.Attended config :=
  ⟨rfl, rfl, rfl, fun _ => rfl, .idle⟩

-- From a call that closes the intake on, no sample is accepted.
theorem not_accepts_after_close (hp : s.pipeline.Attended config)
    (hidle : s.pipeline.isActive client = false) (deadline : Nat) (more : List (Link × Move)) :
    (s.after ((l, .call (.close deadline)) :: more)).pipeline.accepts = false := by
  have hstep : (s.step l (.call (.close deadline))).pipeline.closed = true := by
    unfold step
    dsimp only
    rw [hidle, if_neg Bool.false_ne_true]
    exact Pipeline.closed_close s.pipeline l client deadline
  obtain ⟨hclosing, -⟩ := step_attended hp l (.call (.close deadline))
  exact Pipeline.not_accepts_of_closed ((after_attended hclosing more).2 hstep)

end

end Session

namespace Pipeline

-- Adding a sample without waiting, in any state. With room in the queue, or when the sample closes
-- no batch, it is answered and changes the pipeline as adding is and does. A full queue refuses a
-- sample that would close the batch, which costs one more in the count of those rejected and
-- nothing else. When the queue's other end is gone, or the intake is closed, both fail alike; a
-- closed intake stays closed, and what it refuses changes nothing.
theorem tryAdd_agrees (p : Pipeline) (now id : Nat) (s : Sample) :
    (p.intake.HasRoom ∨ ¬p.Fills now s →
      p.add now id s = (some (p.tryAdd now id s).1, (p.tryAdd now id s).2)) ∧
    (p.accepts = true → p.Fills now s → p.intake.IsFull →
      p.tryAdd now id s =
        (.error .bufferFull, p.update fun t => { t with rejected := t.rejected + 1 })) ∧
    (p.accepts = true → p.Fills now s → p.intake.closed = true →
      (p.add now id s).1 = some (.error .shuttingDown) ∧
        p.tryAdd now id s = (.error .shuttingDown, p)) ∧
    (p.accepts = false → p.add now id s = (some (.error .shuttingDown), p) ∧
      p.tryAdd now id s = (.error .shuttingDown, p)) ∧
    ∀ (config : Config) (target : String) (start : Nat) (before after : List (Link × Session.Move))
      (l : Link) (deadline : Nat),
      let r := (Session.begin config target start).after before
      r.pipeline.isActive client = false →
        let q := (r.after ((l, .call (.close deadline)) :: after)).pipeline
        q.add now id s = (some (.error .shuttingDown), q) ∧
          q.tryAdd now id s = (.error .shuttingDown, q) := by
  have hrefused : ∀ q : Pipeline, q.accepts = false →
      q.add now id s = (some (.error .shuttingDown), q) ∧
        q.tryAdd now id s = (.error .shuttingDown, q) :=
    fun q h => ⟨add_of_not_accepts id h, tryAdd_of_not_accepts id h⟩
  refine ⟨fun h => ?_, fun ha hfills hfull => ?_, fun ha hfills hgone => ?_, hrefused p,
    fun config target start before after l deadline => ?_⟩
  · by_cases ha : p.accepts = true
    · by_cases hfills : p.Fills now s
      · exact add_of_room id ha hfills (h.resolve_right (not_not_intro hfills))
      · exact add_of_not_fills id ha hfills
    · obtain ⟨hadd, htry⟩ := hrefused p (Bool.not_eq_true _ ▸ ha)
      rw [hadd, htry]
  · rw [tryAdd_of_fills id ha hfills, hfull.1, if_neg Bool.false_ne_true, if_pos hfull.2]
  · refine ⟨add_of_gone id ha hfills hgone, ?_⟩
    rw [tryAdd_of_fills id ha hfills, if_pos hgone]
  · intro r hidle
    have hr := (Session.after_attended (Session.begin_attended config target start) before).1
    exact hrefused _ (Session.not_accepts_after_close hr hidle deadline after)

private def idleLink : Link := ⟨.empty, .manual 0, 0, ∅, [], 0, 0⟩

private def mark (timestamp : Int64) : Sample := ⟨"mark", ∅, timestamp, .zero false, by decide⟩

-- One sample to a batch, and room for one batch.
private def oneEach : Config :=
  { (default : Config) with batch := ⟨none, some 1, none⟩, queueCapacity := 1 }

private def adding : List (Link × Session.Move) := [(idleLink, .call (.add (mark 1)))]

private def fresh : Pipeline := (Session.begin oneEach "m" 0).pipeline

private def taken : Session := (Session.begin oneEach "m" 0).after adding

-- The first sample takes the only place; the second one is refused for want of another, and the
-- third one after the close.
theorem narrow_refuses :
    fresh.intake.HasRoom ∧ fresh.Fills 0 (mark 1) ∧
    fresh.add 0 client (mark 1) =
      (some (fresh.tryAdd 0 client (mark 1)).1, (fresh.tryAdd 0 client (mark 1)).2) ∧
    taken.pipeline.accepts = true ∧ taken.pipeline.Fills 0 (mark 2) ∧
    taken.pipeline.intake.IsFull ∧
    taken.pipeline.tryAdd 0 client (mark 2) =
      (.error .bufferFull,
        taken.pipeline.update fun t => { t with rejected := t.rejected + 1 }) ∧
    taken.pipeline.isActive client = false ∧
    let q := (taken.after [(idleLink, .call (.close 0))]).pipeline
    q.tryAdd 0 client (mark 3) = (.error .shuttingDown, q) := by
  have hroom : fresh.intake.HasRoom := ⟨rfl, by decide⟩
  have hfull : taken.pipeline.intake.IsFull := ⟨rfl, rfl⟩
  obtain ⟨hagree, -⟩ := tryAdd_agrees fresh 0 client (mark 1)
  obtain ⟨-, hrefuse, -⟩ := tryAdd_agrees taken.pipeline 0 client (mark 2)
  obtain ⟨-, -, -, -, hshut⟩ := tryAdd_agrees fresh 0 client (mark 3)
  have hidle : taken.pipeline.isActive client = false := rfl
  exact ⟨hroom, rfl, hagree (.inl hroom), rfl, rfl, hfull, hrefuse rfl rfl hfull, hidle,
    (hshut oneEach "m" 0 adding [] idleLink 0 hidle).2⟩

end Pipeline

end MetricRelay.Write

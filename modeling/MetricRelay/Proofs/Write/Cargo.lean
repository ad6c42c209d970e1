import MetricRelay.Proofs.Write.Trace

-- The documents on their way through a pipeline: those of samples in the open batch, in the queue
-- and in somebody's hands. None comes out of a turn that did not go into it.

namespace MetricRelay.Write

theorem subperm_of_count {xs ys : List Document} (h : ∀ d, xs.count d ≤ ys.count d) :
    xs.Subperm ys :=
  List.subperm_ext_iff.mpr fun d _ => h d

def Hand.documents (h : Hand) : List Document := (h.batch.map Batch.documents).getD []

-- What an activity has in hand, and what it has still to add.
def Activity.load (a : Activity) : List Document := a.hand.documents ++ a.rest.map .ofSample

namespace Pipeline

-- What is in nobody's hands.
def stock (p : Pipeline) : List Document :=
  p.batch.documents ++ p.intake.batches.flatMap Batch.documents

def loads (activities : List (Nat × Activity)) : List Document :=
  activities.flatMap fun e => e.2.load

-- All documents on their way.
def cargo (p : Pipeline) : List Document := p.stock ++ loads p.activities

-- The same without what one activity has.
def cargoBut (p : Pipeline) (id : Nat) : List Document := p.stock ++ loads (p.others id)

section

variable {id : Nat} {p q r : Pipeline} {hand last : Hand} {taken samples : List Sample}

theorem count_loads (p : Pipeline) (id : Nat) (d : Document) :
    (loads p.activities).count d =
      (loads (p.others id)).count d + (loads (p.own id)).count d := by
  unfold loads others own
  induction p.activities with
  | nil => rfl
  | cons e rest ih =>
    rw [List.filter_cons, List.filter_cons]
    by_cases he : e.1 = id <;>
      simp only [he, bne_self_eq_false, Bool.false_eq_true, beq_self_eq_true, if_true, if_false,
        bne_iff_ne, ne_eq, not_false_eq_true, beq_iff_eq, List.flatMap_cons,
        List.count_append] at ih ⊢ <;>
      omega

theorem count_cargo (p : Pipeline) (id : Nat) (d : Document) :
    p.cargo.count d = (p.cargoBut id).count d + (loads (p.own id)).count d := by
  have hloads := count_loads p id d
  unfold cargo cargoBut
  rw [List.count_append, List.count_append]
  omega

theorem cargo_of_own_nil (hown : p.own id = []) (d : Document) :
    p.cargo.count d = (p.cargoBut id).count d := by
  rw [count_cargo p id, hown]
  rfl

theorem cargo_of_own {a : Activity} (hown : p.own id = [(id, a)]) (d : Document) :
    p.cargo.count d = (p.cargoBut id).count d + a.load.count d := by
  rw [count_cargo p id, hown]
  simp [loads]

theorem count_cargoBut (p : Pipeline) (id : Nat) (d : Document) :
    (p.cargoBut id).count d = p.batch.documents.count d +
      (p.intake.batches.flatMap Batch.documents).count d + (loads (p.others id)).count d := by
  unfold cargoBut stock
  rw [List.count_append, List.count_append]

-- One step of a trace.

theorem Shifts.cargoBut (h : Shifts id p q) : q.cargoBut id = p.cargoBut id := by
  unfold Pipeline.cargoBut stock
  rw [h.batch, h.batches, h.others]

theorem count_push (b : Batch) (s : Sample) (d : Document) :
    (b.push s).documents.count d = b.documents.count d + [Document.ofSample s].count d := by
  simp only [Batch.documents, Batch.push, List.map_append, List.count_append, List.map_cons,
    List.map_nil]

theorem count_append (id : Nat) {now : Nat} {s : Sample} {closed : Option (Trigger × Batch)}
    (h : p.append now s = (closed, q)) (d : Document) :
    (q.cargoBut id).count d + (Hand.taking closed).documents.count d =
      (p.cargoBut id).count d + [Document.ofSample s].count d := by
  have hpush := count_push p.batch s d
  rw [count_cargoBut, count_cargoBut]
  unfold append at h
  dsimp only at h
  split at h
  · cases h
    change ([] : List Document).count d + (p.intake.batches.flatMap Batch.documents).count d +
      (loads (p.others id)).count d + (p.batch.push s).documents.count d = _
    rw [List.count_nil]
    omega
  · cases h
    change (p.batch.push s).documents.count d +
      (p.intake.batches.flatMap Batch.documents).count d + (loads (p.others id)).count d +
      ([] : List Document).count d = _
    rw [List.count_nil]
    omega

theorem count_expire (id : Nat) {now : Nat} {closed : Option (Trigger × Batch)}
    (h : p.expire now = (closed, q)) (d : Document) :
    (q.cargoBut id).count d + (Hand.taking closed).documents.count d =
      (p.cargoBut id).count d := by
  unfold expire at h
  split at h
  · cases h
    rfl
  · split at h
    · cases h
      rw [count_cargoBut, count_cargoBut]
      change ([] : List Document).count d + (p.intake.batches.flatMap Batch.documents).count d +
        (loads (p.others id)).count d + p.batch.documents.count d = _
      rw [List.count_nil]
      omega
    · cases h
      rfl

-- What is refused is gone.
theorem count_settleOffer (id : Nat) {batch : Batch} {offer : Offer} {intake : Intake}
    (h : p.intake.Answers batch offer intake) (d : Document) :
    (({ p with intake := intake }.settleOffer batch offer).cargoBut id).count d +
      (Hand.after batch offer).documents.count d ≤
    (p.cargoBut id).count d + (Hand.holding batch).documents.count d := by
  have hbatches := h.batches
  rw [count_cargoBut, count_cargoBut]
  cases offer with
  | sent =>
    rw [if_pos rfl] at hbatches
    change p.batch.documents.count d + (intake.batches.flatMap Batch.documents).count d +
      (loads (p.others id)).count d + ([] : List Document).count d ≤
      _ + batch.documents.count d
    rw [hbatches, List.flatMap_append, List.count_append, List.flatMap_cons, List.flatMap_nil,
      List.append_nil, List.count_nil]
    omega
  | refused =>
    rw [if_neg (by simp)] at hbatches
    change p.batch.documents.count d + (intake.batches.flatMap Batch.documents).count d +
      (loads (p.others id)).count d + ([] : List Document).count d ≤ _
    rw [hbatches, List.count_nil]
    omega
  | mustWait =>
    rw [if_neg (by simp)] at hbatches
    change p.batch.documents.count d + (intake.batches.flatMap Batch.documents).count d +
      (loads (p.others id)).count d + batch.documents.count d ≤ _ + batch.documents.count d
    rw [hbatches]

theorem count_endIntake (id : Nat) {now : Nat} {batch : Option Batch} (hsender : p.hasSender = true)
    (h : p.endIntake now = (batch, q)) (d : Document) :
    (q.cargoBut id).count d + (Hand.mk batch .none).documents.count d =
      (p.cargoBut id).count d := by
  rw [count_cargoBut p]
  unfold endIntake at h
  cases hempty : p.batch.isEmpty with
  | true =>
    simp only [hempty, Bool.not_true, Bool.and_false] at h
    cases h
    have hgone := (shifts_senderGone id
      { p with hasSender := false, closed := true, batch := p.batch }).cargoBut
    change (Pipeline.cargoBut (Pipeline.senderGone
      { p with hasSender := false, closed := true, batch := p.batch }) id).count d +
        ([] : List Document).count d = _
    rw [hgone, count_cargoBut, List.count_nil]
    rfl
  | false =>
    simp only [hsender, hempty, Bool.not_false, Bool.and_true, if_true, Option.isNone_some,
      Bool.false_eq_true, if_false] at h
    cases h
    rw [count_cargoBut]
    change ([] : List Document).count d + (p.intake.batches.flatMap Batch.documents).count d +
      (loads (p.others id)).count d + p.batch.documents.count d = _
    rw [List.count_nil]
    omega

theorem Trace.cargo (h : Trace id p hand taken q last) (d : Document) :
    (q.cargoBut id).count d + last.documents.count d ≤
      (p.cargoBut id).count d + hand.documents.count d +
        (taken.map Document.ofSample).count d := by
  induction h with
  | stop => simp
  | shift h _ ih => rwa [h.cargoBut] at ih
  | count h _ ih => exact ih
  | @append p q r now s closed last taken ha h _ ih =>
    have happended := count_append id h d
    rw [List.map_cons, ← List.singleton_append, List.count_append]
    omega
  | @expire p q r now closed last taken h _ ih =>
    have hexpired := count_expire id h d
    omega
  | offer h _ _ ih =>
    have hoffered := count_settleOffer id h d
    omega
  | endIntake hsender h _ ih =>
    have hended := count_endIntake id hsender h d
    omega
  | @giveUp p r batch last taken _ ih =>
    have hnothing : (Hand.mk none ⟨1, batch.size⟩).documents = [] := rfl
    rw [hnothing, List.count_nil] at ih
    omega

-- Whole turns.

theorem Turned.count (h : Turned id p hand samples q) (d : Document) :
    q.cargo.count d ≤ (p.cargoBut id).count d + hand.documents.count d +
      (samples.map Document.ofSample).count d := by
  obtain ⟨taken, left, last, rfl, htrace, hlands⟩ := h
  have hcount := htrace.cargo d
  rw [List.map_append, List.count_append]
  cases hlands with
  | gone hown hhand =>
    rw [cargo_of_own_nil hown]
    omega
  | stays a hown hhand hrest =>
    rw [cargo_of_own hown, Activity.load, hhand, hrest, List.count_append]
    omega

theorem conclude_leaves (p : Pipeline) (id : Nat) (report : Loss) :
    (p.conclude id report).2.activities = p.others id ∧
      (p.conclude id report).2.target = p.target ∧
      (p.conclude id report).2.batch = p.batch ∧
      (p.conclude id report).2.intake = p.intake := by
  unfold conclude
  dsimp only
  split <;> exact ⟨rfl, rfl, rfl, rfl⟩

-- A shutdown that returns leaves everybody else alone. What is still queued is gone.
theorem collect_leaves (p : Pipeline) (id : Nat) (report : Loss) :
    (p.collect id report).2.activities = p.others id ∧
      (p.collect id report).2.target = p.target ∧
      (p.collect id report).2.batch = p.batch ∧
      (p.collect id report).2.intake.batches = [] := by
  unfold collect
  dsimp only [Intake.close, Intake.clear]
  rw [foldl_addLost]
  generalize hcleared : Pipeline.wake _ _ = q
  have hrelease := shifts_releaseReceiver id q
  obtain ⟨hactivities, htarget, hbatch, hintake⟩ := conclude_leaves q.releaseReceiver id report
  rw [hactivities, htarget, hbatch, hintake, hrelease.others, hrelease.target, hrelease.batch,
    hrelease.batches]
  subst hcleared
  exact ⟨rfl, rfl, rfl, rfl⟩

theorem collect_cargo (p : Pipeline) (id : Nat) (report : Loss) (d : Document) :
    (p.collect id report).2.cargo.count d ≤ (p.cargoBut id).count d := by
  obtain ⟨hactivities, _, hbatch, hbatches⟩ := collect_leaves p id report
  rw [count_cargoBut]
  unfold cargo stock
  rw [hactivities, hbatch, hbatches, List.flatMap_nil, List.append_nil, List.count_append]
  omega

theorem Heads.cargo {result : Option Result} (h : Heads id p hand result q) (d : Document) :
    q.cargo.count d ≤ (p.cargoBut id).count d + hand.documents.count d := by
  cases h with
  | goesOn h =>
    have hcount := h.count d
    simpa using hcount
  | @collects q report h =>
    have hcount := h.cargo d
    have hcollected := collect_cargo q id report d
    have hnothing : (Hand.mk none report).documents = [] := rfl
    rw [hnothing, List.map_nil, List.count_nil] at hcount
    omega

end

end Pipeline

end MetricRelay.Write

import MetricRelay.Proofs.Write.Resending

-- A delivery round by round, whatever the store answers. Each round is one bulk request; the
-- delivery ends when nothing is left to send, or when what is left is given up. Its notes account
-- for every document of the batch.

namespace MetricRelay.Write

-- The counters after a delivery that came to `d` and was retried so often.
def Stats.book (base : Stats) (d : Delivery) (retries : Nat) : Stats :=
  { base with
    written := base.written + d.written
    dropped := base.dropped + d.dropped
    failed := base.failed + d.failed
    retries := base.retries + retries
    failedBatches := base.failedBatches + if 0 < d.failed then 1 else 0 }

namespace Delivery

open Store (Deed Outcome Peer Routine)

variable {σ ρ : Type} {peer : Peer σ ρ} {config : Config} {target : String}

-- What is left to send after an answer.
def remaining (docs : List Document) (answer : Except Error (List Outcome)) : List Document :=
  match checkLength docs answer with
  | .ok outcomes => retryable docs outcomes
  | .error _ => docs

-- One outcome for each document sent; none if the answer is of no use.
def verdicts (docs : List Document) (answer : Except Error (List Outcome)) : List Outcome :=
  match checkLength docs answer with
  | .ok outcomes => outcomes
  | .error _ => []

-- An attempt, and what its answer says of the documents.
def counted (soFar : Delivery) (docs : List Document) (answer : Except Error (List Outcome)) :
    Delivery :=
  { soFar.attempted with
    written := soFar.written + countAccepted (verdicts docs answer)
    dropped := soFar.dropped + (refusals (verdicts docs answer)).length }

def settling (docs : List Document) (answer : Except Error (List Outcome)) : List Note :=
  match checkLength docs answer with
  | .ok outcomes =>
    [.settled (countAccepted outcomes) (refusals outcomes).length (refusals outcomes).head?
      (retryable docs outcomes).length]
  | .error _ => []

def abandoned (soFar : Delivery) (docs : List Document) : Delivery :=
  { soFar with failed := soFar.failed + docs.length }

theorem remaining_ok {docs : List Document} {answer : Except Error (List Outcome)}
    {outcomes : List Outcome} (h : checkLength docs answer = .ok outcomes) :
    remaining docs answer = retryable docs outcomes := by
  unfold remaining
  rw [h]

theorem remaining_error {docs : List Document} {answer : Except Error (List Outcome)} {e : Error}
    (h : checkLength docs answer = .error e) : remaining docs answer = docs := by
  unfold remaining
  rw [h]

theorem verdicts_ok {docs : List Document} {answer : Except Error (List Outcome)}
    {outcomes : List Outcome} (h : checkLength docs answer = .ok outcomes) :
    verdicts docs answer = outcomes := by
  unfold verdicts
  rw [h]

theorem verdicts_error {docs : List Document} {answer : Except Error (List Outcome)} {e : Error}
    (h : checkLength docs answer = .error e) : verdicts docs answer = [] := by
  unfold verdicts
  rw [h]

theorem settling_ok {docs : List Document} {answer : Except Error (List Outcome)}
    {outcomes : List Outcome} (h : checkLength docs answer = .ok outcomes) :
    settling docs answer =
      [.settled (countAccepted outcomes) (refusals outcomes).length (refusals outcomes).head?
        (retryable docs outcomes).length] := by
  unfold settling
  rw [h]

theorem settling_error {docs : List Document} {answer : Except Error (List Outcome)} {e : Error}
    (h : checkLength docs answer = .error e) : settling docs answer = [] := by
  unfold settling
  rw [h]

theorem length_of_checkLength {docs : List Document} {answer : Except Error (List Outcome)}
    {outcomes : List Outcome} (h : checkLength docs answer = .ok outcomes) :
    answer = .ok outcomes ∧ outcomes.length = docs.length := by
  cases answer with
  | error e => cases h
  | ok given =>
    rw [checkLength_ok] at h
    split at h
    · rename_i hlength
      cases h
      exact ⟨rfl, hlength⟩
    · cases h

-- An answer splits the documents sent into those taken, those refused and those to send again.
theorem length_remaining (docs : List Document) (answer : Except Error (List Outcome)) :
    countAccepted (verdicts docs answer) + (refusals (verdicts docs answer)).length +
      (remaining docs answer).length = docs.length := by
  cases h : checkLength docs answer with
  | ok outcomes =>
    rw [verdicts_ok h, remaining_ok h]
    exact length_outcomes docs outcomes (length_of_checkLength h).2
  | error e =>
    rw [verdicts_error h, remaining_error h]
    simp [countAccepted, refusals]

-- The deeds of a delivery that has `docs` to send and may make `left` attempts after the next one,
-- and how it ends.
inductive Rounds (config : Config) (target : String) :
    Nat → List Document → Delivery → List (Deed Note ρ) → Delivery → Prop
  | finished {left : Nat} {docs : List Document} {soFar : Delivery}
      {answer : Except Error (List Outcome)} (remark : ρ) {outcomes : List Outcome}
      (hjudged : checkLength docs answer = .ok outcomes) (hnone : remaining docs answer = []) :
      Rounds config target left docs soFar
        (.asked (request config target docs) answer remark :: (settling docs answer).map .noted)
        (soFar.counted docs answer)
  | gaveUp {left : Nat} {docs : List Document} {soFar : Delivery}
      {answer : Except Error (List Outcome)} (remark : ρ) (reason : String)
      (hstop : left = 0 ∨ ∃ e, checkLength docs answer = .error e ∧ e.isTransient = false)
      (hleft : docs ≠ [] → remaining docs answer ≠ []) :
      Rounds config target left docs soFar
        (.asked (request config target docs) answer remark :: (settling docs answer).map .noted ++
          [.noted (.failed (remaining docs answer).length (soFar.attempts + 1) reason)])
        ((soFar.counted docs answer).abandoned (remaining docs answer))
  | again {left : Nat} {docs : List Document} {soFar : Delivery}
      {answer : Except Error (List Outcome)} (remark : ρ) {deeds : List (Deed Note ρ)}
      {d : Delivery}
      (hpasses : ∀ e, checkLength docs answer = .error e → e.isTransient = true)
      (hleft : docs ≠ [] → remaining docs answer ≠ [])
      (hnext : Rounds config target left (remaining docs answer) (soFar.counted docs answer)
        deeds d) :
      Rounds config target (left + 1) docs soFar
        (.asked (request config target docs) answer remark :: (settling docs answer).map .noted ++
          .noted .retrying :: .paused (config.backoff.delay (soFar.attempts + 1)) :: deeds) d

-- What comes after an attempt, by how many more may be made.
def goOn (config : Config) (target : String) :
    Nat → List Document → Delivery → String → Routine Note Delivery
  | 0 => giveUp
  | left + 1 => sendAgain config target left

theorem attemptUpTo_eq (left : Nat) :
    attemptUpTo config target left = attemptOnce config target (goOn config target left) := by
  cases left <;> rfl

theorem conclude_attemptOnce (again : List Document → Delivery → String → Routine Note Delivery)
    (docs : List Document) (soFar : Delivery) (s : σ) :
    (attemptOnce config target again docs soFar).conclude peer s =
      let answered := peer.answer s (request config target docs)
      (followUp again docs soFar.attempted answered.1).conclude peer answered.2.2 := rfl

theorem counted_ok {soFar : Delivery} {docs : List Document} {answer : Except Error (List Outcome)}
    {outcomes : List Outcome} (h : checkLength docs answer = .ok outcomes) :
    soFar.counted docs answer =
      { soFar.attempted with written := soFar.written + countAccepted outcomes
                             dropped := soFar.dropped + (refusals outcomes).length } := by
  rw [counted, verdicts_ok h]

theorem counted_error {soFar : Delivery} {docs : List Document}
    {answer : Except Error (List Outcome)} {e : Error} (h : checkLength docs answer = .error e) :
    soFar.counted docs answer = soFar.attempted := by
  rw [counted, verdicts_error h]
  rfl

-- What is left after an attempt is sent again or given up.
theorem rounds_goOn {left : Nat}
    (hnext : ∀ next, left = next + 1 → ∀ docs soFar s, Rounds config target next docs soFar
      ((attemptUpTo config target next docs soFar).deeds peer s)
      ((attemptUpTo config target next docs soFar).conclude peer s).1)
    {docs : List Document} (soFar : Delivery) {answer : Except Error (List Outcome)} (remark : ρ)
    (reason : String) (s : σ)
    (hpasses : ∀ e, checkLength docs answer = .error e → e.isTransient = true)
    (hleft : docs ≠ [] → remaining docs answer ≠ []) :
    let rest := goOn config target left (remaining docs answer) (soFar.counted docs answer) reason
    Rounds config target left docs soFar
      (.asked (request config target docs) answer remark :: (settling docs answer).map .noted ++
        rest.deeds peer s) (rest.conclude peer s).1 := by
  cases left with
  | zero => exact .gaveUp remark reason (.inl rfl) hleft
  | succ left => exact .again remark hpasses hleft (hnext left rfl _ _ s)

theorem rounds_followUp {left : Nat}
    (hnext : ∀ next, left = next + 1 → ∀ docs soFar s, Rounds config target next docs soFar
      ((attemptUpTo config target next docs soFar).deeds peer s)
      ((attemptUpTo config target next docs soFar).conclude peer s).1)
    (docs : List Document) (soFar : Delivery) (answer : Except Error (List Outcome)) (remark : ρ)
    (s : σ) :
    let rest := followUp (goOn config target left) docs soFar.attempted answer
    Rounds config target left docs soFar
      (.asked (request config target docs) answer remark :: rest.deeds peer s)
      (rest.conclude peer s).1 := by
  unfold followUp
  cases h : checkLength docs answer with
  | ok outcomes =>
    have hpasses : ∀ e, checkLength docs answer = .error e → e.isTransient = true :=
      fun e he => by cases h.symm.trans he
    dsimp only [Routine.deeds, Routine.conclude]
    by_cases hnone : (retryable docs outcomes).isEmpty = true
    · have hdone : Rounds config target left docs soFar _ _ :=
        .finished remark h ((remaining_ok h).trans (List.isEmpty_iff.mp hnone))
      rw [settling_ok h, counted_ok h] at hdone
      rw [if_pos hnone]
      exact hdone
    · have hmore := rounds_goOn hnext soFar remark
        (toString (retryable docs outcomes).length ++ " documents rejected as retryable") s hpasses
        (fun _ => remaining_ok h ▸ fun hnil => hnone (List.isEmpty_iff.mpr hnil))
      rw [settling_ok h, counted_ok h, remaining_ok h] at hmore
      rw [if_neg hnone]
      exact hmore
  | error e =>
    have hsame : docs ≠ [] → remaining docs answer ≠ [] :=
      fun hdocs => (remaining_error h).symm ▸ hdocs
    dsimp only
    by_cases hpasses : e.isTransient = true
    · have hmore := rounds_goOn hnext soFar remark e.message s
        (fun _ he => by cases h.symm.trans he; exact hpasses) hsame
      rw [settling_error h, counted_error h, remaining_error h] at hmore
      rw [if_pos hpasses]
      exact hmore
    · have hfailed : Rounds config target left docs soFar _ _ :=
        .gaveUp remark e.message (.inr ⟨e, h, Bool.eq_false_iff.mpr hpasses⟩) hsame
      rw [settling_error h, counted_error h, remaining_error h] at hfailed
      rw [if_neg hpasses]
      exact hfailed

-- By induction on the attempts left.
theorem rounds_attemptUpTo (left : Nat) (docs : List Document) (soFar : Delivery) (s : σ) :
    Rounds config target left docs soFar
      ((attemptUpTo config target left docs soFar).deeds peer s)
      ((attemptUpTo config target left docs soFar).conclude peer s).1 := by
  induction left generalizing docs soFar s with
  | zero =>
    rw [attemptUpTo_eq, deeds_attemptOnce, conclude_attemptOnce]
    exact rounds_followUp (fun _ hnext => by omega) docs soFar _ _ _
  | succ left ih =>
    rw [attemptUpTo_eq, deeds_attemptOnce, conclude_attemptOnce]
    exact rounds_followUp (fun next hnext => by cases hnext; exact ih) docs soFar _ _ _

section Accounting

variable {left : Nat} {docs : List Document} {soFar d : Delivery} {deeds : List (Deed Note ρ)}

theorem Rounds.attempts (h : Rounds config target left docs soFar deeds d) :
    d.attempts = soFar.attempts + Deed.requests deeds ∧ 1 ≤ Deed.requests deeds ∧
      Deed.requests deeds ≤ left + 1 := by
  induction h with
  | finished remark hjudged hnone => simp [counted, attempted]
  | gaveUp remark reason hstop hleft => simp [counted, attempted, abandoned]
  | @again left docs soFar answer remark deeds d hpasses hleft hnext ih =>
    obtain ⟨hattempts, hsome, hmost⟩ := ih
    have hcounted : (soFar.counted docs answer).attempts = soFar.attempts + 1 := rfl
    simp only [List.cons_append, Deed.requests_asked, Deed.requests_append,
      Deed.requests_map_noted, Deed.requests_noted, Deed.requests_paused]
    omega

theorem Rounds.total (h : Rounds config target left docs soFar deeds d) :
    d.written + d.dropped + d.failed =
      soFar.written + soFar.dropped + soFar.failed + docs.length := by
  induction h with
  | @finished left docs soFar answer remark outcomes hjudged hnone =>
    have hlength := length_remaining docs answer
    rw [hnone, List.length_nil] at hlength
    simp only [counted, attempted]
    omega
  | @gaveUp left docs soFar answer remark reason hstop hleft =>
    have hlength := length_remaining docs answer
    simp only [counted, attempted, abandoned]
    omega
  | @again left docs soFar answer remark deeds d hpasses hleft hnext ih =>
    have hlength := length_remaining docs answer
    simp only [counted, attempted] at ih
    omega

-- The outcomes that the answers among some deeds give.
def judged (deeds : List (Deed Note ρ)) : List Outcome :=
  deeds.flatMap fun deed =>
    match deed with
    | .asked ⟨.bulk _ docs, _⟩ answer _ => verdicts docs answer
    | _ => []

@[simp] theorem judged_nil : judged ([] : List (Deed Note ρ)) = [] := rfl

@[simp] theorem judged_asked (docs : List Document) (limit : Option Duration)
    (answer : Except Error (List Outcome)) (remark : ρ) (deeds : List (Deed Note ρ)) :
    judged (.asked ⟨.bulk target docs, limit⟩ answer remark :: deeds) =
      verdicts docs answer ++ judged deeds := rfl

@[simp] theorem judged_noted (e : Note) (deeds : List (Deed Note ρ)) :
    judged (.noted e :: deeds) = judged deeds := rfl

@[simp] theorem judged_paused (span : Duration) (deeds : List (Deed Note ρ)) :
    judged (.paused span :: deeds) = judged deeds := rfl

@[simp] theorem judged_append (deeds more : List (Deed Note ρ)) :
    judged (deeds ++ more) = judged deeds ++ judged more :=
  List.flatMap_append

@[simp] theorem judged_map_noted (es : List Note) :
    judged (es.map .noted : List (Deed Note ρ)) = [] := by
  induction es with
  | nil => rfl
  | cons e rest ih => rw [List.map_cons, judged_noted, ih]

@[simp] theorem countAccepted_append (outcomes more : List Outcome) :
    countAccepted (outcomes ++ more) = countAccepted outcomes + countAccepted more :=
  List.countP_append

@[simp] theorem refusals_append (outcomes more : List Outcome) :
    refusals (outcomes ++ more) = refusals outcomes ++ refusals more :=
  List.filterMap_append

@[simp] theorem countAccepted_nil : countAccepted [] = 0 := rfl

@[simp] theorem refusals_nil : refusals [] = [] := rfl

theorem Rounds.judged (h : Rounds config target left docs soFar deeds d) :
    d.written = soFar.written + countAccepted (judged deeds) ∧
      d.dropped = soFar.dropped + (refusals (judged deeds)).length := by
  induction h with
  | finished remark hjudged hnone => simp [counted]
  | gaveUp remark reason hstop hleft => simp [counted, abandoned]
  | again remark hpasses hleft hnext ih =>
    obtain ⟨hwritten, hdropped⟩ := ih
    simp [hwritten, hdropped, counted, Nat.add_assoc]

-- Each note says what becomes of as many samples as are not settled yet.
def Balanced : Nat → List Note → Prop
  | _, [] => True
  | owed, .settled written dropped _ left :: rest =>
    written + dropped + left = owed ∧ Balanced left rest
  | owed, .retrying :: rest => Balanced owed rest
  | owed, .failed samples _ _ :: rest => samples = owed ∧ Balanced 0 rest

theorem balanced_settling (docs : List Document) (answer : Except Error (List Outcome))
    (rest : List Note) (h : Balanced (remaining docs answer).length rest) :
    Balanced docs.length (settling docs answer ++ rest) := by
  cases hlength : checkLength docs answer with
  | ok outcomes =>
    rw [remaining_ok hlength] at h
    rw [settling_ok hlength]
    exact ⟨length_outcomes docs outcomes (length_of_checkLength hlength).2, h⟩
  | error e =>
    rw [remaining_error hlength] at h
    rw [settling_error hlength]
    exact h

theorem Rounds.balanced (h : Rounds config target left docs soFar deeds d) :
    Balanced docs.length (Deed.notes deeds) := by
  induction h with
  | @finished left docs soFar answer remark outcomes hjudged hnone =>
    simpa using balanced_settling docs answer [] trivial
  | @gaveUp left docs soFar answer remark reason hstop hleft =>
    simpa using balanced_settling docs answer
      [.failed (remaining docs answer).length (soFar.attempts + 1) reason] ⟨rfl, trivial⟩
  | @again left docs soFar answer remark deeds d hpasses hleft hnext ih =>
    simpa using balanced_settling docs answer (.retrying :: Deed.notes deeds) ih

-- The samples that `record` settled after `base`, with those still `owed`.
theorem settled_takeDown (record : Record) {owed : Nat} {notes more : List Note}
    (h : Balanced owed (notes ++ more)) :
    let state := notes.foldl (takeDown target) (record, owed)
    state.1.stats.written + state.1.stats.dropped + state.1.stats.failed + state.2 =
      record.stats.written + record.stats.dropped + record.stats.failed + owed := by
  induction notes generalizing record owed with
  | nil => rfl
  | cons note rest ih =>
    rw [List.foldl_cons]
    cases note with
    | settled written dropped reason left =>
      obtain ⟨howed, hrest⟩ := h
      refine Eq.trans (ih (takeDown target (record, owed) (.settled written dropped reason left)).1
        hrest) ?_
      simp only [takeDown]
      split <;> simp only [stats_publish, stats_update] <;> omega
    | retrying => exact ih (takeDown target (record, owed) .retrying).1 h
    | failed samples attempts error =>
      obtain ⟨howed, hrest⟩ := h
      refine Eq.trans (ih (takeDown target (record, owed) (.failed samples attempts error)).1
        hrest) ?_
      simp only [takeDown, stats_publish, stats_update]
      omega

theorem takeDown_settling (target : String) (record : Record) (docs : List Document)
    (answer : Except Error (List Outcome)) :
    ∃ settled : Record, (settling docs answer).foldl (takeDown target) (record, docs.length) =
        (settled, (remaining docs answer).length) ∧
      settled.stats = { record.stats with
        written := record.stats.written + countAccepted (verdicts docs answer)
        dropped := record.stats.dropped + (refusals (verdicts docs answer)).length } := by
  cases h : checkLength docs answer with
  | ok outcomes =>
    rw [settling_ok h, verdicts_ok h, remaining_ok h]
    refine ⟨_, rfl, ?_⟩
    split
    · rename_i hnone
      rw [hnone]
      rfl
    · rfl
  | error e =>
    rw [settling_error h, verdicts_error h, remaining_error h]
    exact ⟨record, rfl, rfl⟩

-- By induction on the rounds. Before each of them every earlier attempt was noted as retried.
theorem Rounds.books (h : Rounds config target left docs soFar deeds d) (hdocs : docs ≠ [])
    (hfailed : soFar.failed = 0) {base : Stats} {record : Record}
    (hbase : record.stats = base.book soFar soFar.attempts) :
    let state := (Deed.notes deeds).foldl (takeDown target) (record, docs.length)
    state.1.stats = base.book d (d.attempts - 1) ∧ state.2 = 0 := by
  induction h generalizing record with
  | @finished left docs soFar answer remark outcomes hjudged hnone =>
    obtain ⟨settled, hstate, hstats⟩ := takeDown_settling target record docs answer
    rw [Deed.notes_asked, Deed.notes_map_noted, hstate, hnone]
    refine ⟨?_, rfl⟩
    dsimp only
    rw [hstats, hbase]
    simp [Stats.book, counted, attempted, hfailed, Nat.add_assoc]
  | @gaveUp left docs soFar answer remark reason hstop hleft =>
    obtain ⟨settled, hstate, hstats⟩ := takeDown_settling target record docs answer
    have hsome : 0 < (remaining docs answer).length := List.length_pos_iff.mpr (hleft hdocs)
    rw [List.cons_append, Deed.notes_asked, Deed.notes_append, Deed.notes_map_noted,
      List.foldl_append, hstate]
    refine ⟨?_, rfl⟩
    simp only [Deed.notes_noted, Deed.notes_nil, List.foldl_cons, List.foldl_nil, takeDown,
      stats_publish, stats_update, hstats, hbase]
    simp [Stats.book, counted, attempted, abandoned, hfailed, hsome, Nat.add_assoc]
  | @again left docs soFar answer remark deeds d hpasses hleft hnext ih =>
    obtain ⟨settled, hstate, hstats⟩ := takeDown_settling target record docs answer
    rw [List.cons_append, Deed.notes_asked, Deed.notes_append, Deed.notes_map_noted,
      List.foldl_append, hstate]
    refine ih (hleft hdocs) hfailed ?_
    rw [stats_update, hstats, hbase]
    simp [Stats.book, counted, attempted, hfailed, Nat.add_assoc]

end Accounting

-- The record and the number of unsettled samples after some deeds of a batch's delivery.
def standing (target : String) (record : Record) (batch : Batch) (deeds : List (Deed Note ρ)) :
    Record × Nat :=
  (Deed.notes deeds).foldl (takeDown target) (record, batch.size)

theorem rounds_routine (config : Config) (target : String) (batch : Batch) (peer : Peer σ ρ)
    (s : σ) :
    Rounds config target config.maxRetries batch.documents none
      ((routine config target batch).deeds peer s)
      ((routine config target batch).conclude peer s).1 :=
  rounds_attemptUpTo config.maxRetries batch.documents none s

theorem length_documents (batch : Batch) : batch.documents.length = batch.size :=
  List.length_map ..

-- Whatever the peer answers, a delivery ends after at most one request more than there are
-- retries; what it says became of the samples is what the answers say, what it gave up included;
-- the counters change by just that; and at every moment they and the number of unsettled samples
-- cover the whole batch.
theorem delivery_adds_up (config : Config) (target : String) {batch : Batch}
    (hbatch : batch.samples ≠ []) (peer : Peer σ ρ) (s : σ) (record : Record) :
    let deeds : List (Deed Note ρ) := (routine config target batch).deeds peer s
    let d := ((routine config target batch).conclude peer s).1
    (Deed.requests deeds = d.attempts ∧ 1 ≤ d.attempts ∧ d.attempts ≤ config.maxRetries + 1) ∧
    (d.written + d.dropped + d.failed = batch.size ∧ d.written = countAccepted (judged deeds) ∧
      d.dropped = (refusals (judged deeds)).length) ∧
    (standing target record batch deeds).1.stats = { record.stats with
      written := record.stats.written + d.written
      dropped := record.stats.dropped + d.dropped
      failed := record.stats.failed + d.failed
      retries := record.stats.retries + (d.attempts - 1)
      failedBatches := record.stats.failedBatches + if 0 < d.failed then 1 else 0 } ∧
    (standing target record batch deeds).2 = 0 ∧
    ∀ before after, deeds = before ++ after →
      let now := standing target record batch before
      now.1.stats.written + now.1.stats.dropped + now.1.stats.failed + now.2 =
        record.stats.written + record.stats.dropped + record.stats.failed + batch.size := by
  have hrounds := rounds_routine config target batch peer s
  have hdocs : batch.documents ≠ [] := fun hnil => hbatch (List.map_eq_nil_iff.mp hnil)
  have hsize := length_documents batch
  intro deeds d
  obtain ⟨hrequests, hsome, hmost⟩ := hrounds.attempts
  have htotal := hrounds.total
  obtain ⟨hwritten, hdropped⟩ := hrounds.judged
  have hfresh : record.stats = record.stats.book none (none : Delivery).attempts := rfl
  have hbooks := hrounds.books hdocs rfl hfresh
  have hbalanced := hrounds.balanced
  simp only [none, Nat.zero_add] at hrequests htotal hwritten hdropped
  rw [hsize] at htotal hbooks hbalanced
  refine ⟨⟨hrequests.symm, hrequests ▸ hsome, hrequests ▸ hmost⟩, ⟨htotal, hwritten, hdropped⟩,
    hbooks.1, hbooks.2, fun before after hsplit => ?_⟩
  change Balanced batch.size (Deed.notes deeds) at hbalanced
  rw [hsplit, Deed.notes_append] at hbalanced
  exact settled_takeDown record hbalanced

-- Answers bulk requests by a script, and nothing after it.
def scriptedBulk : Peer (List (Except Error (List Outcome))) Unit where
  answer script c :=
    match c with
    | ⟨.bulk _ _, _⟩ =>
      match script with
      | answer :: rest => (answer, (), rest)
      | [] => (.error (.timeout "bulk"), (), [])
    | ⟨r, _⟩ => (.error (.timeout r.name), (), script)
  wall _ := 0

-- Three samples, of which two are alike.
def threeSamples : Batch :=
  ⟨[⟨"reads", ∅, 5, .zero false, by decide⟩, ⟨"reads", ∅, 5, .zero false, by decide⟩,
    ⟨"writes", ∅, 5, .zero false, by decide⟩], 0, 0⟩

-- One outcome of each kind, an outage, and an answer that is of no use.
def unsteady : List (Except Error (List Outcome)) :=
  [.ok [.accepted, .retryable "busy", .permanent "refused"], .error (.unavailable "down"), .ok []]

theorem three_samples_add_up :
    let deeds := (routine default "m" threeSamples).deeds scriptedBulk unsteady
    let record := Record.ofCapacity 8
    threeSamples.samples ≠ [] ∧ Deed.requests deeds = 3 ∧
      (standing "m" record threeSamples deeds).1.stats =
        { Stats.zero with written := 1, dropped := 1, failed := 1, retries := 2,
                          failedBatches := 1 } ∧
      (standing "m" record threeSamples deeds).2 = 0 := by
  intro deeds record
  have hbatch : threeSamples.samples ≠ [] := by decide
  have hresult : ((routine default "m" threeSamples).conclude scriptedBulk unsteady).1 =
    ⟨1, 1, 1, 3⟩ := by rfl
  obtain ⟨⟨hrequests, -⟩, -, hstats, hunsettled, -⟩ :=
    delivery_adds_up default "m" hbatch scriptedBulk unsteady record
  rw [hresult] at hrequests hstats
  exact ⟨hbatch, hrequests, hstats, hunsettled⟩

end Delivery

end MetricRelay.Write

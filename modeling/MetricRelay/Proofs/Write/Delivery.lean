import MetricRelay.Proofs.Store.Judging
import MetricRelay.Proofs.Store.Steps
import MetricRelay.Write.Delivery
import Mathlib.Data.List.Perm.Subperm

-- What a delivery has still to settle, at every point of it and whatever the store answers. Its
-- notes account for every document, and no document is sent again after the store took it.

namespace MetricRelay.Write

-- Samples of which the counters say what became of them.
def Stats.settled (s : Stats) : Nat := s.written + s.dropped + s.failed + s.lost

namespace Delivery

open Store (Routine Outcome Link Fate Suspended Reached)

-- One list of outcomes splits the documents three ways.

theorem retryable_cons (d : Document) (docs : List Document) (o : Outcome)
    (outcomes : List Outcome) :
    retryable (d :: docs) (o :: outcomes) =
      match o with
      | .retryable _ => d :: retryable docs outcomes
      | _ => retryable docs outcomes := by
  unfold retryable
  rw [List.zip_cons_cons, List.filter_cons]
  cases o <;> rfl

theorem length_accepted (docs : List Document) (outcomes : List Outcome)
    (h : outcomes.length = docs.length) :
    (Store.accepted docs outcomes).length = countAccepted outcomes := by
  induction docs generalizing outcomes with
  | nil =>
    cases List.length_eq_zero_iff.mp h
    rfl
  | cons d rest ih =>
    cases outcomes with
    | nil => simp at h
    | cons o others =>
      have hrest := ih others (by simpa using h)
      unfold countAccepted at hrest ⊢
      rw [Store.accepted_cons, List.countP_cons]
      by_cases ho : o = .accepted <;> simp [ho, hrest]

theorem length_outcomes (docs : List Document) (outcomes : List Outcome)
    (h : outcomes.length = docs.length) :
    countAccepted outcomes + (refusals outcomes).length + (retryable docs outcomes).length =
      docs.length := by
  induction docs generalizing outcomes with
  | nil =>
    cases List.length_eq_zero_iff.mp h
    rfl
  | cons d rest ih =>
    cases outcomes with
    | nil => simp at h
    | cons o others =>
      have hrest := ih others (by simpa using h)
      unfold countAccepted refusals at hrest ⊢
      rw [retryable_cons, List.countP_cons, List.filterMap_cons, List.length_cons]
      cases o <;> simp <;> omega

theorem accepted_append_retryable_subperm (docs : List Document) (outcomes : List Outcome) :
    (Store.accepted docs outcomes ++ retryable docs outcomes).Subperm docs := by
  induction docs generalizing outcomes with
  | nil => simp [Store.accepted, retryable]
  | cons d rest ih =>
    cases outcomes with
    | nil => simp [Store.accepted, retryable]
    | cons o others =>
      rw [Store.accepted_cons, retryable_cons]
      have hcons := (List.subperm_cons d).mpr (ih others)
      cases o with
      | accepted => exact hcons
      | retryable reason => exact List.perm_middle.subperm.trans hcons
      | permanent reason => exact (ih others).trans (List.sublist_cons_self d rest).subperm

-- A delivery to `target` that has `docs` to settle and came to `soFar`; by its notes so far there
-- are `owed` left.
inductive Settles (target : String) : Nat → List Document → Delivery → Routine Note Delivery → Prop
  | done (d : Delivery) : Settles target 0 [] d (.done d)
  | settled {owed : Nat} {docs : List Document} {soFar : Delivery}
      {rest : Routine Note Delivery} {written dropped : Nat} (reason : Option String)
      (howed : written + dropped + docs.length = owed)
      (h : Settles target docs.length docs soFar rest) :
      Settles target owed docs soFar (.note (.settled written dropped reason docs.length) rest)
  | retrying {owed : Nat} {docs : List Document} {soFar : Delivery} {rest : Routine Note Delivery}
      (h : Settles target owed docs soFar rest) :
      Settles target owed docs soFar (.note .retrying rest)
  | failed {docs : List Document} {soFar : Delivery} (error : String) :
      Settles target docs.length docs soFar (.note (.failed docs.length soFar.attempts error)
        (.done { soFar with failed := soFar.failed + docs.length }))
  | pause {owed : Nat} {docs : List Document} {soFar : Delivery} {next : Routine Note Delivery}
      (span : Duration) (h : Settles target owed docs soFar next) :
      Settles target owed docs soFar (.pause span next)
  | call {docs : List Document} {soFar : Delivery} (limit : Option Duration)
      {next : Except Error (List Outcome) → Routine Note Delivery}
      (herror : ∀ e, Settles target docs.length docs
        { soFar with attempts := soFar.attempts + 1 } (next (.error e)))
      (hwrong : ∀ outcomes, outcomes.length ≠ docs.length → Settles target docs.length docs
        { soFar with attempts := soFar.attempts + 1 } (next (.ok outcomes)))
      (hright : ∀ outcomes, outcomes.length = docs.length →
        Settles target docs.length (retryable docs outcomes)
          { soFar with written := soFar.written + countAccepted outcomes,
                       dropped := soFar.dropped + (refusals outcomes).length,
                       attempts := soFar.attempts + 1 } (next (.ok outcomes))) :
      Settles target docs.length docs soFar (.call ⟨.bulk target docs, limit⟩ next)

theorem checkLength_error (docs : List Document) (e : Error) :
    checkLength docs (.error e) = .error e := rfl

theorem checkLength_ok (docs : List Document) (outcomes : List Outcome) :
    checkLength docs (.ok outcomes) = if outcomes.length = docs.length then .ok outcomes
      else .error (.internal ("bulk returned " ++ toString outcomes.length ++ " outcomes for " ++
        toString docs.length ++ " documents")) := rfl

theorem giveUp_settles (target : String) (docs : List Document) (soFar : Delivery)
    (error : String) : Settles target docs.length docs soFar (giveUp docs soFar error) :=
  .failed error

theorem attemptOnce_settles (config : Config) (target : String)
    {again : List Document → Delivery → String → Routine Note Delivery}
    (hagain : ∀ docs soFar error, Settles target docs.length docs soFar (again docs soFar error))
    (docs : List Document) (soFar : Delivery) :
    Settles target docs.length docs soFar (attemptOnce config target again docs soFar) := by
  refine .call _ ?_ ?_ ?_
  · intro e
    rw [checkLength_error]
    dsimp only
    split
    · exact hagain _ _ _
    · exact giveUp_settles _ _ _ _
  · intro outcomes hlen
    rw [checkLength_ok, if_neg hlen]
    dsimp only
    split
    · exact hagain _ _ _
    · exact giveUp_settles _ _ _ _
  · intro outcomes hlen
    rw [checkLength_ok, if_pos hlen]
    dsimp only
    refine .settled _ (length_outcomes docs outcomes hlen) ?_
    split
    · rename_i hempty
      rw [List.isEmpty_iff.mp hempty]
      exact .done _
    · exact hagain _ _ _

theorem attemptUpTo_settles (config : Config) (target : String) (left : Nat)
    (docs : List Document) (soFar : Delivery) :
    Settles target docs.length docs soFar (attemptUpTo config target left docs soFar) := by
  induction left generalizing docs soFar with
  | zero => exact attemptOnce_settles config target (giveUp_settles target) docs soFar
  | succ left ih =>
    exact attemptOnce_settles config target (fun docs soFar _ => .retrying (.pause _ (ih docs soFar)))
      docs soFar

theorem routine_settles (config : Config) (target : String) (batch : Batch) :
    Settles target batch.documents.length batch.documents none (routine config target batch) :=
  attemptUpTo_settles config target config.maxRetries batch.documents none

-- Running a delivery, with the notes taken down as they are made.

@[simp] theorem stats_publish (record : Record) (f : Failure) :
    (record.publish f).stats = record.stats := rfl

@[simp] theorem stats_update (record : Record) (f : Stats → Stats) :
    (record.update f).stats = f record.stats := rfl

-- Where a run left a delivery that began with `owed` samples not settled in `record`.
structure Continues (target : String) (record : Record) (owed : Nat)
    (run : Reached Note Delivery × Link × Record × Nat) : Prop where
  settled : run.2.2.1.stats.settled + run.2.2.2 = record.stats.settled + owed
  accepted : run.2.2.1.stats.accepted = record.stats.accepted
  finished : ∀ d, run.1 = .finished d → run.2.2.2 = 0
  suspended : ∀ s, run.1 = .suspended s → ∃ docs soFar, Settles target run.2.2.2 docs soFar s.rest

-- A note moves samples from those owed to those settled, whatever is left to do after it.
theorem Continues.takeDown (note : Note) {target : String} {record : Record} {owed : Nat}
    {run : Reached Note Delivery × Link × Record × Nat}
    (h : Continues target (takeDown target (record, owed) note).1
      (takeDown target (record, owed) note).2 run)
    (hsettled : (takeDown target (record, owed) note).1.stats.settled +
      (takeDown target (record, owed) note).2 = record.stats.settled + owed)
    (haccepted : (takeDown target (record, owed) note).1.stats.accepted = record.stats.accepted) :
    Continues target record owed run :=
  ⟨h.settled.trans hsettled, h.accepted.trans haccepted, h.finished, h.suspended⟩

theorem takeDown_settled (target : String) (record : Record) (written dropped left : Nat)
    (reason : Option String) :
    (takeDown target (record, written + dropped + left) (.settled written dropped reason left)).2 =
      left ∧
    (takeDown target (record, written + dropped + left)
        (.settled written dropped reason left)).1.stats.settled =
      record.stats.settled + written + dropped ∧
    (takeDown target (record, written + dropped + left)
        (.settled written dropped reason left)).1.stats.accepted = record.stats.accepted := by
  refine ⟨rfl, ?_, ?_⟩ <;> simp only [takeDown] <;> split <;>
    simp only [stats_publish, stats_update, Stats.settled] <;> omega

theorem Settles.run {target : String} {owed : Nat} {docs : List Document} {soFar : Delivery}
    {r : Routine Note Delivery} (h : Settles target owed docs soFar r) (l : Link)
    (record : Record) :
    Continues target record owed (r.run (takeDown target) l (record, owed)) := by
  induction h generalizing l record with
  | done d => exact ⟨rfl, rfl, fun _ _ => rfl, fun _ h => by cases h⟩
  | @settled owed docs soFar rest written dropped reason howed h ih =>
    subst howed
    obtain ⟨hleft, hsettled, haccepted⟩ :=
      takeDown_settled target record written dropped docs.length reason
    refine Continues.takeDown (.settled written dropped reason docs.length) (ih l _) ?_ haccepted
    rw [hsettled, hleft]
    omega
  | @retrying owed docs soFar rest h ih =>
    exact Continues.takeDown .retrying (ih l _) rfl rfl
  | @failed docs soFar error =>
    refine ⟨?_, rfl, fun _ _ => rfl, fun _ h => by cases h⟩
    simp only [Routine.run, takeDown, stats_publish, stats_update, Stats.settled]
    omega
  | @pause owed docs soFar next span h ih =>
    unfold Routine.run
    dsimp only
    split
    · exact ih l record
    · refine ⟨rfl, rfl, fun _ h => (by cases h), fun s hs => ?_⟩
      cases hs
      exact ⟨docs, soFar, h⟩
  | @call docs soFar limit next herror hwrong hright iherror ihwrong ihright =>
    unfold Routine.run
    split
    · rename_i answer link _
      cases answer with
      | error e => exact iherror e link record
      | ok outcomes =>
        by_cases hlen : outcomes.length = docs.length
        · exact ihright outcomes hlen link record
        · exact ihwrong outcomes hlen link record
    · refine ⟨rfl, rfl, fun _ h => (by cases h), fun s hs => ?_⟩
      cases hs
      exact ⟨docs, soFar, .call limit herror hwrong hright⟩

-- A request that is answered at last is as good as one answered at once.
theorem Settles.resume {target : String} {owed : Nat} {docs : List Document} {soFar : Delivery}
    {s : Suspended Note Delivery} (h : Settles target owed docs soFar s.rest) (l : Link)
    (record : Record) :
    Continues target record owed (s.resume (takeDown target) l (record, owed)) := by
  have hwaits : ∀ t : Suspended Note Delivery, t.rest = s.rest → ∀ l : Link,
      Continues target record owed (.suspended t, l, record, owed) := by
    intro t ht l
    refine ⟨rfl, rfl, fun _ h => (by cases h), fun u hu => ?_⟩
    cases hu
    exact ⟨docs, soFar, ht ▸ h⟩
  cases s with
  | onTimer timer next =>
    unfold Suspended.resume
    dsimp only
    split
    · exact Settles.run h l record
    · exact hwaits _ rfl l
  | onCall c pending next =>
    unfold Suspended.resume
    dsimp only
    split
    · rename_i answer link _
      generalize hr : (Suspended.onCall c pending next).rest = r at h
      cases h with
      | call limit herror hwrong hright =>
        cases hr
        cases answer with
        | error e => exact (herror e).run link record
        | ok outcomes =>
          by_cases hlen : outcomes.length = docs.length
          · exact (hright outcomes hlen).run link record
          · exact (hwrong outcomes hlen).run link record
      | _ => cases hr
    · rename_i still link _
      exact hwaits (.onCall c still next) rfl link

end Delivery

end MetricRelay.Write

import MetricRelay.Store.Write
import Mathlib.Data.List.Basic

-- What is said of the documents of a bulk request. The first ones use up the injected rejections
-- and are to be sent again; of the others each is judged by its content alone.

namespace MetricRelay.Store

variable {f : Faults} {d : Document} {docs : List Document}

def Outcome.isRetryable : Outcome → Bool
  | .retryable _ => true
  | _ => false

-- What is said of a document that uses up an injected rejection.
def injected : Outcome := .retryable "es_rejected_execution_exception: injected"

-- What is said of any other document.
def verdict (f : Faults) (d : Document) : Outcome :=
  if d.value.isFinite = false then
    .permanent "mapper_parsing_exception: [value] supports only finite values"
  else
    match f.rejects d with
    | some reason => .permanent reason
    | none => .accepted

theorem verdict_eq_accepted_iff :
    verdict f d = .accepted ↔ d.value.isFinite = true ∧ f.rejects d = none := by
  unfold verdict
  cases d.value.isFinite with
  | false => simp
  | true => cases f.rejects d <;> simp

theorem isRetryable_verdict (f : Faults) (d : Document) : (verdict f d).isRetryable = false := by
  unfold verdict
  split
  · rfl
  · split <;> rfl

theorem judge_of_injected (h : 0 < f.documents) (d : Document) :
    judge f d = (injected, { f with documents := f.documents - 1 }) :=
  if_pos h

theorem judge_of_not_injected (h : f.documents = 0) (d : Document) :
    judge f d = (verdict f d, f) := by
  unfold judge verdict
  rw [if_neg (by omega)]
  split
  · rfl
  · cases f.rejects d <;> rfl

-- A verdict does not depend on how many rejections are left.
theorem judgeAll_eq (f : Faults) (docs : List Document) :
    judgeAll f docs =
      (List.replicate (min f.documents docs.length) injected ++
        (docs.drop f.documents).map (verdict f),
      { f with documents := f.documents - docs.length }) := by
  induction docs generalizing f with
  | nil => simp [judgeAll]
  | cons d rest ih =>
    rw [judgeAll]
    cases hcount : f.documents with
    | zero =>
      rw [judge_of_not_injected hcount]
      dsimp only
      rw [ih]
      simp [hcount]
    | succ n =>
      have hverdict : verdict { f with documents := n } = verdict f := rfl
      rw [judge_of_injected (by omega)]
      dsimp only
      rw [ih]
      simp [hcount, hverdict, List.replicate_succ]

theorem length_judgeAll (f : Faults) (docs : List Document) :
    (judgeAll f docs).1.length = docs.length := by
  rw [judgeAll_eq]
  dsimp only
  rw [List.length_append, List.length_replicate, List.length_map, List.length_drop]
  omega

theorem countP_judgeAll (f : Faults) (docs : List Document) :
    (judgeAll f docs).1.countP Outcome.isRetryable = min f.documents docs.length := by
  have hverdicts : ((docs.drop f.documents).map (verdict f)).countP Outcome.isRetryable = 0 := by
    rw [List.countP_map, List.countP_eq_zero]
    simp [isRetryable_verdict]
  have hinjected : injected.isRetryable = true := rfl
  rw [judgeAll_eq]
  dsimp only
  rw [List.countP_append, hverdicts, List.countP_replicate, if_pos hinjected, Nat.add_zero]

-- Documents beside outcomes that are theirs one by one.

theorem accepted_cons (d : Document) (rest : List Document) (outcome : Outcome)
    (outcomes : List Outcome) :
    accepted (d :: rest) (outcome :: outcomes) =
      if outcome = .accepted then d :: accepted rest outcomes else accepted rest outcomes := by
  unfold accepted
  by_cases h : outcome = .accepted <;> simp [h]

-- The store takes the documents after the first few whose content is not refused.
theorem accepted_judgeAll (f : Faults) (docs : List Document) :
    accepted docs (judgeAll f docs).1 =
      (docs.drop f.documents).filter fun d => verdict f d = .accepted := by
  induction docs generalizing f with
  | nil => simp [accepted]
  | cons d rest ih =>
    rw [judgeAll]
    cases hcount : f.documents with
    | zero =>
      rw [judge_of_not_injected hcount]
      dsimp only
      rw [accepted_cons, ih, hcount, List.drop_zero, List.drop_zero, List.filter_cons]
      simp only [decide_eq_true_eq]
    | succ n =>
      have hverdict : verdict { f with documents := n } = verdict f := rfl
      rw [judge_of_injected (by omega)]
      dsimp only
      rw [accepted_cons, if_neg (by simp [injected]), ih, hcount]
      simp [hverdict]

-- All that a bulk request does that is answered.
theorem bulk_eq_of_ok {s : Store} {target : String} {outcomes : List Outcome}
    (h : (s.bulk target docs).1 = .ok outcomes) :
    ∃ index data, s.writeTarget target = .ok index ∧ s.indices.find? index = some data ∧
      outcomes = (judgeAll s.faults docs).1 ∧
      (s.bulk target docs).2 =
        { s with bulkRequests := s.bulkRequests + 1,
                 faults := (judgeAll s.faults docs).2,
                 indices := s.indices.insert index (data.append (accepted docs outcomes)) } := by
  unfold bulk at h ⊢
  dsimp only at h ⊢
  split at h
  · cases h
  · rename_i hfaults
    rw [if_neg hfaults]
    split at h
    · cases h
    · rename_i index hindex
      split at h
      · cases h
      · rename_i data hdata
        cases h
        exact ⟨index, data, hindex, hdata, rfl, rfl⟩

end MetricRelay.Store

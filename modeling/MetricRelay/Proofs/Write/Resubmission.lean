import MetricRelay.Proofs.Write.Rounds
import Mathlib.Data.List.Sigma

-- Which documents a delivery sends again. Documents of one batch may be alike, so each is followed
-- by its place in the batch: a place stays in the requests until an answer says that its document
-- was taken or refused.

namespace MetricRelay.Write.Delivery

open Store (Deed Outcome Peer Routine)

variable {σ ρ : Type} {peer : Peer σ ρ} {config : Config} {target : String}

-- A document, and where in its batch it stands.
abbrev Place := Document × Nat

def places (batch : Batch) : List Place := batch.documents.zipIdx

def asksAgain : Outcome → Bool
  | .retryable _ => true
  | _ => false

-- What an answer says of the places sent.
def rulings (pending : List Place) (answer : Except Error (List Outcome)) :
    List (Place × Outcome) :=
  pending.zip (verdicts (pending.map Prod.fst) answer)

-- The places that an answer leaves open.
def unsettled (pending : List Place) (answer : Except Error (List Outcome)) : List Place :=
  match checkLength (pending.map Prod.fst) answer with
  | .ok outcomes =>
    ((pending.zip outcomes).filter fun (_, outcome) => asksAgain outcome).map Prod.fst
  | .error _ => pending

theorem unsettled_ok {pending : List Place} {answer : Except Error (List Outcome)}
    {outcomes : List Outcome} (h : checkLength (pending.map Prod.fst) answer = .ok outcomes) :
    unsettled pending answer =
      ((rulings pending answer).filter fun (_, outcome) => asksAgain outcome).map Prod.fst := by
  rw [unsettled, rulings, h, verdicts_ok h]

theorem unsettled_error {pending : List Place} {answer : Except Error (List Outcome)} {e : Error}
    (h : checkLength (pending.map Prod.fst) answer = .error e) :
    unsettled pending answer = pending := by
  rw [unsettled, h]

theorem rulings_error {pending : List Place} {answer : Except Error (List Outcome)} {e : Error}
    (h : checkLength (pending.map Prod.fst) answer = .error e) : rulings pending answer = [] := by
  rw [rulings, verdicts_error h, List.zip_nil_right]

-- Places or not, the same documents are left.
theorem map_unsettled (pending : List Place) (answer : Except Error (List Outcome)) :
    (unsettled pending answer).map Prod.fst = remaining (pending.map Prod.fst) answer := by
  cases h : checkLength (pending.map Prod.fst) answer with
  | ok outcomes =>
    rw [unsettled_ok h, remaining_ok h, rulings, verdicts_ok h, retryable, List.zip_map_left,
      List.filter_map, List.map_map, List.map_map]
    rfl
  | error e => rw [unsettled_error h, remaining_error h]

-- Every place sent is ruled on when the answer is of use.
theorem map_rulings {pending : List Place} {answer : Except Error (List Outcome)}
    {outcomes : List Outcome} (h : checkLength (pending.map Prod.fst) answer = .ok outcomes) :
    (rulings pending answer).map Prod.fst = pending := by
  have hlength := (length_of_checkLength h).2
  rw [List.length_map] at hlength
  rw [rulings, verdicts_ok h]
  exact List.map_fst_zip hlength.ge

theorem map_rulings_sublist (pending : List Place) (answer : Except Error (List Outcome)) :
    ((rulings pending answer).map Prod.fst).Sublist pending := by
  cases h : checkLength (pending.map Prod.fst) answer with
  | ok outcomes => rw [map_rulings h]
  | error e =>
    rw [rulings_error h]
    exact List.nil_sublist _

theorem unsettled_sublist (pending : List Place) (answer : Except Error (List Outcome)) :
    (unsettled pending answer).Sublist pending := by
  cases h : checkLength (pending.map Prod.fst) answer with
  | ok outcomes =>
    rw [unsettled_ok h]
    exact (List.filter_sublist.map Prod.fst).trans (map_rulings_sublist pending answer)
  | error e => rw [unsettled_error h]

-- A place is left open unless it is ruled on otherwise.
theorem mem_unsettled_iff {pending : List Place} (hnodup : pending.Nodup)
    (answer : Except Error (List Outcome)) (place : Place) :
    place ∈ unsettled pending answer ↔
      place ∈ pending ∧ ∀ o, (place, o) ∈ rulings pending answer → asksAgain o = true := by
  cases h : checkLength (pending.map Prod.fst) answer with
  | error e => simp [unsettled_error h, rulings_error h]
  | ok outcomes =>
    have hmap := map_rulings h
    have hplaces : ((rulings pending answer).map Prod.fst).Nodup := hmap.symm ▸ hnodup
    rw [unsettled_ok h]
    constructor
    · intro hleft
      obtain ⟨⟨_, o⟩, hruled, rfl⟩ := List.mem_map.mp hleft
      obtain ⟨hruled, hagain⟩ := List.mem_filter.mp hruled
      refine ⟨hmap ▸ List.mem_map_of_mem hruled, fun other hother => ?_⟩
      have hsame := List.inj_on_of_nodup_map hplaces hruled hother rfl
      cases hsame
      exact hagain
    · rintro ⟨hsent, hagain⟩
      rw [← hmap] at hsent
      obtain ⟨⟨_, o⟩, hruled, rfl⟩ := List.mem_map.mp hsent
      exact List.mem_map.mpr ⟨_, List.mem_filter.mpr ⟨hruled, hagain o hruled⟩, rfl⟩

-- The same over the answers to several requests, each to the places the one before it left open.

def pendingAfter (pending : List Place) (answers : List (Except Error (List Outcome))) :
    List Place :=
  answers.foldl unsettled pending

def allRulings : List Place → List (Except Error (List Outcome)) → List (Place × Outcome)
  | _, [] => []
  | pending, answer :: rest => rulings pending answer ++ allRulings (unsettled pending answer) rest

theorem pendingAfter_sublist (pending : List Place)
    (answers : List (Except Error (List Outcome))) :
    (pendingAfter pending answers).Sublist pending := by
  induction answers generalizing pending with
  | nil => exact List.Sublist.refl _
  | cons answer rest ih => exact (ih _).trans (unsettled_sublist pending answer)

theorem mem_of_mem_allRulings {pending : List Place}
    {answers : List (Except Error (List Outcome))} {place : Place} {o : Outcome}
    (h : (place, o) ∈ allRulings pending answers) : place ∈ pending := by
  induction answers generalizing pending with
  | nil => cases h
  | cons answer rest ih =>
    cases List.mem_append.mp h with
    | inl hnow => exact (map_rulings_sublist pending answer).subset (List.mem_map_of_mem hnow)
    | inr hlater => exact (unsettled_sublist pending answer).subset (ih hlater)

theorem mem_pendingAfter_iff {pending : List Place} (hnodup : pending.Nodup)
    (answers : List (Except Error (List Outcome))) (place : Place) :
    place ∈ pendingAfter pending answers ↔
      place ∈ pending ∧ ∀ o, (place, o) ∈ allRulings pending answers → asksAgain o = true := by
  induction answers generalizing pending with
  | nil => simp [pendingAfter, allRulings]
  | cons answer rest ih =>
    have hrest := ih (hnodup.sublist (unsettled_sublist pending answer))
    have hnow := mem_unsettled_iff hnodup answer place
    simp only [pendingAfter, List.foldl_cons] at hrest ⊢
    simp only [allRulings, List.mem_append, or_imp, forall_and]
    rw [hrest, hnow, and_assoc]

theorem taken_once {pending : List Place} (hnodup : pending.Nodup)
    (answers : List (Except Error (List Outcome))) :
    (((allRulings pending answers).filter fun (_, o) => o == .accepted).map Prod.fst).Nodup := by
  induction answers generalizing pending with
  | nil => exact List.nodup_nil
  | cons answer rest ih =>
    rw [allRulings, List.filter_append, List.map_append]
    refine List.Nodup.append ?_ (ih (hnodup.sublist (unsettled_sublist pending answer))) ?_
    · exact hnodup.sublist
        ((List.filter_sublist.map Prod.fst).trans (map_rulings_sublist pending answer))
    · intro place hnow hlater
      obtain ⟨⟨_, o⟩, hentry, rfl⟩ := List.mem_map.mp hnow
      obtain ⟨hruled, htaken⟩ := List.mem_filter.mp hentry
      obtain ⟨⟨_, later⟩, hother, rfl⟩ := List.mem_map.mp hlater
      have hopen := mem_of_mem_allRulings (List.mem_filter.mp hother).1
      have hagain := ((mem_unsettled_iff hnodup answer _).mp hopen).2 o hruled
      cases o <;> simp [asksAgain] at htaken hagain

-- What a delivery sent and what it was answered, in order.
def exchanges (deeds : List (Deed Note ρ)) :
    List (List Document × Except Error (List Outcome)) :=
  deeds.filterMap fun deed =>
    match deed with
    | .asked ⟨.bulk _ docs, _⟩ answer _ => some (docs, answer)
    | _ => Option.none

@[simp] theorem exchanges_nil : exchanges ([] : List (Deed Note ρ)) = [] := rfl

@[simp] theorem exchanges_asked (docs : List Document) (limit : Option Duration)
    (answer : Except Error (List Outcome)) (remark : ρ) (deeds : List (Deed Note ρ)) :
    exchanges (.asked ⟨.bulk target docs, limit⟩ answer remark :: deeds) =
      (docs, answer) :: exchanges deeds := rfl

@[simp] theorem exchanges_noted (e : Note) (deeds : List (Deed Note ρ)) :
    exchanges (.noted e :: deeds) = exchanges deeds := rfl

@[simp] theorem exchanges_paused (span : Duration) (deeds : List (Deed Note ρ)) :
    exchanges (.paused span :: deeds) = exchanges deeds := rfl

@[simp] theorem exchanges_append (deeds more : List (Deed Note ρ)) :
    exchanges (deeds ++ more) = exchanges deeds ++ exchanges more :=
  List.filterMap_append

@[simp] theorem exchanges_map_noted (es : List Note) :
    exchanges (es.map .noted : List (Deed Note ρ)) = [] := by
  induction es with
  | nil => rfl
  | cons e rest ih => rw [List.map_cons, exchanges_noted, ih]

-- Each exchange is about what the one before it left.
inductive Narrowing : List Document → List (List Document × Except Error (List Outcome)) → Prop
  | last (docs : List Document) (answer : Except Error (List Outcome)) :
      Narrowing docs [(docs, answer)]
  | again {docs : List Document} {answer : Except Error (List Outcome)}
      {rest : List (List Document × Except Error (List Outcome))}
      (hpasses : ∀ e, checkLength docs answer = .error e → e.isTransient = true)
      (h : Narrowing (remaining docs answer) rest) : Narrowing docs ((docs, answer) :: rest)

theorem Narrowing.head {docs sent : List Document} {answer : Except Error (List Outcome)}
    {rest : List (List Document × Except Error (List Outcome))}
    (h : Narrowing docs ((sent, answer) :: rest)) : sent = docs := by
  cases h <;> rfl

-- An exchange in the middle is about the documents whose places the answers before it left open.
theorem Narrowing.split {pending : List Place} {docs : List Document}
    {answer : Except Error (List Outcome)}
    {before after : List (List Document × Except Error (List Outcome))}
    (h : Narrowing (pending.map Prod.fst) (before ++ (docs, answer) :: after)) :
    docs = (pendingAfter pending (before.map Prod.snd)).map Prod.fst ∧
      Narrowing docs ((docs, answer) :: after) := by
  induction before generalizing pending with
  | nil =>
    have hdocs := h.head
    subst hdocs
    exact ⟨rfl, h⟩
  | cons first before ih =>
    rw [List.cons_append] at h
    generalize hrest : before ++ (docs, answer) :: after = rest at h
    cases h with
    | last docs answer => simp at hrest
    | again hpasses h =>
      rw [← hrest, ← map_unsettled] at h
      exact ih h

theorem Narrowing.next {docs docs' : List Document} {answer answer' : Except Error (List Outcome)}
    {rest : List (List Document × Except Error (List Outcome))}
    (h : Narrowing docs ((docs, answer) :: (docs', answer') :: rest)) :
    (∃ e, answer = .error e ∧ e.isTransient = true ∧ docs' = docs) ∨
      ∃ outcomes, answer = .ok outcomes ∧ outcomes.length = docs.length ∧
        docs' = retryable docs outcomes := by
  cases h with
  | again hpasses h =>
    have hdocs := h.head
    cases answer with
    | error e => exact .inl ⟨e, rfl, hpasses e rfl, hdocs.trans (remaining_error rfl)⟩
    | ok outcomes =>
      right
      by_cases hlength : outcomes.length = docs.length
      · have hchecked : checkLength docs (.ok outcomes) = .ok outcomes := by
          rw [checkLength_ok, if_pos hlength]
        exact ⟨outcomes, rfl, hlength, hdocs.trans (remaining_ok hchecked)⟩
      · -- an answer of the wrong length is an error that does not pass
        rw [checkLength_ok, if_neg hlength] at hpasses
        exact absurd (hpasses _ rfl) (by simp [Error.isTransient, Error.kind])

section Rounds

variable {left : Nat} {docs : List Document} {soFar d : Delivery} {deeds : List (Deed Note ρ)}

theorem Rounds.narrowing (h : Rounds config target left docs soFar deeds d) :
    Narrowing docs (exchanges deeds) := by
  induction h with
  | finished remark hjudged hnone => simpa using .last _ _
  | gaveUp remark reason hstop hleft => simpa using .last _ _
  | again remark hpasses hleft hnext ih => simpa using .again hpasses ih

-- What is still left at the end was given up.
theorem Rounds.failed (h : Rounds config target left docs soFar deeds d) :
    d.failed = soFar.failed +
      (((exchanges deeds).map Prod.snd).foldl remaining docs).length := by
  induction h with
  | finished remark hjudged hnone => simp [counted, attempted, hnone]
  | gaveUp remark reason hstop hleft => simp [counted, attempted, abandoned]
  | again remark hpasses hleft hnext ih => simpa [counted, attempted] using ih

end Rounds

theorem map_pendingAfter (pending : List Place) (answers : List (Except Error (List Outcome))) :
    (pendingAfter pending answers).map Prod.fst =
      answers.foldl remaining (pending.map Prod.fst) := by
  induction answers generalizing pending with
  | nil => rfl
  | cons answer rest ih => exact (ih _).trans (by rw [map_unsettled]; rfl)

theorem map_places (batch : Batch) : (places batch).map Prod.fst = batch.documents :=
  List.zipIdx_map_fst ..

theorem nodup_places (batch : Batch) : (places batch).Nodup :=
  (List.nodup_zipIdx_map_snd batch.documents).of_map

-- Whatever the peer answers, each request of a delivery holds the documents of the places that no
-- answer before it settled, in the order of the batch. After a failure that passes these are the
-- documents of the request before it, else those of them that are to be sent again. No document
-- is taken twice, and those that are never settled are given up.
theorem resends_unsettled_alone (config : Config) (target : String) (batch : Batch)
    (peer : Peer σ ρ) (s : σ) :
    let deeds : List (Deed Note ρ) := (routine config target batch).deeds peer s
    let d := ((routine config target batch).conclude peer s).1
    let answers := (exchanges deeds).map Prod.snd
    (∀ before docs answer after, exchanges deeds = before ++ (docs, answer) :: after →
      let earlier := before.map Prod.snd
      let pending := pendingAfter (places batch) earlier
      docs = pending.map Prod.fst ∧ pending.Sublist (places batch) ∧
      (∀ place ∈ places batch, place ∈ pending ↔
        ∀ o, (place, o) ∈ allRulings (places batch) earlier → asksAgain o = true) ∧
      ∀ docs' answer' rest, after = (docs', answer') :: rest →
        (∃ e, answer = .error e ∧ e.isTransient = true ∧ docs' = docs) ∨
          ∃ outcomes, answer = .ok outcomes ∧ outcomes.length = docs.length ∧
            docs' = retryable docs outcomes) ∧
    (((allRulings (places batch) answers).filter fun (_, o) => o == .accepted).map
      Prod.fst).Nodup ∧
    d.failed = (pendingAfter (places batch) answers).length := by
  intro deeds d answers
  have hrounds := rounds_routine config target batch peer s
  have hnodup := nodup_places batch
  have hnarrowing : Narrowing ((places batch).map Prod.fst) (exchanges deeds) :=
    map_places batch ▸ hrounds.narrowing
  refine ⟨fun before docs answer after hsplit => ?_, taken_once hnodup answers, ?_⟩
  · rw [hsplit] at hnarrowing
    obtain ⟨hdocs, hlater⟩ := hnarrowing.split
    refine ⟨hdocs, pendingAfter_sublist _ _, fun place hplace => ?_,
      fun docs' answer' rest hafter => ?_⟩
    · rw [mem_pendingAfter_iff hnodup]
      exact ⟨fun h => h.2, fun h => ⟨hplace, h⟩⟩
    · subst hafter
      exact hlater.next
  · have hfailed := hrounds.failed
    rw [← map_places, ← map_pendingAfter, List.length_map] at hfailed
    exact hfailed.trans (Nat.zero_add _)

-- The second of two like documents is sent again, without the others.
theorem second_of_three_resent :
    let deeds := (routine default "m" threeSamples).deeds scriptedBulk unsteady
    let reads : Document := .ofSample ⟨"reads", ∅, 5, .zero false, by decide⟩
    let first : Except Error (List Outcome) :=
      .ok [.accepted, .retryable "busy", .permanent "refused"]
    exchanges deeds =
      [(threeSamples.documents, first)] ++
        ([reads], .error (.unavailable "down")) :: [([reads], .ok [])] ∧
    (∀ o, ((reads, 1), o) ∈ allRulings (places threeSamples) [first] → asksAgain o = true) ∧
    [reads] = (pendingAfter (places threeSamples) [first]).map Prod.fst ∧
    ((pendingAfter (places threeSamples) [first, .error (.unavailable "down"), .ok []]).length =
      1) := by
  intro deeds reads first
  have hsplit : exchanges deeds = [(threeSamples.documents, first)] ++
    ([reads], .error (.unavailable "down")) :: [([reads], .ok [])] := by rfl
  obtain ⟨hround, -, hfailed⟩ :=
    resends_unsettled_alone default "m" threeSamples scriptedBulk unsteady
  obtain ⟨hdocs, -, hopen, -⟩ := hround _ _ _ _ hsplit
  have hplace : (reads, 1) ∈ places threeSamples := .tail _ (.head _)
  refine ⟨hsplit, (hopen (reads, 1) hplace).mp (.head _), hdocs, ?_⟩
  rw [hsplit] at hfailed
  exact hfailed.symm.trans rfl

end MetricRelay.Write.Delivery

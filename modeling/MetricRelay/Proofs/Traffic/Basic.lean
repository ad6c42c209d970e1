import MetricRelay.Proofs.Lifecycle.Effects
import MetricRelay.Proofs.Store.Judging
import MetricRelay.Proofs.Write.Delivery

-- Everything that goes on at one alias of a store: starts, lifecycle cycles and deliveries, each of
-- them one request at a time and in any order. What the store accepted is written down, with the
-- index that took the writes at that moment, and so is every index that came to take them.

namespace MetricRelay

open Store (Routine Fate)

inductive Party
  | starting (r : Routine Empty (Except Error String))
  | cycling (r : Lifecycle.Cycle)
  -- `stored` are those documents of the batch that the store has accepted
  | delivering (batch : Write.Batch) (stored : List Document)
      (r : Routine Write.Delivery.Note Write.Delivery)

structure Traffic where
  store : Store
  parties : List Party
  accepted : List (Option String × Document)
  -- oldest first
  writeIndices : List String

namespace Traffic

-- Documents that the store accepts when a routine takes a step.
def receipts {ε α : Type} (s : Store) (fate : Fate) : Routine ε α → List Document
  | .call ⟨.bulk target docs, _⟩ _ =>
    match fate with
    | .served => s.taken target docs
    | .lost _ => []
  | _ => []

def stepParty (s : Store) (now : Int64) (fate : Fate) :
    Party → Party × Store × List Document
  | .starting r => (.starting (r.advance s now fate).1, (r.advance s now fate).2, receipts s fate r)
  | .cycling r => (.cycling (r.advance s now fate).1, (r.advance s now fate).2, receipts s fate r)
  | .delivering batch stored r =>
    (.delivering batch (stored ++ receipts s fate r) (r.advance s now fate).1,
      (r.advance s now fate).2, receipts s fate r)

inductive Event
  | start (config : Lifecycle.Config)
  | look (config : Lifecycle.Config)
  | deliver (config : Write.Config) (batch : Write.Batch)
  | inject (faults : Store.Faults)
  | advance (party : Nat) (now : Int64) (fate : Fate)

def join (t : Traffic) (party : Party) : Traffic := { t with parties := t.parties ++ [party] }

def step (aliasName : String) (t : Traffic) : Event → Traffic
  | .start config =>
    t.join (.starting (Lifecycle.provision { config with aliasName := aliasName }))
  | .look config => t.join (.cycling (Lifecycle.cycle { config with aliasName := aliasName }))
  | .deliver config batch =>
    t.join (.delivering batch [] (Write.Delivery.routine config aliasName batch))
  | .inject faults => { t with store := { t.store with faults := faults } }
  | .advance n now fate =>
    match t.parties[n]? with
    | none => t
    | some party =>
      let (party, store, more) := stepParty t.store now fate party
      { store := store
        parties := t.parties.set n party
        accepted := t.accepted ++ more.map fun d => (t.store.writeIndex? aliasName, d)
        writeIndices := t.writeIndices ++
          if store.writeIndex? aliasName = t.store.writeIndex? aliasName then []
          else (store.writeIndex? aliasName).toList }

def begin (aliasName : String) (s : Store) : Traffic :=
  ⟨s, [], [], (s.writeIndex? aliasName).toList⟩

-- What becomes of a store with nobody about after some events.
def after (aliasName : String) (s : Store) (events : List Event) : Traffic :=
  events.foldl (step aliasName) (begin aliasName s)

end Traffic

open Write (Delivery)

-- Deliveries.

namespace Store

theorem length_bulk {s : Store} {target : String} {docs : List Document}
    {outcomes : List Outcome} (h : (s.bulk target docs).1 = .ok outcomes) :
    outcomes.length = docs.length := by
  obtain ⟨_, _, _, _, houtcomes, _⟩ := bulk_eq_of_ok h
  rw [houtcomes, length_judgeAll]

end Store

namespace Traffic

open Lifecycle (Later Orderly)

-- A step of a delivery asks for nothing, or gets some of its documents accepted. Those are not
-- sent again.
theorem settles_advance {aliasName : String} {owed : Nat} {docs : List Document}
    {soFar : Delivery} {r : Routine Delivery.Note Delivery}
    (h : Delivery.Settles aliasName owed docs soFar r) (s : Store) (now : Int64) (fate : Fate) :
    (∃ owed docs' soFar',
      Delivery.Settles aliasName owed docs' soFar' (r.advance s now fate).1 ∧
      (receipts s fate r ++ docs').Subperm docs ∧
      soFar'.written = soFar.written + (receipts s fate r).length) ∧
    ((r.advance s now fate).2 = s ∧ receipts s fate r = [] ∨
      (r.advance s now fate).2 = (s.bulk aliasName docs).2 ∧
        receipts s fate r = s.taken aliasName docs) := by
  cases h with
  | done => exact ⟨⟨_, _, _, .done _, .refl _, rfl⟩, .inl ⟨rfl, rfl⟩⟩
  | settled reason howed h => exact ⟨⟨_, _, _, h, .refl _, rfl⟩, .inl ⟨rfl, rfl⟩⟩
  | retrying h => exact ⟨⟨_, _, _, h, .refl _, rfl⟩, .inl ⟨rfl, rfl⟩⟩
  | failed error =>
    exact ⟨⟨_, _, _, .done _, List.nil_subperm, rfl⟩, .inl ⟨rfl, rfl⟩⟩
  | pause span h => exact ⟨⟨_, _, _, h, .refl _, rfl⟩, .inl ⟨rfl, rfl⟩⟩
  | call limit herror hwrong hright =>
    cases fate with
    | lost e => exact ⟨⟨_, _, _, herror e, .refl _, rfl⟩, .inl ⟨rfl, rfl⟩⟩
    | served =>
      refine ⟨?_, .inr ⟨rfl, rfl⟩⟩
      have hreceipts : ∀ next, receipts s .served
          (.call ⟨.bulk aliasName docs, limit⟩ next : Routine Delivery.Note Delivery) =
            s.taken aliasName docs := fun _ => rfl
      rw [hreceipts]
      unfold Store.taken
      simp only [Routine.advance, Store.answer]
      cases hanswer : (s.bulk aliasName docs).1 with
      | error e => exact ⟨_, _, _, herror e, .refl _, rfl⟩
      | ok outcomes =>
        have hlen := Store.length_bulk hanswer
        refine ⟨_, _, _, hright outcomes hlen,
          Delivery.accepted_append_retryable_subperm docs outcomes, ?_⟩
        simp only [Delivery.length_accepted docs outcomes hlen]

-- What every party has promised.
def Promises (aliasName : String) (s : Store) : Party → Prop
  | .starting r => r.Meets (Later aliasName) (Orderly aliasName) (fun _ _ => True) s
  | .cycling r => r.Meets (Later aliasName) (Orderly aliasName) (fun _ _ => True) s
  | .delivering batch stored r => ∃ owed docs soFar,
      Delivery.Settles aliasName owed docs soFar r ∧
      (stored ++ docs).Subperm batch.documents ∧ soFar.written = stored.length

-- How a store may change in one step, and the documents that it accepts.
inductive Changes (aliasName : String) (s : Store) : Store → List Document → Prop
  | rest : Changes aliasName s s []
  | faults (faults : Store.Faults) : Changes aliasName s { s with faults := faults } []
  | orderly {r : Store.Request} (h : Orderly aliasName s r) (now : Int64) :
      Changes aliasName s (s.answer now r).2 []
  | bulk (docs : List Document) :
      Changes aliasName s (s.bulk aliasName docs).2 (s.taken aliasName docs)

section

variable {aliasName : String} {s : Store}

theorem Promises.later {t : Store} {party : Party} (h : Promises aliasName s party)
    (hl : Later aliasName s t) : Promises aliasName t party := by
  cases party with
  | starting r => exact Routine.Meets.mono Later.trans (fun _ _ => trivial) h hl
  | cycling r => exact Routine.Meets.mono Later.trans (fun _ _ => trivial) h hl
  | delivering batch stored r => exact h

-- An orderly request is no bulk request.
theorem meets_receipts {ε α : Type} {r : Routine ε α}
    (h : r.Meets (Later aliasName) (Orderly aliasName) (fun _ _ => True) s) (fate : Fate) :
    receipts s fate r = [] := by
  unfold receipts
  split
  · rename_i target docs limit next
    cases (h s (Later.refl aliasName s)).1
  · rfl

theorem meets_changes {ε α : Type} {r : Routine ε α}
    (h : r.Meets (Later aliasName) (Orderly aliasName) (fun _ _ => True) s) (now : Int64)
    (fate : Fate) :
    Changes aliasName s (r.advance s now fate).2 (receipts s fate r) := by
  rw [meets_receipts h]
  rcases h.advance_store (Later.refl aliasName) now fate with hs | ⟨request, hgood, hs⟩
  · rw [hs]
    exact .rest
  · rw [hs]
    exact .orderly hgood now

theorem stepParty_changes {party : Party} (h : Promises aliasName s party) (now : Int64)
    (fate : Fate) :
    Changes aliasName s (stepParty s now fate party).2.1 (stepParty s now fate party).2.2 ∧
      Promises aliasName (stepParty s now fate party).2.1 (stepParty s now fate party).1 := by
  cases party with
  | starting r => exact ⟨meets_changes h now fate, h.advance (Later.refl aliasName) now fate⟩
  | cycling r => exact ⟨meets_changes h now fate, h.advance (Later.refl aliasName) now fate⟩
  | delivering batch stored r =>
    obtain ⟨owed, docs, soFar, hsettles, hsub, hwritten⟩ := h
    obtain ⟨⟨owed', docs', soFar', hsettles', hsub', hwritten'⟩, hstore⟩ :=
      settles_advance hsettles s now fate
    refine ⟨?_, owed', docs', soFar', hsettles', ?_, ?_⟩
    · rcases hstore with ⟨hs, hr⟩ | ⟨hs, hr⟩
      · simp only [stepParty, hs, hr]
        exact .rest
      · simp only [stepParty, hs, hr]
        exact .bulk docs
    · rw [List.append_assoc]
      exact ((List.subperm_append_left stored).mpr hsub').trans hsub
    · rw [hwritten', hwritten, List.length_append]

variable {t : Store} {more : List Document}

theorem Changes.sound (h : Changes aliasName s t more) (hs : s.AliasesSound) :
    t.AliasesSound := by
  cases h with
  | rest => exact hs
  | faults faults => exact hs
  | orderly h now => exact Store.answer_sound hs now _
  | bulk docs => exact Store.bulk_sound hs aliasName docs

theorem Changes.noIndex (h : Changes aliasName s t more)
    (hno : s.indices.contains aliasName = false) : t.indices.contains aliasName = false := by
  cases h with
  | rest => exact hno
  | faults faults => exact hno
  | orderly h now => exact Lifecycle.orderly_contains h now hno
  | bulk docs =>
    rw [Bool.eq_false_iff] at hno ⊢
    exact fun h => hno (Store.contains_of_contains_bulk h)

theorem Changes.later (h : Changes aliasName s t more) : Later aliasName s t := by
  cases h with
  | rest => exact .refl aliasName s
  | faults faults => exact fun _ hi => hi
  | orderly h now => exact Lifecycle.orderly_later h now
  | bulk docs =>
    rintro index ⟨members, hm, hc⟩
    exact ⟨members, (Store.aliases_bulk s aliasName docs).symm ▸ hm, hc⟩

-- What is accepted goes to the index that takes the writes, and no document goes anywhere else.
theorem Changes.documents (h : Changes aliasName s t more)
    (hno : s.indices.contains aliasName = false) (index : String) :
    t.documents index = s.documents index ++
      if s.writeIndex? aliasName = some index then more else [] := by
  have hnone : s.documents index = s.documents index ++
      if s.writeIndex? aliasName = some index then ([] : List Document) else [] := by simp
  cases h with
  | rest => exact hnone
  | faults faults => exact hnone
  | orderly h now => rw [Lifecycle.orderly_documents h]; exact hnone
  | bulk docs => exact Store.documents_bulk hno docs index

theorem Changes.writeIndex? (h : Changes aliasName s t more) (hs : s.AliasesSound) :
    t.writeIndex? aliasName = s.writeIndex? aliasName ∨
      (s.writeIndex? aliasName = none ∧ ∃ index, Lifecycle.First aliasName index ∧
        t.writeIndex? aliasName = some index) ∨
      ∃ current next, s.writeIndex? aliasName = some current ∧
        Lifecycle.Follows aliasName current next ∧ t.writeIndex? aliasName = some next := by
  cases h with
  | rest => exact .inl rfl
  | faults faults => exact .inl rfl
  | orderly h now => exact Lifecycle.orderly_writeIndex? hs h now
  | bulk docs =>
    exact .inl (Lifecycle.writeIndex?_congr (congrArg (·.find? aliasName)
      (Store.aliases_bulk s aliasName docs)))

structure Sound (aliasName : String) (t : Traffic) : Prop where
  aliases : t.store.AliasesSound
  noIndex : t.store.indices.contains aliasName = false
  promises : ∀ party ∈ t.parties, Promises aliasName t.store party

theorem begin_sound (hs : s.AliasesSound) (hno : s.indices.contains aliasName = false) :
    Sound aliasName (begin aliasName s) :=
  ⟨hs, hno, fun _ h => by cases h⟩

theorem join_sound {t : Traffic} (ht : Sound aliasName t) {party : Party}
    (hp : Promises aliasName t.store party) : Sound aliasName (t.join party) := by
  refine ⟨ht.aliases, ht.noIndex, fun other ho => ?_⟩
  rcases List.mem_append.mp ho with ho | ho
  · exact ht.promises other ho
  · rw [List.mem_singleton.mp ho]
    exact hp

-- How the whole goes on.
structure Proceeds (aliasName : String) (t : Traffic) (more : List Document) (u : Traffic) :
    Prop where
  store : Changes aliasName t.store u.store more
  accepted : u.accepted = t.accepted ++ more.map fun d => (t.store.writeIndex? aliasName, d)
  writeIndices : u.writeIndices = t.writeIndices ++
    if u.store.writeIndex? aliasName = t.store.writeIndex? aliasName then []
    else (u.store.writeIndex? aliasName).toList
  sound : Sound aliasName u

theorem join_proceeds {t : Traffic} (ht : Sound aliasName t) {party : Party}
    (hp : Promises aliasName t.store party) : Proceeds aliasName t [] (t.join party) :=
  ⟨.rest, by simp [join], by simp [join], join_sound ht hp⟩

theorem step_proceeds {t : Traffic} (ht : Sound aliasName t) (e : Event) :
    ∃ more, Proceeds aliasName t more (step aliasName t e) := by
  cases e with
  | start config =>
    exact ⟨[], join_proceeds ht (Lifecycle.provision_meets { config with aliasName := aliasName } _)⟩
  | look config =>
    exact ⟨[], join_proceeds ht (Lifecycle.cycle_meets { config with aliasName := aliasName } _)⟩
  | deliver config batch =>
    refine ⟨[], join_proceeds ht ⟨_, _, _, Delivery.routine_settles config aliasName batch, ?_, rfl⟩⟩
    exact .refl _
  | inject faults =>
    have hchanges : Changes aliasName t.store { t.store with faults := faults } [] := .faults faults
    refine ⟨[], hchanges, by simp [step], ?_, ht.aliases, ht.noIndex, fun party hp => ?_⟩
    · have hsame : ({ t.store with faults := faults } : Store).writeIndex? aliasName =
          t.store.writeIndex? aliasName := rfl
      simp [step, hsame]
    · exact (ht.promises party hp).later hchanges.later
  | advance n now fate =>
    unfold step
    dsimp only
    split
    · exact ⟨[], .rest, by simp, by simp, ht⟩
    · rename_i party hparty
      obtain ⟨hchanges, hpromises⟩ :=
        stepParty_changes (ht.promises party (List.mem_of_getElem? hparty)) now fate
      refine ⟨_, hchanges, rfl, rfl, hchanges.sound ht.aliases, hchanges.noIndex ht.noIndex,
        fun other ho => ?_⟩
      rcases List.mem_or_eq_of_mem_set ho with ho | rfl
      · exact (ht.promises other ho).later hchanges.later
      · exact hpromises

end

end Traffic

end MetricRelay

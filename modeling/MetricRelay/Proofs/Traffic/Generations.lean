import MetricRelay.Proofs.Lifecycle.Generations
import MetricRelay.Proofs.Traffic.Documents
import Mathlib.Data.List.Induction

-- While an alias is only rolled over by limits, its generations take the writes one after the
-- other, however many there are who replace them and however late their updates come. Each of them
-- is empty when its turn comes.

namespace MetricRelay.Traffic

open Lifecycle (Begins Later MembersUpTo MovesUp StrangersEmpty Switches handOver nextGeneration)
open Store (Fate Routine)

-- Whoever starts or looks at the alias goes by limits, not by the day.
def Event.byLimits : Event → Bool
  | .start config => !config.daily
  | .look config => !config.daily
  | _ => true

-- What parties that go by limits ask for.
def Numbers (aliasName : String) : Party → Prop
  | .starting r => r.Asks (Begins aliasName)
  | .cycling r => r.Asks (Switches aliasName)
  | .delivering _ _ _ => True

-- The writes have come as far as generation `g`.
structure Climbing (aliasName : String) (g : Nat) (t : Traffic) : Prop where
  sound : Sound aliasName t
  members : MembersUpTo t.store aliasName g
  strangers : StrangersEmpty t.store aliasName
  numbers : ∀ party ∈ t.parties, Numbers aliasName party
  writeIndices : t.writeIndices =
    (List.range g).map fun k => Index.generationName aliasName (k + 1)

section

variable {aliasName : String} {g : Nat} {t u : Traffic} {more : List Document} {e : Event}

theorem begin_climbing (aliasName : String) : Climbing aliasName 0 (begin aliasName .empty) :=
  ⟨begin_sound Store.empty_sound rfl, Lifecycle.upTo_empty aliasName, fun _ _ _ => rfl,
    fun _ h => (by cases h), rfl⟩

theorem Climbing.writeIndex? (h : Climbing aliasName g t) :
    t.store.writeIndex? aliasName =
      if g = 0 then none else some (Index.generationName aliasName g) :=
  Lifecycle.writeIndex?_eq h.sound.aliases h.members

-- The next generation has not had the writes yet.
theorem Climbing.next_ne (h : Climbing aliasName g t) :
    t.store.writeIndex? aliasName ≠ some (Index.generationName aliasName (g + 1)) := by
  rw [h.writeIndex?]
  split
  · simp
  · rw [ne_eq, Option.some_inj, Index.generationName_inj]
    omega

theorem Climbing.next_empty (h : Climbing aliasName g t) :
    t.store.documents (Index.generationName aliasName (g + 1)) = [] := by
  refine h.strangers _ (.inl ⟨g + 1, rfl⟩) fun hm => ?_
  obtain ⟨k, _, hle, hk⟩ := (Lifecycle.isMember_iff h.members _).mp hm
  have hsame := Index.generationName_inj.mp hk
  omega

theorem step_numbers (hn : ∀ party ∈ t.parties, Numbers aliasName party)
    (he : e.byLimits = true) :
    ∀ party ∈ (step aliasName t e).parties, Numbers aliasName party := by
  have hjoin : ∀ party, Numbers aliasName party →
      ∀ other ∈ (t.join party).parties, Numbers aliasName other := by
    intro party hp other ho
    rcases List.mem_append.mp ho with ho | ho
    · exact hn other ho
    · rw [List.mem_singleton.mp ho]
      exact hp
  cases e with
  | start config =>
    have hdaily : config.daily = false := by simpa [Event.byLimits] using he
    exact hjoin _ (Lifecycle.provision_asks { config with aliasName := aliasName } hdaily)
  | look config =>
    have hdaily : config.daily = false := by simpa [Event.byLimits] using he
    exact hjoin _ (Lifecycle.cycle_asks { config with aliasName := aliasName } hdaily)
  | deliver config batch => exact hjoin _ trivial
  | inject faults => exact hn
  | advance n now fate =>
    unfold step
    dsimp only
    split
    · exact hn
    · rename_i party hparty
      intro other ho
      rcases List.mem_or_eq_of_mem_set ho with ho | rfl
      · exact hn other ho
      · have hp := hn party (List.mem_of_getElem? hparty)
        cases party with
        | starting r => exact Routine.Asks.advance hp t.store now fate
        | cycling r => exact Routine.Asks.advance hp t.store now fate
        | delivering batch stored r => trivial

theorem starting_advance (h : Climbing aliasName g t)
    {r : Routine Empty (Except Error String)} (hr : .starting r ∈ t.parties) (now : Int64)
    (fate : Fate) :
    (r.advance t.store now fate).2.aliases = t.store.aliases ∨
      g = 0 ∧ MovesUp aliasName g t.store (r.advance t.store now fate).2 := by
  rcases r.advance_store t.store now fate with hs | ⟨q, hq, hs⟩
  · rw [hs]
    exact .inl rfl
  · have horderly := Routine.Meets.request (Later.refl aliasName) (h.sound.promises _ hr) hq
    rw [hs]
    exact Lifecycle.begins_climbs h.sound.aliases h.members horderly
      (Routine.Asks.request (h.numbers _ hr) hq) now

-- A cycle that moves the alias up was about to replace the generation that has the writes.
theorem cycling_advance (h : Climbing aliasName g t) (hg : g < UInt64.size - 1)
    {r : Lifecycle.Cycle} (hr : .cycling r ∈ t.parties) (now : Int64) (fate : Fate) :
    (r.advance t.store now fate).2.aliases = t.store.aliases ∨
      (0 < g ∧ r.request? = some (.updateAliases
        (handOver aliasName (Index.generationName aliasName g)
          (Index.generationName aliasName (g + 1))))) ∧
        MovesUp aliasName g t.store (r.advance t.store now fate).2 := by
  rcases r.advance_store t.store now fate with hs | ⟨q, hq, hs⟩
  · rw [hs]
    exact .inl rfl
  · have horderly := Routine.Meets.request (Later.refl aliasName) (h.sound.promises _ hr) hq
    rw [hs]
    rcases Lifecycle.switches_climbs h.sound.aliases h.members hg horderly
      (Routine.Asks.request (h.numbers _ hr) hq) now with hsame | ⟨⟨hpos, rfl⟩, hup⟩
    · exact .inl hsame
    · exact .inr ⟨⟨hpos, hq⟩, hup⟩

theorem delivering_advance (h : Climbing aliasName g t) {batch : Write.Batch}
    {stored : List Document} {r : Routine Write.Delivery.Note Write.Delivery}
    (hr : .delivering batch stored r ∈ t.parties) (now : Int64) (fate : Fate) :
    (r.advance t.store now fate).2.aliases = t.store.aliases := by
  obtain ⟨owed, docs, soFar, hsettles, _⟩ := h.sound.promises _ hr
  obtain ⟨_, hstore⟩ := settles_advance hsettles t.store now fate
  rcases hstore with ⟨hs, _⟩ | ⟨hs, _⟩
  · rw [hs]
  · rw [hs, Store.aliases_bulk]

-- One step leaves the aliases as they are or moves this one up.
theorem step_aliases (h : Climbing aliasName g t) (hg : g < UInt64.size - 1) (e : Event) :
    (step aliasName t e).store.aliases = t.store.aliases ∨
      MovesUp aliasName g t.store (step aliasName t e).store := by
  cases e with
  | start config => exact .inl rfl
  | look config => exact .inl rfl
  | deliver config batch => exact .inl rfl
  | inject faults => exact .inl rfl
  | advance n now fate =>
    unfold step
    dsimp only
    split
    · exact .inl rfl
    · rename_i party hparty
      have hr := List.mem_of_getElem? hparty
      cases party with
      | starting r => exact (starting_advance h hr now fate).imp id And.right
      | cycling r => exact (cycling_advance h hg hr now fate).imp id And.right
      | delivering batch stored r => exact .inl (delivering_advance h hr now fate)

theorem step_climbing (h : Climbing aliasName g t) (hg : g < UInt64.size - 1)
    (he : e.byLimits = true) :
    ((step aliasName t e).store.aliases = t.store.aliases ∧
        Climbing aliasName g (step aliasName t e)) ∨
      (MovesUp aliasName g t.store (step aliasName t e).store ∧
        Climbing aliasName (g + 1) (step aliasName t e)) := by
  obtain ⟨more, hp⟩ := step_proceeds h.sound e
  have hstrangers := hp.store.strangers h.sound.noIndex h.strangers
  have hnumbers := step_numbers h.numbers he
  rcases step_aliases h hg e with hsame | hup
  · left
    have hmembers : MembersUpTo (step aliasName t e).store aliasName g := by
      unfold MembersUpTo
      rw [hsame]
      exact h.members
    have hwriter : (step aliasName t e).store.writeIndex? aliasName =
        t.store.writeIndex? aliasName :=
      Lifecycle.writeIndex?_congr (congrArg (·.find? aliasName) hsame)
    refine ⟨hsame, hp.sound, hmembers, hstrangers, hnumbers, ?_⟩
    rw [hp.writeIndices, if_pos hwriter, List.append_nil, h.writeIndices]
  · right
    have hwriter : (step aliasName t e).store.writeIndex? aliasName =
        some (Index.generationName aliasName (g + 1)) := by
      rw [Lifecycle.writeIndex?_eq hp.sound.aliases hup.members, if_neg (by omega)]
    refine ⟨hup, hp.sound, hup.members, hstrangers, hnumbers, ?_⟩
    rw [hp.writeIndices, hwriter, if_neg h.next_ne.symm, h.writeIndices, List.range_succ]
    simp

-- No document has come to the next generation before it takes the writes.
theorem step_next_empty (h : Climbing aliasName g t) (e : Event) :
    (step aliasName t e).store.documents (Index.generationName aliasName (g + 1)) = [] := by
  obtain ⟨more, hp⟩ := step_proceeds h.sound e
  rw [hp.store.documents h.sound.noIndex, if_neg h.next_ne, h.next_empty, List.append_nil]

theorem Climbing.lt_of_not_mem (h : Climbing aliasName g t)
    (hlast : Index.generationName aliasName (UInt64.size - 1) ∉ t.writeIndices) :
    g < UInt64.size - 1 := by
  by_contra hge
  refine hlast ?_
  rw [h.writeIndices]
  have hsize : 0 < UInt64.size - 1 := by decide
  refine List.mem_map.mpr ⟨UInt64.size - 1 - 1, List.mem_range.mpr (by omega), ?_⟩
  rw [Nat.sub_add_cancel hsize]

theorem writeIndices_grow (aliasName : String) (t : Traffic) (e : Event) :
    t.writeIndices <+: (step aliasName t e).writeIndices := by
  cases e with
  | advance n now fate =>
    unfold step
    dsimp only
    split
    · exact List.prefix_refl _
    · exact List.prefix_append _ _
  | _ => exact List.prefix_refl _

theorem run_climbing (events : List Event) (hlimits : ∀ e ∈ events, e.byLimits = true)
    (hlast : Index.generationName aliasName (UInt64.size - 1) ∉
      (after aliasName .empty events).writeIndices) :
    ∃ g, Climbing aliasName g (after aliasName .empty events) := by
  induction events using List.reverseRecOn with
  | nil => exact ⟨0, begin_climbing aliasName⟩
  | append_singleton before e ih =>
    have hsplit : after aliasName .empty (before ++ [e]) =
        step aliasName (after aliasName .empty before) e := by
      unfold after
      rw [List.foldl_append]
      rfl
    rw [hsplit] at hlast ⊢
    have hearlier : Index.generationName aliasName (UInt64.size - 1) ∉
        (after aliasName .empty before).writeIndices :=
      fun hm => hlast ((writeIndices_grow aliasName _ e).subset hm)
    obtain ⟨g, h⟩ := ih (fun e he => hlimits e (List.mem_append_left _ he)) hearlier
    rcases step_climbing h (h.lt_of_not_mem hearlier) (hlimits e (by simp)) with ⟨_, h'⟩ | ⟨_, h'⟩
    · exact ⟨g, h'⟩
    · exact ⟨g + 1, h'⟩

end

-- What a hand-over from `current` to the generation after it may do to the store of `t`.
inductive HandsOver (aliasName : String) (g : Nat) (current : String) (t u : Traffic) : Prop
  -- refused, or nothing new
  | late (h : u.store.aliases = t.store.aliases)
  | inTime (hcurrent : current = Index.generationName aliasName g)
      (hnext : nextGeneration aliasName current = Index.generationName aliasName (g + 1))
      (hfrom : t.store.writeIndex? aliasName = some current)
      (hto : u.store.writeIndex? aliasName = some (nextGeneration aliasName current))
      (hothers : ∀ other, other ≠ aliasName →
        u.store.aliases.find? other = t.store.aliases.find? other)

-- The generations up to `g` have taken the writes, one after the other.
structure InTurn (aliasName : String) (g : Nat) (t : Traffic) : Prop where
  writeIndices : t.writeIndices =
    (List.range g).map fun k => Index.generationName aliasName (k + 1)
  last : t.writeIndices.getLast? = t.store.writeIndex? aliasName
  -- all that cycles ask of aliases is to hand over, whenever they last looked
  updates : ∀ n r actions, t.parties[n]? = some (.cycling r) →
    r.request? = some (.updateAliases actions) →
    ∃ current, actions = handOver aliasName current (nextGeneration aliasName current) ∧
      ∀ now fate, HandsOver aliasName g current t (step aliasName t (.advance n now fate))
  -- the only index that can have the writes next has no documents then
  next : ∀ e, e.byLimits = true →
    (step aliasName t e).store.writeIndex? aliasName = t.store.writeIndex? aliasName ∨
      (step aliasName t e).store.writeIndex? aliasName =
          some (Index.generationName aliasName (g + 1)) ∧
        (step aliasName t e).store.documents (Index.generationName aliasName (g + 1)) = []

section

variable {aliasName : String} {g : Nat} {t : Traffic}

theorem Climbing.handsOver (h : Climbing aliasName g t) (hg : g < UInt64.size - 1) {n : Nat}
    {r : Lifecycle.Cycle} {current : String} (hparty : t.parties[n]? = some (.cycling r))
    (hr : r.request? = some
      (.updateAliases (handOver aliasName current (nextGeneration aliasName current))))
    (now : Int64) (fate : Fate) :
    HandsOver aliasName g current t (step aliasName t (.advance n now fate)) := by
  have hstore : (step aliasName t (.advance n now fate)).store =
      (r.advance t.store now fate).2 := by
    unfold step
    dsimp only
    rw [hparty]
    rfl
  rcases cycling_advance h hg (List.mem_of_getElem? hparty) now fate with
    hsame | ⟨⟨hpos, hq⟩, hup⟩
  · refine .late ?_
    rw [hstore, hsame]
  · have hcurrent : current = Index.generationName aliasName g := by
      rw [hr, Option.some_inj, Store.Request.updateAliases.injEq] at hq
      simp only [handOver, List.cons.injEq, Store.AliasAction.add.injEq] at hq
      exact hq.2.1.1
    have hnext : nextGeneration aliasName current = Index.generationName aliasName (g + 1) := by
      rw [hcurrent, Lifecycle.nextGeneration_generationName (by omega)]
    obtain ⟨more, hp⟩ := step_proceeds h.sound (.advance n now fate)
    rw [← hstore] at hup
    refine .inTime hcurrent hnext ?_ ?_ hup.others
    · rw [h.writeIndex?, if_neg (by omega), hcurrent]
    · rw [Lifecycle.writeIndex?_eq hp.sound.aliases hup.members, if_neg (by omega), hnext]

theorem Climbing.inTurn (h : Climbing aliasName g t) (hg : g < UInt64.size - 1) :
    InTurn aliasName g t where
  writeIndices := h.writeIndices
  last := by
    rw [h.writeIndex?, h.writeIndices]
    cases g with
    | zero => rfl
    | succ g => simp [List.range_succ]
  updates := by
    intro n r actions hparty hr
    obtain ⟨current, rfl⟩ := Routine.Asks.request (h.numbers _ (List.mem_of_getElem? hparty)) hr
    exact ⟨current, rfl, h.handsOver hg hparty hr⟩
  next := by
    intro e he
    rcases step_climbing h hg he with ⟨hsame, _⟩ | ⟨_, h'⟩
    · exact .inl (Lifecycle.writeIndex?_congr (congrArg (·.find? aliasName) hsame))
    · refine .inr ⟨?_, step_next_empty h e⟩
      rw [h'.writeIndex?, if_neg (by omega)]

end

theorem generations_in_turn (aliasName : String) (events : List Event)
    (hlimits : ∀ e ∈ events, e.byLimits = true)
    (hlast : Index.generationName aliasName (UInt64.size - 1) ∉
      (after aliasName .empty events).writeIndices) :
    ∃ g < UInt64.size - 1, InTurn aliasName g (after aliasName .empty events) := by
  obtain ⟨g, h⟩ := run_climbing events hlimits hlast
  have hg := h.lt_of_not_mem hlast
  exact ⟨g, hg, h.inTurn hg⟩

-- Two look at the alias at the same time; the update of one comes after that of the other.
private def rivals : List Event :=
  let limits : Lifecycle.Config :=
    { (default : Lifecycle.Config) with
      policy := { (default : Lifecycle.Policy) with maxDocs := some 1 } }
  let sample : Write.Batch := (Write.Batch.empty 0).push ⟨"requests", ∅, 0, .zero false, by decide⟩
  let serve (party steps : Nat) : List Event := List.replicate steps (.advance party 0 .served)
  .start limits :: serve 0 4 ++ .deliver default sample :: serve 1 2 ++
    .look limits :: .look limits :: serve 2 6 ++ serve 3 7

theorem rivals_in_turn :
    (∀ e ∈ rivals, e.byLimits = true) ∧
    Index.generationName "m" (UInt64.size - 1) ∉ (after "m" .empty rivals).writeIndices ∧
    InTurn "m" 2 (after "m" .empty rivals) := by
  have hlimits : ∀ e ∈ rivals, e.byLimits = true := by decide +kernel
  have hindices : (after "m" .empty rivals).writeIndices = ["m-000001", "m-000002"] := by
    decide +kernel
  have hlast : Index.generationName "m" (UInt64.size - 1) ∉
      (after "m" .empty rivals).writeIndices := by
    rw [hindices]
    decide +kernel
  obtain ⟨g, _, h⟩ := generations_in_turn "m" rivals hlimits hlast
  have hg : g = 2 := by
    have hlength := congrArg List.length (hindices.symm.trans h.writeIndices)
    simpa using hlength.symm
  exact ⟨hlimits, hlast, hg ▸ h⟩

end MetricRelay.Traffic

import MetricRelay.Proofs.Lifecycle.Day
import MetricRelay.Proofs.Store.Shared
import Mathlib.Data.Nat.ModEq

-- One cycle of an alias that is rolled over by limits, at a store that others use too but who leave
-- the alias alone: what it does, how it comes out, and which index takes the writes afterwards.

namespace MetricRelay.Lifecycle

open Store (Deed Moment Request Routine Shared)

-- The number of a generation; an index without one counts as before the first.
def number (aliasName index : String) : Nat := (Index.generation? aliasName index).getD 0

theorem number_lt (aliasName index : String) : number aliasName index < UInt64.size := by
  unfold number
  cases h : Index.generation? aliasName index with
  | none => decide
  | some n => exact (Index.generation?_eq_some_iff.mp h).1

theorem number_nextGeneration (aliasName index : String) :
    number aliasName (nextGeneration aliasName index) =
      (number aliasName index + 1) % UInt64.size := by
  unfold nextGeneration
  rw [← number, number, Index.generation?_generationName_eq, if_pos (Nat.mod_lt _ (by decide)),
    Option.getD_some]

-- The index that takes the writes after so many rollovers.
def heir (aliasName first : String) (n : Nat) : String :=
  (nextGeneration aliasName)^[n] first

theorem heir_succ (aliasName first : String) (n : Nat) :
    heir aliasName first (n + 1) = nextGeneration aliasName (heir aliasName first n) :=
  Function.iterate_succ_apply' ..

theorem number_heir (aliasName first : String) (n : Nat) :
    number aliasName (heir aliasName first n) = (number aliasName first + n) % UInt64.size := by
  induction n with
  | zero => exact (Nat.mod_eq_of_lt (number_lt aliasName first)).symm
  | succ n ih => rw [heir_succ, number_nextGeneration, ih, Nat.mod_add_mod, Nat.add_assoc]

-- No index comes up twice as long as a machine word can count the rollovers.
theorem heir_inj {aliasName first : String} {m n : Nat} (hm : m < UInt64.size)
    (hn : n < UInt64.size) (h : heir aliasName first m = heir aliasName first n) : m = n := by
  have hnumber := congrArg (number aliasName) h
  rw [number_heir, number_heir] at hnumber
  have hmod : Nat.ModEq UInt64.size m n := Nat.ModEq.add_left_cancel' _ hnumber
  exact hmod.eq_of_lt_of_lt hm hn

theorem nextGeneration_ne (aliasName index : String) :
    index ≠ nextGeneration aliasName index := by
  intro h
  have hsame : heir aliasName index 0 = heir aliasName index 1 := h
  exact absurd (heir_inj (by decide) (by decide) hsame) (by decide)

section

variable {config : Config} {current next : String} {s : Shared}

-- The store answers what is asked about the alias.

theorem answered_writeIndex (h : s.Minds config.aliasName current) :
    s.answered (.writeIndex config.aliasName) = .ok (some current) :=
  congrArg Except.ok h.found.2

theorem minds_writeIndex (h : s.Minds config.aliasName current) (aliasName : String) :
    (s.next (.writeIndex aliasName)).Minds config.aliasName current :=
  h.next h.found.2

theorem answered_indexStats (h : s.Minds config.aliasName current) :
    ∃ stats : Store.IndexStats, s.answered (.indexStats current) = .ok stats ∧
      stats.index = current := by
  obtain ⟨hs, hwriter⟩ := h.found
  obtain ⟨members, hm, hsole⟩ := (Store.writeIndex?_eq_some_iff hs _ _).mp hwriter
  obtain ⟨data, hdata⟩ := (Keyed.contains_iff _ _).mp ((hs _ _ hm).exist current hsole.contains)
  refine ⟨⟨current, data.documents.length, data.bytes, data.created⟩, ?_, rfl⟩
  change s.found.indexStats current = _
  rw [Store.indexStats, hdata]

theorem minds_indexStats (h : s.Minds config.aliasName current) (index : String) :
    (s.next (.indexStats index)).Minds config.aliasName current :=
  h.next h.found.2

theorem minds_createIndex (h : s.Minds config.aliasName current)
    (settings : Option Index.Settings) :
    (s.next (.createIndex next settings none)).Minds config.aliasName current :=
  h.next ((writeIndex?_congr
    (Store.find?_aliases_createIndex h.found.2 _ next settings none)).trans h.found.2)

-- An index is there once a request to make it has succeeded.
theorem contains_of_createIndex {s : Store} {now : Int64} {index : String}
    {asked : Option Index.Settings} {creation : Store.Creation}
    (h : (s.createIndex now index asked none).1 = .ok creation) :
    (s.createIndex now index asked none).2.indices.contains index = true := by
  unfold Store.createIndex at h ⊢
  dsimp only at h ⊢
  split at h
  · cases h
  · rename_i hfaults
    rw [if_neg hfaults]
    cases hfind : s.indices.find? index with
    | some data =>
      simp only [hfind] at h ⊢
      split
      · exact Keyed.contains_of_find? hfind
      · exact Keyed.contains_of_find? hfind
    | none => exact (Keyed.contains_insert _ _ _ _).mpr (.inl rfl)

-- Of an update that moves the writes nothing is done, or all.
theorem updateAliases_moves (h : s.Minds config.aliasName current) (hne : current ≠ next)
    (hnext : s.store.indices.contains next = true) :
    let r : Request := .updateAliases (handOver config.aliasName current next)
    (∃ e, s.answered r = .error e) ∧ (s.next r).Minds config.aliasName current ∨
      s.answered r = .ok () ∧ (s.next r).Minds config.aliasName next := by
  intro r
  obtain ⟨hs, hwriter⟩ := h.found
  by_cases hfaults : s.found.faults.aliasUpdates = 0
  · right
    obtain ⟨t, hupdate, hmoved, -⟩ :=
      updateAliases_handOver hs hfaults hwriter (Shared.found_contains hnext) hne
    have hstore : (s.next r).store = t := congrArg Prod.snd hupdate
    exact ⟨congrArg Prod.fst hupdate, h.next (hstore ▸ hmoved)⟩
  · left
    have hupdate : s.found.updateAliases (handOver config.aliasName current next) =
        (.error (.unavailable "injected alias update failure"), { s.found with
          faults := { s.found.faults with aliasUpdates := s.found.faults.aliasUpdates - 1 } }) :=
      if_pos (Nat.pos_of_ne_zero hfaults)
    have hstore := congrArg Prod.snd hupdate
    refine ⟨⟨_, congrArg Prod.fst hupdate⟩, h.next ?_⟩
    exact (congrArg (fun t : Store => t.writeIndex? config.aliasName) hstore).trans hwriter

-- The routines of a look, from the inside out.

theorem does_switchWriteIndex (h : s.Minds config.aliasName current) (hne : current ≠ next) :
    ∃ deeds result s', Routine.Does Shared.peer s
      (switchWriteIndex config current next : Routine Note _) deeds result s' ∧
      Deed.notes deeds = [] ∧
      ((∃ e, result = .error e) ∧ s'.Minds config.aliasName current ∨
        result = .ok () ∧ s'.Minds config.aliasName next) := by
  have hmade : (s.next (.createIndex next (some config.settings) none)).Minds config.aliasName
    current := minds_createIndex h (some config.settings)
  unfold switchWriteIndex
  cases hcreate : s.answered (.createIndex next (some config.settings) none) with
  | error e =>
    exact ⟨_, .error _, _, (Shared.asks hcreate _).bind (Routine.does_pure _), rfl,
      .inl ⟨⟨_, rfl⟩, hmade⟩⟩
  | ok creation =>
    rcases updateAliases_moves hmade hne (contains_of_createIndex hcreate) with
      ⟨⟨e, hupdate⟩, hstays⟩ | ⟨hupdate, hmoved⟩
    · exact ⟨_, .error _, _, (Shared.asks hcreate _).bind
        ((Shared.asks hupdate _).bind (Routine.does_pure _)), rfl, .inl ⟨⟨_, rfl⟩, hstays⟩⟩
    · exact ⟨_, .ok (), _, (Shared.asks hcreate _).bind
        ((Shared.asks hupdate _).bind (Routine.does_pure _)), rfl, .inr ⟨rfl, hmoved⟩⟩

-- How a rollover ends: with an error, or by noting that it is done.
inductive RolledOver (config : Config) (current : String) (trigger : Trigger) :
    List Note → Except Error (Option Rollover) → Shared → Prop
  | failed {s : Shared} (e : Error) (h : s.Minds config.aliasName current) :
      RolledOver config current trigger [] (.error e) s
  | done {s : Shared} (created : Int64)
      (h : s.Minds config.aliasName (nextGeneration config.aliasName current)) :
      RolledOver config current trigger
        [.rolledOver current (nextGeneration config.aliasName current) created]
        (.ok (some ⟨config.aliasName, current, nextGeneration config.aliasName current,
          some trigger⟩)) s

theorem does_rollOver (h : s.Minds config.aliasName current) (trigger : Trigger) :
    ∃ deeds result s', Routine.Does Shared.peer s (rollOver config current trigger) deeds result
      s' ∧ RolledOver config current trigger (Deed.notes deeds) result s' := by
  obtain ⟨deeds, result, s', hswitch, hquiet, hend⟩ :=
    does_switchWriteIndex h (nextGeneration_ne config.aliasName current)
  unfold rollOver
  rcases hend with ⟨⟨e, rfl⟩, hstays⟩ | ⟨rfl, hmoved⟩
  · refine ⟨_, .error e, s', hswitch.bind (Routine.does_pure _), ?_⟩
    rw [List.append_nil, hquiet]
    exact .failed e hstays
  · refine ⟨_, _, s', hswitch.bind (Routine.does_now.bind
      ((Routine.does_tell _).bind (Routine.does_pure _))), ?_⟩
    rw [Deed.notes_append, hquiet]
    exact .done s'.shown hmoved

-- The stats that an index was found to have are past a limit, by the clock as it was then.
def Breached (config : Config) (deeds : List (Deed Note Int64)) : Prop :=
  ∃ (index : String) (limit : Option Duration) (stats : Store.IndexStats) (shown : Int64),
    .asked ⟨.indexStats index, limit⟩ (.ok stats) shown ∈ deeds ∧
    (config.policy.evaluate ⟨config.aliasName, stats.index, stats.documents, stats.bytes,
      stats.created, .active⟩ shown).isSome = true

-- What a look comes to that finds `current`.
inductive Looked (config : Config) (current : String) :
    List (Deed Note Int64) → List Note → Except Error (Option Rollover) → Shared → Prop
  | within {s : Shared} {deeds : List (Deed Note Int64)} {state : IndexState}
      (hindex : state.index = current) (hphase : state.phase = .active)
      (hlimits : ¬Breached config deeds) (h : s.Minds config.aliasName current) :
      Looked config current deeds [.observed state] (.ok none) s
  | breached {s : Shared} {deeds : List (Deed Note Int64)} {state : IndexState}
      {trigger : Trigger} {notes : List Note} {result : Except Error (Option Rollover)}
      (hindex : state.index = current) (hphase : state.phase = .eligible)
      (hlimits : Breached config deeds) (h : RolledOver config current trigger notes result s) :
      Looked config current deeds (.observed state :: notes) result s

theorem does_currentIndex (h : s.Minds config.aliasName current) :
    Routine.Does Shared.peer s (currentIndex config)
      [.asked ⟨.writeIndex config.aliasName, some config.requestTimeout⟩ (.ok (some current))
        s.moment.shown]
      (.ok current) (s.next (.writeIndex config.aliasName)) :=
  (Shared.asks (answered_writeIndex h) _).bind (Routine.does_pure _)

theorem does_evaluateLimits (h : s.Minds config.aliasName current) :
    ∃ deeds result s', Routine.Does Shared.peer s (evaluateLimits config) deeds result s' ∧
      Looked config current deeds (Deed.notes deeds) result s' := by
  have hcurrent := does_currentIndex h
  have h₁ := minds_writeIndex h config.aliasName
  generalize s.next (.writeIndex config.aliasName) = s₁ at hcurrent h₁
  obtain ⟨stats, hstats, rfl⟩ := answered_indexStats h₁
  have h₂ := minds_indexStats h₁ stats.index
  have hasked := Shared.asks (ε := Note) hstats config.requestTimeout
  have hwall : Shared.peer.wall (s₁.next (.indexStats stats.index)) = s₁.moment.shown := rfl
  generalize s₁.next (.indexStats stats.index) = s₂ at h₂ hasked hwall
  generalize s₁.moment.shown = shown at hasked hwall
  generalize hstate : (⟨config.aliasName, stats.index, stats.documents, stats.bytes, stats.created,
    .active⟩ : IndexState) = state
  have hindex : state.index = stats.index := hstate ▸ rfl
  unfold evaluateLimits
  cases hevaluate : config.policy.evaluate state shown with
  | none =>
    refine ⟨_ ++ (_ ++ ([] ++ [.noted (.observed state)])), .ok none, s₂,
      hcurrent.bind (hasked.bind (Routine.does_now.bind ?_)),
      .within hindex (hstate ▸ rfl) ?_ h₂⟩
    · rw [hwall]
      dsimp only
      rw [hstate, hevaluate]
      exact (Routine.does_tell _).bind (Routine.does_pure _)
    · rintro ⟨index, limit, others, later, hmem, hlimits⟩
      have hasked : (index = stats.index ∧ limit = some config.requestTimeout) ∧
          others = stats ∧ later = shown := by simpa using hmem
      obtain ⟨-, rfl, rfl⟩ := hasked
      rw [hstate, hevaluate] at hlimits
      cases hlimits
  | some trigger =>
    obtain ⟨deeds, result, s₃, hrolled, hend⟩ := does_rollOver h₂ trigger
    refine ⟨_ ++ (_ ++ ([] ++ (.noted (.observed { state with phase := .eligible }) :: deeds))),
      result, s₃, hcurrent.bind (hasked.bind (Routine.does_now.bind ?_)),
      .breached hindex rfl ?_ hend⟩
    · rw [hwall]
      dsimp only
      rw [hstate, hevaluate]
      subst hstate
      exact hrolled.noting _
    · refine ⟨_, _, stats, shown, .tail _ (.head _), ?_⟩
      rw [hstate, hevaluate]
      rfl

-- Notes are no stats.
theorem breached_noted (note : Note) (deeds : List (Deed Note Int64)) :
    Breached config (.noted note :: deeds) ↔ Breached config deeds := by
  simp [Breached]

theorem breached_append_map_noted (deeds : List (Deed Note Int64)) (notes : List Note) :
    Breached config (deeds ++ notes.map .noted) ↔ Breached config deeds := by
  simp [Breached]

theorem Looked.congr {deeds more : List (Deed Note Int64)} {notes : List Note}
    {result : Except Error (Option Rollover)} (h : Looked config current deeds notes result s)
    (hbreached : Breached config more ↔ Breached config deeds) :
    Looked config current more notes result s := by
  cases h with
  | within hindex hphase hlimits h =>
    exact .within hindex hphase (fun hmore => hlimits (hbreached.mp hmore)) h
  | breached hindex hphase hlimits h => exact .breached hindex hphase (hbreached.mpr hlimits) h

-- What a cycle says about how its look came out.
def report : Except Error (Option Rollover) → Cycle
  | .ok event => pure (.ok event)
  | .error e => Routine.tell .failed >>= fun _ => pure (.error e)

theorem cycle_eq (hlimits : config.daily = false) :
    cycle config = Routine.tell .begun >>= fun _ => evaluateLimits config >>= report := by
  unfold cycle
  rw [hlimits]
  rfl

-- The notes made at the end of a cycle.
def reportNotes : Except Error (Option Rollover) → List Note
  | .ok _ => []
  | .error _ => [.failed]

theorem does_report (result : Except Error (Option Rollover)) :
    Routine.Does Shared.peer s (report result) ((reportNotes result).map .noted) result s := by
  cases result with
  | ok event => exact Routine.does_pure _
  | error e => exact (Routine.does_pure _).noting Note.failed

theorem does_cycle (hlimits : config.daily = false) (h : s.Minds config.aliasName current) :
    ∃ deeds notes result s', Routine.Does Shared.peer s (cycle config) deeds result s' ∧
      Deed.notes deeds = .begun :: notes ++ reportNotes result ∧
      Looked config current deeds notes result s' := by
  obtain ⟨deeds, result, s', hlook, hend⟩ := does_evaluateLimits h
  rw [cycle_eq hlimits]
  refine ⟨_, Deed.notes deeds, result, s', (hlook.bind (does_report result)).noting .begun, ?_,
    hend.congr ((breached_noted .begun _).trans (breached_append_map_noted deeds _))⟩
  rw [Deed.notes_noted, Deed.notes_append, Deed.notes_map_noted]
  rfl

end

-- A cycle never waits for anything but an answer.

theorem switchWriteIndex_prompt {ε : Type} (config : Config) (current next : String) :
    (switchWriteIndex config current next : Routine ε _).Prompt := by
  refine Routine.Prompt.bind (Routine.prompt_askWithin rfl) fun created => ?_
  split
  · trivial
  · exact Routine.Prompt.bind (Routine.prompt_askWithin rfl) fun _ => trivial

theorem rollOver_prompt (config : Config) (current : String) (trigger : Trigger) :
    (rollOver config current trigger).Prompt := by
  refine Routine.Prompt.bind (switchWriteIndex_prompt config current _) fun switched => ?_
  split
  · trivial
  · exact Routine.Prompt.bind (fun _ => trivial) fun now =>
      Routine.Prompt.bind trivial fun _ => trivial

theorem evaluateLimits_prompt (config : Config) : (evaluateLimits config).Prompt := by
  refine Routine.Prompt.bind ?_ fun found => ?_
  · exact Routine.Prompt.bind (Routine.prompt_askWithin rfl) fun _ => trivial
  · split
    · trivial
    · refine Routine.Prompt.bind (Routine.prompt_askWithin rfl) fun answered => ?_
      split
      · trivial
      · refine Routine.Prompt.bind (fun _ => trivial) fun now => ?_
        dsimp only
        split
        · exact Routine.Prompt.bind trivial fun _ => trivial
        · exact Routine.Prompt.bind trivial fun _ => rollOver_prompt config _ _

theorem cycle_prompt {config : Config} (hlimits : config.daily = false) :
    (cycle config).Prompt := by
  rw [cycle_eq hlimits]
  refine Routine.Prompt.bind trivial fun _ => ?_
  refine Routine.Prompt.bind (evaluateLimits_prompt config) fun result => ?_
  cases result with
  | ok event => trivial
  | error e => exact Routine.Prompt.bind trivial fun _ => trivial

end MetricRelay.Lifecycle

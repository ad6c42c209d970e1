import MetricRelay.Proofs.Lifecycle.Generations
import MetricRelay.Proofs.Store.Deeds
import MetricRelay.Proofs.Store.Prompt

-- A store that others use too. Before each answer they may have asked for anything and the clock
-- may have been set; but they leave one alias alone, so only who asks here can move its writes.

namespace MetricRelay.Store

-- No update of aliases names the alias. An index may be made for it: it has a write index, and so
-- that fails.
def Event.Spares (aliasName : String) : Event → Prop
  | .ask _ (.updateAliases actions) => aliasName ∉ actions.map AliasAction.aliasName
  | _ => True

-- What comes before an answer, and what the clock shows at the store and afterwards.
structure Moment where
  others : List Event
  there : Int64
  shown : Int64

structure Shared where
  store : Store
  shown : Int64
  -- what is to come before the next answers
  moments : List Moment

namespace Shared

-- When nothing more is laid down, nothing more happens.
def moment (s : Shared) : Moment := s.moments.headD ⟨[], s.shown, s.shown⟩

-- The store as the next request finds it.
def found (s : Shared) : Store := s.moment.others.foldl occur s.store

def answered (s : Shared) (r : Request) : Except Error r.Answer :=
  (s.found.answer s.moment.there r).1

def next (s : Shared) (r : Request) : Shared :=
  ⟨(s.found.answer s.moment.there r).2, s.moment.shown, s.moments.tail⟩

-- Answers as the store does, and remarks what the clock shows afterwards.
def peer : Peer Shared Int64 where
  answer s c := (s.answered c.request, s.moment.shown, s.next c.request)
  wall s := s.shown

end Shared

theorem Shared.asks {ε : Type} {s : Shared} {r : Request} {answer : Except Error r.Answer}
    (h : s.answered r = answer) (limit : Duration) :
    Routine.Does Shared.peer s (Routine.askWithin limit r : Routine ε _)
      [.asked ⟨r, some limit⟩ answer s.moment.shown] answer (s.next r) := by
  subst h
  exact Routine.does_askWithin limit r

-- Nobody else uses the store of a link while a routine runs.
def Link.alone (l : Link) : Shared := ⟨l.store, l.wallTime, []⟩

namespace Routine

variable {ε α β σ : Type}

-- Neither pauses nor makes a request that a store may linger over.
def Prompt : Routine ε α → Prop
  | .done _ => True
  | .note _ rest => rest.Prompt
  | .clock next => ∀ now, (next now).Prompt
  | .call c next => c.request.isBulk = false ∧ ∀ answer, (next answer).Prompt
  | .pause _ _ => False

theorem Prompt.bind {r : Routine ε α} {f : α → Routine ε β} (h : r.Prompt)
    (hf : ∀ a, (f a).Prompt) : (r >>= f).Prompt := by
  change (r.andThen f).Prompt
  induction r with
  | done a => exact hf a
  | note _ rest ih => exact ih h
  | clock next ih => exact fun now => ih now (h now)
  | call c next ih => exact And.intro h.1 fun answer => ih answer (h.2 answer)
  | pause _ next ih => exact h.elim

theorem prompt_askWithin {limit : Duration} {r : Request} (h : r.isBulk = false) :
    (askWithin limit r : Routine ε _).Prompt :=
  And.intro h fun _ => trivial

-- Such a routine runs to its end at once.
theorem Prompt.run {r : Routine ε α} (h : r.Prompt) (add : σ → ε → σ) (s : σ) {l : Link}
    (hcalm : l.rehearsals = ∅) :
    ∃ l', r.run add l s = (.finished (r.conclude Shared.peer l.alone).1, l',
        (Deed.notes (r.deeds Shared.peer l.alone)).foldl add s) ∧
      l'.alone = (r.conclude Shared.peer l.alone).2 ∧ l'.rehearsals = ∅ := by
  induction r generalizing l s with
  | done a => exact ⟨l, rfl, rfl, hcalm⟩
  | note e rest ih => exact ih h _ hcalm
  | clock next ih => exact ih l.wallTime (h _) s hcalm
  | call c next ih =>
    obtain ⟨l', hrun, halone, hstill⟩ :=
      ih (l.store.answer l.wallTime c.request).1 (h.2 _) s (l := l.served c.request) hcalm
    refine ⟨l', ?_, halone, hstill⟩
    rw [Routine.run, Link.start_of_prompt hcalm h.1]
    exact hrun
  | pause span next ih => exact h.elim

end Routine

-- What the others do.

-- An index cannot be made for an alias that has a write index.
theorem find?_aliases_createIndex {s : Store} {aliasName current : String}
    (hwriter : s.writeIndex? aliasName = some current) (now : Int64) (index : String)
    (asked : Option Index.Settings) (writeAlias : Option String) :
    (s.createIndex now index asked writeAlias).2.aliases.find? aliasName =
      s.aliases.find? aliasName := by
  unfold createIndex
  dsimp only
  split
  · rfl
  · split
    · split <;> rfl
    · split
      · rfl
      · rename_i other
        split
        · rfl
        · rename_i hnone
          refine Keyed.find?_insert_of_ne _ _ fun he => ?_
          rw [← he, hwriter] at hnone
          cases hnone

theorem occur_writeIndex? {s : Store} {aliasName current : String} {e : Event}
    (he : e.Spares aliasName) (hwriter : s.writeIndex? aliasName = some current) :
    (s.occur e).writeIndex? aliasName = some current := by
  have hkept : ∀ t : Store, t.aliases = s.aliases → t.writeIndex? aliasName = some current :=
    fun t ht => (Lifecycle.writeIndex?_congr (congrArg (·.find? aliasName) ht)).trans hwriter
  cases e with
  | inject faults => exact hwriter
  | ask now r =>
    cases r with
    | bulk target docs => exact hkept _ (aliases_bulk s target docs)
    | putTemplate template => exact hkept _ (Lifecycle.aliases_putTemplate s template)
    | writeIndex _ => exact hwriter
    | indexStats _ => exact hwriter
    | search _ => exact hwriter
    | ping => exact hwriter
    | updateAliases actions =>
      exact (Lifecycle.writeIndex?_congr (updateAliases_other s he)).trans hwriter
    | createIndex index asked writeAlias =>
      have hfind := find?_aliases_createIndex hwriter now index asked writeAlias
      exact (Lifecycle.writeIndex?_congr hfind).trans hwriter

theorem occur_contains {s : Store} {index : String} (e : Event)
    (h : s.indices.contains index = true) : (s.occur e).indices.contains index = true := by
  cases e with
  | inject faults => exact h
  | ask now r =>
    cases r with
    | bulk target docs => exact contains_indices_bulk s target index docs h
    | createIndex made asked writeAlias =>
      exact contains_indices_createIndex s now made index asked writeAlias h
    | updateAliases actions =>
      change (s.updateAliases actions).2.indices.contains index = true
      rw [indices_updateAliases]
      exact h
    | putTemplate template =>
      change (s.putTemplate template).2.indices.contains index = true
      unfold putTemplate
      split <;> exact h
    | writeIndex _ => exact h
    | indexStats _ => exact h
    | search _ => exact h
    | ping => exact h

-- The alias has a write index, and the others leave it alone.
structure Shared.Minds (aliasName current : String) (s : Shared) : Prop where
  sound : s.store.AliasesSound
  writer : s.store.writeIndex? aliasName = some current
  spared : ∀ m ∈ s.moments, ∀ e ∈ m.others, e.Spares aliasName

namespace Shared

variable {aliasName current : String} {s : Shared}

theorem Minds.found (h : s.Minds aliasName current) :
    s.found.AliasesSound ∧ s.found.writeIndex? aliasName = some current := by
  have hothers : ∀ e ∈ s.moment.others, e.Spares aliasName := by
    intro e he
    unfold moment at he
    cases hmoments : s.moments with
    | nil => simp [hmoments] at he
    | cons m rest =>
      rw [hmoments] at he
      exact h.spared m (hmoments ▸ List.mem_cons_self) e he
  exact List.foldlRecOn
    (motive := fun t => t.AliasesSound ∧ t.writeIndex? aliasName = some current)
    s.moment.others occur ⟨h.sound, h.writer⟩ fun t ht e he =>
      ⟨occur_sound ht.1 e, occur_writeIndex? (hothers e he) ht.2⟩

theorem found_contains {index : String} (h : s.store.indices.contains index = true) :
    s.found.indices.contains index = true :=
  List.foldlRecOn (motive := fun t => t.indices.contains index = true) s.moment.others occur h
    fun _ ht e _ => occur_contains e ht

theorem Minds.next (h : s.Minds aliasName current) {r : Request} {writer : String}
    (hwriter : (s.next r).store.writeIndex? aliasName = some writer) :
    (s.next r).Minds aliasName writer where
  sound := answer_sound h.found.1 _ r
  writer := hwriter
  spared m hm := h.spared m (List.mem_of_mem_tail hm)

end Shared

end MetricRelay.Store

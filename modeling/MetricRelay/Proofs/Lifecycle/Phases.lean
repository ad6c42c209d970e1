import MetricRelay.Proofs.Lifecycle.Look

-- What is on record about the indices of an alias after any number of looks, while others use the
-- store too and leave the alias alone: one index is not retired, and it takes the writes.

namespace MetricRelay.Lifecycle

open Store (Deed Moment Shared)

variable {config : Config} {aliasName first : String}

-- The record of `n` rollovers: of the indices that took the writes only the latest may be missing,
-- and the others are retired.
structure Lineage (aliasName first : String) (states : Keyed IndexState) (n : Nat) : Prop where
  named : ∀ index state, states.find? index = some state → state.index = index
  retired : ∀ index state, states.find? index = some state →
    (state.phase = .retired ↔ index ≠ heir aliasName first n)
  known : ∀ k < n, states.contains (heir aliasName first k) = true
  heirs : ∀ index, states.contains index = true → ∃ k ≤ n, index = heir aliasName first k

section

variable {states : Keyed IndexState} {n : Nat} {state last : IndexState}

theorem lineage_empty : Lineage aliasName first ∅ 0 where
  named _ _ h := by cases h
  retired _ _ h := by cases h
  known k hk := absurd hk (Nat.not_lt_zero k)
  heirs _ h := by cases h

theorem Lineage.observe (h : Lineage aliasName first states n)
    (hindex : state.index = heir aliasName first n) (hphase : state.phase ≠ .retired) :
    Lineage aliasName first (states.insert (heir aliasName first n) state) n where
  named index found hfind := by
    rw [Keyed.find?_insert] at hfind
    split at hfind
    · rename_i he
      cases hfind
      exact hindex.trans he.symm
    · exact h.named index found hfind
  retired index found hfind := by
    rw [Keyed.find?_insert] at hfind
    split at hfind
    · rename_i he
      cases hfind
      exact iff_of_false hphase fun hne => hne he
    · exact h.retired index found hfind
  known k hk := (Keyed.contains_insert _ _ _ _).mpr (.inr (h.known k hk))
  heirs index hcontains := by
    rcases (Keyed.contains_insert _ _ _ _).mp hcontains with he | hcontains
    · exact ⟨n, le_rfl, he⟩
    · exact h.heirs index hcontains

-- The index that hands over is retired and its heir is taken down.
theorem Lineage.succeed (h : Lineage aliasName first states n)
    (hlast : states.find? (heir aliasName first n) = some last)
    (hindex : state.index = heir aliasName first (n + 1)) (hphase : state.phase ≠ .retired) :
    Lineage aliasName first
      ((states.modify (heir aliasName first n) fun s => { s with phase := .retired }).insert
        (heir aliasName first (n + 1)) state) (n + 1) := by
  rw [Keyed.modify_of_find? hlast]
  refine ⟨fun index found hfind => ?_, fun index found hfind => ?_, fun k hk => ?_,
    fun index hcontains => ?_⟩
  · rw [Keyed.find?_insert, Keyed.find?_insert] at hfind
    split at hfind
    · rename_i he
      cases hfind
      exact hindex.trans he.symm
    · split at hfind
      · rename_i he
        cases hfind
        exact (h.named _ _ hlast).trans he.symm
      · exact h.named index found hfind
  · rw [Keyed.find?_insert, Keyed.find?_insert] at hfind
    split at hfind
    · rename_i he
      cases hfind
      exact iff_of_false hphase fun hne => hne he
    · rename_i hne
      split at hfind
      · cases hfind
        exact iff_of_true rfl hne
      · rename_i hother
        exact iff_of_true ((h.retired index found hfind).mpr hother) hne
  · rw [Keyed.contains_insert, Keyed.contains_insert]
    rcases Nat.lt_succ_iff_lt_or_eq.mp hk with hlt | rfl
    · exact .inr (.inr (h.known k hlt))
    · exact .inr (.inl rfl)
  · rw [Keyed.contains_insert, Keyed.contains_insert] at hcontains
    rcases hcontains with he | he | hcontains
    · exact ⟨n + 1, le_rfl, he⟩
    · exact ⟨n, n.le_succ, he⟩
    · obtain ⟨k, hk, he⟩ := h.heirs index hcontains
      exact ⟨k, Nat.le_succ_of_le hk, he⟩

-- No index but the latest is not retired.
theorem Lineage.filter_values (h : Lineage aliasName first states n)
    (hlast : states.find? (heir aliasName first n) = some last) :
    states.values.filter (fun s => s.phase ≠ .retired) = [last] := by
  refine Keyed.filter_values_eq_singleton hlast fun index found hfind => ?_
  rw [decide_eq_true_eq, ne_eq, h.retired index found hfind, not_not]

end

-- What a look did and what it came to.
structure Look where
  deeds : List (Deed Note Int64)
  result : Except Error (Option Rollover)

def Look.event (l : Look) : Option Rollover :=
  match l.result with
  | .ok event => event
  | .error _ => none

def Look.failed (l : Look) : Bool :=
  match l.result with
  | .ok _ => false
  | .error _ => true

-- One look after another, the last one at the end.
structure Watch where
  store : Store
  shown : Int64
  record : Record
  looks : List Look

namespace Watch

def begin (config : Config) (store : Store) (shown : Int64) : Watch :=
  ⟨store, shown, .initial config.aliasName, []⟩

-- A whole cycle, in which `moments` come before the answers.
def look (config : Config) (w : Watch) (moments : List Moment) : Watch :=
  let s : Shared := ⟨w.store, w.shown, moments⟩
  let deeds := (cycle config).deeds Shared.peer s
  let (result, s') := (cycle config).conclude Shared.peer s
  ⟨s'.store, s'.shown, (Deed.notes deeds).foldl Record.add w.record, w.looks ++ [⟨deeds, result⟩]⟩

def after (config : Config) (store : Store) (shown : Int64) (cycles : List (List Moment)) :
    Watch :=
  cycles.foldl (look config) (begin config store shown)

def rollovers (w : Watch) : List Rollover := w.looks.filterMap Look.event

def failures (w : Watch) : Nat := w.looks.countP Look.failed

def Retired (w : Watch) (index : String) : Prop :=
  ∃ state, w.record.states.find? index = some state ∧ state.phase = .retired

variable {w : Watch}

theorem look_eq {moments : List Moment} {deeds : List (Deed Note Int64)}
    {result : Except Error (Option Rollover)} {s' : Shared}
    (h : Store.Routine.Does Shared.peer ⟨w.store, w.shown, moments⟩ (cycle config) deeds result
      s') :
    w.look config moments = ⟨s'.store, s'.shown, (Deed.notes deeds).foldl Record.add w.record,
      w.looks ++ [⟨deeds, result⟩]⟩ := by
  unfold look
  dsimp only
  rw [h.deeds, h.conclude]

-- What holds after any number of looks.
structure Tracked (config : Config) (first : String) (w : Watch) : Prop where
  sound : w.store.AliasesSound
  writer : w.store.writeIndex? config.aliasName =
    some (heir config.aliasName first w.rollovers.length)
  lineage : Lineage config.aliasName first w.record.states w.rollovers.length
  stats : w.record.stats = ⟨w.looks.length, w.rollovers.length, w.failures⟩
  settled : w.rollovers.length + w.failures ≤ w.looks.length
  chain : w.rollovers.map Rollover.old ++ [heir config.aliasName first w.rollovers.length] =
    first :: w.rollovers.map Rollover.new
  latest : ∀ l, w.looks.getLast? = some l → ∃ state,
    w.record.states.find? (heir config.aliasName first w.rollovers.length) = some state ∧
    (state.phase = .eligible ↔ l.failed = true ∧ Breached config l.deeds)

theorem tracked_begin {store : Store} (hs : store.AliasesSound)
    (hfirst : store.writeIndex? config.aliasName = some first) (shown : Int64) :
    Tracked config first (begin config store shown) where
  sound := hs
  writer := hfirst
  lineage := lineage_empty
  stats := rfl
  settled := le_rfl
  chain := rfl
  latest _ h := by cases h

section

variable {w' : Watch} {l : Look} {state : IndexState}

theorem rollovers_of_looks (h : w'.looks = w.looks ++ [l]) :
    w'.rollovers = w.rollovers ++ l.event.toList := by
  rw [rollovers, h, List.filterMap_append, rollovers]
  cases hevent : l.event with
  | none => rw [List.filterMap_cons_none hevent]; rfl
  | some event => rw [List.filterMap_cons_some hevent]; rfl

theorem failures_of_looks (h : w'.looks = w.looks ++ [l]) :
    w'.failures = w.failures + if l.failed then 1 else 0 := by
  rw [failures, h, List.countP_append, List.countP_singleton, failures]

-- A look that leaves the writes where they are.
theorem Tracked.stay (h : Tracked config first w) (hlooks : w'.looks = w.looks ++ [l])
    (hevent : l.event = none) (hsound : w'.store.AliasesSound)
    (hwriter : w'.store.writeIndex? config.aliasName =
      some (heir config.aliasName first w.rollovers.length))
    (hindex : state.index = heir config.aliasName first w.rollovers.length)
    (hstates : w'.record.states = w.record.states.insert state.index state)
    (hphase : state.phase ≠ .retired)
    (hlatest : state.phase = .eligible ↔ l.failed = true ∧ Breached config l.deeds)
    (hstats : w'.record.stats = ⟨w.record.stats.cycles + 1, w.record.stats.rollovers,
      w.record.stats.failures + if l.failed then 1 else 0⟩) :
    Tracked config first w' := by
  have hrollovers : w'.rollovers = w.rollovers := by
    rw [rollovers_of_looks hlooks, hevent]
    exact List.append_nil _
  have hlength : w'.looks.length = w.looks.length + 1 := by rw [hlooks, List.length_append]; rfl
  have hsettled := h.settled
  have hfailures := failures_of_looks hlooks
  rw [hindex] at hstates
  refine ⟨hsound, hrollovers ▸ hwriter, ?_, ?_, ?_, hrollovers ▸ h.chain, fun last hlast => ?_⟩
  · rw [hrollovers, hstates]
    exact h.lineage.observe hindex hphase
  · rw [hstats, h.stats, hlength, hrollovers, hfailures]
  · rw [hrollovers, hfailures, hlength]
    split <;> omega
  · rw [hlooks, List.getLast?_concat] at hlast
    cases hlast
    rw [hrollovers, hstates]
    exact ⟨state, Keyed.find?_insert_self _ _ _, hlatest⟩

-- A look that moves them on.
theorem Tracked.move (h : Tracked config first w) {event : Rollover} {observed : IndexState}
    (hlooks : w'.looks = w.looks ++ [l]) (hevent : l.event = some event)
    (hfailed : l.failed = false)
    (hold : event.old = heir config.aliasName first w.rollovers.length)
    (hnew : event.new = nextGeneration config.aliasName event.old)
    (hsound : w'.store.AliasesSound)
    (hwriter : w'.store.writeIndex? config.aliasName = some event.new)
    (hobserved : observed.index = event.old) (hindex : state.index = event.new)
    (hstates : w'.record.states =
      ((w.record.states.insert observed.index observed).modify event.old
        fun s => { s with phase := .retired }).insert event.new state)
    (hlive : observed.phase ≠ .retired) (hphase : state.phase = .active)
    (hstats : w'.record.stats = ⟨w.record.stats.cycles + 1, w.record.stats.rollovers + 1,
      w.record.stats.failures⟩) :
    Tracked config first w' := by
  have hrollovers : w'.rollovers = w.rollovers ++ [event] := by
    rw [rollovers_of_looks hlooks, hevent]
    rfl
  have hlength : w'.looks.length = w.looks.length + 1 := by rw [hlooks, List.length_append]; rfl
  have hone : w'.rollovers.length = w.rollovers.length + 1 := by
    rw [hrollovers, List.length_append]
    rfl
  have hfailures : w'.failures = w.failures := by rw [failures_of_looks hlooks, hfailed]; rfl
  have hsettled := h.settled
  have hheir : event.new = heir config.aliasName first (w.rollovers.length + 1) := by
    rw [hnew, hold, heir_succ]
  rw [hobserved, hold, hheir] at hstates
  rw [hold] at hobserved
  rw [hheir] at hindex hwriter
  have hseen := h.lineage.observe hobserved hlive
  refine ⟨hsound, hone ▸ hwriter, ?_, ?_, ?_, ?_, fun last hlast => ?_⟩
  · rw [hone, hstates]
    exact hseen.succeed (Keyed.find?_insert_self _ _ _) hindex (by rw [hphase]; decide)
  · rw [hstats, h.stats, hlength, hone, hfailures]
  · rw [hone, hfailures, hlength]
    omega
  · rw [hone, hrollovers, List.map_append, List.map_append, List.map_singleton,
      List.map_singleton, hold, h.chain, ← hheir]
    rfl
  · rw [hlooks, List.getLast?_concat] at hlast
    cases hlast
    rw [hone, hstates]
    refine ⟨state, Keyed.find?_insert_self _ _ _, ?_⟩
    rw [hphase, hfailed]
    exact iff_of_false (by decide) fun hboth => Bool.false_ne_true hboth.1

end

theorem Tracked.look (hlimits : config.daily = false) (h : Tracked config first w)
    {moments : List Moment}
    (hspared : ∀ m ∈ moments, ∀ e ∈ m.others, e.Spares config.aliasName) :
    Tracked config first (w.look config moments) := by
  have hminds : Shared.Minds config.aliasName (heir config.aliasName first w.rollovers.length)
      ⟨w.store, w.shown, moments⟩ := ⟨h.sound, h.writer, hspared⟩
  obtain ⟨deeds, notes, result, s', hdoes, hnotes, hlooked⟩ := does_cycle hlimits hminds
  rw [look_eq hdoes, hnotes]
  cases hlooked with
  | @within _ _ state hindex hphase hwithin hminds =>
    refine h.stay (l := ⟨deeds, .ok none⟩) rfl rfl hminds.sound hminds.writer hindex rfl ?_ ?_ rfl
    · rw [hphase]
      decide
    · rw [hphase]
      exact iff_of_false (by decide) fun hboth => hwithin hboth.2
  | @breached _ _ state _ _ _ hindex hphase hbreached hrolled =>
    cases hrolled with
    | failed e hminds =>
      refine h.stay (l := ⟨deeds, .error e⟩) rfl rfl hminds.sound hminds.writer hindex rfl ?_ ?_
        rfl
      · rw [hphase]
        decide
      · exact iff_of_true hphase ⟨rfl, hbreached⟩
    | done created hminds =>
      refine h.move (l := ⟨deeds, .ok _⟩) rfl rfl rfl rfl rfl hminds.sound hminds.writer hindex
        rfl rfl ?_ rfl rfl
      rw [hphase]
      decide

-- By induction on the cycles, each of which goes on from the looks before it.
theorem tracked_after (hlimits : config.daily = false) {store : Store}
    (hs : store.AliasesSound) (hfirst : store.writeIndex? config.aliasName = some first)
    (shown : Int64) {cycles : List (List Moment)}
    (hspared : ∀ moments ∈ cycles, ∀ m ∈ moments, ∀ e ∈ m.others, e.Spares config.aliasName) :
    Tracked config first (after config store shown cycles) :=
  List.foldlRecOn cycles (look config) (tracked_begin hs hfirst shown)
    fun _ h moments hmoments => h.look hlimits (hspared moments hmoments)

theorem looks_foldl (cycles : List (List Moment)) (w : Watch) :
    ∃ more, (cycles.foldl (look config) w).looks = w.looks ++ more ∧
      more.length = cycles.length := by
  induction cycles generalizing w with
  | nil => exact ⟨[], (List.append_nil _).symm, rfl⟩
  | cons moments rest ih =>
    obtain ⟨more, hlooks, hlength⟩ := ih (w.look config moments)
    have hone : ∃ l, (w.look config moments).looks = w.looks ++ [l] := ⟨_, rfl⟩
    obtain ⟨l, hl⟩ := hone
    refine ⟨l :: more, ?_, congrArg Nat.succ hlength⟩
    rw [List.foldl_cons, hlooks, hl, List.append_assoc, List.singleton_append]

theorem length_looks_after (store : Store) (shown : Int64) (cycles : List (List Moment)) :
    (after config store shown cycles).looks.length = cycles.length := by
  obtain ⟨more, hlooks, hlength⟩ := looks_foldl cycles (begin config store shown)
  rw [after, hlooks]
  exact hlength

-- Rollovers are not forgotten.
theorem length_rollovers_le (store : Store) (shown : Int64) (cycles more : List (List Moment)) :
    (after config store shown cycles).rollovers.length ≤
      (after config store shown (cycles ++ more)).rollovers.length := by
  obtain ⟨later, hlooks, -⟩ := looks_foldl more (after config store shown cycles)
  have hsplit : after config store shown (cycles ++ more) =
      more.foldl (look config) (after config store shown cycles) := List.foldl_append
  rw [rollovers, rollovers, hsplit, hlooks, List.filterMap_append, List.length_append]
  exact Nat.le_add_right _ _

theorem Tracked.retired_iff (h : Tracked config first w) (index : String) :
    w.Retired index ↔ w.record.states.contains index = true ∧
      index ≠ heir config.aliasName first w.rollovers.length := by
  rw [Keyed.contains_iff]
  constructor
  · rintro ⟨state, hfind, hphase⟩
    exact ⟨⟨state, hfind⟩, (h.lineage.retired index state hfind).mp hphase⟩
  · rintro ⟨⟨state, hfind⟩, hne⟩
    exact ⟨state, hfind, (h.lineage.retired index state hfind).mpr hne⟩

-- Before each answer of each cycle the others may have asked for anything, as long as they left the
-- alias alone, any failures may have been injected, and the clock may have been set back. A retired
-- index could come into use again only after the numbers of generations have run over.
theorem phases_follow_alias (config : Config) (hlimits : config.daily = false)
    (events : List Store.Event) (first : String)
    (hfirst : (Store.after events).writeIndex? config.aliasName = some first) (shown : Int64)
    (cycles : List (List Moment))
    (hspared : ∀ moments ∈ cycles, ∀ m ∈ moments, ∀ e ∈ m.others, e.Spares config.aliasName) :
    let w := after config (Store.after events) shown cycles
    -- one index is not retired, and it takes the writes
    (cycles ≠ [] → ∃ last state, w.looks.getLast? = some last ∧
      w.store.writeIndex? config.aliasName = some state.index ∧
      w.record.states.values.filter (fun s => s.phase ≠ .retired) = [state] ∧
      (state.phase = .eligible ↔ last.failed = true ∧ Breached config last.deeds)) ∧
    -- what took the writes once does so still or is retired, and what is retired stays so
    (∀ before later, cycles = before ++ later →
      let v := after config (Store.after events) shown before
      (∀ index, v.store.writeIndex? config.aliasName = some index →
        w.store.writeIndex? config.aliasName = some index ∨ w.Retired index) ∧
      (w.rollovers.length < UInt64.size → ∀ index, v.Retired index → w.Retired index)) ∧
    -- every cycle is counted
    w.record.stats = ⟨cycles.length, w.rollovers.length, w.failures⟩ ∧
    w.rollovers.length + w.failures ≤ cycles.length ∧
    -- each rollover begins where the one before ended
    ∃ current, w.store.writeIndex? config.aliasName = some current ∧
      w.rollovers.map Rollover.old ++ [current] = first :: w.rollovers.map Rollover.new := by
  intro w
  have hs := Store.after_sound events
  have htracked : Tracked config first w := tracked_after hlimits hs hfirst shown hspared
  have hlength : w.looks.length = cycles.length := length_looks_after _ _ _
  refine ⟨fun hsome => ?_, fun before later hsplit => ?_, ?_, ?_, _, htracked.writer,
    htracked.chain⟩
  · have hlooks : w.looks ≠ [] := by
      intro hnone
      rw [hnone] at hlength
      exact hsome (List.length_eq_zero_iff.mp hlength.symm)
    obtain ⟨state, hfind, hphase⟩ :=
      htracked.latest _ (List.getLast?_eq_some_getLast hlooks)
    refine ⟨_, state, List.getLast?_eq_some_getLast hlooks, ?_,
      htracked.lineage.filter_values hfind, hphase⟩
    rw [htracked.lineage.named _ _ hfind]
    exact htracked.writer
  · intro v
    have hearlier : Tracked config first v := tracked_after hlimits hs hfirst shown
      fun moments hmoments => hspared moments (hsplit ▸ List.mem_append_left later hmoments)
    have hle : v.rollovers.length ≤ w.rollovers.length := by
      change _ ≤ (after config (Store.after events) shown cycles).rollovers.length
      rw [hsplit]
      exact length_rollovers_le _ _ _ _
    constructor
    · intro index hindex
      rw [hearlier.writer] at hindex
      cases hindex
      by_cases hsame : heir config.aliasName first v.rollovers.length =
          heir config.aliasName first w.rollovers.length
      · exact .inl (hsame ▸ htracked.writer)
      · have hlt : v.rollovers.length < w.rollovers.length :=
          lt_of_le_of_ne hle fun he => hsame (he ▸ rfl)
        exact .inr ((htracked.retired_iff _).mpr ⟨htracked.lineage.known _ hlt, hsame⟩)
    · intro hcount index hretired
      obtain ⟨hcontains, hne⟩ := (hearlier.retired_iff index).mp hretired
      obtain ⟨k, hk, rfl⟩ := hearlier.lineage.heirs index hcontains
      have hlt : k < w.rollovers.length :=
        lt_of_lt_of_le (lt_of_le_of_ne hk fun he => hne (he ▸ rfl)) hle
      refine (htracked.retired_iff _).mpr ⟨htracked.lineage.known k hlt, fun hsame => ?_⟩
      exact hlt.ne (heir_inj (hlt.trans hcount) hcount hsame)
  · rw [← hlength]
    exact htracked.stats
  · rw [← hlength]
    exact htracked.settled

private def limited : Config :=
  { (default : Config) with
    aliasName := "m", policy := { (default : Policy) with maxDocs := some 1 } }

private def made : List Store.Event := [.ask 0 (.createIndex "m-000001" none (some "m"))]

-- A look at an index within its limits, one that is full but cannot be left while the clock goes
-- back, and one that leaves it.
private def jam : List (List Moment) :=
  [[], [⟨[.ask 7 (.bulk "m" [⟨∅, 5, .zero false⟩]),
    .inject { Store.Faults.none with aliasUpdates := 1 }], 7, -7⟩], []]

theorem left_after_a_failure :
    (∃ last state, (after limited (Store.after made) 0 (jam.take 2)).looks.getLast? = some last ∧
      (after limited (Store.after made) 0 (jam.take 2)).store.writeIndex? "m" = some state.index ∧
      (after limited (Store.after made) 0 (jam.take 2)).record.states.values.filter
        (fun s => s.phase ≠ .retired) = [state] ∧ state.phase = .eligible ∧
      Breached limited last.deeds) ∧
    (after limited (Store.after made) 0 jam).record.stats = ⟨3, 1, 1⟩ ∧
    (after limited (Store.after made) 0 jam).store.writeIndex? "m" = some "m-000002" ∧
    (after limited (Store.after made) 0 jam).Retired "m-000001" := by
  have hspared : ∀ moments ∈ jam, ∀ m ∈ moments, ∀ e ∈ m.others, e.Spares "m" := by
    intro moments hmoments m hm e he
    simp only [jam, List.mem_cons, List.not_mem_nil, or_false] at hmoments
    rcases hmoments with rfl | rfl | rfl
    · cases hm
    · cases List.mem_singleton.mp hm
      simp only [List.mem_cons, List.not_mem_nil, or_false] at he
      rcases he with rfl | rfl <;> trivial
    · cases hm
  have hfirst : (Store.after made).writeIndex? "m" = some "m-000001" := by decide +kernel
  have hthen := phases_follow_alias limited rfl made "m-000001" hfirst 0 (jam.take 2)
    fun moments hmoments => hspared moments (List.mem_of_mem_take hmoments)
  have hend := phases_follow_alias limited rfl made "m-000001" hfirst 0 jam hspared
  obtain ⟨last, state, hlast, hwriter, hone, hphase⟩ := hthen.1 (by decide)
  have hphases : ((after limited (Store.after made) 0 (jam.take 2)).record.states.values.filter
      (fun s => s.phase ≠ .retired)).map IndexState.phase = [.eligible] := by
    decide +kernel
  rw [hone] at hphases
  have heligible : state.phase = .eligible := List.singleton_inj.mp hphases
  have hstats : (after limited (Store.after made) 0 jam).record.stats = ⟨3, 1, 1⟩ := by
    decide +kernel
  have hmoved : (after limited (Store.after made) 0 jam).store.writeIndex? "m" =
      some "m-000002" := by decide +kernel
  have hthere : (after limited (Store.after made) 0 (jam.take 2)).store.writeIndex? "m" =
      some "m-000001" := by decide +kernel
  refine ⟨⟨last, state, hlast, hwriter, hone, heligible, (hphase.mp heligible).2⟩, hstats, hmoved,
    ?_⟩
  refine ((hend.2.1 (jam.take 2) (jam.drop 2) rfl).1 _ hthere).resolve_left fun hstill => ?_
  exact absurd (hmoved.symm.trans hstill) (by decide)

-- At a link that nothing delays a cycle runs to its end at once, and does what a look does while
-- nobody else uses the store.
theorem run_cycle (hlimits : config.daily = false) {link : Store.Link}
    (hcalm : link.rehearsals = ∅) (record : Record) (looks : List Look) :
    let w := look config ⟨link.store, link.wallTime, record, looks⟩ []
    ∃ deeds result link', w.looks = looks ++ [⟨deeds, result⟩] ∧
      (cycle config).run Record.add link record = (.finished result, link', w.record) ∧
      link'.store = w.store ∧ link'.wallTime = w.shown ∧ link'.rehearsals = ∅ := by
  intro w
  obtain ⟨link', hrun, halone, hstill⟩ := (cycle_prompt hlimits).run Record.add record hcalm
  exact ⟨_, _, link', rfl, hrun, congrArg Shared.store halone, congrArg Shared.shown halone, hstill⟩

end Watch

end MetricRelay.Lifecycle

import MetricRelay.Proofs.Lifecycle.Effects

-- An alias that is only rolled over by limits. Whoever replaces an index may have read the alias
-- long ago: if it has moved on since, the store refuses the update for want of exactly one writer,
-- or finds that it says nothing new.

namespace MetricRelay.Lifecycle

open Store (AliasAction Request Routine Members SoleWriter)

variable {aliasName : String} {s : Store}

-- How the writes are moved from one index to another.
def handOver (aliasName current next : String) : List AliasAction :=
  [.add next aliasName true, .add current aliasName false]

-- The requests of a start that matter here are about the first generation.
def Begins (aliasName : String) : Request → Prop
  | .createIndex index _ _ => index = Index.generationName aliasName 1
  | .updateAliases actions => actions = [.add (Index.generationName aliasName 1) aliasName true]
  | _ => True

-- Those of a cycle are about some index and its successor.
def Switches (aliasName : String) : Request → Prop
  | .createIndex _ _ writeAlias => writeAlias = none
  | .updateAliases actions =>
    ∃ current, actions = handOver aliasName current (nextGeneration aliasName current)
  | _ => True

theorem provision_asks {ε : Type} (config : Config) (hdaily : config.daily = false) :
    (provision config : Routine ε _).Asks (Begins config.aliasName) := by
  have hfirst : ∀ now, firstIndex config now = Index.generationName config.aliasName 1 := by
    intro now
    simp [firstIndex, hdaily]
  refine Routine.Asks.bind ?_ fun installed => ?_
  · exact Routine.Asks.bind (Routine.asks_askWithin trivial) fun _ => trivial
  · split
    · trivial
    · refine Routine.Asks.bind (Routine.asks_askWithin trivial) fun current => ?_
      split
      · trivial
      · trivial
      · refine Routine.Asks.bind (fun _ => trivial) fun now => ?_
        refine Routine.Asks.bind (Routine.asks_askWithin (hfirst now)) fun created => ?_
        split
        · trivial
        · trivial
        · refine Routine.Asks.bind (Routine.asks_askWithin ?_) fun _ => trivial
          change [_] = [_]
          rw [hfirst]

theorem switchWriteIndex_asks {ε : Type} (config : Config) (current : String) :
    (switchWriteIndex config current (nextGeneration config.aliasName current) :
      Routine ε _).Asks (Switches config.aliasName) := by
  refine Routine.Asks.bind (Routine.asks_askWithin rfl) fun created => ?_
  split
  · trivial
  · exact Routine.Asks.bind (Routine.asks_askWithin ⟨current, rfl⟩) fun _ => trivial

theorem rollOver_asks (config : Config) (current : String) (trigger : Trigger) :
    (rollOver config current trigger).Asks (Switches config.aliasName) := by
  refine Routine.Asks.bind (switchWriteIndex_asks config current) fun switched => ?_
  split
  · trivial
  · exact Routine.Asks.bind (fun _ => trivial) fun now => Routine.Asks.bind trivial fun _ => trivial

theorem evaluateLimits_asks (config : Config) :
    (evaluateLimits config).Asks (Switches config.aliasName) := by
  refine Routine.Asks.bind ?_ fun found => ?_
  · exact Routine.Asks.bind (Routine.asks_askWithin trivial) fun _ => trivial
  · split
    · trivial
    · refine Routine.Asks.bind (Routine.asks_askWithin trivial) fun answered => ?_
      split
      · trivial
      · refine Routine.Asks.bind (fun _ => trivial) fun now => ?_
        dsimp only
        split
        · exact Routine.Asks.bind trivial fun _ => trivial
        · exact Routine.Asks.bind trivial fun _ => rollOver_asks config _ _

theorem cycle_asks (config : Config) (hdaily : config.daily = false) :
    (cycle config).Asks (Switches config.aliasName) := by
  refine Routine.Asks.bind trivial fun _ => ?_
  rw [hdaily]
  refine Routine.Asks.bind (evaluateLimits_asks config) fun result => ?_
  dsimp only
  split
  · trivial
  · exact Routine.Asks.bind trivial fun _ => trivial

-- The generations up to `g`, of which the last takes the writes.
def UpTo (aliasName : String) (g : Nat) (members : Members) : Prop :=
  ∀ index flag, members.find? index = some flag ↔
    ∃ k, 0 < k ∧ k ≤ g ∧ index = Index.generationName aliasName k ∧ flag = decide (k = g)

section

variable {members : Members} {g : Nat}

theorem upTo_empty (aliasName : String) : UpTo aliasName 0 ∅ := by
  intro index flag
  rw [Keyed.find?_empty]
  constructor
  · intro h
    cases h
  · rintro ⟨k, hpos, hle, _⟩
    omega

theorem UpTo.contains_iff (h : UpTo aliasName g members) (index : String) :
    members.contains index = true ↔
      ∃ k, 0 < k ∧ k ≤ g ∧ index = Index.generationName aliasName k := by
  rw [Keyed.contains_iff]
  constructor
  · rintro ⟨flag, hf⟩
    obtain ⟨k, hpos, hle, hi, _⟩ := (h index flag).mp hf
    exact ⟨k, hpos, hle, hi⟩
  · rintro ⟨k, hpos, hle, hi⟩
    exact ⟨decide (k = g), (h index _).mpr ⟨k, hpos, hle, hi, rfl⟩⟩

theorem UpTo.writer (h : UpTo aliasName g members) (hg : 0 < g) :
    SoleWriter members (Index.generationName aliasName g) := by
  intro other
  rw [h other true]
  constructor
  · rintro ⟨k, _, _, hi, hflag⟩
    have hk : k = g := of_decide_eq_true hflag.symm
    rw [hi, hk]
  · intro hi
    exact ⟨g, hg, le_rfl, hi, by simp⟩

theorem nextGeneration_generationName {k : Nat} (hk : k + 1 < UInt64.size) :
    nextGeneration aliasName (Index.generationName aliasName k) =
      Index.generationName aliasName (k + 1) := by
  unfold nextGeneration
  rw [Index.generation?_generationName_eq, if_pos (Nat.lt_of_succ_lt hk), Option.getD_some,
    Nat.mod_eq_of_lt hk]

-- Attaching the first generation is only of use to an alias without any.
theorem UpTo.attach {writer : String} (h : UpTo aliasName g members)
    (hw : SoleWriter (members.insert (Index.generationName aliasName 1) true) writer) :
    members.insert (Index.generationName aliasName 1) true = members ∨
      g = 0 ∧ UpTo aliasName 1 (members.insert (Index.generationName aliasName 1) true) := by
  by_cases hg : g = 0
  · right
    subst hg
    have hempty : members = ∅ := by
      refine Keyed.ext_find? fun index => ?_
      cases hf : members.find? index with
      | none => rfl
      | some flag =>
        obtain ⟨k, hpos, hle, _⟩ := (h index flag).mp hf
        omega
    refine ⟨rfl, fun index flag => ?_⟩
    rw [hempty, Keyed.find?_insert, Keyed.find?_empty]
    constructor
    · intro hf
      split at hf
      · rename_i hi
        cases hf
        exact ⟨1, by omega, le_rfl, hi, rfl⟩
      · cases hf
    · rintro ⟨k, hpos, hle, hi, hflag⟩
      have hk : k = 1 := by omega
      subst hk
      rw [if_pos hi, hflag]
      rfl
  · left
    have hsole := h.writer (by omega)
    have hfirst : writer = Index.generationName aliasName 1 :=
      ((hw _).mp (Keyed.find?_insert_self _ _ _)).symm
    have hsame := writer_insert_true hsole hw
    refine Keyed.insert_eq_self ((hsole _).mpr ?_)
    rw [← hfirst, hsame]

-- A hand-over that is late says nothing new; one in time goes to the next generation.
theorem UpTo.handOver {k : Nat} {writer : String} (h : UpTo aliasName g members)
    (hpos : 0 < k) (hle : k ≤ g)
    (hw : SoleWriter ((members.insert (Index.generationName aliasName (k + 1)) true).insert
      (Index.generationName aliasName k) false) writer) :
    (members.insert (Index.generationName aliasName (k + 1)) true).insert
        (Index.generationName aliasName k) false = members ∨
      k = g ∧ UpTo aliasName (g + 1)
        ((members.insert (Index.generationName aliasName (k + 1)) true).insert
          (Index.generationName aliasName k) false) := by
  have hfind : ∀ index, ((members.insert (Index.generationName aliasName (k + 1)) true).insert
      (Index.generationName aliasName k) false).find? index =
        if index = Index.generationName aliasName k then some false
        else if index = Index.generationName aliasName (k + 1) then some true
        else members.find? index := by
    intro index
    rw [Keyed.find?_insert, Keyed.find?_insert]
  have hsole := h.writer (by omega)
  by_cases hk : k = g
  · right
    subst hk
    refine ⟨rfl, fun index flag => ?_⟩
    rw [hfind]
    constructor
    · intro hf
      split at hf
      · rename_i hi
        cases hf
        exact ⟨k, hpos, by omega, hi, by simp⟩
      · split at hf
        · rename_i hi
          cases hf
          exact ⟨k + 1, by omega, le_rfl, hi, by simp⟩
        · rename_i hne _
          obtain ⟨j, hj, hjk, hi, hflag⟩ := (h index flag).mp hf
          have hjne : j ≠ k := fun he => hne (he ▸ hi)
          refine ⟨j, hj, by omega, hi, ?_⟩
          rw [hflag, decide_eq_false hjne, decide_eq_false (by omega)]
    · rintro ⟨j, hj, hjk, hi, hflag⟩
      simp only [hi, Index.generationName_inj]
      by_cases hlast : j = k + 1
      · rw [if_neg (by omega), if_pos hlast, hflag, decide_eq_true hlast]
      · rw [decide_eq_false hlast] at hflag
        by_cases hcurrent : j = k
        · rw [if_pos hcurrent, hflag]
        · rw [if_neg hcurrent, if_neg hlast, hflag, h]
          exact ⟨j, hj, by omega, rfl, (decide_eq_false hcurrent).symm⟩
  · left
    -- the writer is still the last generation, so the one made a writer must be that
    have hwriter : writer = Index.generationName aliasName g := by
      rcases writer_handOver hsole hw with hsame | ⟨hcurrent, _⟩
      · exact hsame
      · exact absurd (Index.generationName_inj.mp hcurrent).symm hk
    have hnext : k + 1 = g := by
      have hflag := (hw (Index.generationName aliasName (k + 1))).mp (by
        rw [hfind, if_neg, if_pos rfl]
        rw [Index.generationName_inj]
        omega)
      rw [hwriter] at hflag
      exact Index.generationName_inj.mp hflag
    subst hnext
    rw [Keyed.insert_eq_self ((hsole _).mpr rfl)]
    refine Keyed.insert_eq_self ((h _ _).mpr ⟨k, hpos, hle, rfl, ?_⟩)
    exact (decide_eq_false (by omega)).symm

end

-- What was said of the members, said of the alias in a store.

def MembersUpTo (s : Store) (aliasName : String) (g : Nat) : Prop :=
  UpTo aliasName g ((s.aliases.find? aliasName).getD ∅)

-- The alias moves up one generation, and no other alias changes.
structure MovesUp (aliasName : String) (g : Nat) (s t : Store) : Prop where
  members : MembersUpTo t aliasName (g + 1)
  others : ∀ other, other ≠ aliasName → t.aliases.find? other = s.aliases.find? other

section

variable {t : Store} {g : Nat} {r : Request}

theorem isMember_iff (h : MembersUpTo s aliasName g) (index : String) :
    IsMember s aliasName index ↔
      ∃ k, 0 < k ∧ k ≤ g ∧ index = Index.generationName aliasName k := by
  rw [← UpTo.contains_iff h]
  unfold IsMember
  cases s.aliases.find? aliasName with
  | none => simp [Keyed.contains]
  | some members => simp

theorem writeIndex?_eq (hs : s.AliasesSound) (h : MembersUpTo s aliasName g) :
    s.writeIndex? aliasName = if g = 0 then none else some (Index.generationName aliasName g) := by
  cases hf : s.aliases.find? aliasName with
  | none =>
    have hg : g = 0 := by
      by_contra hne
      obtain ⟨members, hm, _⟩ :=
        (isMember_iff h _).mpr ⟨g, Nat.pos_of_ne_zero hne, le_rfl, rfl⟩
      rw [hf] at hm
      cases hm
    rw [if_pos hg, (Store.writeIndex?_eq_none_iff hs aliasName).mpr hf]
  | some members =>
    obtain ⟨writer, hw⟩ := (hs aliasName members hf).writer
    obtain ⟨k, hpos, hle, _⟩ := (isMember_iff h writer).mp ⟨members, hf, hw.contains⟩
    have hsole : UpTo aliasName g members := by
      unfold MembersUpTo at h
      rwa [hf] at h
    rw [if_neg (by omega), Store.writeIndex?_eq_some_iff hs]
    exact ⟨members, hf, hsole.writer (by omega)⟩

theorem aliases_eq_of_find? (hsame : t.aliases.find? aliasName = s.aliases.find? aliasName)
    (hothers : ∀ other, other ≠ aliasName → t.aliases.find? other = s.aliases.find? other) :
    t.aliases = s.aliases := by
  refine Keyed.ext_find? fun other => ?_
  by_cases ho : other = aliasName
  · rw [ho, hsame]
  · exact hothers other ho

theorem aliases_eq_or_movesUp {members : Members} {timely : Prop} (ht : t.AliasesSound)
    (hothers : ∀ other, other ≠ aliasName → t.aliases.find? other = s.aliases.find? other)
    (hm : t.aliases.find? aliasName = some members)
    (h : members = (s.aliases.find? aliasName).getD ∅ ∨
      timely ∧ UpTo aliasName (g + 1) members) :
    t.aliases = s.aliases ∨ timely ∧ MovesUp aliasName g s t := by
  rcases h with hsame | ⟨htimely, hup⟩
  · left
    refine aliases_eq_of_find? ?_ hothers
    rw [hm, hsame]
    cases hf : s.aliases.find? aliasName with
    | some before => rfl
    | none =>
      -- an alias that is there has a writer, so it was there before
      obtain ⟨writer, hw⟩ := (ht aliasName members hm).writer
      have hnone := (hw writer).mpr rfl
      rw [hsame, hf, Option.getD_none, Keyed.find?_empty] at hnone
      cases hnone
  · right
    refine ⟨htimely, ?_, hothers⟩
    unfold MembersUpTo
    rwa [hm]

theorem aliases_putTemplate (s : Store) (template : Index.Template) :
    (s.putTemplate template).2.aliases = s.aliases := by
  unfold Store.putTemplate
  split <;> rfl

theorem orderly_other (h : Orderly aliasName s r) (now : Int64) {other : String}
    (ho : other ≠ aliasName) :
    (s.answer now r).2.aliases.find? other = s.aliases.find? other := by
  cases h with
  | putTemplate t => exact congrArg (·.find? other) (aliases_putTemplate s t)
  | writeIndex => rfl
  | indexStats index => rfl
  | @begin index settings h =>
    change (s.createIndex now index _ _).2.aliases.find? other = _
    rcases aliases_createIndex s now index (some settings) (some aliasName) with
      hsame | ⟨_, hother, hnew⟩
    · rw [hsame]
    · cases hother
      rw [hnew, Store.attach, Keyed.find?_insert_of_ne _ _ ho]
  | @make current next settings h =>
    change (s.createIndex now next _ _).2.aliases.find? other = _
    rcases aliases_createIndex s now next (some settings) none with hsame | ⟨_, hother, _⟩
    · rw [hsame]
    · cases hother
  | attach h =>
    refine Store.updateAliases_other s ?_
    simpa [AliasAction.aliasName] using ho
  | replace hm h =>
    refine Store.updateAliases_other s ?_
    simpa [AliasAction.aliasName] using ho

-- A start brings the first generation, and does nothing to an alias that has one.
theorem begins_climbs (hs : s.AliasesSound) (h : MembersUpTo s aliasName g)
    (ho : Orderly aliasName s r) (hb : Begins aliasName r) (now : Int64) :
    (s.answer now r).2.aliases = s.aliases ∨
      g = 0 ∧ MovesUp aliasName g s (s.answer now r).2 := by
  have ht := Store.answer_sound hs now r
  have hattach : (s.answer now r).2.aliases.find? aliasName =
      some (((s.aliases.find? aliasName).getD ∅).insert
        (Index.generationName aliasName 1) true) →
      (s.answer now r).2.aliases = s.aliases ∨
        g = 0 ∧ MovesUp aliasName g s (s.answer now r).2 := by
    intro hm
    obtain ⟨writer, hw⟩ := (ht aliasName _ hm).writer
    refine aliases_eq_or_movesUp ht (fun other => orderly_other ho now) hm ?_
    refine (UpTo.attach h hw).imp id ?_
    rintro ⟨rfl, hup⟩
    exact ⟨rfl, hup⟩
  cases ho with
  | putTemplate t => exact .inl (aliases_putTemplate s t)
  | writeIndex => exact .inl rfl
  | indexStats index => exact .inl rfl
  | @begin index settings hfirst =>
    have hindex : index = Index.generationName aliasName 1 := hb
    rcases aliases_createIndex s now index (some settings) (some aliasName) with
      hsame | ⟨_, hother, hnew⟩
    · exact .inl hsame
    · cases hother
      refine hattach ?_
      change (s.createIndex now index _ _).2.aliases.find? aliasName = _
      rw [hnew, Store.attach, Keyed.find?_insert_self, hindex]
  | @make current next settings hf =>
    rcases aliases_createIndex s now next (some settings) none with hsame | ⟨_, hother, _⟩
    · exact .inl hsame
    · cases hother
  | @attach index hfirst =>
    have hindex : index = Index.generationName aliasName 1 := by
      have hactions : [AliasAction.add index aliasName true] = [_] := hb
      simpa using hactions
    subst hindex
    rcases Store.updateAliases_adds s aliasName
        (List.cons_ne_nil (Index.generationName aliasName 1, true) []) with
      hsame | ⟨members, hm, hmembers, _⟩
    · exact .inl hsame
    · rw [hmembers] at hm
      exact hattach hm
  | @replace current next hm hf =>
    have hactions : [AliasAction.add next aliasName true, .add current aliasName false] = [_] := hb
    simp at hactions

-- A cycle moves the alias up only if it has not moved since the cycle looked at it.
theorem switches_climbs (hs : s.AliasesSound) (h : MembersUpTo s aliasName g)
    (hg : g < UInt64.size - 1) (ho : Orderly aliasName s r) (hsw : Switches aliasName r)
    (now : Int64) :
    (s.answer now r).2.aliases = s.aliases ∨
      (0 < g ∧ r = .updateAliases (handOver aliasName (Index.generationName aliasName g)
        (Index.generationName aliasName (g + 1)))) ∧
        MovesUp aliasName g s (s.answer now r).2 := by
  have ht := Store.answer_sound hs now r
  have hothers : ∀ other, other ≠ aliasName → (s.answer now r).2.aliases.find? other =
      s.aliases.find? other := fun other => orderly_other ho now
  cases ho with
  | putTemplate t => exact .inl (aliases_putTemplate s t)
  | writeIndex => exact .inl rfl
  | indexStats index => exact .inl rfl
  | begin settings hfirst => cases hsw
  | @make current next settings hf =>
    rcases aliases_createIndex s now next (some settings) none with hsame | ⟨_, hother, _⟩
    · exact .inl hsame
    · cases hother
  | attach hfirst =>
    obtain ⟨current, hactions⟩ := hsw
    simp [handOver] at hactions
  | @replace current next hm hf =>
    obtain ⟨other, hactions⟩ := hsw
    obtain ⟨k, hpos, hle, hcurrent⟩ := (isMember_iff h current).mp hm
    have hnext : next = Index.generationName aliasName (k + 1) := by
      simp only [handOver, List.cons.injEq, AliasAction.add.injEq] at hactions
      obtain ⟨⟨hnext, _⟩, ⟨hsame, _⟩, _⟩ := hactions
      rw [hnext, ← hsame, hcurrent, nextGeneration_generationName (by omega)]
    subst hcurrent hnext
    rcases Store.updateAliases_adds s aliasName
        (List.cons_ne_nil (Index.generationName aliasName (k + 1), true)
          [(Index.generationName aliasName k, false)]) with hsame | ⟨members, hfind, hmembers, _⟩
    · exact .inl hsame
    · obtain ⟨writer, hw⟩ := (ht aliasName members hfind).writer
      refine aliases_eq_or_movesUp ht hothers hfind ?_
      subst hmembers
      refine (UpTo.handOver h hpos hle hw).imp id ?_
      rintro ⟨rfl, hup⟩
      exact ⟨⟨hpos, rfl⟩, hup⟩

end

end MetricRelay.Lifecycle

import MetricRelay.Lifecycle.Cycle
import MetricRelay.Proofs.Index.Name
import MetricRelay.Proofs.Store.Steps

-- What provisioning and lifecycle cycles ask of a store, whatever else happens to it meanwhile. The
-- index a cycle means to replace may long have been replaced when its update arrives; all that is
-- certain is that it is a member of the alias.

namespace MetricRelay.Lifecycle

open Store (Request Routine)

def IsMember (s : Store) (aliasName index : String) : Prop :=
  ∃ members, s.aliases.find? aliasName = some members ∧ members.contains index = true

-- Members stay members.
def Later (aliasName : String) (s t : Store) : Prop :=
  ∀ index, IsMember s aliasName index → IsMember t aliasName index

theorem Later.refl (aliasName : String) (s : Store) : Later aliasName s s := fun _ h => h

theorem Later.trans {aliasName : String} {s t u : Store} (h : Later aliasName s t)
    (h' : Later aliasName t u) : Later aliasName s u := fun index hi => h' index (h index hi)

theorem isMember_of_writeIndex? {s : Store} {aliasName index : String}
    (h : s.writeIndex? aliasName = some index) : IsMember s aliasName index := by
  obtain ⟨members, hm, hw⟩ := Option.bind_eq_some_iff.mp h
  refine ⟨members, hm, ?_⟩
  obtain ⟨⟨other, flag⟩, ho, rfl⟩ := List.mem_map.mp (List.mem_of_mem_head? hw)
  exact Keyed.contains_of_find? ((Keyed.mem_toList_iff _ _ _).mp (List.mem_filter.mp ho).1)

-- The index with which an alias may begin.
def First (aliasName index : String) : Prop :=
  index = Index.generationName aliasName 1 ∨ ∃ day, index = Index.dailyName aliasName day

-- The index that may replace another one: the next generation, or a day that sorts after it.
def Follows (aliasName current next : String) : Prop :=
  next = nextGeneration aliasName current ∨
    (∃ day, next = Index.dailyName aliasName day) ∧ current < next

-- The requests that provisioning and cycles make. An index to be replaced is a member.
inductive Orderly (aliasName : String) (s : Store) : Request → Prop
  | putTemplate (t : Index.Template) : Orderly aliasName s (.putTemplate t)
  | writeIndex : Orderly aliasName s (.writeIndex aliasName)
  | indexStats (index : String) : Orderly aliasName s (.indexStats index)
  | begin {index : String} (settings : Index.Settings) (h : First aliasName index) :
      Orderly aliasName s (.createIndex index (some settings) (some aliasName))
  | attach {index : String} (h : First aliasName index) :
      Orderly aliasName s (.updateAliases [.add index aliasName true])
  | make {current next : String} (settings : Index.Settings) (h : Follows aliasName current next) :
      Orderly aliasName s (.createIndex next (some settings) none)
  | replace {current next : String} (hm : IsMember s aliasName current)
      (h : Follows aliasName current next) :
      Orderly aliasName s
        (.updateAliases [.add next aliasName true, .add current aliasName false])

theorem First.ne_aliasName {aliasName index : String} (h : First aliasName index) :
    index ≠ aliasName := by
  rcases h with rfl | ⟨day, rfl⟩
  · exact Index.generationName_ne aliasName 1
  · exact Index.dailyName_ne aliasName day

theorem Follows.ne_aliasName {aliasName current next : String}
    (h : Follows aliasName current next) : next ≠ aliasName := by
  rcases h with rfl | ⟨⟨day, rfl⟩, _⟩
  · exact Index.generationName_ne aliasName _
  · exact Index.dailyName_ne aliasName day

section

variable {ε α : Type} {aliasName : String} {s : Store}

private abbrev Meets (aliasName : String) (P : Store → α → Prop) (r : Routine ε α)
    (s : Store) : Prop :=
  r.Meets (Later aliasName) (Orderly aliasName) P s

private theorem meets_askWithin {limit : Duration} {r : Request}
    {P : Store → Except Error r.Answer → Prop}
    (hgood : ∀ t, Later aliasName s t → Orderly aliasName t r)
    (herror : ∀ t, Later aliasName s t → ∀ e, P t (.error e))
    (hanswer : ∀ t, Later aliasName s t → ∀ now, P (t.answer now r).2 (t.answer now r).1) :
    Meets aliasName P (.askWithin limit r : Routine ε _) s :=
  fun t ht => ⟨hgood t ht, herror t ht, hanswer t ht⟩

private theorem meets_now {P : Store → Int64 → Prop} (h : ∀ now, P s now) :
    Meets aliasName P (.now : Routine ε _) s := h

private theorem meets_tell {P : Store → Unit → Prop} {e : ε} (h : P s ()) :
    Meets aliasName P (.tell e) s := h

end

section

variable {ε : Type} (config : Config) (s : Store)

theorem ensureTemplate_meets :
    (ensureTemplate config : Routine ε _).Meets (Later config.aliasName)
      (Orderly config.aliasName) (fun _ _ => True) s := by
  refine Routine.Meets.bind (P := fun _ _ => True) ?_ (fun _ _ _ => trivial)
  exact meets_askWithin (fun t _ => .putTemplate _) (fun _ _ _ => trivial) (fun _ _ _ => trivial)

theorem firstIndex_first (now : Int64) : First config.aliasName (firstIndex config now) := by
  unfold firstIndex
  split
  · exact .inr ⟨_, rfl⟩
  · exact .inl rfl

theorem bootstrap_meets :
    (bootstrap config : Routine ε _).Meets (Later config.aliasName)
      (Orderly config.aliasName) (fun _ _ => True) s := by
  refine Routine.Meets.bind (P := fun _ _ => True)
    (meets_askWithin (fun t _ => .writeIndex) (fun _ _ _ => trivial) (fun _ _ _ => trivial)) ?_
  intro t current _
  split
  · trivial
  · trivial
  · refine Routine.Meets.bind (P := fun _ _ => True) (meets_now fun _ => trivial) ?_
    intro t now _
    have hfirst := firstIndex_first config now
    refine Routine.Meets.bind (P := fun _ _ => True)
      (meets_askWithin (fun _ _ => .begin _ hfirst) (fun _ _ _ => trivial)
        (fun _ _ _ => trivial)) ?_
    intro t created _
    split
    · trivial
    · trivial
    · refine Routine.Meets.bind (P := fun _ _ => True) ?_ (fun _ _ _ => trivial)
      exact meets_askWithin (fun _ _ => .attach hfirst) (fun _ _ _ => trivial)
        (fun _ _ _ => trivial)

theorem provision_meets :
    (provision config : Routine ε _).Meets (Later config.aliasName)
      (Orderly config.aliasName) (fun _ _ => True) s := by
  refine Routine.Meets.bind (ensureTemplate_meets config s) ?_
  intro t installed _
  split
  · trivial
  · exact bootstrap_meets config t

variable {config s}

theorem switchWriteIndex_meets {current next : String}
    (hm : IsMember s config.aliasName current) (hf : Follows config.aliasName current next) :
    (switchWriteIndex config current next : Routine ε _).Meets (Later config.aliasName)
      (Orderly config.aliasName) (fun _ _ => True) s := by
  -- making the next index moves no alias, so `current` is still a member when the update sets out
  refine Routine.Meets.bind (P := fun t _ => IsMember t config.aliasName current)
    (meets_askWithin (fun _ _ => .make _ hf) (fun t ht _ => ht _ hm) ?_) ?_
  · intro t ht now
    obtain ⟨members, hfind, hc⟩ := ht _ hm
    refine ⟨members, ?_, hc⟩
    have hsame : (t.createIndex now next (some config.settings) none).2.aliases = t.aliases := by
      unfold Store.createIndex
      dsimp only
      split
      · rfl
      · split
        · split <;> rfl
        · rfl
    exact hsame ▸ hfind
  · intro t created htm
    split
    · trivial
    · refine Routine.Meets.bind (P := fun _ _ => True) ?_ (fun _ _ _ => trivial)
      exact meets_askWithin (fun u hu => .replace (hu _ htm) hf) (fun _ _ _ => trivial)
        (fun _ _ _ => trivial)

theorem currentIndex_meets :
    (currentIndex config).Meets (Later config.aliasName) (Orderly config.aliasName)
      (fun t found => ∀ current, found = .ok current → IsMember t config.aliasName current) s := by
  refine Routine.Meets.bind
    (P := fun t found => ∀ current, found = .ok (some current) →
      IsMember t config.aliasName current)
    (meets_askWithin (fun _ _ => .writeIndex) (fun _ _ _ _ h => by cases h) ?_) ?_
  · intro t _ now current h
    exact isMember_of_writeIndex? (Except.ok.inj h)
  · intro t found hfound current h
    cases found with
    | error e => cases h
    | ok index? =>
      cases index? with
      | none => cases h
      | some index =>
        cases h
        exact hfound current rfl

theorem rollOver_meets {current : String} (trigger : Trigger)
    (hm : IsMember s config.aliasName current) :
    (rollOver config current trigger).Meets (Later config.aliasName) (Orderly config.aliasName)
      (fun _ _ => True) s := by
  refine Routine.Meets.bind (switchWriteIndex_meets hm (.inl rfl)) ?_
  intro t switched _
  split
  · trivial
  · refine Routine.Meets.bind (P := fun _ _ => True) (meets_now fun _ => trivial) ?_
    intro u now _
    exact Routine.Meets.bind (P := fun _ _ => True) (meets_tell trivial) fun _ _ _ => trivial

theorem evaluateLimits_meets :
    (evaluateLimits config).Meets (Later config.aliasName) (Orderly config.aliasName)
      (fun _ _ => True) s := by
  refine Routine.Meets.bind currentIndex_meets ?_
  intro t found hfound
  split
  · trivial
  · rename_i current
    have hm := hfound current rfl
    refine Routine.Meets.bind
      (P := fun t found => ∀ stats, found = .ok stats →
        IsMember t config.aliasName stats.index)
      (meets_askWithin (fun _ _ => .indexStats current) (fun _ _ _ _ h => by cases h) ?_) ?_
    · intro u hu now stats h
      have hindex : stats.index = current := by
        change u.indexStats current = .ok stats at h
        unfold Store.indexStats at h
        split at h
        · cases h; rfl
        · cases h
      rw [hindex]
      exact hu _ hm
    · intro u answered hanswered
      split
      · trivial
      · rename_i stats
        have hindex := hanswered stats rfl
        refine Routine.Meets.bind (P := fun v _ => IsMember v config.aliasName stats.index)
          (meets_now fun _ => hindex) ?_
        intro v now hv
        dsimp only
        split
        · exact Routine.Meets.bind (P := fun _ _ => True) (meets_tell trivial)
            fun _ _ _ => trivial
        · exact Routine.Meets.bind (P := fun v _ => IsMember v config.aliasName stats.index)
            (meets_tell hv) fun _ _ hw => rollOver_meets _ hw

theorem evaluateDay_meets :
    (evaluateDay config).Meets (Later config.aliasName) (Orderly config.aliasName)
      (fun _ _ => True) s := by
  refine Routine.Meets.bind (P := fun _ _ => True) (meets_now fun _ => trivial) ?_
  intro t now _
  refine Routine.Meets.bind currentIndex_meets ?_
  intro u found hfound
  split
  · trivial
  · rename_i current
    split
    · trivial
    · rename_i hle
      have hfollows : Follows config.aliasName current
          (Index.dailyName config.aliasName (Instant.date now.toInt)) :=
        .inr ⟨⟨_, rfl⟩, String.not_le.mp hle⟩
      refine Routine.Meets.bind (switchWriteIndex_meets (hfound current rfl) hfollows) ?_
      intro v switched _
      split
      · trivial
      · exact Routine.Meets.bind (P := fun _ _ => True) (meets_tell trivial)
          fun _ _ _ => trivial

variable (config s)

theorem cycle_meets :
    (cycle config).Meets (Later config.aliasName) (Orderly config.aliasName)
      (fun _ _ => True) s := by
  refine Routine.Meets.bind (P := fun _ _ => True) (meets_tell trivial) ?_
  intro t _ _
  dsimp only
  split
  on_goal 1 => refine Routine.Meets.bind evaluateDay_meets ?_
  on_goal 2 => refine Routine.Meets.bind evaluateLimits_meets ?_
  all_goals
    intro u result _
    split
    · trivial
    · exact Routine.Meets.bind (P := fun _ _ => True) (meets_tell trivial) fun _ _ _ => trivial

end

end MetricRelay.Lifecycle

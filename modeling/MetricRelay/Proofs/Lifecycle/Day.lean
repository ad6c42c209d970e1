import MetricRelay.Proofs.Index.Order
import MetricRelay.Proofs.Lifecycle.Generations
import MetricRelay.Proofs.Store.Prompt

-- A look at an alias that changes its index daily. It goes by the names of the indices, so from any
-- earlier day it comes to today's index; but a generation counts as an index of the year that its
-- first digits would be, and is not left until that year is over.

namespace MetricRelay.Lifecycle

open Store (Link Request Routine Members SoleWriter)

variable {config : Config} {l : Link} {current next : String}

theorem soleWriter_handOver {members : Members} (hsole : SoleWriter members current)
    (hne : current ≠ next) :
    SoleWriter ((members.insert next true).insert current false) next := by
  intro other
  rw [Keyed.find?_insert, Keyed.find?_insert]
  by_cases hother : other = current
  · simp [hother, hne]
  · by_cases hnext : other = next
    · simp [hnext, hne.symm]
    · simp [hother, hnext, hsole other]

-- The update that moves the writes is carried out if the next index is there.
theorem updateAliases_handOver {s : Store} {aliasName : String} (hs : s.AliasesSound)
    (hfaults : s.faults.aliasUpdates = 0) (hcurrent : s.writeIndex? aliasName = some current)
    (hnext : s.indices.contains next = true) (hne : current ≠ next) :
    ∃ t, s.updateAliases (handOver aliasName current next) = (.ok (), t) ∧
      t.writeIndex? aliasName = some next ∧ Later aliasName s t := by
  obtain ⟨members, hm, hsole⟩ := (Store.writeIndex?_eq_some_iff hs _ _).mp hcurrent
  have hwriter := soleWriter_handOver hsole hne
  have hindices : ∀ e ∈ [(next, true), (current, false)], s.indices.contains e.1 = true := by
    intro e he
    rcases List.mem_cons.mp he with rfl | he
    · exact hnext
    · obtain rfl := List.mem_singleton.mp he
      exact (hs _ _ hm).exist current hsole.contains
  have hupdate := Store.updateAliases_of_writer aliasName hfaults (by simp) hindices
    (by rw [hm]; exact hwriter)
  rw [hm, Option.getD_some] at hupdate
  have hfind := Keyed.find?_insert_self s.aliases aliasName
    ((members.insert next true).insert current false)
  have hsound := Store.updateAliases_sound hs (handOver aliasName current next)
  refine ⟨_, hupdate, ?_, ?_⟩
  · refine (Store.writeIndex?_eq_some_iff ?_ _ _).mpr ⟨_, hfind, hwriter⟩
    exact (congrArg (fun r => r.2.AliasesSound) hupdate).mp hsound
  · rintro index ⟨before, hbefore, hc⟩
    refine ⟨_, hfind, ?_⟩
    rw [hm, Option.some_inj] at hbefore
    rw [Keyed.contains_insert, Keyed.contains_insert, hbefore]
    exact .inr (.inr hc)

-- Requests are answered at once, and none is to fail that makes an index or moves an alias.
structure Free (l : Link) : Prop where
  rehearsals : l.rehearsals = ∅
  creations : l.store.faults.creations = 0
  aliasUpdates : l.store.faults.aliasUpdates = 0

theorem switchWriteIndex_run (hl : Free l) (hs : l.store.AliasesSound)
    (hcurrent : l.store.writeIndex? config.aliasName = some current) (hne : current ≠ next)
    (hsettings : ∀ data, l.store.indices.find? next = some data →
      data.settings = config.settings) :
    ∃ l', (∀ (ε σ : Type) (add : σ → ε → σ) (s : σ),
        (switchWriteIndex config current next : Routine ε _).run add l s =
          (.finished (.ok ()), l', s)) ∧
      l'.store.writeIndex? config.aliasName = some next ∧
      Later config.aliasName l.store l'.store := by
  obtain ⟨creation, indices, hcreate, hnext, hkept⟩ :=
    Store.createIndex_of_settings hl.creations hsettings l.wallTime
  have hs₁ : Store.AliasesSound { l.store with indices := indices } :=
    fun other members hm => (hs other members hm).mono hkept
  obtain ⟨t, hupdate, hwrite, hlater⟩ :=
    updateAliases_handOver hs₁ hl.aliasUpdates hcurrent hnext hne
  -- the link after the one request, and after the other
  generalize hl₁ : l.served (.createIndex next (some config.settings) none) = l₁
  have hstore₁ : l₁.store = { l.store with indices := indices } :=
    hl₁ ▸ congrArg Prod.snd hcreate
  have hrehearsals₁ : l₁.rehearsals = ∅ := hl₁ ▸ hl.rehearsals
  generalize hl₂ : l₁.served (.updateAliases (handOver config.aliasName current next)) = l₂
  rw [← hstore₁] at hupdate
  have hstore₂ : l₂.store = t := hl₂ ▸ congrArg Prod.snd hupdate
  refine ⟨l₂, fun ε σ add s => ?_, hstore₂ ▸ hwrite, hstore₂ ▸ hlater⟩
  unfold switchWriteIndex
  rw [Store.Routine.run_bind (Store.Routine.run_askWithin hl.rehearsals rfl _ s), hl₁]
  dsimp only [Store.answer]
  rw [hcreate]
  dsimp only
  change Routine.run add l₁ s (.askWithin config.requestTimeout
    (.updateAliases (handOver config.aliasName current next)) >>= _) = _
  rw [Store.Routine.run_bind (Store.Routine.run_askWithin hrehearsals₁ rfl _ s), hl₂]
  dsimp only [Store.answer]
  rw [hupdate]
  rfl

theorem currentIndex_run (hl : l.rehearsals = ∅)
    (hcurrent : l.store.writeIndex? config.aliasName = some current) :
    ∃ l', (∀ (σ : Type) (add : σ → Note → σ) (s : σ),
        (currentIndex config).run add l s = (.finished (.ok current), l', s)) ∧
      l'.store = l.store ∧ l'.rehearsals = ∅ := by
  refine ⟨l.served (.writeIndex config.aliasName), fun σ add s => ?_, rfl, hl⟩
  unfold currentIndex
  rw [Store.Routine.run_bind (Store.Routine.run_askWithin hl rfl _ s)]
  dsimp only [Store.answer]
  rw [hcurrent]
  rfl

-- The name that the index of this day has.
def todaysIndex (config : Config) (l : Link) : String :=
  Index.dailyName config.aliasName (Instant.date l.wallTime.toInt)

-- What a look comes to whose notes and whose end are these.
structure Looks (look : Cycle) (l : Link) (event : Option Rollover) (notes : List Note)
    (l' : Link) : Prop where
  run : ∀ (σ : Type) (add : σ → Note → σ) (s : σ),
    look.run add l s = (.finished (.ok event), l', notes.foldl add s)

-- Either nothing happens, or today's index takes the writes.
inductive Settles (config : Config) (current : String) (l : Link) :
    Option Rollover → Link → Prop
  | stays {l' : Link} (h : todaysIndex config l ≤ current) (hstore : l'.store = l.store) :
      Settles config current l none l'
  | moves {l' : Link} (h : ¬todaysIndex config l ≤ current)
      (hwrite : l'.store.writeIndex? config.aliasName = some (todaysIndex config l))
      (hlater : Later config.aliasName l.store l'.store) :
      Settles config current l
        (some ⟨config.aliasName, current, todaysIndex config l, none⟩) l'

section

variable (hl : Free l) (hs : l.store.AliasesSound)
  (hcurrent : l.store.writeIndex? config.aliasName = some current)
  (hsettings : ∀ data, l.store.indices.find? (todaysIndex config l) = some data →
    data.settings = config.settings)

include hl hs hcurrent hsettings

theorem evaluateDay_looks :
    ∃ event notes l', Looks (evaluateDay config) l event notes l' ∧
      Settles config current l event l' := by
  obtain ⟨l₁, hread, hstore, hrehearsals⟩ := currentIndex_run hl.rehearsals hcurrent
  have htoday : Index.dailyName config.aliasName (Instant.date l.wallTime.toInt) =
      todaysIndex config l := rfl
  by_cases hle : todaysIndex config l ≤ current
  · refine ⟨none, [], l₁, ⟨fun σ add s => ?_⟩, .stays hle hstore⟩
    unfold evaluateDay
    change (currentIndex config >>= _).run add l s = _
    rw [Store.Routine.run_bind (hread σ add s)]
    dsimp only
    rw [htoday, if_pos hle]
    rfl
  · have hl₁ : Free l₁ :=
      ⟨hrehearsals, hstore ▸ hl.creations, hstore ▸ hl.aliasUpdates⟩
    have hne : current ≠ todaysIndex config l := fun he => hle (he ▸ String.le_refl _)
    obtain ⟨l₂, hswitch, hwrite, hlater⟩ := switchWriteIndex_run hl₁ (hstore ▸ hs)
      (hstore ▸ hcurrent) hne (hstore ▸ hsettings)
    refine ⟨_, [.dayChanged], l₂, ⟨fun σ add s => ?_⟩, .moves hle hwrite (hstore ▸ hlater)⟩
    unfold evaluateDay
    change (currentIndex config >>= _).run add l s = _
    rw [Store.Routine.run_bind (hread σ add s)]
    dsimp only
    rw [htoday, if_neg hle, Store.Routine.run_bind (hswitch Note σ add s)]
    rfl

theorem cycle_looks (hdaily : config.daily = true) :
    ∃ event notes l', Looks (cycle config) l event notes l' ∧
      Settles config current l event l' := by
  obtain ⟨event, notes, l', hlook, hsettles⟩ :=
    evaluateDay_looks hl hs hcurrent hsettings
  refine ⟨event, .begun :: notes, l', ⟨fun σ add s => ?_⟩, hsettles⟩
  unfold cycle
  rw [hdaily]
  change (evaluateDay config >>= _).run add l (add s .begun) = _
  rw [Store.Routine.run_bind (hlook.run σ add _)]
  rfl

end

-- Whatever index the writes went to, made for a day or as a generation, they go to today's after
-- a look: unless it was a later day's, or its number begins with this year or with a later one.
-- These two are left as they are.
theorem cycle_reaches_today (config : Config) (hdaily : config.daily = true)
    (events : List Store.Event) (l : Link) (hstore : l.store = Store.after events)
    (hclear : l.Clear) (hyear : (Instant.date l.wallTime.toInt).Unsigned) (current : String)
    (hcurrent : l.store.writeIndex? config.aliasName = some current)
    (hsettings : ∀ data, l.store.indices.find? (todaysIndex config l) = some data →
      data.settings = config.settings) :
    let today := Instant.clamp l.wallTime.toInt / Instant.millisPerDay
    ∃ event notes l', Looks (cycle config) l event notes l' ∧
      Later config.aliasName l.store l'.store ∧
      (∀ day, (Date.ofDays day).Unsigned →
        current = Index.dailyName config.aliasName (.ofDays day) →
          if today < day then event = none ∧ l'.store = l.store
          else l'.store.writeIndex? config.aliasName = some (todaysIndex config l)) ∧
      ∀ g, current = Index.generationName config.aliasName g →
        if (Instant.date l.wallTime.toInt).year ≤ Index.leadingYear g then
          event = none ∧ l'.store = l.store ∧ current ≠ todaysIndex config l
        else l'.store.writeIndex? config.aliasName = some (todaysIndex config l) := by
  intro today
  have hl : Free l := ⟨hclear.rehearsals, by rw [hclear.faults]; rfl, by rw [hclear.faults]; rfl⟩
  obtain ⟨event, notes, l', hlook, hsettles⟩ :=
    cycle_looks hl (hstore ▸ Store.after_sound events) hcurrent hsettings hdaily
  refine ⟨event, notes, l', hlook, ?_, fun day hday he => ?_, fun g he => ?_⟩
  · cases hsettles with
    | stays h hsame => exact hsame ▸ Later.refl _ _
    | moves h hwrite hlater => exact hlater
  · have horder : todaysIndex config l ≤ current ↔ today ≤ day := by
      rw [he]
      exact Index.dailyName_le_iff hyear hday
    cases hsettles with
    | stays h hsame =>
      split
      · exact ⟨rfl, hsame⟩
      · -- the writes go there already
        have hsameDay : today = day := by
          have := horder.mp h
          omega
        rw [hsame, hcurrent, he, ← hsameDay]
        rfl
    | moves h hwrite hlater =>
      rw [if_neg (by rw [horder] at h; omega)]
      exact hwrite
  · have horder : todaysIndex config l ≤ current ↔
        (Instant.date l.wallTime.toInt).year ≤ Index.leadingYear g := by
      rw [he]
      exact Index.dailyName_le_generationName_iff g hyear
    cases hsettles with
    | stays h hsame =>
      rw [if_pos (horder.mp h)]
      exact ⟨rfl, hsame, he ▸ Index.generationName_ne_dailyName g _⟩
    | moves h hwrite hlater =>
      rw [if_neg fun hle => h (horder.mpr hle)]
      exact hwrite

private def daily : Config := { (default : Config) with aliasName := "m", daily := true }

-- On 9 March 2024 the writes of an alias go to the one index that was made for it.
private def inMarch (index : String) : Link :=
  ⟨Store.after [.ask 0 (.createIndex index none (some "m"))], .manual 1709942400000, 0, ∅, [], 0, 0⟩

theorem first_generation_left : ∃ event notes l',
    Looks (cycle daily) (inMarch "m-000001") event notes l' ∧
    Later "m" (inMarch "m-000001").store l'.store ∧
    l'.store.writeIndex? "m" = some "m-2024.03.09" := by
  obtain ⟨event, notes, l', hlook, hlater, _, hgeneration⟩ := cycle_reaches_today daily rfl _
    (inMarch "m-000001") rfl ⟨rfl, rfl⟩ (by decide +kernel) "m-000001" (by decide +kernel)
    (by decide +kernel)
  have hmoved := hgeneration 1 (by decide +kernel)
  rw [if_neg (by decide +kernel)] at hmoved
  exact ⟨event, notes, l', hlook, hlater, hmoved.trans (by decide +kernel)⟩

theorem generation_202400_stays : ∃ notes l',
    (inMarch "m-202400").Clear ∧
    (inMarch "m-202400").store.writeIndex? "m" = some (Index.generationName "m" 202400) ∧
    (Instant.date (inMarch "m-202400").wallTime.toInt) = ⟨2024, 3, 9⟩ ∧
    (inMarch "m-202400").store.indices.find? "m-2024.03.09" = none ∧
    Looks (cycle daily) (inMarch "m-202400") none notes l' ∧
    l'.store.writeIndex? "m" = some (Index.generationName "m" 202400) := by
  have hl : Free (inMarch "m-202400") := ⟨rfl, rfl, rfl⟩
  have hcurrent : (inMarch "m-202400").store.writeIndex? daily.aliasName =
      some (Index.generationName "m" 202400) := by decide +kernel
  obtain ⟨event, notes, l', hlook, hsettles⟩ :=
    cycle_looks hl (Store.after_sound _) hcurrent (by decide +kernel) rfl
  cases hsettles with
  | stays h hsame =>
    exact ⟨notes, l', ⟨rfl, rfl⟩, hcurrent, by decide +kernel, by decide +kernel, hlook,
      hsame ▸ hcurrent⟩
  | moves h hwrite hlater => exact absurd (by decide +kernel) h

end MetricRelay.Lifecycle

import MetricRelay.Lifecycle.Provision
import MetricRelay.Proofs.Store.Prompt

-- Starts of an alias. A start that succeeds leaves nothing for the next one to do, and one that
-- fails leaves the aliases alone; so however many have failed, the first that meets no fault ends
-- where a start without any would have.

namespace MetricRelay.Lifecycle

open Store (Link Routine SoleWriter)

variable {config : Config} {l l' : Link}

-- A start and how it ended, whoever takes down its notes.
def Starts (config : Config) (l : Link) (result : Except Error String) (l' : Link) : Prop :=
  ∀ (ε σ : Type) (add : σ → ε → σ) (s : σ),
    (bootstrap config).run add l s = (.finished result, l', s)

-- There is only one way for a start to end.
theorem Starts.unique {result result' : Except Error String} {m m' : Link}
    (h : Starts config l result m) (h' : Starts config l result' m') :
    result = result' ∧ m = m' := by
  have he := (h Empty Unit (fun s _ => s) ()).symm.trans (h' Empty Unit (fun s _ => s) ())
  simpa using he

-- The store with the first index attached, which alone takes the writes.
def attached (config : Config) (s : Store) (index : String) : Store :=
  { s with aliases := Store.attach s.aliases config.aliasName index true }

-- What a start comes to that meets no fault, if `first` is the index it may have to make.
def unhindered (config : Config) (s : Store) (first : String) (now : Int64) :
    Except Error String × Store :=
  match s.writeIndex? config.aliasName with
  | some index => (.ok index, s)
  | none =>
    match s.indices.find? first with
    | none =>
      let indices := s.indices.insert first ⟨config.settings, now, [], 0⟩
      (.ok first, attached config { s with indices := indices } first)
    | some data =>
      if data.settings = config.settings then (.ok first, attached config s first)
      else (.error (bootstrapFailure config (.indexConflict first)), s)

-- A fault may keep it from that; then indices and aliases are as before.
inductive Leads (config : Config) (s : Store) (first : String) (now : Int64) :
    Except Error String → Store → Prop
  | through {result : Except Error String} {t : Store}
      (h : unhindered config s first now = (result, t)) : Leads config s first now result t
  | fails {e : Error} {t : Store}
      (hfault : 0 < s.faults.creations ∨ 0 < s.faults.aliasUpdates) (halike : s.Alike t) :
      Leads config s first now (.error (bootstrapFailure config e)) t

-- An index that is to begin an alias without one.
theorem createIndex_begins {s : Store} {aliasName first : String} (now : Int64)
    (settings : Index.Settings) (hnone : s.writeIndex? aliasName = none) :
    let r := s.createIndex now first (some settings) (some aliasName)
    (0 < s.faults.creations ∧ ∃ e, r.1 = .error e) ∨
    (s.indices.find? first = none ∧
      r = (.ok .created, { s with indices := s.indices.insert first ⟨settings, now, [], 0⟩,
                                  aliases := Store.attach s.aliases aliasName first true })) ∨
    ∃ data, s.indices.find? first = some data ∧
      (data.settings = settings ∧ r = (.ok .alreadyExists, s) ∨
        data.settings ≠ settings ∧ r = (.error (.indexConflict first), s)) := by
  intro r
  have hr : r = s.createIndex now first (some settings) (some aliasName) := rfl
  unfold Store.createIndex at hr
  by_cases hfault : 0 < s.faults.creations
  · rw [if_pos hfault] at hr
    exact .inl ⟨hfault, _, congrArg Prod.fst hr⟩
  · rw [if_neg hfault] at hr
    dsimp only [Store.settingsFor] at hr
    cases hfind : s.indices.find? first with
    | none =>
      rw [hfind, hnone] at hr
      exact .inr (.inl ⟨rfl, hr⟩)
    | some data =>
      rw [hfind] at hr
      dsimp only at hr
      refine .inr (.inr ⟨data, rfl, ?_⟩)
      by_cases hsame : data.settings = settings
      · rw [if_pos hsame] at hr
        exact .inl ⟨hsame, hr⟩
      · rw [if_neg hsame] at hr
        exact .inr ⟨hsame, hr⟩

-- An index that is there already is attached to an alias without members.
theorem updateAliases_attaches {s : Store} {aliasName first : String}
    (hfind : s.aliases.find? aliasName = none) (hfirst : s.indices.contains first = true) :
    let r := s.updateAliases [.add first aliasName true]
    (0 < s.faults.aliasUpdates ∧ ∃ e, r.1 = .error e) ∨
      r = (.ok (), { s with aliases := Store.attach s.aliases aliasName first true }) := by
  intro r
  by_cases hfault : 0 < s.faults.aliasUpdates
  · refine .inl ⟨hfault, .unavailable "injected alias update failure", ?_⟩
    change (s.updateAliases _).1 = _
    unfold Store.updateAliases
    rw [if_pos hfault]
  · right
    have hzero : s.faults.aliasUpdates = 0 := by omega
    have hindices : ∀ e ∈ [(first, true)], s.indices.contains e.1 = true := by simpa using hfirst
    exact Store.updateAliases_of_writer aliasName hzero (by simp) hindices
      (by rw [hfind]; exact Store.soleWriter_insert_empty first)

theorem starts_of_writeIndex? {index : String} (hcalm : l.rehearsals = ∅)
    (hwrite : l.store.writeIndex? config.aliasName = some index) :
    Starts config l (.ok index) (l.served (.writeIndex config.aliasName)) := by
  intro ε σ add s
  unfold bootstrap
  rw [Store.Routine.run_bind (Store.Routine.run_askWithin hcalm rfl _ s)]
  dsimp only [Store.answer]
  rw [hwrite]
  rfl

-- What is left to do for an alias without a write index once its first index was asked for.
def goOn {ε : Type} (config : Config) (first : String) :
    Except Error Store.Creation → Routine ε (Except Error String)
  | .error e => .done (.error (bootstrapFailure config e))
  | .ok .created => .done (.ok first)
  | .ok .alreadyExists =>
    Routine.askWithin config.requestTimeout (.updateAliases [.add first config.aliasName true]) >>=
      fun updated => .done ((updated.mapError (bootstrapFailure config)).map fun _ => first)

section

variable (config : Config) (l : Link)

-- The answers to the requests for it, and the links after them.

def creation : Except Error Store.Creation × Store :=
  l.store.createIndex l.wallTime (firstIndex config l.wallTime) (some config.settings)
    (some config.aliasName)

def afterCreation : Link :=
  (l.served (.writeIndex config.aliasName)).served
    (.createIndex (firstIndex config l.wallTime) (some config.settings) (some config.aliasName))

def update : Except Error Unit × Store :=
  (creation config l).2.updateAliases [.add (firstIndex config l.wallTime) config.aliasName true]

def afterUpdate : Link :=
  (afterCreation config l).served
    (.updateAliases [.add (firstIndex config l.wallTime) config.aliasName true])

variable {config l} {ε σ : Type}

theorem run_of_none (hcalm : l.rehearsals = ∅)
    (hwrite : l.store.writeIndex? config.aliasName = none) (add : σ → ε → σ) (s : σ) :
    (bootstrap config).run add l s =
      (goOn config (firstIndex config l.wallTime) (creation config l).1).run add
        (afterCreation config l) s := by
  have hasked : (l.served (.writeIndex config.aliasName)).rehearsals = ∅ := hcalm
  unfold bootstrap
  rw [Store.Routine.run_bind (Store.Routine.run_askWithin hcalm rfl _ s)]
  dsimp only [Store.answer]
  rw [hwrite]
  change Routine.run add _ s (.askWithin config.requestTimeout
    (.createIndex (firstIndex config l.wallTime) (some config.settings)
      (some config.aliasName)) >>= _) = _
  rw [Store.Routine.run_bind (Store.Routine.run_askWithin hasked rfl _ s)]
  generalize hcreated : (Store.answer _ _ (.createIndex _ _ _)).1 = created
  have hsame : (creation config l).1 = created := hcreated
  rw [hsame]
  cases created with
  | error e => rfl
  | ok made => cases made <;> rfl

theorem goOn_run (hcalm : l.rehearsals = ∅) (add : σ → ε → σ) (s : σ) :
    (goOn config (firstIndex config l.wallTime) (.ok .alreadyExists)).run add
        (afterCreation config l) s =
      (.finished (((update config l).1.mapError (bootstrapFailure config)).map
        fun _ => firstIndex config l.wallTime), afterUpdate config l, s) := by
  have hmade : (afterCreation config l).rehearsals = ∅ := hcalm
  rw [goOn, Store.Routine.run_bind (Store.Routine.run_askWithin hmade rfl _ s)]
  rfl

-- The first index stands already, and it is still to be attached.
theorem leads_of_found {data : Store.IndexData} (hcalm : l.rehearsals = ∅)
    (hs : l.store.AliasesSound) (hwrite : l.store.writeIndex? config.aliasName = none)
    (hfind : l.store.indices.find? (firstIndex config l.wallTime) = some data)
    (hsame : data.settings = config.settings)
    (hfound : creation config l = (.ok .alreadyExists, l.store)) :
    ∃ result l', Starts config l result l' ∧
      Leads config l.store (firstIndex config l.wallTime) l.wallTime result l'.store := by
  have hnone := (Store.writeIndex?_eq_none_iff hs config.aliasName).mp hwrite
  have hupdated : (afterUpdate config l).store = (update config l).2 := rfl
  have hupdate : update config l = l.store.updateAliases
      [.add (firstIndex config l.wallTime) config.aliasName true] := by rw [update, hfound]
  rcases updateAliases_attaches hnone (Keyed.contains_of_find? hfind) with
    ⟨hfault, e, he⟩ | hattached
  · refine ⟨.error (bootstrapFailure config e), afterUpdate config l, fun ε σ add s => ?_,
      .fails (.inr hfault) ?_⟩
    · rw [run_of_none hcalm hwrite, hfound, goOn_run hcalm, hupdate, he]
      rfl
    · rw [hupdated, hupdate]
      exact (Store.updateAliases_harmless he).alike
  · refine ⟨.ok (firstIndex config l.wallTime), afterUpdate config l, fun ε σ add s => ?_,
      .through ?_⟩
    · rw [run_of_none hcalm hwrite, hfound, goOn_run hcalm, hupdate, hattached]
      rfl
    · rw [hupdated, hupdate, hattached, unhindered, hwrite]
      dsimp only
      rw [hfind]
      exact if_pos hsame

theorem bootstrap_leads (config : Config) (hcalm : l.rehearsals = ∅)
    (hs : l.store.AliasesSound) :
    ∃ result l', Starts config l result l' ∧
      Leads config l.store (firstIndex config l.wallTime) l.wallTime result l'.store := by
  cases hwrite : l.store.writeIndex? config.aliasName with
  | some index =>
    refine ⟨.ok index, _, starts_of_writeIndex? hcalm hwrite, .through ?_⟩
    rw [unhindered, hwrite]
    rfl
  | none =>
    have hcreated : (afterCreation config l).store = (creation config l).2 := rfl
    rcases createIndex_begins l.wallTime config.settings hwrite with
      ⟨hfault, e, he⟩ | ⟨hnew, hmade⟩ | ⟨data, hfind, ⟨hsame, hfound⟩ | ⟨hother, hconflict⟩⟩
    · have hfailed : (creation config l).1 = .error e := he
      refine ⟨.error (bootstrapFailure config e), afterCreation config l, fun ε σ add s => ?_,
        .fails (.inl hfault) (hcreated ▸ (Store.createIndex_harmless he).alike)⟩
      rw [run_of_none hcalm hwrite, hfailed]
      rfl
    · have hok : creation config l = _ := hmade
      refine ⟨.ok (firstIndex config l.wallTime), afterCreation config l, fun ε σ add s => ?_,
        .through ?_⟩
      · rw [run_of_none hcalm hwrite, hok]
        rfl
      · rw [hcreated, hok, unhindered, hwrite]
        dsimp only
        rw [hnew]
        rfl
    · exact leads_of_found hcalm hs hwrite hfind hsame hfound
    · have hok : creation config l = _ := hconflict
      refine ⟨.error (bootstrapFailure config (.indexConflict (firstIndex config l.wallTime))),
        afterCreation config l, fun ε σ add s => ?_, .through ?_⟩
      · rw [run_of_none hcalm hwrite, hok]
        rfl
      · rw [hcreated, hok, unhindered, hwrite]
        dsimp only
        rw [hfind]
        exact if_neg hother

end

-- What follows from how a start ended.

section

variable {s t t' : Store} {first index : String} {now now' : Int64} {e : Error}

theorem writeIndex?_attached (hnone : s.aliases.find? config.aliasName = none) :
    (attached config s first).writeIndex? config.aliasName = some first := by
  have hwriter := (Store.writers_eq_singleton_iff _ _).mpr (Store.soleWriter_insert_empty first)
  unfold Store.writeIndex? attached Store.attach
  rw [Keyed.find?_insert_self, hnone, Option.bind_some]
  exact congrArg List.head? hwriter

theorem Leads.writeIndex? (h : Leads config s first now (.ok index) t) (hs : s.AliasesSound) :
    t.writeIndex? config.aliasName = some index := by
  cases h with
  | through h =>
    unfold unhindered at h
    split at h
    · rename_i hwrite
      cases h
      exact hwrite
    · rename_i hnone
      have hfind := (Store.writeIndex?_eq_none_iff hs config.aliasName).mp hnone
      split at h
      · cases h
        exact writeIndex?_attached hfind
      · split at h
        · cases h
          exact writeIndex?_attached hfind
        · cases h

theorem Leads.of_no_faults {result : Except Error String}
    (h : Leads config s first now result t) (hcreations : s.faults.creations = 0)
    (hupdates : s.faults.aliasUpdates = 0) :
    unhindered config s first now = (result, t) := by
  cases h with
  | through h => exact h
  | fails hfault halike => omega

theorem Leads.of_error (h : Leads config s first now (.error e) t) :
    s.Alike t ∧ ∃ message, e = .startup message := by
  cases h with
  | through h =>
    unfold unhindered at h
    split at h
    · cases h
    · split at h
      · cases h
      · split at h
        · cases h
        · cases h
          exact ⟨.refl s, _, rfl⟩
  | fails hfault halike => exact ⟨halike, _, rfl⟩

-- The same indices with the same documents, made at whatever time.
def SameIndices (s t : Store) : Prop :=
  ∀ index, (s.indices.find? index).map (fun d => (d.settings, d.documents, d.bytes)) =
    (t.indices.find? index).map (fun d => (d.settings, d.documents, d.bytes))

theorem unhindered_congr {r r' : Except Error String × Store} (halike : s.Alike t)
    (hr : unhindered config s first now = r) (hr' : unhindered config t first now' = r') :
    r'.1 = r.1 ∧ r'.2.aliases = r.2.aliases ∧ SameIndices r'.2 r.2 := by
  have hwrite : t.writeIndex? config.aliasName = s.writeIndex? config.aliasName := by
    unfold Store.writeIndex?
    rw [halike.aliases]
  have hsame : SameIndices t s := fun index => by rw [halike.indices]
  rw [← hr, ← hr']
  unfold unhindered
  rw [hwrite, halike.indices]
  cases s.writeIndex? config.aliasName with
  | some index => exact ⟨rfl, halike.aliases, hsame⟩
  | none =>
    have hattached : (attached config t first).aliases = (attached config s first).aliases := by
      unfold attached
      rw [halike.aliases]
    dsimp only
    cases hfind : s.indices.find? first with
    | none =>
      refine ⟨rfl, hattached, fun index => ?_⟩
      unfold attached
      dsimp only
      rw [Keyed.find?_insert, Keyed.find?_insert]
      split <;> rfl
    | some data =>
      dsimp only
      by_cases hsettings : data.settings = config.settings
      · rw [if_pos hsettings, if_pos hsettings]
        exact ⟨rfl, hattached, hsame⟩
      · rw [if_neg hsettings, if_neg hsettings]
        exact ⟨rfl, halike.aliases, hsame⟩

end

-- From one store to another by starts that failed, with whatever faults and at whatever times.
inductive FailedStarts (config : Config) : Store → Store → Prop
  | none (s : Store) : FailedStarts config s s
  | one {s t : Store} {l l' : Link} {e : Error} (before : FailedStarts config s t)
      (faults : Store.Faults) (hstore : l.store = { t with faults := faults })
      (hcalm : l.rehearsals = ∅) (h : Starts config l (.error e) l') :
      FailedStarts config s l'.store

theorem FailedStarts.alike {s t : Store} (h : FailedStarts config s t) (hs : s.AliasesSound) :
    s.Alike t := by
  induction h with
  | none => rfl
  | @one t l l' e before faults hstore hcalm h ih =>
    have hreset : s.Alike l.store := by
      rw [hstore]
      exact ⟨ih.indices, ih.aliases, ih.templates, ih.templateRevision⟩
    obtain ⟨result, m, hstarts, hleads⟩ := bootstrap_leads config hcalm (hreset.aliasesSound hs)
    obtain ⟨rfl, rfl⟩ := hstarts.unique h
    exact hreset.trans hleads.of_error.1

-- A start that succeeds gives the alias its write index, and a later one finds it there and does
-- nothing. A start that fails is a startup error and moves no alias. After any number of failed
-- ones, the first without a fault has the result, the aliases and the indices that it would have
-- had in their stead, on the same day.
theorem bootstrap_converges (config : Config) (events : List Store.Event) (l : Link)
    (hstore : l.store = Store.after events) (hcalm : l.rehearsals = ∅) :
    ∃ result l', Starts config l result l' ∧
      (∀ index, result = .ok index →
        l'.store.writeIndex? config.aliasName = some index ∧
        ∀ (again : Config) (m : Link), again.aliasName = config.aliasName → m.rehearsals = ∅ →
          m.store.aliases.find? config.aliasName = l'.store.aliases.find? config.aliasName →
          ∃ m', Starts again m (.ok index) m' ∧ m'.store = m.store) ∧
      (∀ e, result = .error e →
        (∃ message, e = .startup message) ∧ l'.store.aliases = l.store.aliases) ∧
      (l.store.faults.creations = 0 → l.store.faults.aliasUpdates = 0 →
        ∀ t, FailedStarts config l.store t → ∀ (faults : Store.Faults) (m : Link),
          m.store = { t with faults := faults } → m.rehearsals = ∅ →
          faults.creations = 0 → faults.aliasUpdates = 0 →
          Instant.date m.wallTime.toInt = Instant.date l.wallTime.toInt →
          ∃ m', Starts config m result m' ∧ m'.store.aliases = l'.store.aliases ∧
            SameIndices m'.store l'.store) := by
  have hs : l.store.AliasesSound := hstore ▸ Store.after_sound events
  obtain ⟨result, l', hstarts, hleads⟩ := bootstrap_leads config hcalm hs
  refine ⟨result, l', hstarts, ?_, ?_, ?_⟩
  · rintro index rfl
    have hwrite := hleads.writeIndex? hs
    refine ⟨hwrite, fun again m hagain hm hsame => ?_⟩
    have hfound : m.store.writeIndex? again.aliasName = some index := by
      unfold Store.writeIndex? at hwrite ⊢
      rw [hagain, hsame]
      exact hwrite
    exact ⟨_, starts_of_writeIndex? hm hfound, rfl⟩
  · rintro e rfl
    obtain ⟨halike, hstartup⟩ := hleads.of_error
    exact ⟨hstartup, halike.aliases⟩
  · intro hcreations hupdates t hfailed faults m hm hmcalm hmcreations hmupdates hday
    have halike : l.store.Alike m.store := by
      have ht := hfailed.alike hs
      rw [hm]
      exact ⟨ht.indices, ht.aliases, ht.templates, ht.templateRevision⟩
    have hfirst : firstIndex config m.wallTime = firstIndex config l.wallTime := by
      unfold firstIndex
      rw [hday]
    obtain ⟨result', m', hstarts', hleads'⟩ :=
      bootstrap_leads config hmcalm (halike.aliasesSound hs)
    rw [hfirst] at hleads'
    obtain ⟨hresult, haliases, hindices⟩ := unhindered_congr halike
      (hleads.of_no_faults hcreations hupdates)
      (hleads'.of_no_faults (hm ▸ hmcreations) (hm ▸ hmupdates))
    obtain rfl : result' = result := hresult
    exact ⟨m', hstarts', haliases, hindices⟩

-- A first index that stands without its alias, as a start may find it.
private def orphaned (faults : Store.Faults) (now : Int64) : Link :=
  ⟨{ Store.after [.ask 0 (.createIndex "prom-metrics-000001" (some default) none)] with
      faults := faults }, .manual now, 0, ∅, [], 0, 0⟩

private def failing : Store.Faults := { Store.Faults.none with aliasUpdates := 1 }

theorem orphan_attached_in_the_end :
    ∃ t m', FailedStarts default (orphaned .none 0).store t ∧
      Starts default ⟨{ t with faults := .none }, .manual 1000, 0, ∅, [], 0, 0⟩
        (.ok "prom-metrics-000001") m' ∧
      m'.store.writeIndex? "prom-metrics" = some "prom-metrics-000001" := by
  obtain ⟨result, l', hstarts, hok, _, hconverges⟩ :=
    bootstrap_converges default _ (orphaned .none 0) rfl rfl
  have hundisturbed : Starts default (orphaned .none 0) (.ok "prom-metrics-000001") _ :=
    fun ε σ add s => rfl
  obtain ⟨rfl, _⟩ := hstarts.unique hundisturbed
  obtain ⟨hwrite, _⟩ := hok _ rfl
  obtain ⟨e, failed, hfails⟩ : ∃ e failed, Starts default (orphaned failing 500) (.error e) failed :=
    ⟨_, _, fun ε σ add s => rfl⟩
  have hfailed : FailedStarts default (orphaned .none 0).store failed.store :=
    .one (.none _) failing rfl rfl hfails
  have hday : Instant.date (1000 : Int64).toInt = Instant.date (0 : Int64).toInt := by
    decide +kernel
  obtain ⟨m', hstarts', haliases, _⟩ := hconverges rfl rfl _ hfailed .none
    ⟨_, .manual 1000, 0, ∅, [], 0, 0⟩ rfl rfl rfl rfl hday
  refine ⟨_, m', hfailed, hstarts', ?_⟩
  unfold Store.writeIndex? at hwrite ⊢
  rw [haliases]
  exact hwrite

end MetricRelay.Lifecycle

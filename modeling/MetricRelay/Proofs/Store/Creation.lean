import MetricRelay.Proofs.Store.Documents

-- Making an index again. An index keeps the settings it was made with, whatever happens to the
-- store, but settings that are left to the templates are looked up anew each time.

namespace MetricRelay.Store

variable {s : Store} {index : String} {settings : Index.Settings}

def settings? (s : Store) (index : String) : Option Index.Settings :=
  (s.indices.find? index).map IndexData.settings

theorem settings?_congr {t : Store} (h : t.indices = s.indices) :
    t.settings? index = s.settings? index := by
  unfold settings?
  rw [h]

theorem settings?_insert {t : Store} {made : String} {data : IndexData}
    (h : t.indices = s.indices.insert made data) :
    t.settings? index = if index = made then some data.settings else s.settings? index := by
  unfold settings?
  rw [h, Keyed.find?_insert]
  by_cases he : index = made <;> simp [he]

theorem settings?_bulk (s : Store) (target : String) (docs : List Document) :
    (s.bulk target docs).2.settings? index = s.settings? index := by
  unfold bulk
  dsimp only
  split
  · rfl
  · split
    · rfl
    · rename_i written _
      split
      · rfl
      · rename_i data hdata
        rw [settings?_insert (s := s) rfl]
        by_cases he : index = written
        · simp [he, settings?, IndexData.append, hdata]
        · rw [if_neg he]

theorem settings?_createIndex (h : s.settings? index = some settings) (now : Int64) (made : String)
    (asked : Option Index.Settings) (writeAlias : Option String) :
    (s.createIndex now made asked writeAlias).2.settings? index = some settings := by
  rcases indices_createIndex s now made asked writeAlias with hsame | ⟨hnew, hmade⟩
  · exact (settings?_congr hsame).trans h
  · -- the index is there and the one that is made was not
    have hne : index ≠ made := by
      rintro rfl
      simp [settings?, hnew] at h
    rw [settings?_insert hmade, if_neg hne, h]

-- No event changes the settings of an index that is there.
theorem settings?_occur (h : s.settings? index = some settings) (e : Event) :
    (s.occur e).settings? index = some settings := by
  cases e with
  | inject faults => exact h
  | ask now r =>
    cases r with
    | bulk target docs => exact (settings?_bulk s target docs).trans h
    | createIndex made asked writeAlias => exact settings?_createIndex h now made asked writeAlias
    | updateAliases actions => exact (settings?_congr (indices_updateAliases s actions)).trans h
    | putTemplate template =>
      change (s.putTemplate template).2.settings? index = _
      unfold putTemplate
      split <;> exact h
    | writeIndex _ => exact h
    | indexStats _ => exact h
    | search _ => exact h
    | ping => exact h

theorem settings?_events (h : s.settings? index = some settings) (events : List Event) :
    (events.foldl occur s).settings? index = some settings := by
  induction events generalizing s with
  | nil => exact h
  | cons e rest ih => exact ih (settings?_occur h e)

-- An index that is made or found there has the settings that the request came to.
theorem settings?_of_createIndex {now : Int64} {asked : Option Index.Settings}
    {writeAlias : Option String} {creation : Creation}
    (h : (s.createIndex now index asked writeAlias).1 = .ok creation) :
    (s.createIndex now index asked writeAlias).2.settings? index =
      some (s.settingsFor index asked) := by
  unfold createIndex at h ⊢
  dsimp only at h ⊢
  split at h
  · cases h
  · rename_i hfaults
    rw [if_neg hfaults]
    split at h
    · rename_i data hdata
      split at h
      · rename_i hsame
        rw [if_pos hsame]
        simp [settings?, hdata, hsame]
      · cases h
    · split at h
      · rw [settings?_insert (s := s) rfl, if_pos rfl]
      · split at h
        · cases h
        · rw [settings?_insert (s := s) rfl, if_pos rfl]

-- An index that is there is not made again, and nothing changes.
theorem createIndex_of_settings? (h : s.settings? index = some settings)
    (hfaults : s.faults.creations = 0) (now : Int64) (asked : Option Index.Settings)
    (writeAlias : Option String) :
    s.createIndex now index asked writeAlias =
      (if s.settingsFor index asked = settings then .ok .alreadyExists
        else .error (.indexConflict index), s) := by
  obtain ⟨data, hdata, rfl⟩ := Option.map_eq_some_iff.mp h
  unfold createIndex
  rw [if_neg (by omega), hdata]
  dsimp only
  by_cases hsame : data.settings = s.settingsFor index asked
  · rw [if_pos hsame, if_pos hsame.symm]
  · rw [if_neg hsame, if_neg (Ne.symm hsame)]

-- What decides the settings of a new index, unless it is asked for some.

theorem settingsFor_congr {t : Store} (h : t.templates = s.templates)
    (asked : Option Index.Settings) : t.settingsFor index asked = s.settingsFor index asked := by
  unfold settingsFor
  rw [h]

def Event.putsTemplate : Event → Bool
  | .ask _ (.putTemplate _) => true
  | _ => false

theorem templates_createIndex (s : Store) (now : Int64) (made : String)
    (asked : Option Index.Settings) (writeAlias : Option String) :
    (s.createIndex now made asked writeAlias).2.templates = s.templates := by
  unfold createIndex
  dsimp only
  split
  · rfl
  · split
    · split <;> rfl
    · split
      · rfl
      · split <;> rfl

theorem templates_occur (s : Store) {e : Event} (h : e.putsTemplate = false) :
    (s.occur e).templates = s.templates := by
  cases e with
  | inject faults => rfl
  | ask now r =>
    cases r with
    | bulk target docs =>
      change (s.bulk target docs).2.templates = _
      unfold bulk
      dsimp only
      split
      · rfl
      · split
        · rfl
        · split <;> rfl
    | createIndex made asked writeAlias => exact templates_createIndex s now made asked writeAlias
    | updateAliases actions =>
      change (s.updateAliases actions).2.templates = _
      unfold updateAliases
      split
      · rfl
      · dsimp only
        split <;> rfl
    | putTemplate template => cases h
    | writeIndex _ => rfl
    | indexStats _ => rfl
    | search _ => rfl
    | ping => rfl

theorem templates_events (s : Store) {events : List Event}
    (h : ∀ e ∈ events, e.putsTemplate = false) :
    (events.foldl occur s).templates = s.templates := by
  induction events generalizing s with
  | nil => rfl
  | cons e rest ih =>
    rw [List.foldl_cons, ih _ fun other ho => h other (List.mem_cons_of_mem e ho)]
    exact templates_occur s (h e List.mem_cons_self)

-- The settings that were asked for come out the same again, and so do those left to the templates
-- as long as none is put.
theorem creation_repeated {now : Int64} {asked : Option Index.Settings}
    {writeAlias : Option String} {creation : Creation}
    (hmade : (s.createIndex now index asked writeAlias).1 = .ok creation) (events : List Event)
    (hfaults : (events.foldl occur
      (s.createIndex now index asked writeAlias).2).faults.creations = 0) (later : Int64) :
    let t := events.foldl occur (s.createIndex now index asked writeAlias).2
    let again := t.createIndex later index asked writeAlias
    (again = (.ok .alreadyExists, t) ↔ t.settingsFor index asked = s.settingsFor index asked) ∧
    (t.settingsFor index asked ≠ s.settingsFor index asked →
      again = (.error (.indexConflict index), t)) ∧
    (asked.isSome = true → again = (.ok .alreadyExists, t)) ∧
    ((∀ e ∈ events, e.putsTemplate = false) → again = (.ok .alreadyExists, t)) := by
  intro t again
  have hkept : t.settings? index = some (s.settingsFor index asked) :=
    settings?_events (settings?_of_createIndex hmade) events
  have hagain : again = (if t.settingsFor index asked = s.settingsFor index asked then
      .ok .alreadyExists else .error (.indexConflict index), t) :=
    createIndex_of_settings? hkept hfaults later asked writeAlias
  have hsame : t.settingsFor index asked = s.settingsFor index asked →
      again = (.ok .alreadyExists, t) := by
    intro h
    rw [hagain, if_pos h]
  refine ⟨⟨fun h => ?_, hsame⟩, fun h => ?_, fun h => ?_, fun h => ?_⟩
  · by_contra hne
    rw [hagain, if_neg hne] at h
    cases h
  · rw [hagain, if_neg h]
  · obtain ⟨settings, rfl⟩ := Option.isSome_iff_exists.mp h
    exact hsame rfl
  · apply hsame
    apply settingsFor_congr
    rw [templates_events _ h, templates_createIndex]

def template (shards : Nat) (mappings : Json) : Index.Template :=
  ⟨"m", ["m-*"], ⟨shards, 0⟩, mappings⟩

-- An index that was made before there was any template, and a template since then.
def overtaken : Store :=
  after [.ask 0 (.createIndex "m-000001" none none), .ask 0 (.putTemplate (template 1 .null))]

theorem template_stands_between :
    (empty.createIndex 0 "m-000001" none none).1 = .ok .created ∧
    overtaken = [Event.ask 0 (.putTemplate (template 1 .null))].foldl occur
      (empty.createIndex 0 "m-000001" none none).2 ∧
    overtaken.faults.creations = 0 ∧
    overtaken.createIndex 0 "m-000001" none none =
      (.error (.indexConflict "m-000001"), overtaken) :=
  ⟨rfl, rfl, rfl, rfl⟩

def templated : Store := after [.ask 0 (.putTemplate (template 1 .null))]

-- A template that only changes the mappings does not matter, nor do documents and aliases.
theorem creation_repeated_when_templated :
    let events := [Event.ask 1 (.bulk "m-000001" []),
      .ask 2 (.updateAliases [.add "m-000001" "m" true]),
      .ask 3 (.putTemplate (template 1 (.int 0)))]
    let t := events.foldl occur (templated.createIndex 0 "m-000001" none none).2
    (templated.createIndex 0 "m-000001" none none).1 = .ok .created ∧ t.faults.creations = 0 ∧
    t.createIndex 4 "m-000001" none none = (.ok .alreadyExists, t) := by
  have hmade : (templated.createIndex 0 "m-000001" none none).1 = .ok .created := rfl
  refine ⟨hmade, rfl, ?_⟩
  exact (creation_repeated hmade _ rfl 4).1.mpr rfl

end MetricRelay.Store

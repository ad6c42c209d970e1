import MetricRelay.Proofs.Store.Clear
import MetricRelay.Proofs.Store.Failure

-- A store that is reached without delay, whatever faults are still to come. Only bulk requests can
-- be kept waiting there, so a routine that makes none runs from its beginning to its end.

namespace MetricRelay.Store

namespace Link

variable {l : Link}

theorem start_of_prompt (h : l.rehearsals = ∅) {c : Call} (hr : c.request.isBulk = false) :
    l.start c = (.answered (l.store.answer l.wallTime c.request).1, l.served c.request) := by
  have harrive : (l.logged c.request).arrive c.request none =
      (l.logged c.request).atStore c.request := by
    obtain ⟨r, limit⟩ := c
    cases r with
    | bulk target docs => cases hr
    | _ => rfl
  unfold start
  rw [depart_of_unrehearsed h, harrive]
  rfl

end Link

namespace Routine

variable {ε α β σ : Type} {add : σ → ε → σ}

theorem run_askWithin {l : Link} (h : l.rehearsals = ∅) {r : Request} (hr : r.isBulk = false)
    (limit : Duration) (s : σ) :
    (askWithin limit r : Routine ε _).run add l s =
      (.finished (l.store.answer l.wallTime r).1, l.served r, s) := by
  rw [askWithin, run, Link.start_of_prompt h (c := ⟨r, some limit⟩) hr]
  rfl

-- What comes after a routine that is done goes on where that stopped.
theorem run_bind {r : Routine ε α} {f : α → Routine ε β} {l l' : Link} {s s' : σ} {a : α}
    (h : r.run add l s = (.finished a, l', s')) :
    (r >>= f).run add l s = (f a).run add l' s' := by
  change (r.andThen f).run add l s = _
  induction r generalizing l s with
  | done b =>
    cases h
    rfl
  | note e rest ih => exact ih h
  | clock next ih => exact ih _ h
  | call c next ih =>
    rw [run] at h
    rw [andThen, run]
    cases hstart : l.start c with
    | mk turn after =>
      rw [hstart] at h
      cases turn with
      | answered answer => exact ih answer h
      | waiting p => cases h
  | pause span next ih =>
    rw [run] at h
    rw [andThen, run]
    dsimp only at h ⊢
    split at h
    · rename_i hnone
      rw [if_pos hnone]
      exact ih h
    · cases h

end Routine

-- Requests that succeed. An index that is there may stand for a new one if its settings are the
-- same; an update that only adds members is carried out if they are indices and one of all the
-- members takes the writes.

theorem createIndex_of_settings {s : Store} {index : String} {settings : Index.Settings}
    (hfaults : s.faults.creations = 0)
    (hsettings : ∀ data, s.indices.find? index = some data → data.settings = settings)
    (now : Int64) :
    ∃ creation indices, s.createIndex now index (some settings) none =
        (.ok creation, { s with indices := indices }) ∧
      indices.contains index = true ∧
      ∀ other, s.indices.contains other = true → indices.contains other = true := by
  unfold createIndex
  rw [if_neg (by omega)]
  cases hfind : s.indices.find? index with
  | some data =>
    refine ⟨.alreadyExists, s.indices, ?_, Keyed.contains_of_find? hfind, fun _ h => h⟩
    have hsame : data.settings = s.settingsFor index (some settings) := hsettings data hfind
    simp only [if_pos hsame]
  | none =>
    exact ⟨.created, _, rfl, (Keyed.contains_insert _ _ _ _).mpr (.inl rfl),
      fun other h => (Keyed.contains_insert _ _ _ _).mpr (.inr h)⟩

section

variable {s : Store} (aliasName : String) {writer : String} {adds : List (String × Bool)}

def enlist (members : Members) (adds : List (String × Bool)) : Members :=
  adds.foldl (fun members e => members.insert e.1 e.2) members

private theorem foldlM_apply_of_contains
    (hindices : ∀ e ∈ adds, s.indices.contains e.1 = true) (members : Members)
    (aliases : Keyed Members) (hm : (aliases.find? aliasName).getD ∅ = members) :
    ∃ applied, (adds.map fun e => .add e.1 aliasName e.2).foldlM (AliasAction.apply s.indices)
        aliases = .ok applied ∧
      ∀ other, applied.find? other =
        if other = aliasName ∧ adds ≠ [] then some (enlist members adds)
        else aliases.find? other := by
  induction adds generalizing members aliases with
  | nil => exact ⟨aliases, rfl, by simp⟩
  | cons e rest ih =>
    have happly : AliasAction.apply s.indices aliases (.add e.1 aliasName e.2) =
        .ok (aliases.insert aliasName (members.insert e.1 e.2)) := by
      rw [AliasAction.apply, if_pos (hindices e List.mem_cons_self), attach, hm]
    obtain ⟨applied, hfold, hfind⟩ := ih
      (fun d hd => hindices d (List.mem_cons_of_mem e hd)) (members.insert e.1 e.2)
      (aliases.insert aliasName (members.insert e.1 e.2)) (by rw [Keyed.find?_insert_self]; rfl)
    refine ⟨applied, ?_, fun other => ?_⟩
    · rw [List.map_cons, List.foldlM_cons, happly]
      exact hfold
    · rw [hfind, Keyed.find?_insert]
      by_cases ho : other = aliasName
      · cases rest <;> simp [ho, enlist]
      · simp [ho]

private theorem foldlM_settleAlias_of_writer {aliases : Keyed Members} {members : Members}
    (hm : aliases.find? aliasName = some members) (hw : SoleWriter members writer)
    {names : List String} (hnames : ∀ name ∈ names, name = aliasName) :
    names.foldlM settleAlias aliases = .ok aliases := by
  have hempty : members.isEmpty = false :=
    (Keyed.isEmpty_eq_false_iff members).mpr ⟨writer, hw.contains⟩
  have hone := (length_writers_eq_one_iff members).mpr ⟨writer, hw⟩
  induction names with
  | nil => rfl
  | cons name rest ih =>
    have hsettle : settleAlias aliases name = .ok aliases := by
      rw [hnames name List.mem_cons_self, settleAlias, hm]
      simp [hempty, hone]
    rw [List.foldlM_cons, hsettle]
    exact ih fun other ho => hnames other (List.mem_cons_of_mem name ho)

theorem updateAliases_of_writer (hfaults : s.faults.aliasUpdates = 0) (hadds : adds ≠ [])
    (hindices : ∀ e ∈ adds, s.indices.contains e.1 = true)
    (hw : SoleWriter (enlist ((s.aliases.find? aliasName).getD ∅) adds) writer) :
    s.updateAliases (adds.map fun e => .add e.1 aliasName e.2) =
      (.ok (), { s with aliases :=
        s.aliases.insert aliasName (enlist ((s.aliases.find? aliasName).getD ∅) adds) }) := by
  obtain ⟨applied, hfold, hfind⟩ := foldlM_apply_of_contains aliasName hindices _ s.aliases rfl
  have happlied : applied =
      s.aliases.insert aliasName (enlist ((s.aliases.find? aliasName).getD ∅) adds) := by
    refine Keyed.ext_find? fun other => ?_
    rw [hfind, Keyed.find?_insert]
    by_cases ho : other = aliasName <;> simp [ho, hadds]
  have hnames : ∀ name ∈ (adds.map fun e => AliasAction.add e.1 aliasName e.2).map
      AliasAction.aliasName, name = aliasName := by
    intro name hname
    rw [List.map_map] at hname
    obtain ⟨e, _, rfl⟩ := List.mem_map.mp hname
    rfl
  have hsettle := foldlM_settleAlias_of_writer aliasName
    (happlied ▸ Keyed.find?_insert_self _ _ _) hw hnames
  unfold updateAliases
  rw [if_neg (by omega), hfold]
  simp only [bind, Except.bind, hsettle]
  rw [happlied]

end

end MetricRelay.Store

import MetricRelay.Proofs.Keyed
import MetricRelay.Store.Request

-- Every alias of a store has members, all of them indices, of which exactly one takes the writes.

namespace MetricRelay.Store

-- Of the members this one takes the writes, and no other.
def SoleWriter (members : Members) (index : String) : Prop :=
  ∀ other, members.find? other = some true ↔ other = index

theorem mem_writers_iff (members : Members) (index : String) :
    index ∈ writers members ↔ members.find? index = some true := by
  unfold writers
  rw [List.mem_map, ← Keyed.mem_toList_iff]
  constructor
  · rintro ⟨⟨other, flag⟩, hm, rfl⟩
    obtain ⟨hm, rfl⟩ := List.mem_filter.mp hm
    exact hm
  · intro hm
    exact ⟨(index, true), List.mem_filter.mpr ⟨hm, rfl⟩, rfl⟩

theorem nodup_writers (members : Members) : (writers members).Nodup :=
  (Keyed.nodup_keys members).sublist (List.filter_sublist.map Prod.fst)

theorem writers_eq_singleton_iff (members : Members) (index : String) :
    writers members = [index] ↔ SoleWriter members index := by
  constructor
  · intro h other
    rw [← mem_writers_iff, h, List.mem_singleton]
  · intro h
    have hperm : (writers members).Perm [index] := by
      refine (List.perm_ext_iff_of_nodup (nodup_writers members) (by simp)).mpr fun other => ?_
      rw [mem_writers_iff, h other, List.mem_singleton]
    exact List.perm_singleton.mp hperm

theorem length_writers_eq_one_iff (members : Members) :
    (writers members).length = 1 ↔ ∃ index, SoleWriter members index := by
  rw [List.length_eq_one_iff]
  exact exists_congr fun index => writers_eq_singleton_iff members index

theorem SoleWriter.contains {members : Members} {index : String} (h : SoleWriter members index) :
    members.contains index = true :=
  Keyed.contains_of_find? ((h index).mpr rfl)

theorem SoleWriter.unique {members : Members} {index other : String}
    (h : SoleWriter members index) (ho : SoleWriter members other) : index = other :=
  (ho index).mp ((h index).mpr rfl)

structure MembersSound (indices : Keyed IndexData) (members : Members) : Prop where
  exist : ∀ index, members.contains index = true → indices.contains index = true
  writer : ∃ index, SoleWriter members index

def AliasesSound (s : Store) : Prop :=
  ∀ aliasName members, s.aliases.find? aliasName = some members → MembersSound s.indices members

theorem MembersSound.mono {indices more : Keyed IndexData} {members : Members}
    (h : MembersSound indices members)
    (hmore : ∀ index, indices.contains index = true → more.contains index = true) :
    MembersSound more members :=
  ⟨fun index hm => hmore index (h.exist index hm), h.writer⟩

theorem writeIndex?_eq_some_iff {s : Store} (hs : s.AliasesSound) (aliasName index : String) :
    s.writeIndex? aliasName = some index ↔
      ∃ members, s.aliases.find? aliasName = some members ∧ SoleWriter members index := by
  unfold writeIndex?
  rw [Option.bind_eq_some_iff]
  refine exists_congr fun members => and_congr_right fun hm => ?_
  obtain ⟨sole, hsole⟩ := (hs aliasName members hm).writer
  rw [(writers_eq_singleton_iff members sole).mpr hsole, List.head?_cons, Option.some_inj]
  exact ⟨fun he => he ▸ hsole, fun h => hsole.unique h⟩

-- An alias without a write index is none at all.
theorem writeIndex?_eq_none_iff {s : Store} (hs : s.AliasesSound) (aliasName : String) :
    s.writeIndex? aliasName = none ↔ s.aliases.find? aliasName = none := by
  constructor
  · intro h
    cases hm : s.aliases.find? aliasName with
    | none => rfl
    | some members =>
      obtain ⟨sole, hsole⟩ := (hs aliasName members hm).writer
      rw [(writeIndex?_eq_some_iff hs aliasName sole).mpr ⟨members, hm, hsole⟩] at h
      cases h
  · intro h
    simp [writeIndex?, h]

-- What the operations do to soundness.

theorem contains_indices_bulk (s : Store) (target index : String) (docs : List Document)
    (h : s.indices.contains index = true) :
    (s.bulk target docs).2.indices.contains index = true := by
  unfold bulk
  dsimp only
  split
  · exact h
  · split
    · exact h
    · split
      · exact h
      · exact (Keyed.contains_insert _ _ _ _).mpr (.inr h)

theorem aliases_bulk (s : Store) (target : String) (docs : List Document) :
    (s.bulk target docs).2.aliases = s.aliases := by
  unfold bulk
  dsimp only
  split
  · rfl
  · split
    · rfl
    · split <;> rfl

-- A request for an index makes it or leaves the indices as they are.
theorem indices_createIndex (s : Store) (now : Int64) (made : String)
    (asked : Option Index.Settings) (writeAlias : Option String) :
    (s.createIndex now made asked writeAlias).2.indices = s.indices ∨
      s.indices.find? made = none ∧ (s.createIndex now made asked writeAlias).2.indices =
        s.indices.insert made ⟨s.settingsFor made asked, now, [], 0⟩ := by
  unfold createIndex
  dsimp only
  split
  · exact .inl rfl
  · split
    · split <;> exact .inl rfl
    · rename_i hnew
      split
      · exact .inr ⟨hnew, rfl⟩
      · split
        · exact .inl rfl
        · exact .inr ⟨hnew, rfl⟩

theorem contains_indices_createIndex (s : Store) (now : Int64) (made index : String)
    (asked : Option Index.Settings) (writeAlias : Option String)
    (h : s.indices.contains index = true) :
    (s.createIndex now made asked writeAlias).2.indices.contains index = true := by
  rcases indices_createIndex s now made asked writeAlias with hsame | ⟨-, hmade⟩
  · rw [hsame]
    exact h
  · rw [hmade]
    exact (Keyed.contains_insert _ _ _ _).mpr (.inr h)

theorem soleWriter_insert_empty (index : String) :
    SoleWriter ((∅ : Members).insert index true) index := by
  intro other
  rw [Keyed.find?_insert]
  by_cases he : other = index <;> simp [he]

theorem createIndex_sound {s : Store} (hs : s.AliasesSound) (now : Int64) (index : String)
    (asked : Option Index.Settings) (writeAlias : Option String) :
    (s.createIndex now index asked writeAlias).2.AliasesSound := by
  have hmore := fun made => contains_indices_createIndex s now index made asked writeAlias
  unfold createIndex at hmore ⊢
  dsimp only at hmore ⊢
  split
  · exact hs
  · split
    · split <;> exact hs
    · split
      · intro other members hm
        exact (hs other members hm).mono (by simpa [*] using hmore)
      · rename_i aliasName
        split
        · exact hs
        · -- the alias has no write index, so it is new and the index its only member
          rename_i hnone
          have hfind := (writeIndex?_eq_none_iff hs aliasName).mp hnone
          intro other members hm
          simp only [attach, hfind, Option.getD_none] at hm
          rw [Keyed.find?_insert] at hm
          by_cases he : other = aliasName
          · rw [if_pos he, Option.some_inj] at hm
            subst hm
            refine ⟨fun made hmade => ?_, index, soleWriter_insert_empty index⟩
            rw [Keyed.contains_insert] at hmade ⊢
            cases hmade with
            | inl h => exact .inl h
            | inr h => simp [Keyed.contains] at h
          · rw [if_neg he] at hm
            exact (hs other members hm).mono (by simpa [*] using hmore)

-- An update of aliases.

private theorem apply_ok {indices : Keyed IndexData} {aliases updated : Keyed Members}
    {a : AliasAction} (h : a.apply indices aliases = .ok updated) :
    (∀ other, other ≠ a.aliasName → updated.find? other = aliases.find? other) ∧
    ((∀ other members, aliases.find? other = some members →
        ∀ index, members.contains index = true → indices.contains index = true) →
      ∀ other members, updated.find? other = some members →
        ∀ index, members.contains index = true → indices.contains index = true) := by
  cases a with
  | add made aliasName isWriter =>
    simp only [AliasAction.apply] at h
    split at h
    · rename_i hmade
      cases h
      refine ⟨fun other hne => Keyed.find?_insert_of_ne _ _ hne, fun hold other members hm => ?_⟩
      unfold attach at hm
      rw [Keyed.find?_insert] at hm
      by_cases he : other = aliasName
      · rw [if_pos he, Option.some_inj] at hm
        subst hm
        intro index hi
        rw [Keyed.contains_insert] at hi
        rcases hi with rfl | hi
        · exact hmade
        · cases hf : aliases.find? aliasName with
          | none => simp [hf, Keyed.contains] at hi
          | some before =>
            rw [hf, Option.getD_some] at hi
            exact hold aliasName before hf index hi
      · rw [if_neg he] at hm
        exact hold other members hm
    · cases h
  | remove gone aliasName =>
    simp only [AliasAction.apply] at h
    split at h
    · cases h
    · rename_i before hf
      split at h
      · cases h
        refine ⟨fun other hne => Keyed.find?_insert_of_ne _ _ hne, fun hold other members hm => ?_⟩
        rw [Keyed.find?_insert] at hm
        by_cases he : other = aliasName
        · rw [if_pos he, Option.some_inj] at hm
          subst hm
          intro index hi
          apply hold aliasName before hf index
          unfold Keyed.contains at hi ⊢
          rw [Keyed.find?_erase] at hi
          split at hi
          · simp at hi
          · exact hi
        · rw [if_neg he] at hm
          exact hold other members hm
      · cases h

private theorem foldlM_apply_ok {indices : Keyed IndexData} {actions : List AliasAction}
    {aliases updated : Keyed Members}
    (h : actions.foldlM (AliasAction.apply indices) aliases = .ok updated) :
    (∀ other, other ∉ actions.map AliasAction.aliasName →
      updated.find? other = aliases.find? other) ∧
    ((∀ other members, aliases.find? other = some members →
        ∀ index, members.contains index = true → indices.contains index = true) →
      ∀ other members, updated.find? other = some members →
        ∀ index, members.contains index = true → indices.contains index = true) := by
  induction actions generalizing aliases with
  | nil => cases h; exact ⟨fun _ _ => rfl, id⟩
  | cons a rest ih =>
    rw [List.foldlM_cons] at h
    cases ha : a.apply indices aliases with
    | error e => rw [ha] at h; cases h
    | ok next =>
      rw [ha] at h
      obtain ⟨hframe, hexist⟩ := apply_ok ha
      obtain ⟨hframe', hexist'⟩ := ih h
      refine ⟨fun other ho => ?_, fun hold => hexist' (hexist hold)⟩
      rw [List.map_cons, List.mem_cons, not_or] at ho
      rw [hframe' other ho.2, hframe other ho.1]

private theorem settleAlias_ok {aliases settled : Keyed Members} {aliasName : String}
    (h : settleAlias aliases aliasName = .ok settled) :
    (∀ other members, settled.find? other = some members →
      aliases.find? other = some members) ∧
    ∀ members, settled.find? aliasName = some members → ∃ index, SoleWriter members index := by
  unfold settleAlias at h
  split at h
  · rename_i hnone
    cases h
    refine ⟨fun _ _ hm => hm, fun members hm => ?_⟩
    rw [hnone] at hm
    cases hm
  · rename_i before hf
    dsimp only at h
    split at h
    · cases h
      refine ⟨fun other members hm => ?_, fun members hm => ?_⟩
      · rw [Keyed.find?_erase] at hm
        split at hm
        · cases hm
        · exact hm
      · rw [Keyed.find?_erase, if_pos rfl] at hm
        cases hm
    · split at h
      · rename_i hone
        cases h
        refine ⟨fun _ _ hm => hm, fun members hm => ?_⟩
        rw [hf, Option.some_inj] at hm
        subst hm
        exact (length_writers_eq_one_iff before).mp hone
      · cases h

theorem foldlM_settleAlias_ok {names : List String} {aliases settled : Keyed Members}
    (h : names.foldlM settleAlias aliases = .ok settled) :
    (∀ other members, settled.find? other = some members →
      aliases.find? other = some members) ∧
    ∀ name ∈ names, ∀ members, settled.find? name = some members →
      ∃ index, SoleWriter members index := by
  induction names generalizing aliases with
  | nil => cases h; exact ⟨fun _ _ hm => hm, by simp⟩
  | cons first rest ih =>
    rw [List.foldlM_cons] at h
    cases hf : settleAlias aliases first with
    | error e => rw [hf] at h; cases h
    | ok next =>
      rw [hf] at h
      obtain ⟨hsub, hone⟩ := settleAlias_ok hf
      obtain ⟨hsub', hone'⟩ := ih h
      refine ⟨fun other members hm => hsub other members (hsub' other members hm), ?_⟩
      intro name hname members hm
      cases List.mem_cons.mp hname with
      | inl he => subst he; exact hone members (hsub' name members hm)
      | inr hr => exact hone' name hr members hm

theorem updateAliases_sound {s : Store} (hs : s.AliasesSound) (actions : List AliasAction) :
    (s.updateAliases actions).2.AliasesSound := by
  unfold updateAliases
  split
  · exact hs
  · dsimp only
    split
    · rename_i updated h
      cases hf : actions.foldlM (AliasAction.apply s.indices) s.aliases with
      | error e => rw [hf] at h; cases h
      | ok applied =>
        rw [hf] at h
        obtain ⟨hframe, hexist⟩ := foldlM_apply_ok hf
        obtain ⟨hsub, hone⟩ := foldlM_settleAlias_ok h
        intro other members hm
        refine ⟨hexist (fun a m ha => (hs a m ha).exist) other members (hsub other members hm), ?_⟩
        -- only the aliases that some action named were looked at again
        by_cases ho : other ∈ actions.map AliasAction.aliasName
        · exact hone other ho members hm
        · have hold := hsub other members hm
          rw [hframe other ho] at hold
          exact (hs other members hold).writer
    · exact hs

private theorem foldlM_settleAlias_other {names : List String} {aliases settled : Keyed Members}
    {other : String} (ho : other ∉ names) (h : names.foldlM settleAlias aliases = .ok settled) :
    settled.find? other = aliases.find? other := by
  induction names generalizing aliases with
  | nil =>
    cases h
    rfl
  | cons name rest ih =>
    rw [List.mem_cons, not_or] at ho
    rw [List.foldlM_cons] at h
    cases hf : settleAlias aliases name with
    | error e => rw [hf] at h; cases h
    | ok next =>
      rw [hf] at h
      have hnext : next.find? other = aliases.find? other := by
        unfold settleAlias at hf
        split at hf
        · cases hf
          rfl
        · dsimp only at hf
          split at hf
          · cases hf
            rw [Keyed.find?_erase, if_neg ho.1]
          · split at hf
            · cases hf
              rfl
            · cases hf
      rw [ih ho.2 h, hnext]

-- Aliases that an update does not name stay as they are.
theorem updateAliases_other (s : Store) {actions : List AliasAction} {other : String}
    (ho : other ∉ actions.map AliasAction.aliasName) :
    (s.updateAliases actions).2.aliases.find? other = s.aliases.find? other := by
  unfold updateAliases
  split
  · rfl
  · dsimp only
    split
    · rename_i updated h
      cases hf : actions.foldlM (AliasAction.apply s.indices) s.aliases with
      | error e => rw [hf] at h; cases h
      | ok applied =>
        rw [hf] at h
        exact (foldlM_settleAlias_other ho h).trans ((foldlM_apply_ok hf).1 other ho)
    · rfl

-- An update that only adds members to one alias.

private theorem foldlM_apply_adds {indices : Keyed IndexData} {aliasName : String}
    {adds : List (String × Bool)} {aliases updated : Keyed Members}
    (h : (adds.map fun e => .add e.1 aliasName e.2).foldlM (AliasAction.apply indices) aliases =
      .ok updated) :
    (updated.find? aliasName).getD ∅ =
      adds.foldl (fun members e => members.insert e.1 e.2) ((aliases.find? aliasName).getD ∅) ∧
    (adds ≠ [] → updated.contains aliasName = true) ∧
    ∀ e ∈ adds, indices.contains e.1 = true := by
  induction adds generalizing aliases with
  | nil =>
    cases h
    exact ⟨rfl, fun hne => absurd rfl hne, by simp⟩
  | cons e rest ih =>
    rw [List.map_cons, List.foldlM_cons] at h
    by_cases hc : indices.contains e.1 = true
    · have happly : AliasAction.apply indices aliases (.add e.1 aliasName e.2) =
          .ok (attach aliases aliasName e.1 e.2) := if_pos hc
      rw [happly] at h
      obtain ⟨hmembers, hkept, hexist⟩ := ih h
      refine ⟨?_, fun _ => ?_, ?_⟩
      · rw [hmembers, attach, Keyed.find?_insert_self]
        rfl
      · cases rest with
        | nil =>
          cases h
          exact (Keyed.contains_insert _ _ _ _).mpr (.inl rfl)
        | cons _ _ => exact hkept (by simp)
      · intro other ho
        cases List.mem_cons.mp ho with
        | inl he => exact he ▸ hc
        | inr hr => exact hexist other hr
    · have happly : AliasAction.apply indices aliases (.add e.1 aliasName e.2) =
          .error (noSuchIndex e.1) := if_neg hc
      rw [happly] at h
      cases h

private theorem foldlM_settleAlias_same {names : List String} {aliasName : String}
    {aliases settled : Keyed Members} {members : Members}
    (hnames : ∀ name ∈ names, name = aliasName) (hm : aliases.find? aliasName = some members)
    (hne : members.isEmpty = false) (h : names.foldlM settleAlias aliases = .ok settled) :
    settled = aliases := by
  induction names with
  | nil =>
    cases h
    rfl
  | cons name rest ih =>
    have hfirst : settleAlias aliases name = .ok aliases ∨
        ∃ e, settleAlias aliases name = .error e := by
      rw [hnames name List.mem_cons_self]
      unfold settleAlias
      rw [hm]
      simp only [hne, Bool.false_eq_true, if_false]
      split
      · exact .inl rfl
      · exact .inr ⟨_, rfl⟩
    rw [List.foldlM_cons] at h
    rcases hfirst with hok | ⟨e, herror⟩
    · rw [hok] at h
      exact ih (fun other ho => hnames other (List.mem_cons_of_mem _ ho)) h
    · rw [herror] at h
      cases h

private theorem foldl_insert_contains {adds : List (String × Bool)} {members : Members}
    {index : String}
    (h : members.contains index = true ∨ ∃ e ∈ adds, e.1 = index) :
    (adds.foldl (fun members e => members.insert e.1 e.2) members).contains index = true := by
  induction adds generalizing members with
  | nil => simpa using h
  | cons e rest ih =>
    apply ih
    rw [Keyed.contains_insert]
    rcases h with h | ⟨other, ho, rfl⟩
    · exact .inl (.inr h)
    · cases List.mem_cons.mp ho with
      | inl he => exact .inl (.inl (by rw [he]))
      | inr hr => exact .inr ⟨other, hr, rfl⟩

theorem updateAliases_adds (s : Store) (aliasName : String) {adds : List (String × Bool)}
    (hadds : adds ≠ []) :
    let t := (s.updateAliases (adds.map fun e => .add e.1 aliasName e.2)).2
    t.aliases = s.aliases ∨
      ∃ members, t.aliases.find? aliasName = some members ∧
        members = adds.foldl (fun members e => members.insert e.1 e.2)
          ((s.aliases.find? aliasName).getD ∅) ∧
        (∃ index, SoleWriter members index) ∧
        ∀ e ∈ adds, s.indices.contains e.1 = true := by
  intro t
  have hupdate : t = (s.updateAliases (adds.map fun e => .add e.1 aliasName e.2)).2 := rfl
  unfold updateAliases at hupdate
  split at hupdate
  · rw [hupdate]
    exact .inl rfl
  · dsimp only at hupdate
    split at hupdate
    · rename_i settled h
      right
      cases hf : (adds.map fun e => .add e.1 aliasName e.2).foldlM
          (AliasAction.apply s.indices) s.aliases with
      | error e => rw [hf] at h; cases h
      | ok applied =>
        rw [hf] at h
        obtain ⟨hmembers, hkept, hexist⟩ := foldlM_apply_adds hf
        obtain ⟨members, hm⟩ := (Keyed.contains_iff _ _).mp (hkept hadds)
        rw [hm, Option.getD_some] at hmembers
        have hnames : ∀ name ∈ (adds.map fun e => AliasAction.add e.1 aliasName e.2).map
            AliasAction.aliasName, name = aliasName := by
          intro name hname
          rw [List.map_map] at hname
          obtain ⟨e, _, rfl⟩ := List.mem_map.mp hname
          rfl
        obtain ⟨first, rest, rfl⟩ := List.exists_cons_of_ne_nil hadds
        have hne : members.isEmpty = false := by
          rw [Keyed.isEmpty_eq_false_iff, hmembers]
          exact ⟨first.1, foldl_insert_contains (.inr ⟨first, List.mem_cons_self, rfl⟩)⟩
        have hsame := foldlM_settleAlias_same hnames hm hne h
        subst hsame
        obtain ⟨_, hone⟩ := foldlM_settleAlias_ok h
        rw [hupdate]
        exact ⟨members, hm, hmembers, hone aliasName List.mem_cons_self members hm, hexist⟩
    · rw [hupdate]
      exact .inl rfl

theorem bulk_sound {s : Store} (hs : s.AliasesSound) (target : String) (docs : List Document) :
    (s.bulk target docs).2.AliasesSound := by
  intro other members hm
  rw [aliases_bulk] at hm
  exact (hs other members hm).mono fun index => contains_indices_bulk s target index docs

theorem answer_sound {s : Store} (hs : s.AliasesSound) (now : Int64) (r : Request) :
    (s.answer now r).2.AliasesSound := by
  cases r with
  | bulk target docs => exact bulk_sound hs target docs
  | createIndex index asked writeAlias => exact createIndex_sound hs now index asked writeAlias
  | updateAliases actions => exact updateAliases_sound hs actions
  | putTemplate template =>
    change (s.putTemplate template).2.AliasesSound
    unfold putTemplate
    split <;> exact hs
  | writeIndex _ => exact hs
  | indexStats _ => exact hs
  | search _ => exact hs
  | ping => exact hs

-- What may happen to a store.
inductive Event
  | ask (now : Int64) (r : Request)
  | inject (faults : Faults)

def occur (s : Store) : Event → Store
  | .ask now r => (s.answer now r).2
  | .inject faults => { s with faults := faults }

-- An empty store after some events.
def after (events : List Event) : Store := events.foldl occur empty

theorem occur_sound {s : Store} (hs : s.AliasesSound) (e : Event) : (s.occur e).AliasesSound := by
  cases e with
  | ask now r => exact answer_sound hs now r
  | inject faults => exact hs

theorem empty_sound : empty.AliasesSound := by
  intro other members hm
  cases hm

theorem after_sound (events : List Event) : (after events).AliasesSound :=
  List.foldlRecOn events occur empty_sound fun _ hs e _ => occur_sound hs e

-- A bulk request to an alias gets one outcome for each document, unless it is to fail.
theorem bulk_to_alias {s : Store} (hs : s.AliasesSound) {aliasName : String}
    (ha : s.aliases.contains aliasName = true) (docs : List Document) :
    (s.bulk aliasName docs).1 = .error (.unavailable "injected bulk failure") ∧ 0 < s.faults.bulk ∨
      ∃ outcomes, (s.bulk aliasName docs).1 = .ok outcomes := by
  have htarget : ∃ index data, s.writeTarget aliasName = .ok index ∧
      s.indices.find? index = some data := by
    unfold writeTarget
    by_cases hi : s.indices.contains aliasName = true
    · obtain ⟨data, hd⟩ := (Keyed.contains_iff _ _).mp hi
      exact ⟨aliasName, data, if_pos hi, hd⟩
    · obtain ⟨members, hm⟩ := (Keyed.contains_iff _ _).mp ha
      obtain ⟨index, hw⟩ := (hs aliasName members hm).writer
      have hwi := (writeIndex?_eq_some_iff hs aliasName index).mpr ⟨members, hm, hw⟩
      obtain ⟨data, hd⟩ := (Keyed.contains_iff _ _).mp
        ((hs aliasName members hm).exist index hw.contains)
      exact ⟨index, data, by simp [hi, ha, hwi], hd⟩
  obtain ⟨index, data, ht, hd⟩ := htarget
  have ht' : ({ s with bulkRequests := s.bulkRequests + 1 } : Store).writeTarget aliasName =
      .ok index := ht
  by_cases hf : 0 < s.faults.bulk
  · left
    simp [bulk, hf]
  · right
    exact ⟨(judgeAll s.faults docs).1, by simp only [bulk, hf, if_false, ht', hd]⟩

theorem alias_has_sole_writer (events : List Event) :
    (∀ aliasName members, (aliasName, members) ∈ (after events).aliases.toList →
      members.toList ≠ [] ∧
      (∀ index ∈ members.keys, index ∈ (after events).indices.keys) ∧
      ∃! index, (index, true) ∈ members.toList) ∧
    ∀ aliasName ∈ (after events).aliases.keys, ∀ docs,
      ((after events).bulk aliasName docs).1 ≠
        .error (.store 400 ("no write index is defined for alias [" ++ aliasName ++ "]")) ∧
      (∀ index, ((after events).bulk aliasName docs).1 ≠
        .error (.internal ("alias points at missing index " ++ index))) ∧
      ((after events).faults.bulk = 0 →
        ∃ outcomes, ((after events).bulk aliasName docs).1 = .ok outcomes) := by
  have hs := after_sound events
  constructor
  · intro aliasName members hm
    obtain ⟨hexist, index, hw⟩ := hs aliasName members ((Keyed.mem_toList_iff _ _ _).mp hm)
    have hflag : (index, true) ∈ members.toList :=
      (Keyed.mem_toList_iff _ _ _).mpr ((hw index).mpr rfl)
    refine ⟨List.ne_nil_of_mem hflag, fun other ho => ?_, index, hflag, fun other ho => ?_⟩
    · exact (Keyed.mem_keys_iff _ _).mpr (hexist other ((Keyed.mem_keys_iff _ _).mp ho))
    · exact (hw other).mp ((Keyed.mem_toList_iff _ _ _).mp ho)
  · intro aliasName ha docs
    rcases bulk_to_alias hs ((Keyed.mem_keys_iff _ _).mp ha) docs with ⟨he, hf⟩ | ⟨outcomes, ho⟩
    · rw [he]
      refine ⟨by simp, by simp, fun h0 => ?_⟩
      omega
    · rw [ho]
      exact ⟨by simp, by simp, fun _ => ⟨outcomes, rfl⟩⟩

end MetricRelay.Store

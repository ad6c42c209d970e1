import MetricRelay.Proofs.Store.Alias

-- A request that fails leaves indices, aliases and templates as they were. A list of alias actions
-- is carried out as a whole or not at all.

namespace MetricRelay.Store

variable {s : Store} {aliasName index : String}

-- The same indices, aliases and templates.
structure Alike (s t : Store) : Prop where
  indices : t.indices = s.indices
  aliases : t.aliases = s.aliases
  templates : t.templates = s.templates
  templateRevision : t.templateRevision = s.templateRevision

@[refl] theorem Alike.refl (s : Store) : Alike s s := ⟨rfl, rfl, rfl, rfl⟩

theorem Alike.trans {t u : Store} (h : Alike s t) (h' : Alike t u) : Alike s u :=
  ⟨h'.indices.trans h.indices, h'.aliases.trans h.aliases, h'.templates.trans h.templates,
    h'.templateRevision.trans h.templateRevision⟩

theorem Alike.aliasesSound {t : Store} (h : Alike s t) (hs : s.AliasesSound) :
    t.AliasesSound := by
  intro other members hm
  rw [h.aliases] at hm
  rw [h.indices]
  exact hs other members hm

-- Of the faults to come a request uses up at most one, and that of its own kind.
inductive Spent : Request → Faults → Faults → Prop
  | nothing (r : Request) (f : Faults) : Spent r f f
  | bulk (target : String) (docs : List Document) {f : Faults} (h : 0 < f.bulk) :
      Spent (.bulk target docs) f { f with bulk := f.bulk - 1 }
  | creation (index : String) (asked : Option Index.Settings) (writeAlias : Option String)
      {f : Faults} (h : 0 < f.creations) :
      Spent (.createIndex index asked writeAlias) f { f with creations := f.creations - 1 }
  | aliasUpdate (actions : List AliasAction) {f : Faults} (h : 0 < f.aliasUpdates) :
      Spent (.updateAliases actions) f { f with aliasUpdates := f.aliasUpdates - 1 }

def Request.isBulk : Request → Bool
  | .bulk _ _ => true
  | _ => false

-- What a request may leave behind that has failed.
structure Harmless (r : Request) (s t : Store) : Prop where
  alike : Alike s t
  spent : Spent r s.faults t.faults
  counted : t.bulkRequests = s.bulkRequests + if r.isBulk then 1 else 0

theorem Harmless.refl {r : Request} (hr : r.isBulk = false) (s : Store) : Harmless r s s :=
  ⟨.refl s, .nothing r _, by simp [hr]⟩

theorem bulk_harmless {target : String} {docs : List Document} {e : Error}
    (h : (s.bulk target docs).1 = .error e) :
    Harmless (.bulk target docs) s (s.bulk target docs).2 := by
  unfold bulk at h ⊢
  dsimp only at h ⊢
  split at h
  · rename_i hf
    rw [if_pos hf]
    exact ⟨⟨rfl, rfl, rfl, rfl⟩, .bulk target docs hf, rfl⟩
  · rename_i hf
    rw [if_neg hf]
    split at h
    · exact ⟨⟨rfl, rfl, rfl, rfl⟩, .nothing _ _, rfl⟩
    · split at h
      · exact ⟨⟨rfl, rfl, rfl, rfl⟩, .nothing _ _, rfl⟩
      · -- the index is there, so every document got its outcome
        cases h

theorem createIndex_harmless {now : Int64} {asked : Option Index.Settings}
    {writeAlias : Option String} {e : Error}
    (h : (s.createIndex now index asked writeAlias).1 = .error e) :
    Harmless (.createIndex index asked writeAlias) s
      (s.createIndex now index asked writeAlias).2 := by
  unfold createIndex at h ⊢
  dsimp only at h ⊢
  split at h
  · rename_i hf
    rw [if_pos hf]
    exact ⟨⟨rfl, rfl, rfl, rfl⟩, .creation index asked writeAlias hf, rfl⟩
  · rename_i hf
    rw [if_neg hf]
    split at h
    · split at h
      · cases h
      · rename_i hne
        simp only [hne, if_false]
        exact .refl rfl s
    · split at h
      · cases h
      · split at h
        · exact .refl rfl s
        · cases h

-- An update of aliases is refused for an injected fault, fails and leaves the store as it is, or
-- every action applies and every alias they name settles.
theorem updateAliases_cases (s : Store) (actions : List AliasAction) :
    (0 < s.faults.aliasUpdates ∧
      s.updateAliases actions = (.error (.unavailable "injected alias update failure"),
        { s with faults := { s.faults with aliasUpdates := s.faults.aliasUpdates - 1 } })) ∨
    (∃ e, s.updateAliases actions = (.error e, s)) ∨
    ∃ applied settled, actions.foldlM (AliasAction.apply s.indices) s.aliases = .ok applied ∧
      (actions.map AliasAction.aliasName).foldlM settleAlias applied = .ok settled ∧
      s.updateAliases actions = (.ok (), { s with aliases := settled }) := by
  unfold updateAliases
  by_cases hf : 0 < s.faults.aliasUpdates
  · rw [if_pos hf]
    exact .inl ⟨hf, rfl⟩
  · rw [if_neg hf]
    right
    cases happly : actions.foldlM (AliasAction.apply s.indices) s.aliases with
    | error e => exact .inl ⟨e, rfl⟩
    | ok applied =>
      cases hsettle : (actions.map AliasAction.aliasName).foldlM settleAlias applied with
      | error e => exact .inl ⟨e, by simp [bind, Except.bind, hsettle]⟩
      | ok settled =>
        exact .inr ⟨applied, settled, rfl, hsettle, by simp [bind, Except.bind, hsettle]⟩

theorem updateAliases_harmless {actions : List AliasAction} {e : Error}
    (h : (s.updateAliases actions).1 = .error e) :
    Harmless (.updateAliases actions) s (s.updateAliases actions).2 := by
  rcases s.updateAliases_cases actions with ⟨hf, he⟩ | ⟨other, he⟩ | ⟨_, _, _, _, hok⟩
  · rw [he]
    exact ⟨⟨rfl, rfl, rfl, rfl⟩, .aliasUpdate actions hf, rfl⟩
  · rw [he]
    exact .refl rfl s
  · rw [hok] at h
    cases h

theorem answer_harmless {now : Int64} {r : Request} {e : Error}
    (h : (s.answer now r).1 = .error e) : Harmless r s (s.answer now r).2 := by
  cases r with
  | bulk target docs => exact bulk_harmless h
  | createIndex index asked writeAlias => exact createIndex_harmless h
  | updateAliases actions => exact updateAliases_harmless h
  | putTemplate template => cases h
  | writeIndex _ => exact .refl rfl s
  | indexStats _ => exact .refl rfl s
  | search _ => exact .refl rfl s
  | ping => exact .refl rfl s

-- Actions one after the other.

-- Whether an index is a member of an alias, and if so whether it takes the writes.
def membership (aliases : Keyed Members) (aliasName index : String) : Option Bool :=
  (aliases.find? aliasName).bind fun members => members.find? index

-- The membership an action is to bring about, if it is about this alias and this index.
def AliasAction.verdict? (aliasName index : String) (a : AliasAction) : Option (Option Bool) :=
  match a with
  | .add made name isWriter =>
    if name = aliasName ∧ made = index then some (some isWriter) else none
  | .remove gone name => if name = aliasName ∧ gone = index then some none else none

-- The last action that is about them decides.
def decided (actions : List AliasAction) (aliases : Keyed Members) (aliasName index : String) :
    Option Bool :=
  (actions.reverse.findSome? (AliasAction.verdict? aliasName index)).getD
    (membership aliases aliasName index)

theorem membership_insert (aliases : Keyed Members) (name : String) (members : Members) :
    membership (aliases.insert name members) aliasName index =
      if aliasName = name then members.find? index else membership aliases aliasName index := by
  unfold membership
  rw [Keyed.find?_insert]
  split <;> rfl

-- A new alias starts without members.
theorem find?_getD_empty (aliases : Keyed Members) (aliasName index : String) :
    ((aliases.find? aliasName).getD ∅).find? index = membership aliases aliasName index := by
  unfold membership
  cases aliases.find? aliasName with
  | none => rfl
  | some members => rfl

theorem apply_membership {indices : Keyed IndexData} {aliases updated : Keyed Members}
    {a : AliasAction} (h : a.apply indices aliases = .ok updated) (aliasName index : String) :
    membership updated aliasName index =
      (a.verdict? aliasName index).getD (membership aliases aliasName index) := by
  cases a with
  | add made name isWriter =>
    simp only [AliasAction.apply] at h
    split at h
    · cases h
      rw [attach, membership_insert, Keyed.find?_insert, find?_getD_empty]
      by_cases hn : aliasName = name
      · subst hn
        by_cases hi : index = made
        · simp [AliasAction.verdict?, hi]
        · simp [AliasAction.verdict?, hi, Ne.symm hi]
      · simp [AliasAction.verdict?, hn, Ne.symm hn]
    · cases h
  | remove gone name =>
    simp only [AliasAction.apply] at h
    split at h
    · cases h
    · rename_i members hm
      split at h
      · cases h
        rw [membership_insert, Keyed.find?_erase]
        have hold : members.find? index = membership aliases name index := by
          simp [membership, hm]
        by_cases hn : aliasName = name
        · subst hn
          by_cases hi : index = gone
          · simp [AliasAction.verdict?, hi]
          · simp [AliasAction.verdict?, hi, Ne.symm hi, hold]
        · simp [AliasAction.verdict?, hn, Ne.symm hn]
      · cases h

theorem foldlM_apply_membership {indices : Keyed IndexData} {actions : List AliasAction}
    {aliases updated : Keyed Members}
    (h : actions.foldlM (AliasAction.apply indices) aliases = .ok updated)
    (aliasName index : String) :
    membership updated aliasName index = decided actions aliases aliasName index := by
  induction actions generalizing aliases with
  | nil =>
    cases h
    rfl
  | cons a rest ih =>
    rw [List.foldlM_cons] at h
    cases ha : a.apply indices aliases with
    | error e => rw [ha] at h; cases h
    | ok next =>
      rw [ha] at h
      rw [ih h]
      unfold decided
      rw [apply_membership ha, List.reverse_cons, List.findSome?_append]
      cases rest.reverse.findSome? (AliasAction.verdict? aliasName index) with
      | some verdict => rfl
      | none => cases hv : a.verdict? aliasName index <;> simp [hv]

-- Only an alias without members goes away, so nobody's membership changes.
theorem settleAlias_membership {aliases settled : Keyed Members} {name : String}
    (h : settleAlias aliases name = .ok settled) (aliasName index : String) :
    membership settled aliasName index = membership aliases aliasName index := by
  unfold settleAlias at h
  split at h
  · cases h
    rfl
  · rename_i members hm
    dsimp only at h
    split at h
    · rename_i hempty
      cases h
      have hnone : members.find? index = none := by
        rw [← Keyed.not_contains_iff, ← Bool.not_eq_true]
        intro hc
        rw [(Keyed.isEmpty_eq_false_iff members).mpr ⟨index, hc⟩] at hempty
        cases hempty
      unfold membership
      rw [Keyed.find?_erase]
      by_cases hn : aliasName = name
      · rw [if_pos hn, hn, hm]
        exact hnone.symm
      · rw [if_neg hn]
    · split at h
      · cases h
        rfl
      · cases h

theorem foldlM_settleAlias_membership {names : List String} {aliases settled : Keyed Members}
    (h : names.foldlM settleAlias aliases = .ok settled) (aliasName index : String) :
    membership settled aliasName index = membership aliases aliasName index := by
  induction names generalizing aliases with
  | nil =>
    cases h
    rfl
  | cons first rest ih =>
    rw [List.foldlM_cons] at h
    cases hf : settleAlias aliases first with
    | error e => rw [hf] at h; cases h
    | ok next =>
      rw [hf] at h
      rw [ih h, settleAlias_membership hf]

-- Every action of the list has its effect, or none has.
theorem updateAliases_whole_or_nothing (s : Store) (actions : List AliasAction) :
    (∃ e, (s.updateAliases actions).1 = .error e) ∧ Alike s (s.updateAliases actions).2 ∨
    (s.updateAliases actions).1 = .ok () ∧ ∀ aliasName index,
      membership (s.updateAliases actions).2.aliases aliasName index =
        decided actions s.aliases aliasName index := by
  rcases s.updateAliases_cases actions with ⟨_, he⟩ | ⟨e, he⟩ | ⟨applied, settled, ha, hs, hok⟩
  · rw [he]
    exact .inl ⟨⟨_, rfl⟩, rfl, rfl, rfl, rfl⟩
  · rw [he]
    exact .inl ⟨⟨e, rfl⟩, .refl s⟩
  · rw [hok]
    refine .inr ⟨rfl, fun aliasName index => ?_⟩
    change membership settled aliasName index = _
    rw [foldlM_settleAlias_membership hs, foldlM_apply_membership ha]

-- The first action that cannot be applied is the reason why none is.
theorem updateAliases_of_failing {before after : List AliasAction} {a : AliasAction}
    {aliases : Keyed Members} {e : Error} (hf : s.faults.aliasUpdates = 0)
    (hbefore : before.foldlM (AliasAction.apply s.indices) s.aliases = .ok aliases)
    (ha : a.apply s.indices aliases = .error e) :
    s.updateAliases (before ++ a :: after) = (.error e, s) := by
  have hall : (before ++ a :: after).foldlM (AliasAction.apply s.indices) s.aliases =
      .error e := by
    rw [List.foldlM_append, hbefore]
    change (a :: after).foldlM (AliasAction.apply s.indices) aliases = .error e
    rw [List.foldlM_cons, ha]
    rfl
  unfold updateAliases
  rw [if_neg (by omega), hall]
  rfl

-- Nor does any have its effect if one of the aliases they name would be left with members but
-- not with exactly one that takes the writes.
theorem updateAliases_of_unsettled {actions : List AliasAction} {applied : Keyed Members}
    {members : Members}
    (happly : actions.foldlM (AliasAction.apply s.indices) s.aliases = .ok applied)
    (hname : aliasName ∈ actions.map AliasAction.aliasName)
    (hm : applied.find? aliasName = some members) (hne : members.isEmpty = false)
    (hwriter : ∀ index, ¬SoleWriter members index) :
    (∃ e, (s.updateAliases actions).1 = .error e) ∧ Alike s (s.updateAliases actions).2 := by
  rcases s.updateAliases_cases actions with ⟨_, he⟩ | ⟨e, he⟩ | ⟨other, settled, ha, hs, _⟩
  · rw [he]
    exact ⟨⟨_, rfl⟩, rfl, rfl, rfl, rfl⟩
  · rw [he]
    exact ⟨⟨e, rfl⟩, .refl s⟩
  · exfalso
    rw [happly] at ha
    cases ha
    obtain ⟨hsub, hone⟩ := foldlM_settleAlias_ok hs
    obtain ⟨index, hindex⟩ := (Keyed.isEmpty_eq_false_iff members).mp hne
    obtain ⟨flag, hflag⟩ := (Keyed.contains_iff members index).mp hindex
    -- the alias has a member, so it is still there when all are settled
    have hkept : membership settled aliasName index = some flag := by
      rw [foldlM_settleAlias_membership hs]
      simp [membership, hm, hflag]
    obtain ⟨kept, hkept, _⟩ := Option.bind_eq_some_iff.mp hkept
    have hsame : kept = members := by
      have hold := hsub aliasName kept hkept
      rw [hm, Option.some_inj] at hold
      exact hold.symm
    obtain ⟨sole, hsole⟩ := hone aliasName hname kept hkept
    exact hwriter sole (hsame ▸ hsole)

-- A failed request is harmless; of a list of alias actions none has its effect as soon as one
-- cannot be applied or one of the aliases ends without a sole writer.
theorem failure_changes_nothing (s : Store) :
    (∀ now r e, (s.answer now r).1 = .error e → Harmless r s (s.answer now r).2) ∧
    (∀ actions, (∃ e, (s.updateAliases actions).1 = .error e) ∧
        Alike s (s.updateAliases actions).2 ∨
      (s.updateAliases actions).1 = .ok () ∧ ∀ aliasName index,
        membership (s.updateAliases actions).2.aliases aliasName index =
          decided actions s.aliases aliasName index) ∧
    (∀ before a after aliases e, s.faults.aliasUpdates = 0 →
      before.foldlM (AliasAction.apply s.indices) s.aliases = .ok aliases →
      a.apply s.indices aliases = .error e →
      s.updateAliases (before ++ a :: after) = (.error e, s)) ∧
    ∀ actions applied aliasName members,
      actions.foldlM (AliasAction.apply s.indices) s.aliases = .ok applied →
      aliasName ∈ actions.map AliasAction.aliasName →
      applied.find? aliasName = some members → members.isEmpty = false →
      (∀ index, ¬SoleWriter members index) →
      (∃ e, (s.updateAliases actions).1 = .error e) ∧ Alike s (s.updateAliases actions).2 :=
  ⟨fun _ _ _ => answer_harmless, s.updateAliases_whole_or_nothing,
    fun _ _ _ _ _ => updateAliases_of_failing,
    fun _ _ _ _ happly hname hm => updateAliases_of_unsettled happly hname hm⟩

-- An alias of one index, and a second index.
def pair : Store :=
  after [.ask 0 (.createIndex "a" none (some "m")), .ask 0 (.createIndex "b" none none)]

-- The second index would have become a member, but the next action asks for one that is none.
theorem pair_update_fails :
    pair.updateAliases ([.add "b" "m" false] ++ [.remove "c" "m"]) =
      (.error (.store 404 "aliases [m] missing on index [c]"), pair) ∧
    Harmless (.bulk "c" []) pair (pair.answer 0 (.bulk "c" [])).2 ∧
    ((∃ e, (pair.updateAliases [.add "b" "m" true]).1 = .error e) ∧
      Alike pair (pair.updateAliases [.add "b" "m" true]).2) := by
  have hpair := failure_changes_nothing pair
  refine ⟨?_, ?_, ?_⟩
  · exact hpair.2.2.1 [.add "b" "m" false] (.remove "c" "m") []
      (attach pair.aliases "m" "b" false) _ rfl (by rfl) (by rfl)
  · exact hpair.1 0 (.bulk "c" []) (noSuchIndex "c") (by rfl)
  · -- both indices would take the writes
    have hmembers : ((attach pair.aliases "m" "b" true).find? "m") =
        some (((∅ : Members).insert "a" true).insert "b" true) := by decide +kernel
    refine hpair.2.2.2 [.add "b" "m" true] (attach pair.aliases "m" "b" true) "m" _ (by rfl)
      (by decide) hmembers (by decide +kernel) fun index hsole => ?_
    have ha := (hsole "a").mp (by decide +kernel)
    have hb := (hsole "b").mp (by decide +kernel)
    rw [← hb] at ha
    revert ha
    decide

end MetricRelay.Store

import MetricRelay.Proofs.Lifecycle.Requests
import MetricRelay.Proofs.Store.Documents

-- What the requests of provisioning and of cycles do to a store. They move no document; at most
-- they make an index a member of the alias, and move the writes from one index to the one that
-- follows it.

namespace MetricRelay.Lifecycle

open Store (Request Members SoleWriter)

-- Names that indices of an alias have.
def Named (aliasName index : String) : Prop :=
  (∃ generation, index = Index.generationName aliasName generation) ∨
    ∃ day, index = Index.dailyName aliasName day

theorem First.named {aliasName index : String} (h : First aliasName index) :
    Named aliasName index :=
  h.imp (fun he => ⟨1, he⟩) id

theorem Follows.named {aliasName current next : String} (h : Follows aliasName current next) :
    Named aliasName next :=
  h.imp (fun he => ⟨_, he⟩) And.left

-- An index that may yet become a member has no documents.
def StrangersEmpty (s : Store) (aliasName : String) : Prop :=
  ∀ index, Named aliasName index → ¬ IsMember s aliasName index → s.documents index = []

section

variable {aliasName : String} {s : Store} {r : Request}

theorem orderly_documents (h : Orderly aliasName s r) (now : Int64) (index : String) :
    (s.answer now r).2.documents index = s.documents index := by
  cases h with
  | putTemplate t =>
    change (s.putTemplate t).2.documents index = s.documents index
    unfold Store.putTemplate
    split <;> rfl
  | writeIndex => rfl
  | indexStats index => rfl
  | begin settings h => exact Store.documents_createIndex s now _ index _ _
  | make settings h => exact Store.documents_createIndex s now _ index _ _
  | attach h =>
    exact Store.documents_eq_of_indices (Store.indices_updateAliases s _) index
  | replace hm h =>
    exact Store.documents_eq_of_indices (Store.indices_updateAliases s _) index

theorem find?_indices_createIndex (s : Store) (now : Int64) {made index : String}
    (asked : Option Index.Settings) (writeAlias : Option String) (hne : index ≠ made) :
    (s.createIndex now made asked writeAlias).2.indices.find? index = s.indices.find? index := by
  rcases Store.indices_createIndex s now made asked writeAlias with hsame | ⟨-, hmade⟩
  · rw [hsame]
  · rw [hmade, Keyed.find?_insert_of_ne _ _ hne]

-- No index comes to bear the alias's own name.
theorem orderly_contains (h : Orderly aliasName s r) (now : Int64)
    (hno : s.indices.contains aliasName = false) :
    (s.answer now r).2.indices.contains aliasName = false := by
  unfold Keyed.contains at hno ⊢
  cases h with
  | putTemplate t =>
    change ((s.putTemplate t).2.indices.find? aliasName).isSome = false
    unfold Store.putTemplate
    split <;> exact hno
  | writeIndex => exact hno
  | indexStats index => exact hno
  | begin settings h =>
    change ((s.createIndex now _ _ _).2.indices.find? aliasName).isSome = false
    rw [find?_indices_createIndex s now _ _ h.ne_aliasName.symm]
    exact hno
  | make settings h =>
    change ((s.createIndex now _ _ _).2.indices.find? aliasName).isSome = false
    rw [find?_indices_createIndex s now _ _ h.ne_aliasName.symm]
    exact hno
  | attach h =>
    change ((s.updateAliases _).2.indices.find? aliasName).isSome = false
    rw [Store.indices_updateAliases]
    exact hno
  | replace hm h =>
    change ((s.updateAliases _).2.indices.find? aliasName).isSome = false
    rw [Store.indices_updateAliases]
    exact hno

-- How a request may change the members of the alias.
inductive Enlists (aliasName : String) (s : Store) (members : Members) : Prop
  | first {index : String} (h : First aliasName index)
      (hm : members = ((s.aliases.find? aliasName).getD ∅).insert index true)
  | next {current next : String} (hc : IsMember s aliasName current)
      (h : Follows aliasName current next)
      (hm : members =
        (((s.aliases.find? aliasName).getD ∅).insert next true).insert current false)

theorem aliases_createIndex (s : Store) (now : Int64) (made : String)
    (asked : Option Index.Settings) (writeAlias : Option String) :
    (s.createIndex now made asked writeAlias).2.aliases = s.aliases ∨
      ∃ aliasName, writeAlias = some aliasName ∧
        (s.createIndex now made asked writeAlias).2.aliases =
          Store.attach s.aliases aliasName made true := by
  unfold Store.createIndex
  dsimp only
  split
  · exact .inl rfl
  · split
    · split <;> exact .inl rfl
    · split
      · exact .inl rfl
      · rename_i aliasName
        split
        · exact .inl rfl
        · exact .inr ⟨aliasName, rfl, rfl⟩

theorem orderly_members (h : Orderly aliasName s r) (now : Int64) :
    (s.answer now r).2.aliases.find? aliasName = s.aliases.find? aliasName ∨
      ∃ members, (s.answer now r).2.aliases.find? aliasName = some members ∧
        Enlists aliasName s members := by
  cases h with
  | putTemplate t =>
    left
    change (s.putTemplate t).2.aliases.find? aliasName = s.aliases.find? aliasName
    unfold Store.putTemplate
    split <;> rfl
  | writeIndex => exact .inl rfl
  | indexStats index => exact .inl rfl
  | @begin index settings h =>
    rcases aliases_createIndex s now index (some settings) (some aliasName) with
      hsame | ⟨other, hother, hnew⟩
    · exact .inl (congrArg (·.find? aliasName) hsame)
    · cases hother
      refine .inr ⟨_, ?_, .first h rfl⟩
      change (s.createIndex now index _ _).2.aliases.find? aliasName = _
      rw [hnew, Store.attach, Keyed.find?_insert_self]
  | @make current next settings h =>
    rcases aliases_createIndex s now next (some settings) none with hsame | ⟨other, hother, _⟩
    · exact .inl (congrArg (·.find? aliasName) hsame)
    · cases hother
  | @attach index h =>
    rcases Store.updateAliases_adds s aliasName (List.cons_ne_nil (index, true) []) with
      hsame | ⟨members, hm, hmembers, _⟩
    · exact .inl (congrArg (·.find? aliasName) hsame)
    · exact .inr ⟨members, hm, .first h hmembers⟩
  | @replace current next hc h =>
    rcases Store.updateAliases_adds s aliasName
        (List.cons_ne_nil (next, true) [(current, false)]) with hsame | ⟨members, hm, hmembers, _⟩
    · exact .inl (congrArg (·.find? aliasName) hsame)
    · exact .inr ⟨members, hm, .next hc h hmembers⟩

theorem Enlists.contains {members : Members} {index : String} (h : Enlists aliasName s members)
    (hi : IsMember s aliasName index) : members.contains index = true := by
  obtain ⟨old, hold, hc⟩ := hi
  cases h with
  | first h hm =>
    rw [hm, hold, Keyed.contains_insert]
    exact .inr hc
  | next hcurrent h hm =>
    rw [hm, hold, Keyed.contains_insert, Keyed.contains_insert]
    exact .inr (.inr hc)

theorem orderly_later (h : Orderly aliasName s r) (now : Int64) :
    Later aliasName s (s.answer now r).2 := by
  intro index hi
  rcases orderly_members h now with hsame | ⟨members, hm, henlists⟩
  · obtain ⟨old, hold, hc⟩ := hi
    exact ⟨old, hsame.trans hold, hc⟩
  · exact ⟨members, hm, henlists.contains hi⟩

-- Where the writes go.

theorem writeIndex?_congr {t : Store}
    (h : t.aliases.find? aliasName = s.aliases.find? aliasName) :
    t.writeIndex? aliasName = s.writeIndex? aliasName := by
  unfold Store.writeIndex?
  rw [h]

-- A second writer does not make an update.
theorem writer_insert_true {before : Members} {sole index writer : String}
    (hsole : SoleWriter before sole) (hwriter : SoleWriter (before.insert index true) writer) :
    writer = sole := by
  refine ((hwriter sole).mp ?_).symm
  rw [Keyed.find?_insert]
  split
  · rfl
  · exact (hsole sole).mpr rfl

-- Only the writer hands over, and only to the next.
theorem writer_handOver {before : Members} {sole current next writer : String}
    (hsole : SoleWriter before sole)
    (hwriter : SoleWriter ((before.insert next true).insert current false) writer) :
    writer = sole ∨ sole = current ∧ writer = next := by
  have hfind : ∀ other, ((before.insert next true).insert current false).find? other =
      if other = current then some false
      else if other = next then some true else before.find? other := by
    intro other
    rw [Keyed.find?_insert, Keyed.find?_insert]
  by_cases hcurrent : sole = current
  · right
    have hflag := (hwriter writer).mpr rfl
    rw [hfind] at hflag
    split at hflag
    · cases hflag
    · rename_i hne
      split at hflag
      · rename_i hnext
        exact ⟨hcurrent, hnext⟩
      · exact absurd (((hsole writer).mp hflag).trans hcurrent) hne
  · left
    refine ((hwriter sole).mp ?_).symm
    rw [hfind, if_neg hcurrent]
    split
    · rfl
    · exact (hsole sole).mpr rfl

theorem orderly_writeIndex? (hs : s.AliasesSound) (h : Orderly aliasName s r) (now : Int64) :
    (s.answer now r).2.writeIndex? aliasName = s.writeIndex? aliasName ∨
      (s.writeIndex? aliasName = none ∧ ∃ index, First aliasName index ∧
        (s.answer now r).2.writeIndex? aliasName = some index) ∨
      ∃ current next, s.writeIndex? aliasName = some current ∧ Follows aliasName current next ∧
        (s.answer now r).2.writeIndex? aliasName = some next := by
  have ht := Store.answer_sound hs now r
  rcases orderly_members h now with hsame | ⟨members, hm, henlists⟩
  · exact .inl (writeIndex?_congr hsame)
  · obtain ⟨writer, hwriter⟩ := (ht aliasName members hm).writer
    have hnew := (Store.writeIndex?_eq_some_iff ht aliasName writer).mpr ⟨members, hm, hwriter⟩
    rw [hnew]
    cases hold : s.aliases.find? aliasName with
    | none =>
      have hnone := (Store.writeIndex?_eq_none_iff hs aliasName).mpr hold
      rw [hnone]
      cases henlists with
      | @first index h hmembers =>
        rw [hold] at hmembers
        refine .inr (.inl ⟨rfl, index, h, ?_⟩)
        rw [hmembers] at hwriter
        rw [(Store.soleWriter_insert_empty index).unique hwriter]
      | next hc h hmembers =>
        obtain ⟨before, hbefore, _⟩ := hc
        rw [hold] at hbefore
        cases hbefore
    | some before =>
      obtain ⟨sole, hsole⟩ := (hs aliasName before hold).writer
      have hbefore := (Store.writeIndex?_eq_some_iff hs aliasName sole).mpr ⟨before, hold, hsole⟩
      rw [hbefore]
      cases henlists with
      | first h hmembers =>
        rw [hmembers, hold, Option.getD_some] at hwriter
        exact .inl (congrArg some (writer_insert_true hsole hwriter))
      | @next current next hc h hmembers =>
        rw [hmembers, hold, Option.getD_some] at hwriter
        rcases writer_handOver hsole hwriter with hsame | ⟨rfl, rfl⟩
        · -- somebody else had already moved the writes
          exact .inl (congrArg some hsame)
        · exact .inr (.inr ⟨sole, writer, rfl, h, rfl⟩)

-- What is behind the alias.

theorem reachable_eq (hno : s.indices.contains aliasName = false) :
    s.reachable aliasName =
      ((s.aliases.find? aliasName).getD ∅).keys.flatMap s.documents := by
  unfold Store.reachable Store.readTargets
  cases s.aliases.find? aliasName with
  | some members => rfl
  | none =>
    dsimp only
    rw [hno]
    rfl

theorem orderly_reachable (hno : s.indices.contains aliasName = false)
    (hs : StrangersEmpty s aliasName) (h : Orderly aliasName s r) (now : Int64) :
    ((s.answer now r).2.reachable aliasName).Perm (s.reachable aliasName) := by
  have hdocuments : (s.answer now r).2.documents = s.documents :=
    funext (orderly_documents h now)
  have hempty : ∀ index, Named aliasName index →
      ((s.aliases.find? aliasName).getD ∅).contains index = true ∨ s.documents index = [] := by
    intro index hn
    by_cases hi : IsMember s aliasName index
    · obtain ⟨members, hm, hc⟩ := hi
      rw [hm]
      exact .inl hc
    · exact .inr (hs index hn hi)
  rw [reachable_eq hno, reachable_eq (orderly_contains h now hno), hdocuments]
  rcases orderly_members h now with hsame | ⟨members, hm, henlists⟩
  · rw [hsame]
  · rw [hm, Option.getD_some]
    cases henlists with
    | first h hmembers =>
      rw [hmembers]
      exact Store.flatMap_perm_insert true (hempty _ h.named)
    | @next current next hc h hmembers =>
      obtain ⟨before, hbefore, hin⟩ := hc
      rw [hmembers]
      refine (Store.flatMap_perm_insert false (.inl ?_)).trans
        (Store.flatMap_perm_insert true (hempty _ h.named))
      rw [Keyed.contains_insert, hbefore]
      exact .inr hin

end

end MetricRelay.Lifecycle

import MetricRelay.Proofs.Store.Alias

-- Where documents are: a bulk request adds those it accepts to the index that takes the writes at
-- that moment, and nothing else moves a document.

namespace MetricRelay.Store

-- The documents that a bulk request leaves behind.
def taken (s : Store) (target : String) (docs : List Document) : List Document :=
  match (s.bulk target docs).1 with
  | .ok outcomes => accepted docs outcomes
  | .error _ => []

-- All documents behind an alias or an index.
def reachable (s : Store) (target : String) : List Document :=
  (s.readTargets target).flatMap s.documents

theorem documents_eq_of_indices {s t : Store} (h : t.indices = s.indices) (index : String) :
    t.documents index = s.documents index := by
  unfold documents
  rw [h]

theorem documents_insert (s t : Store) (index other : String) (data : IndexData)
    (h : t.indices = s.indices.insert index data) :
    t.documents other = if other = index then data.documents else s.documents other := by
  unfold documents
  rw [h, Keyed.find?_insert]
  by_cases he : other = index <;> simp [he]

theorem documents_of_not_contains {s : Store} {index : String}
    (h : s.indices.find? index = none) : s.documents index = [] := by
  unfold documents
  rw [h]

theorem writeIndex?_of_writeTarget {s : Store} {aliasName index : String}
    (hno : s.indices.contains aliasName = false) (h : s.writeTarget aliasName = .ok index) :
    s.writeIndex? aliasName = some index := by
  unfold writeTarget at h
  rw [hno] at h
  simp only [Bool.false_eq_true, if_false] at h
  split at h
  · split at h
    · rename_i hwriter
      cases h
      exact hwriter
    · cases h
  · cases h

theorem documents_bulk {s : Store} {aliasName : String}
    (hno : s.indices.contains aliasName = false) (docs : List Document) (index : String) :
    (s.bulk aliasName docs).2.documents index = s.documents index ++
      if s.writeIndex? aliasName = some index then s.taken aliasName docs else [] := by
  have hnone : s.documents index = s.documents index ++
      if s.writeIndex? aliasName = some index then ([] : List Document) else [] := by simp
  unfold taken bulk
  dsimp only
  split
  · exact hnone
  · split
    · exact hnone
    · rename_i target htarget
      have hwriter : s.writeIndex? aliasName = some target :=
        writeIndex?_of_writeTarget hno htarget
      split
      · exact hnone
      · rename_i data hdata
        rw [documents_insert s _ target index _ rfl, hwriter]
        by_cases he : index = target
        · rw [if_pos he, if_pos (congrArg some he.symm), he]
          unfold documents
          rw [hdata]
          rfl
        · rw [if_neg he, if_neg fun h => he (Option.some.inj h).symm, List.append_nil]

-- A bulk request makes no index.
theorem contains_of_contains_bulk {s : Store} {target index : String} {docs : List Document}
    (h : (s.bulk target docs).2.indices.contains index = true) :
    s.indices.contains index = true := by
  unfold bulk at h
  dsimp only at h
  split at h
  · exact h
  · split at h
    · exact h
    · split at h
      · exact h
      · rename_i data hdata
        rw [Keyed.contains_insert] at h
        exact h.elim (fun he => he ▸ Keyed.contains_of_find? hdata) id

theorem documents_createIndex (s : Store) (now : Int64) (made index : String)
    (asked : Option Index.Settings) (writeAlias : Option String) :
    (s.createIndex now made asked writeAlias).2.documents index = s.documents index := by
  rcases indices_createIndex s now made asked writeAlias with hsame | ⟨hnew, hmade⟩
  · exact documents_eq_of_indices hsame index
  · -- a new index is as empty as one that is not there
    rw [documents_insert s _ made index _ hmade]
    by_cases he : index = made
    · rw [if_pos he, he, documents_of_not_contains hnew]
    · rw [if_neg he]

theorem indices_updateAliases (s : Store) (actions : List AliasAction) :
    (s.updateAliases actions).2.indices = s.indices := by
  unfold updateAliases
  split
  · rfl
  · dsimp only
    split <;> rfl

-- Members of an alias that has another one more.

theorem flatMap_perm_insert {members : Members} {index : String} (flag : Bool)
    {documents : String → List Document}
    (h : members.contains index = true ∨ documents index = []) :
    ((members.insert index flag).keys.flatMap documents).Perm
      (members.keys.flatMap documents) := by
  refine ((Keyed.keys_insert_perm members index flag).flatMap_right documents).trans ?_
  by_cases hc : members.contains index = true
  · rw [if_pos hc]
  · rw [if_neg hc, List.flatMap_cons, h.resolve_left hc, List.nil_append]

-- Documents that one of several indices takes are behind them all.
theorem flatMap_perm_append {indices : List String} (hnodup : indices.Nodup) {index : String}
    (hm : index ∈ indices) {before after : String → List Document} {more : List Document}
    (h : ∀ other, after other = before other ++ if index = other then more else []) :
    (indices.flatMap after).Perm (indices.flatMap before ++ more) := by
  have hfront := List.perm_cons_erase hm
  have hrest : (indices.erase index).flatMap after = (indices.erase index).flatMap before := by
    refine List.flatMap_congr fun other ho => ?_
    have hne : index ≠ other := fun he => by
      rw [← he] at ho
      exact hnodup.not_mem_erase ho
    rw [h, if_neg hne, List.append_nil]
  calc (indices.flatMap after).Perm ((index :: indices.erase index).flatMap after) :=
        hfront.flatMap_right after
    _ = before index ++ more ++ (indices.erase index).flatMap before := by
        rw [List.flatMap_cons, hrest, h, if_pos rfl]
    List.Perm _ (before index ++ ((indices.erase index).flatMap before ++ more)) := by
        rw [List.append_assoc]
        exact List.perm_append_comm.append_left _
    _ = (index :: indices.erase index).flatMap before ++ more := by
        rw [List.flatMap_cons, List.append_assoc]
    List.Perm _ (indices.flatMap before ++ more) := (hfront.flatMap_right before).symm.append_right more

theorem readTargets_of_find? {s : Store} {aliasName : String} {members : Members}
    (h : s.aliases.find? aliasName = some members) : s.readTargets aliasName = members.keys := by
  unfold readTargets
  rw [h]

theorem reachable_bulk {s : Store} (hs : s.AliasesSound) {aliasName index : String}
    (hno : s.indices.contains aliasName = false) (hw : s.writeIndex? aliasName = some index)
    (docs : List Document) :
    ((s.bulk aliasName docs).2.reachable aliasName).Perm
      (s.reachable aliasName ++ s.taken aliasName docs) := by
  obtain ⟨members, hm, hsole⟩ := (writeIndex?_eq_some_iff hs aliasName index).mp hw
  unfold reachable
  rw [readTargets_of_find? hm, readTargets_of_find? ((aliases_bulk s aliasName docs).symm ▸ hm)]
  refine flatMap_perm_append (Keyed.nodup_keys members)
    ((Keyed.mem_keys_iff members index).mpr hsole.contains) fun other => ?_
  simp only [documents_bulk hno, hw, Option.some_inj]

end MetricRelay.Store

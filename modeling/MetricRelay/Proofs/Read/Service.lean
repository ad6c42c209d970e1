import MetricRelay.Proofs.Read.Series
import MetricRelay.Proofs.Search.Body
import MetricRelay.Proofs.Store.Clear
import MetricRelay.Proofs.Store.Documents
import MetricRelay.Read.Service

-- What a query finds. As long as there are no more matches than a query may return, it returns one
-- series for each label set among them.

namespace MetricRelay

-- A search with room for everything it finds.
theorem Store.search_of_few {s : Store} {query : Search} {compiled : Search.Compiled}
    (h : query.compile = .ok compiled)
    (hfew : ((s.reachable query.target).filter compiled.holds).length ≤ query.size) :
    ∃ hits, s.search query = .ok hits ∧
      hits.Perm ((s.reachable query.target).filter compiled.holds) := by
  refine ⟨_, ?_, List.mergeSort_perm _ fun a b => decide (a.timestamp ≤ b.timestamp)⟩
  unfold search
  rw [h]
  change Except.ok ((((s.reachable query.target).filter compiled.holds).mergeSort _).take _) = _
  rw [List.take_of_length_le]
  rw [List.length_mergeSort]
  exact hfew

namespace Read

open Store (Routine Link)

-- A matcher that no query is refused for.
structure Matcher.Valid (m : Matcher) : Prop where
  name : m.name ≠ ""
  value : m.operator = .pattern ∨ m.operator = .notPattern →
    (Search.wholeValue? m.value).isSome = true

-- A label that is not there counts as empty.
def Matcher.holds (m : Matcher) (labels : Labels) : Bool :=
  let value := Search.labelValue labels m.name
  match m.operator with
  | .equal => value == m.value
  | .notEqual => value != m.value
  | .pattern => Search.isMatch m.value value
  | .notPattern => !Search.isMatch m.value value

-- Whether a sample belongs to what the query asks for.
def Query.selects (q : Query) (s : Sample) : Bool :=
  s.value.isFinite && decide (q.start ≤ s.timestamp) && decide (s.timestamp ≤ q.stop) &&
    q.matchers.all fun m => m.holds s.labelSet

def Matcher.toFilter (m : Matcher) : Search.Filter := ⟨m.name, m.operator, m.value⟩

theorem Matcher.Valid.compiles {m : Matcher} (h : m.Valid) :
    ∃ condition, m.toFilter.compile = .ok condition ∧
      ∀ labels, condition.holds (Search.labelValue labels m.name) = m.holds labels := by
  have hpattern := h.value
  unfold toFilter Search.Filter.compile holds
  dsimp only
  cases hoperator : m.operator with
  | equal => exact ⟨_, rfl, fun _ => rfl⟩
  | notEqual => exact ⟨_, rfl, fun _ => rfl⟩
  | pattern =>
    obtain ⟨regex, hregex⟩ := Option.isSome_iff_exists.mp (hpattern (.inl hoperator))
    rw [hregex]
    refine ⟨.pattern regex, rfl, fun labels => ?_⟩
    simp [Search.isMatch, hregex, Search.Condition.holds]
  | notPattern =>
    obtain ⟨regex, hregex⟩ := Option.isSome_iff_exists.mp (hpattern (.inr hoperator))
    rw [hregex]
    refine ⟨.notPattern regex, rfl, fun labels => ?_⟩
    simp [Search.isMatch, hregex, Search.Condition.holds]

theorem mapM_filter_of_valid {matchers : List Matcher} (h : ∀ m ∈ matchers, m.Valid) :
    matchers.mapM Matcher.filter = .ok (matchers.map Matcher.toFilter) := by
  induction matchers with
  | nil => rfl
  | cons m rest ih =>
    have hfilter : m.filter = .ok m.toFilter := if_neg (h m List.mem_cons_self).name
    rw [List.mapM_cons, hfilter, ih fun other ho => h other (List.mem_cons_of_mem m ho)]
    rfl

theorem mapM_compile_of_valid {matchers : List Matcher} (h : ∀ m ∈ matchers, m.Valid) :
    ∃ conditions, (matchers.map Matcher.toFilter).mapM (fun f => do
        return (f.label, ← f.compile)) = Except.ok conditions ∧
      ∀ labels, (conditions.all fun (label, condition) =>
        condition.holds (Search.labelValue labels label)) = matchers.all fun m => m.holds labels := by
  induction matchers with
  | nil => exact ⟨[], rfl, fun _ => rfl⟩
  | cons m rest ih =>
    obtain ⟨condition, hcondition, hholds⟩ := (h m List.mem_cons_self).compiles
    obtain ⟨conditions, hrest, hall⟩ := ih fun other ho => h other (List.mem_cons_of_mem m ho)
    refine ⟨(m.name, condition) :: conditions, ?_, fun labels => ?_⟩
    · rw [List.map_cons, List.mapM_cons, hcondition, hrest]
      rfl
    · rw [List.all_cons, List.all_cons, hall]
      dsimp only
      rw [hholds]

-- The search that a valid query becomes.
theorem search_of_valid {q : Query} (hrange : q.start ≤ q.stop) (h : ∀ m ∈ q.matchers, m.Valid)
    (aliasName : String) (maxDocs : Nat) :
    ∃ search compiled, q.search aliasName maxDocs = .ok search ∧ search.target = aliasName ∧
      search.size = maxDocs ∧ search.compile = .ok compiled ∧
      ∀ s : Sample, (s.value.isFinite && compiled.holds (.ofSample s)) = q.selects s := by
  obtain ⟨conditions, hconditions, hall⟩ := mapM_compile_of_valid h
  have hcompile : Search.compile ⟨aliasName, q.start, q.stop, q.matchers.map Matcher.toFilter,
      maxDocs⟩ = .ok ⟨q.start, q.stop, conditions⟩ := by
    unfold Search.compile
    rw [hconditions]
    rfl
  refine ⟨_, _, ?_, rfl, rfl, hcompile, fun s => ?_⟩
  · unfold Query.search
    rw [if_neg (by simpa using hrange), mapM_filter_of_valid h]
    change (do
      let _ ← Search.compile ⟨aliasName, q.start, q.stop, q.matchers.map Matcher.toFilter, maxDocs⟩
      return _) = _
    rw [hcompile]
    rfl
  · have hholds : Search.Compiled.holds ⟨q.start, q.stop, conditions⟩ (.ofSample s) =
        (decide (q.start ≤ s.timestamp) && decide (s.timestamp ≤ q.stop) &&
          q.matchers.all fun m => m.holds s.labelSet) := by
      rw [← hall]
      rfl
    unfold Query.selects
    rw [hholds, Bool.and_assoc, Bool.and_assoc, Bool.and_assoc]

-- A read finds what is stored, as long as there is not too much of it. What is made of notes
-- does not matter.
theorem read_of_stored {config : Config} {q : Query} {l : Link} {stored : List Sample}
    (hl : l.Clear) (hrange : q.start ≤ q.stop) (hvalid : ∀ m ∈ q.matchers, m.Valid)
    (hstored : (l.store.reachable config.aliasName).Perm (stored.map .ofSample))
    (hfinite : ∀ s ∈ stored, s.value.isFinite = true)
    (hfew : (stored.filter q.selects).length ≤ config.maxDocs) :
    ∃ series l', (∀ (ε σ : Type) (add : σ → ε → σ) (s : σ),
        (read config q).run add l s = (.finished (.ok series), l', s)) ∧
      Series.Partition (stored.filter q.selects) series := by
  obtain ⟨search, compiled, hsearch, htarget, hsize, hcompile, hholds⟩ :=
    search_of_valid hrange hvalid config.aliasName config.maxDocs
  have hmatches : ((l.store.reachable search.target).filter compiled.holds).Perm
      ((stored.filter q.selects).map .ofSample) := by
    have hselects : stored.filter q.selects =
        stored.filter (compiled.holds ∘ Document.ofSample) := by
      refine List.filter_congr fun s hs => ?_
      rw [← hholds s, hfinite s hs, Bool.true_and, Function.comp_apply]
    rw [htarget, hselects, ← List.filter_map]
    exact hstored.filter _
  have hroom : ((l.store.reachable search.target).filter compiled.holds).length ≤ search.size := by
    rw [hmatches.length_eq, List.length_map, hsize]
    exact hfew
  obtain ⟨hits, hhits, hperm⟩ := Store.search_of_few hcompile hroom
  refine ⟨Series.ofDocuments hits, l.served (.search search), fun ε σ add s => ?_, ?_⟩
  · unfold read
    rw [hsearch]
    change Routine.run add l s (.call ⟨.search search, some config.requestTimeout⟩ fun hits =>
      .done (hits.map Series.ofDocuments)) = _
    rw [Store.run_call_of_clear hl]
    change (Store.Reached.finished ((l.store.search search).map Series.ofDocuments), _, s) = _
    rw [hhits]
    rfl
  · have hsamples : (Series.samplesOf hits).Perm
        (Series.samplesOf ((stored.filter q.selects).map .ofSample)) :=
      (hperm.trans hmatches).filterMap _
    rw [Series.samplesOf_map_ofSample] at hsamples
    exact (Series.ofDocuments_partition hits).perm hsamples

end Read

end MetricRelay

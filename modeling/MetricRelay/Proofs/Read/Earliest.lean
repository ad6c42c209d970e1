import MetricRelay.Proofs.Read.Service
import Mathlib.Algebra.Ring.Nat

-- Searches with a limit. A search finds the earliest of all matches behind its target, as many as
-- fit, however the matches are spread over the indices; so a read never has more points than one
-- search may find documents.

namespace MetricRelay

-- The first so many of some documents, put in the order of time.
structure Earliest (size : Nat) (found hits : List Document) : Prop where
  count : hits.length = min size found.length
  inTime : hits.Pairwise fun a b => a.timestamp ≤ b.timestamp
  leaves : ∃ left, (hits ++ left).Perm found ∧
    ∀ d ∈ hits, ∀ e ∈ left, d.timestamp ≤ e.timestamp

namespace Store

-- The documents that hold in all members of an alias, or in the one index of that name.
def matching (s : Store) (target : String) (holds : Document → Bool) : List Document :=
  match s.aliases.find? target with
  | some members => members.keys.flatMap fun index => (s.documents index).filter holds
  | none => (s.documents target).filter holds

theorem filter_reachable (s : Store) (target : String) (holds : Document → Bool) :
    (s.reachable target).filter holds = s.matching target holds := by
  unfold reachable matching readTargets
  cases s.aliases.find? target with
  | some members => exact List.filter_flatMap
  | none =>
    dsimp only
    by_cases hindex : s.indices.contains target = true
    · rw [if_pos hindex, List.flatMap_cons, List.flatMap_nil, List.append_nil]
    · have hnone := (Keyed.not_contains_iff _ _).mp (Bool.eq_false_iff.mpr hindex)
      rw [if_neg hindex, documents_of_not_contains hnone]
      rfl

-- Sorting first and cutting off then.
theorem earliest_take (size : Nat) (found : List Document) :
    Earliest size found
      ((found.mergeSort fun a b => decide (a.timestamp ≤ b.timestamp)).take size) := by
  have hperm := List.mergeSort_perm found fun a b => decide (a.timestamp ≤ b.timestamp)
  have hsorted := Series.mergeSort_inTime Document.timestamp found
  generalize found.mergeSort (fun a b => decide (a.timestamp ≤ b.timestamp)) = sorted
    at hperm hsorted ⊢
  rw [← List.take_append_drop size sorted, List.pairwise_append] at hsorted
  obtain ⟨hinTime, -, hcross⟩ := hsorted
  refine ⟨?_, hinTime, sorted.drop size, ?_, hcross⟩
  · rw [List.length_take, hperm.length_eq]
  · rw [List.take_append_drop]
    exact hperm

theorem search_earliest (s : Store) {query : Search} {compiled : Search.Compiled}
    (h : query.compile = .ok compiled) :
    ∃ hits, s.search query = .ok hits ∧
      Earliest query.size (s.matching query.target compiled.holds) hits := by
  refine ⟨_, ?_, earliest_take _ _⟩
  rw [← filter_reachable]
  unfold search
  rw [h]
  rfl

theorem length_search_le {s : Store} {query : Search} {hits : List Document}
    (h : s.search query = .ok hits) : hits.length ≤ query.size := by
  cases hcompile : query.compile with
  | error e =>
    unfold search at h
    rw [hcompile] at h
    cases h
  | ok compiled =>
    obtain ⟨hits, hhits, hearliest⟩ := s.search_earliest hcompile
    rw [hhits] at h
    cases h
    have hcount := hearliest.count
    omega

-- A search on its way fails, or is answered by a store.

def Found (query : Search) (a : Except Error (List Document)) : Prop :=
  (∃ e, a = .error e) ∨ ∃ s : Store, a = s.search query

namespace Link

variable {l : Link} {query : Search}

def Progress.Finds (p : Progress (.search query)) : Prop := ∀ a, p = .answered a → Found query a

def Turn.Finds {limit : Option Duration} (t : Turn ⟨.search query, limit⟩) : Prop :=
  ∀ a, t = .answered a → Found query a

theorem pending_finds (leg : Leg) (arrival : Timer) :
    (Progress.pending leg arrival : Progress (.search query)).Finds := fun _ h => by cases h

theorem atStore_finds (l : Link) : (l.atStore (.search query)).1.Finds := by
  intro a ha
  cases ha
  exact .inr ⟨l.store, rfl⟩

theorem arrive_finds (l : Link) (reply : Option Reply) :
    (l.arrive (.search query) reply).1.Finds := by
  match reply with
  | none => exact l.atStore_finds
  | some (.outcomes _) => exact l.atStore_finds
  | some (.fail e) =>
    intro a ha
    cases ha
    exact .inl ⟨e, rfl⟩

theorem depart_finds (l : Link) : (l.depart (.search query)).1.Finds := by
  unfold depart
  dsimp only
  split
  · exact arrive_finds _ none
  · split
    · exact arrive_finds _ _
    · exact pending_finds _ _

theorem within_finds {limit : Option Duration} (l : Link) (deadline : Option Timer)
    {p : Progress (.search query)} (h : p.Finds) :
    (l.within ⟨.search query, limit⟩ deadline p).Finds := by
  cases p with
  | answered a =>
    intro b hb
    cases hb
    exact h a rfl
  | pending leg arrival =>
    unfold within
    dsimp only
    split
    · intro a ha
      cases ha
      exact .inl ⟨_, rfl⟩
    · exact fun a ha => by cases ha

theorem start_finds (l : Link) (limit : Option Duration) :
    (l.start ⟨.search query, limit⟩).1.Finds := by
  have hdepart : (l.depart (.search query)).1.Finds := l.depart_finds
  unfold start
  cases hleft : l.depart (.search query) with
  | mk progress next =>
    rw [hleft] at hdepart
    cases progress with
    | answered a => exact within_finds next none hdepart
    | pending leg arrival =>
      cases limit with
      | none => exact within_finds next none hdepart
      | some span => exact within_finds _ _ hdepart

theorem resume_finds (l : Link) (limit : Option Duration) (p : Pending) :
    (l.resume ⟨.search query, limit⟩ p).1.Finds := by
  unfold resume
  split
  · refine within_finds _ _ ?_
    cases p.leg with
    | travelling reply => exact arrive_finds l reply
    | lingering => exact l.atStore_finds
  · exact within_finds _ _ (pending_finds _ _)

end Link

-- What a routine comes to that is resumed until it is done, whatever happens in between.
inductive Reached.Ends {ε α σ : Type} (add : σ → ε → σ) : Reached ε α → α → Prop
  | finished (a : α) : Ends add (.finished a) a
  | resumed {w : Suspended ε α} {a : α} (l : Link) (s : σ)
      (h : Ends add (w.resume add l s).1 a) : Ends add (.suspended w) a

section

variable {ε α σ : Type} {add : σ → ε → σ} {query : Search} {limit : Option Duration}
  {f : Except Error (List Document) → α} {a : α}

-- However often it is looked at, a search that is under way comes to what is found.
theorem found_of_suspended {p : Pending}
    (h : Reached.Ends add
      (.suspended (.onCall ⟨.search query, limit⟩ p fun answer => .done (f answer))) a) :
    ∃ answer, Found query answer ∧ a = f answer := by
  generalize hreached : (Reached.suspended _ : Reached ε α) = reached at h
  induction h generalizing p with
  | finished a => cases hreached
  | resumed l s hends ih =>
    cases hreached
    have hfinds : (l.resume ⟨.search query, limit⟩ p).1.Finds := l.resume_finds limit p
    unfold Suspended.resume at hends ih
    dsimp only at hends ih
    cases hturn : l.resume ⟨.search query, limit⟩ p with
    | mk turn next =>
      rw [hturn] at hends ih hfinds
      cases turn with
      | answered answer =>
        cases hends
        exact ⟨answer, hfinds answer rfl, rfl⟩
      | waiting p' => exact ih rfl

theorem found_of_call {l : Link} {s : σ}
    (h : Reached.Ends add ((Routine.call ⟨.search query, limit⟩ fun answer =>
      Routine.done (f answer)).run add l s).1 a) :
    ∃ answer, Found query answer ∧ a = f answer := by
  have hfinds : (l.start ⟨.search query, limit⟩).1.Finds := l.start_finds limit
  unfold Routine.run at h
  cases hturn : l.start ⟨.search query, limit⟩ with
  | mk turn next =>
    rw [hturn] at h hfinds
    cases turn with
    | answered answer =>
      cases h
      exact ⟨answer, hfinds answer rfl, rfl⟩
    | waiting p => exact found_of_suspended h

end

end Store

namespace Series

def pointCount (all : List Series) : Nat := (all.map fun x => x.points.length).sum

theorem pointCount_addPoint (labels : Labels) (point : Point) (all : List Series) :
    pointCount (addPoint labels point all) = pointCount all + 1 := by
  induction all with
  | nil => rfl
  | cons x rest ih =>
    unfold pointCount at ih ⊢
    unfold addPoint
    split
    · simp only [List.map_cons, List.sum_cons, List.length_append, List.length_singleton]
      omega
    · split
      · simp only [List.map_cons, List.sum_cons, List.length_singleton]
        omega
      · simp only [List.map_cons, List.sum_cons, ih]
        omega

-- Each sample becomes one point.
theorem pointCount_ofDocuments (documents : List Document) :
    pointCount (ofDocuments documents) = (samplesOf documents).length := by
  have hsorted : ∀ all : List Series,
      pointCount (all.map fun x => { x with points := inTimeOrder x.points }) =
        pointCount all := by
    intro all
    unfold pointCount
    rw [List.map_map]
    exact congrArg List.sum (List.map_congr_left fun x _ => (inTimeOrder_perm x.points).length_eq)
  unfold ofDocuments
  dsimp only
  rw [hsorted]
  induction documents using List.reverseRecOn with
  | nil => rfl
  | append_singleton documents d ih =>
    unfold samplesOf at ih ⊢
    rw [List.foldl_append, List.foldl_cons, List.foldl_nil, List.filterMap_append,
      List.length_append, ← ih]
    cases hd : d.toSample with
    | ok s =>
      rw [List.filterMap_cons_some (by rw [hd]; rfl)]
      exact pointCount_addPoint _ _ _
    | error e =>
      rw [List.filterMap_cons_none (by rw [hd]; rfl)]
      rfl

end Series

namespace Read

open Store (Link Reached Found)

section

variable {ε σ : Type} {config : Config} {q : Query} {series : List Series}

theorem size_of_search {aliasName : String} {maxDocs : Nat} {search : Search}
    (h : q.search aliasName maxDocs = .ok search) : search.size = maxDocs := by
  unfold Query.search at h
  split at h
  · cases h
  · cases hfilters : q.matchers.mapM Matcher.filter with
    | error e =>
      rw [hfilters] at h
      cases h
    | ok filters =>
      rw [hfilters] at h
      change (Search.compile ⟨aliasName, q.start, q.stop, filters, maxDocs⟩).bind _ = _ at h
      cases hcompile : Search.compile ⟨aliasName, q.start, q.stop, filters, maxDocs⟩ with
      | error e =>
        rw [hcompile] at h
        cases h
      | ok compiled =>
        rw [hcompile] at h
        cases h
        rfl

theorem pointCount_of_found {query : Search} {answer : Except Error (List Document)}
    (h : Found query answer) (hseries : answer.map Series.ofDocuments = .ok series) :
    Series.pointCount series ≤ query.size := by
  rcases h with ⟨e, rfl⟩ | ⟨s, rfl⟩
  · cases hseries
  · cases hsearch : s.search query with
    | error e =>
      rw [hsearch] at hseries
      cases hseries
    | ok hits =>
      rw [hsearch] at hseries
      cases hseries
      have hsamples : (Series.samplesOf hits).length ≤ hits.length := List.length_filterMap_le _ _
      rw [Series.pointCount_ofDocuments]
      exact hsamples.trans (Store.length_search_le hsearch)

-- However slow and faulty the store is, and whatever is written to it in the meantime.
theorem pointCount_read_le (add : σ → ε → σ) (l : Link) (s : σ)
    (h : Reached.Ends add ((read config q).run add l s).1 (.ok series)) :
    Series.pointCount series ≤ config.maxDocs := by
  unfold read at h
  cases hsearch : q.search config.aliasName config.maxDocs with
  | error e =>
    rw [hsearch] at h
    cases h
  | ok search =>
    rw [hsearch] at h
    obtain ⟨answer, hfound, hanswer⟩ := Store.found_of_call h
    rw [← size_of_search hsearch]
    exact pointCount_of_found hfound hanswer.symm

end

-- A search finds the earliest of the documents that match, in the order of time: all of them if
-- they are no more than it may find, and else as many as it may. No matching document that it
-- leaves out is earlier than one it finds. So what a read comes to, if it comes to an end without
-- an error, never has more points than the most documents it may ask for.
theorem search_takes_earliest :
    (∀ (s : Store) (query : Search) (compiled : Search.Compiled), query.compile = .ok compiled →
      ∃ hits, s.search query = .ok hits ∧
        Earliest query.size (s.matching query.target compiled.holds) hits) ∧
    ∀ (ε σ : Type) (add : σ → ε → σ) (config : Config) (q : Query) (l : Link) (state : σ)
      (series : List Series),
      Reached.Ends add ((read config q).run add l state).1 (.ok series) →
        Series.pointCount series ≤ config.maxDocs :=
  ⟨fun s _ _ h => s.search_earliest h, fun _ _ add _ _ l state _ h =>
    pointCount_read_le add l state h⟩

private def upAt (timestamp : Int64) : Document :=
  ⟨(∅ : Labels).insert "__name__" "up", timestamp, .zero false⟩

-- Two indices behind one alias; what the second one has is neither first nor last.
private def spread : Store :=
  Store.after [.ask 0 (.createIndex "a" none (some "m")), .ask 0 (.bulk "m" [upAt 5, upAt 1]),
    .ask 0 (.createIndex "b" none none), .ask 0 (.updateAliases [.add "b" "m" false]),
    .ask 0 (.bulk "b" [upAt 3])]

private def reader : Config := { (default : Config) with aliasName := "m", maxDocs := 2 }

private def upToTen : Search := ⟨"m", 0, 10, [], 2⟩

private theorem search_spread : spread.search upToTen = .ok [upAt 1, upAt 3] := by
  have hfirst : (1 : Int64) ≤ 3 := by decide
  have hlast : ¬(5 : Int64) ≤ 1 ∧ ¬(5 : Int64) ≤ 3 := by decide
  have hsorted : ([upAt 5, upAt 1, upAt 3].mergeSort fun a b => decide (a.timestamp ≤ b.timestamp)) =
      [upAt 1, upAt 3, upAt 5] := by
    simp [List.mergeSort, List.MergeSort.Internal.splitInTwo, upAt, hfirst, hlast]
  have hfound : (spread.reachable "m").filter (Search.Compiled.holds ⟨0, 10, []⟩) =
      [upAt 5, upAt 1, upAt 3] := by decide +kernel
  change Except.ok ((((spread.reachable "m").filter
    (Search.Compiled.holds ⟨0, 10, []⟩)).mergeSort _).take 2) = _
  rw [hfound, hsorted]
  rfl

theorem spread_cut_off :
    ∃ compiled hits series, upToTen.compile = .ok compiled ∧ spread.search upToTen = .ok hits ∧
      hits = [upAt 1, upAt 3] ∧ Earliest 2 (spread.matching "m" compiled.holds) hits ∧
      Reached.Ends (fun (s : Unit) (_ : Empty) => s)
        ((read reader ⟨0, 10, []⟩).run (fun s _ => s) ⟨spread, .manual 0, 0, ∅, [], 0, 0⟩ ()).1
        (.ok series) ∧
      Series.pointCount series = 2 ∧ Series.pointCount series ≤ reader.maxDocs := by
  obtain ⟨hsearch, hread⟩ := search_takes_earliest
  obtain ⟨hits, hhits, hearliest⟩ := hsearch spread upToTen ⟨0, 10, []⟩ rfl
  have hends : Reached.Ends (fun (s : Unit) (_ : Empty) => s)
      ((read reader ⟨0, 10, []⟩).run (fun s _ => s) ⟨spread, .manual 0, 0, ∅, [], 0, 0⟩ ()).1
      (.ok (Series.ofDocuments [upAt 1, upAt 3])) := by
    change Reached.Ends _ (.finished ((spread.search upToTen).map Series.ofDocuments)) _
    rw [search_spread]
    exact .finished _
  refine ⟨_, hits, _, rfl, hhits, ?_, hearliest, hends, ?_, hread _ _ _ _ _ _ _ _ hends⟩
  · rw [search_spread] at hhits
    cases hhits
    rfl
  · rw [Series.pointCount_ofDocuments]
    decide +kernel

end Read

end MetricRelay

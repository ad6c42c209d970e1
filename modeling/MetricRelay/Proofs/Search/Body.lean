import MetricRelay.Proofs.Keyed
import MetricRelay.Search.Clause

-- What a store makes of the body of a search, read from its JSON alone, and how that compares with
-- the search carried out in place.

namespace MetricRelay.Search

variable {d : Document}

-- The text a document has in a field, if it has the field.
def fieldText? (d : Document) (field : String) : Option String :=
  (d.labels.toList.find? fun e => Clause.field e.1 == field).map Prod.snd

-- A regular expression of a body, like one of the search itself, speaks of the whole value.
def isMatch [Regex.Library] (text value : String) : Bool :=
  (wholeValue? text).any fun r => r.holdsIn value

-- One member of a range on the timestamp. Both ends belong to it.
def withinBound (instant : Int64) : String × Json → Bool
  | ("gte", .int least) => decide (least ≤ instant.toInt)
  | ("lte", .int most) => decide (instant.toInt ≤ most)
  | ("format", .str format) => format == "epoch_millis"
  | _ => false

-- A query without queries in it.
def leafHolds [Regex.Library] (d : Document) (kind : String) : List (String × Json) → Bool
  | [(field, .obj bounds)] =>
    kind == "range" && field == Document.timestampField && bounds.all (withinBound d.timestamp)
  | [(name, .str text)] =>
    if kind = "exists" then name == "field" && (fieldText? d text).isSome
    else if kind = "term" then fieldText? d name == some text
    else if kind = "regexp" then (fieldText? d name).any (isMatch text)
    else false
  | _ => false

-- What the queries of each part of a boolean query say of a document.
structure Parts where
  filter : List Bool
  mustNot : List Bool
  should : List Bool
  minimum : Option Int

def Parts.add (p : Parts) (occurrence : String) (verdicts : List Bool) (number : Option Int) :
    Parts :=
  if occurrence = "filter" then { p with filter := verdicts ++ p.filter }
  else if occurrence = "must_not" then { p with mustNot := verdicts ++ p.mustNot }
  else if occurrence = "should" then { p with should := verdicts ++ p.should }
  else if occurrence = "minimum_should_match" then { p with minimum := number }
  else p

-- Without a minimum one of the optional queries has to hold only if there is nothing else.
def Parts.least (p : Parts) : Int :=
  p.minimum.getD (if p.filter.isEmpty && !p.should.isEmpty then 1 else 0)

def Parts.holds (p : Parts) : Bool :=
  p.filter.all id && !p.mustNot.any id && decide (p.least ≤ p.should.count true)

mutual

-- A query is an object with one member, whose name says of which kind it is.
def acceptsMembers [Regex.Library] (d : Document) : List (String × Json) → Bool
  | [(kind, .obj members)] =>
    if kind = "bool" then (parts d members).holds else leafHolds d kind members
  | _ => false

def parts [Regex.Library] (d : Document) : List (String × Json) → Parts
  | [] => ⟨[], [], [], none⟩
  | (occurrence, j) :: rest => (parts d rest).add occurrence (verdicts d j) j.int?

-- A part is a query or a list of queries.
def verdicts [Regex.Library] (d : Document) : Json → List Bool
  | .obj members => [acceptsMembers d members]
  | .arr items => verdictList d items
  | _ => []

def verdictList [Regex.Library] (d : Document) : List Json → List Bool
  | [] => []
  | .obj members :: rest => acceptsMembers d members :: verdictList d rest
  | _ :: rest => false :: verdictList d rest

end

def accepts [Regex.Library] (d : Document) : Json → Bool
  | .obj members => acceptsMembers d members
  | _ => false

theorem fieldText?_field (d : Document) (label : String) :
    fieldText? d (Clause.field label) = d.labels.find? label := by
  unfold fieldText? Keyed.find?
  congr 2
  funext e
  have hinj : Clause.field e.1 = Clause.field label ↔ e.1 = label := by
    unfold Clause.field
    rw [String.append_right_inj]
  by_cases he : e.1 = label
  · simp [he]
  · simp [he, hinj]

theorem allHold_eq (isMatch : String → String → Bool) (d : Document) (clauses : List Clause) :
    Clause.allHold isMatch d clauses = clauses.all fun c => c.holds isMatch d := by
  induction clauses with
  | nil => rfl
  | cons c rest ih => simp [Clause.allHold, ih]

theorem anyHolds_eq (isMatch : String → String → Bool) (d : Document) (clauses : List Clause) :
    Clause.anyHolds isMatch d clauses = clauses.any fun c => c.holds isMatch d := by
  induction clauses with
  | nil => rfl
  | cons c rest ih => simp [Clause.anyHolds, ih]

theorem one_le_count_true (l : List Bool) :
    decide ((1 : Int) ≤ l.count true) = l.any id := by
  rw [Bool.eq_iff_iff, decide_eq_true_iff, List.any_eq_true]
  have hpos : 0 < l.count true ↔ true ∈ l := List.count_pos_iff
  constructor
  · intro h
    exact ⟨true, hpos.mp (by omega), rfl⟩
  · rintro ⟨b, hb, htrue⟩
    have hmem : true ∈ l := htrue ▸ hb
    have := hpos.mpr hmem
    omega

-- A comparison with the empty text, of a label that is there and empty.
def Filter.confuses (f : Filter) (d : Document) : Prop :=
  (f.operator = .equal ∨ f.operator = .notEqual) ∧ f.value = "" ∧ d.labels.find? f.label = some ""

instance (f : Filter) (d : Document) : Decidable (f.confuses d) :=
  inferInstanceAs (Decidable (_ ∧ _ ∧ _))

section

variable [Regex.Library]

-- The JSON of a clause says what the clause says.

theorem verdictList_cons (d : Document) (c : Clause) (rest : List Json) :
    verdictList d (c.toJson :: rest) = accepts d c.toJson :: verdictList d rest := by
  cases c with
  | both filter mustNot => cases mustNot <;> simp [Clause.toJson, verdictList, accepts]
  | _ => simp [Clause.toJson, verdictList, accepts]

theorem accepts_bool (d : Document) (members : List (String × Json)) :
    accepts d (.obj [("bool", .obj members)]) = (parts d members).holds := by
  simp [accepts, acceptsMembers]

theorem accepts_range (d : Document) (start stop : Int64) :
    accepts d (Clause.range start stop).toJson = (Clause.range start stop).holds isMatch d := by
  simp [Clause.toJson, accepts, acceptsMembers, leafHolds, withinBound, Clause.holds,
    Int64.le_iff_toInt_le]

theorem accepts_term (d : Document) (label value : String) :
    accepts d (Clause.term label value).toJson = (Clause.term label value).holds isMatch d := by
  simp [Clause.toJson, accepts, acceptsMembers, leafHolds, Clause.holds, fieldText?_field]

theorem accepts_present (d : Document) (label : String) :
    accepts d (Clause.present label).toJson = (Clause.present label).holds isMatch d := by
  simp [Clause.toJson, accepts, acceptsMembers, leafHolds, Clause.holds, fieldText?_field,
    Keyed.contains]

theorem accepts_pattern (d : Document) (label text : String) :
    accepts d (Clause.pattern label text).toJson = (Clause.pattern label text).holds isMatch d := by
  simp only [Clause.toJson, accepts, acceptsMembers, leafHolds, Clause.holds, fieldText?_field]
  cases d.labels.find? label <;> simp

mutual

theorem accepts_toJson (d : Document) (c : Clause) :
    accepts d c.toJson = c.holds isMatch d := by
  cases c with
  | range start stop => exact accepts_range d start stop
  | term label value => exact accepts_term d label value
  | present label => exact accepts_present d label
  | absent label =>
    have hpresent := accepts_present d label
    simp only [Clause.toJson, accepts, Clause.holds] at hpresent
    simp [Clause.toJson, accepts_bool, parts, verdicts, Parts.add, Parts.holds, Parts.least,
      hpresent, Clause.holds]
  | pattern label text => exact accepts_pattern d label text
  | both filter mustNot =>
    have hfilter := verdictList_listJson d filter
    have hmustNot := verdictList_listJson d mustNot
    cases mustNot with
    | nil =>
      simp [Clause.toJson, accepts_bool, parts, verdicts, Parts.add, Parts.holds, Parts.least,
        hfilter, Clause.holds, allHold_eq, anyHolds_eq]
    | cons c rest =>
      simp [Clause.toJson, accepts_bool, parts, verdicts, Parts.add, Parts.holds, Parts.least,
        hfilter, hmustNot, Clause.holds, allHold_eq, anyHolds_eq]
  | either should =>
    have hshould := verdictList_listJson d should
    simp only [Clause.toJson, accepts_bool, parts, verdicts, Parts.add, Parts.holds, Parts.least,
      hshould, Clause.holds, anyHolds_eq, Json.int?]
    simpa [List.any_map] using one_le_count_true (should.map fun c => c.holds isMatch d)

theorem verdictList_listJson (d : Document) (clauses : List Clause) :
    verdictList d (Clause.listJson clauses) = clauses.map fun c => c.holds isMatch d := by
  cases clauses with
  | nil => rfl
  | cons c rest =>
    rw [Clause.listJson, verdictList_cons, accepts_toJson d c, verdictList_listJson d rest]
    rfl

end

-- Each filter for itself.

def Filter.holds (f : Filter) (d : Document) : Bool :=
  match f.compile with
  | .ok condition => condition.holds (labelValue d.labels f.label)
  | .error _ => false

-- What the clauses of one filter say together.
def Filter.rendered (f : Filter) (d : Document) : Bool :=
  (f.clauses.1.all fun c => c.holds isMatch d) && !f.clauses.2.any fun c => c.holds isMatch d

theorem Filter.rendered_equal (label value : String) (d : Document) :
    (⟨label, .equal, value⟩ : Filter).rendered d =
      ((labelValue d.labels label == value) !=
        decide (value = "" ∧ d.labels.find? label = some "")) := by
  unfold Filter.rendered Filter.clauses labelValue
  by_cases hv : value = ""
  · cases hl : d.labels.find? label with
    | none => simp [hv, hl, Clause.holds, Keyed.contains]
    | some text => by_cases ht : text = "" <;> simp [hv, hl, ht, Clause.holds, Keyed.contains]
  · cases hl : d.labels.find? label with
    | none => simp [hv, hl, Clause.holds, Ne.symm hv]
    | some text => simp [hv, hl, Clause.holds, bne]

theorem matchesEmpty_eq {text : String} {r : Regex} (h : wholeValue? text = some r) :
    matchesEmpty text = r.holdsIn "" := by
  simp [matchesEmpty, h]

theorem Filter.rendered_pattern {label text : String} {r : Regex}
    (h : wholeValue? text = some r) (d : Document) :
    (⟨label, .pattern, text⟩ : Filter).rendered d = r.holdsIn (labelValue d.labels label) := by
  unfold Filter.rendered Filter.clauses labelValue
  rw [matchesEmpty_eq h]
  by_cases he : r.holdsIn "" = true
  · cases hl : d.labels.find? label with
    | none => simp [he, hl, Clause.holds, Clause.anyHolds, Keyed.contains]
    | some value => simp [he, hl, Clause.holds, Clause.anyHolds, Keyed.contains, isMatch, h]
  · cases hl : d.labels.find? label with
    | none => simp [he, hl, Clause.holds]
    | some value => simp [he, hl, Clause.holds, isMatch, h]

-- What the clauses of the other two filters say is the opposite.

theorem Filter.rendered_notEqual (label value : String) (d : Document) :
    (⟨label, .notEqual, value⟩ : Filter).rendered d =
      ((labelValue d.labels label != value) !=
        decide (value = "" ∧ d.labels.find? label = some "")) := by
  have hopposite : (⟨label, .notEqual, value⟩ : Filter).rendered d =
      !(⟨label, .equal, value⟩ : Filter).rendered d := by
    unfold Filter.rendered Filter.clauses
    by_cases hv : value = "" <;> simp [hv]
  rw [hopposite, Filter.rendered_equal, ← Bool.not_bne]
  rfl

theorem Filter.rendered_notPattern {label text : String} {r : Regex}
    (h : wholeValue? text = some r) (d : Document) :
    (⟨label, .notPattern, text⟩ : Filter).rendered d = !r.holdsIn (labelValue d.labels label) := by
  have hopposite : (⟨label, .notPattern, text⟩ : Filter).rendered d =
      !(⟨label, .pattern, text⟩ : Filter).rendered d := by
    unfold Filter.rendered Filter.clauses
    by_cases he : matchesEmpty text = true
    · simp [he, Clause.holds, Clause.anyHolds, Bool.and_comm]
    · simp [he]
  rw [hopposite, Filter.rendered_pattern h]

theorem Filter.rendered_eq {f : Filter} {condition : Condition} (h : f.compile = .ok condition)
    (d : Document) : f.rendered d = (f.holds d != decide (f.confuses d)) := by
  obtain ⟨label, operator, value⟩ := f
  unfold Filter.holds Filter.confuses
  rw [h]
  cases operator with
  | equal =>
    cases h
    simp [Filter.rendered_equal, Condition.holds]
  | notEqual =>
    cases h
    simp [Filter.rendered_notEqual, Condition.holds]
  | pattern =>
    simp only [Filter.compile] at h
    cases hr : wholeValue? value with
    | none => rw [hr] at h; cases h
    | some r =>
      rw [hr] at h
      cases h
      simp [Filter.rendered_pattern hr, Condition.holds]
  | notPattern =>
    simp only [Filter.compile] at h
    cases hr : wholeValue? value with
    | none => rw [hr] at h; cases h
    | some r =>
      rw [hr] at h
      cases h
      simp [Filter.rendered_notPattern hr, Condition.holds]

-- All filters together.

theorem all_rendered (filters : List Filter) (d : Document) :
    ((filters.flatMap fun f => f.clauses.1).all (fun c => c.holds isMatch d) &&
      !(filters.flatMap fun f => f.clauses.2).any fun c => c.holds isMatch d) =
    filters.all fun f => f.rendered d := by
  induction filters with
  | nil => rfl
  | cons f rest ih =>
    rw [List.flatMap_cons, List.flatMap_cons, List.all_append, List.any_append, Bool.not_or,
      List.all_cons, ← ih]
    unfold Filter.rendered
    ac_rfl

theorem holds_clause (s : Search) (d : Document) :
    s.clause.holds isMatch d =
      (decide (s.start ≤ d.timestamp) && decide (d.timestamp ≤ s.stop) &&
        s.filters.all fun f => f.rendered d) := by
  rw [← all_rendered]
  simp only [clause, Clause.holds, allHold_eq, anyHolds_eq, List.all_cons, Bool.and_assoc]

theorem holds_conditions {filters : List Filter} {conditions : List (String × Condition)}
    (h : filters.mapM (fun f => do return (f.label, ← f.compile)) = Except.ok conditions)
    (d : Document) :
    (∀ f ∈ filters, ∃ condition, f.compile = .ok condition) ∧
    (conditions.all fun (label, condition) => condition.holds (labelValue d.labels label)) =
      filters.all fun f => f.holds d := by
  induction filters generalizing conditions with
  | nil =>
    cases h
    exact ⟨by simp, rfl⟩
  | cons f rest ih =>
    rw [List.mapM_cons] at h
    cases hf : f.compile with
    | error e => rw [hf] at h; cases h
    | ok condition =>
      rw [hf] at h
      cases hrest : rest.mapM (fun f => do return (f.label, ← f.compile)) with
      | error e => rw [hrest] at h; cases h
      | ok others =>
        rw [hrest] at h
        cases h
        obtain ⟨hcompile, hall⟩ := ih hrest
        refine ⟨fun g hg => ?_, ?_⟩
        · cases List.mem_cons.mp hg with
          | inl he => exact ⟨condition, he ▸ hf⟩
          | inr hr => exact hcompile g hr
        · have hhead : f.holds d = condition.holds (labelValue d.labels f.label) := by
            simp [Filter.holds, hf]
          rw [List.all_cons, List.all_cons, hall, hhead]

theorem holds_of_compile {s : Search} {compiled : Compiled} (h : s.compile = .ok compiled)
    (d : Document) :
    (∀ f ∈ s.filters, ∃ condition, f.compile = .ok condition) ∧
    compiled.holds d = (decide (s.start ≤ d.timestamp) && decide (d.timestamp ≤ s.stop) &&
      s.filters.all fun f => f.holds d) := by
  unfold compile at h
  cases hc : s.filters.mapM (fun f => do return (f.label, ← f.compile)) with
  | error e => rw [hc] at h; cases h
  | ok conditions =>
    rw [hc] at h
    cases h
    obtain ⟨hcompile, hall⟩ := holds_conditions hc d
    exact ⟨hcompile, by rw [Compiled.holds, hall]⟩

-- A search that compiles holds of a document in the range of which every filter holds. Its body
-- accepts the same, but for the filters that compare an empty label with the empty text: these
-- are turned around. Without such a filter the two agree.
theorem body_accepts {s : Search} {compiled : Compiled} (h : s.compile = .ok compiled)
    (d : Document) :
    ∃ query, s.body.get? "query" = some query ∧
      compiled.holds d = (decide (s.start ≤ d.timestamp) && decide (d.timestamp ≤ s.stop) &&
        s.filters.all fun f => f.holds d) ∧
      accepts d query = (decide (s.start ≤ d.timestamp) && decide (d.timestamp ≤ s.stop) &&
        s.filters.all fun f => f.holds d != decide (f.confuses d)) ∧
      ((∀ f ∈ s.filters, ¬f.confuses d) → accepts d query = compiled.holds d) := by
  obtain ⟨hcompile, hholds⟩ := holds_of_compile h d
  have hrendered : accepts d s.clause.toJson =
      (decide (s.start ≤ d.timestamp) && decide (d.timestamp ≤ s.stop) &&
        s.filters.all fun f => f.holds d != decide (f.confuses d)) := by
    rw [accepts_toJson, holds_clause]
    congr 1
    rw [Bool.eq_iff_iff, List.all_eq_true, List.all_eq_true]
    refine forall₂_congr fun f hf => ?_
    obtain ⟨condition, hc⟩ := hcompile f hf
    rw [Filter.rendered_eq hc]
  refine ⟨s.clause.toJson, rfl, hholds, hrendered, fun hclear => ?_⟩
  rw [hrendered, hholds]
  congr 1
  rw [Bool.eq_iff_iff, List.all_eq_true, List.all_eq_true]
  refine forall₂_congr fun f hf => ?_
  simp [hclear f hf]

end

-- A document with an empty label, and a search for documents without the label.
def vacant : Document := ⟨Keyed.ofList [("job", "")], 1500, .zero false⟩

def jobless : Search := ⟨"metrics", 1000, 2000, [⟨"job", .equal, ""⟩], 50⟩

-- In place the empty label is no label; by the body the document has one.
theorem vacant_divides :
    ∃ compiled query, jobless.compile = .ok compiled ∧ jobless.body.get? "query" = some query ∧
      compiled.holds vacant = true ∧ accepts vacant query = false := by
  refine ⟨_, _, rfl, rfl, ?_, ?_⟩
  · decide
  · decide

-- Without the label both agree.
theorem jobless_body_accepts :
    ∃ compiled, jobless.compile = .ok compiled ∧ ∃ query,
      jobless.body.get? "query" = some query ∧
      accepts ⟨∅, 1500, .zero false⟩ query = compiled.holds ⟨∅, 1500, .zero false⟩ := by
  refine ⟨_, rfl, ?_⟩
  obtain ⟨query, hquery, _, _, hagree⟩ := body_accepts (s := jobless) rfl ⟨∅, 1500, .zero false⟩
  exact ⟨query, hquery, hagree (by decide)⟩

end MetricRelay.Search

import MetricRelay.Proofs.Read.Service
import MetricRelay.Proofs.Regex.Framing
import MetricRelay.Proofs.Regex.Matching

-- Conditions by pattern. A pattern is put between `^(?:` and `)$` as a text, so a filter follows
-- the pattern as long as the pattern closes as many groups as it opens, does not end in a comment
-- and leaves room for the frame. A pattern that closes a group too many can break out of the frame.

namespace MetricRelay

open Regex (Spans Overcloses EndsInComment framed)

namespace Search

-- A traversal whose steps refuse nothing but queries.
theorem mapM_cases {α β : Type} {f : α → Except Error β}
    (hf : ∀ x e, f x = .error e → ∃ message, e = .invalidQuery message) (xs : List α) :
    (∃ ys, xs.mapM f = .ok ys ∧ ∀ x ∈ xs, ∃ y ∈ ys, f x = .ok y) ∨
      ∃ message, xs.mapM f = .error (.invalidQuery message) := by
  induction xs with
  | nil => exact .inl ⟨[], rfl, fun _ h => nomatch h⟩
  | cons x rest ih =>
    rw [List.mapM_cons]
    cases hx : f x with
    | error e =>
      obtain ⟨message, rfl⟩ := hf x e hx
      exact .inr ⟨message, rfl⟩
    | ok y =>
      obtain ⟨ys, hrest, hall⟩ | ⟨message, hrest⟩ := ih
      · refine .inl ⟨y :: ys, by rw [hrest]; rfl, fun other hother => ?_⟩
        obtain rfl | hmem := List.mem_cons.mp hother
        · exact ⟨y, List.mem_cons_self, hx⟩
        · obtain ⟨z, hz, hfz⟩ := hall other hmem
          exact ⟨z, List.mem_cons_of_mem y hz, hfz⟩
      · exact .inr ⟨message, by rw [hrest]; rfl⟩

section

variable [Regex.Library]

-- The pattern by itself is a regular expression.
def Valid (pattern : String) : Prop := (Regex.read? pattern.toList).isSome = true

instance (pattern : String) : Decidable (Valid pattern) := inferInstanceAs (Decidable (_ = true))

-- The pattern by itself matches the whole of a value.
def Matches (pattern value : String) : Prop :=
  ∃ regex, Regex.read? pattern.toList = some regex ∧
    Spans value.toList regex 0 value.toList.length

-- The pattern can stand in the frame: nothing of the frame is in a comment, and the limits leave
-- room for it.
def Framable (pattern : String) : Prop :=
  ¬EndsInComment pattern.toList ∧ ∀ p ∈ Regex.piece? pattern.toList, p.framed.Fits

instance (pattern : String) : Decidable (Framable pattern) := inferInstanceAs (Decidable (_ ∧ _))

theorem wholeValue?_eq (pattern : String) :
    wholeValue? pattern = Regex.read? (framed pattern.toList) := by
  unfold wholeValue? anchored framed
  rw [String.toList_append, String.toList_append]
  rfl

theorem valid_iff {pattern : String} :
    Valid pattern ↔ ∃ p, Regex.piece? pattern.toList = some p ∧ p.Fits := by
  unfold Valid
  rw [Option.isSome_iff_exists]
  simp only [Regex.read?_eq_some]
  constructor
  · rintro ⟨_, p, hp, hfits, -⟩
    exact ⟨p, hp, hfits⟩
  · rintro ⟨p, hp, hfits⟩
    exact ⟨p.regex, p, hp, hfits, rfl⟩

theorem wholeValue?_of_framable {pattern : String} (hvalid : Valid pattern)
    (hframable : Framable pattern) :
    ∃ regex, wholeValue? pattern = some regex ∧
      ∀ value, regex.holdsIn value = true ↔ Matches pattern value := by
  obtain ⟨p, hp, hfits⟩ := valid_iff.mp hvalid
  have hregex : Regex.read? pattern.toList = some p.regex :=
    Regex.read?_eq_some.mpr ⟨p, hp, hfits, rfl⟩
  refine ⟨p.framed.regex, ?_, fun value => ?_⟩
  · rw [wholeValue?_eq]
    exact Regex.read?_eq_some.mpr ⟨p.framed, Regex.piece?_framed hp hframable.1,
      hframable.2 p hp, rfl⟩
  · refine (Regex.holdsIn_whole p.regex value).trans ⟨fun h => ⟨p.regex, hregex, h⟩, ?_⟩
    rintro ⟨regex, hread, hspans⟩
    rw [hregex, Option.some.injEq] at hread
    exact hread ▸ hspans

theorem wholeValue?_of_not_framable {pattern : String} (hvalid : Valid pattern)
    (hframable : ¬Framable pattern) : wholeValue? pattern = none := by
  obtain ⟨p, hp, -⟩ := valid_iff.mp hvalid
  rw [wholeValue?_eq]
  refine Option.eq_none_iff_forall_ne_some.mpr fun regex hread => ?_
  obtain ⟨q, hq, hfits, -⟩ := Regex.read?_eq_some.mp hread
  by_cases hcomment : EndsInComment pattern.toList
  · rw [Regex.piece?_framed_eq_none hp hcomment] at hq
    contradiction
  · rw [Regex.piece?_framed hp hcomment, Option.some.injEq] at hq
    subst hq
    refine hframable ⟨hcomment, fun other hother => ?_⟩
    rw [hp, Option.mem_some_iff] at hother
    exact hother ▸ hfits

theorem wholeValue?_of_not_valid {pattern : String} (hvalid : ¬Valid pattern)
    (hover : ¬Overcloses pattern.toList) : wholeValue? pattern = none := by
  rw [wholeValue?_eq]
  refine Option.eq_none_iff_forall_ne_some.mpr fun regex hread => ?_
  obtain ⟨q, hq, hfits, -⟩ := Regex.read?_eq_some.mp hread
  cases hp : Regex.piece? pattern.toList with
  | none =>
    rw [Regex.piece?_framed_of_none hp hover] at hq
    contradiction
  | some p =>
    by_cases hcomment : EndsInComment pattern.toList
    · rw [Regex.piece?_framed_eq_none hp hcomment] at hq
      contradiction
    · rw [Regex.piece?_framed hp hcomment, Option.some.injEq] at hq
      subst hq
      exact hvalid (valid_iff.mpr ⟨p, hp, Regex.fits_of_framed hfits⟩)

-- What is said of a pattern that does not compile.
def badRegex (label pattern : String) : Error :=
  .invalidQuery ("bad regex for " ++ label ++ ": " ++ Regex.Library.complaint (anchored pattern))

theorem compile_of_some (label : String) {pattern : String} {regex : Regex}
    (h : wholeValue? pattern = some regex) :
    (⟨label, .pattern, pattern⟩ : Filter).compile = .ok (.pattern regex) ∧
      (⟨label, .notPattern, pattern⟩ : Filter).compile = .ok (.notPattern regex) := by
  unfold Filter.compile
  simp only [h]
  exact ⟨rfl, rfl⟩

theorem compile_of_none (label : String) {pattern : String} (h : wholeValue? pattern = none) :
    (⟨label, .pattern, pattern⟩ : Filter).compile = .error (badRegex label pattern) ∧
      (⟨label, .notPattern, pattern⟩ : Filter).compile = .error (badRegex label pattern) := by
  unfold Filter.compile
  simp only [h]
  exact ⟨rfl, rfl⟩

theorem Filter.invalidQuery_of_compile {f : Filter} {e : Error} (h : f.compile = .error e) :
    ∃ message, e = .invalidQuery message := by
  obtain ⟨label, operator, value⟩ := f
  cases hvalue : wholeValue? value with
  | some regex =>
    cases operator with
    | equal => cases h
    | notEqual => cases h
    | pattern =>
      rw [(compile_of_some label hvalue).1] at h
      cases h
    | notPattern =>
      rw [(compile_of_some label hvalue).2] at h
      cases h
  | none =>
    cases operator with
    | equal => cases h
    | notEqual => cases h
    | pattern =>
      rw [(compile_of_none label hvalue).1] at h
      cases h
      exact ⟨_, rfl⟩
    | notPattern =>
      rw [(compile_of_none label hvalue).2] at h
      cases h
      exact ⟨_, rfl⟩

-- A search does not compile with a filter that does not.
theorem compile_of_refused {s : Search} {f : Filter} (hf : f ∈ s.filters) {e : Error}
    (h : f.compile = .error e) : ∃ message, s.compile = .error (.invalidQuery message) := by
  have hstep (g : Filter) (e : Error) (h : (do return (g.label, ← g.compile) :
      Except Error (String × Condition)) = .error e) : ∃ message, e = .invalidQuery message := by
    cases hg : g.compile with
    | error e' =>
      rw [hg] at h
      cases h
      exact g.invalidQuery_of_compile hg
    | ok c =>
      rw [hg] at h
      cases h
  obtain ⟨conditions, -, hconditions⟩ | ⟨message, herror⟩ := mapM_cases hstep s.filters
  · obtain ⟨condition, -, hcondition⟩ := hconditions f hf
    rw [h] at hcondition
    cases hcondition
  · exact ⟨message, by rw [compile, herror]; rfl⟩

end

end Search

namespace Read

theorem Matcher.filter_eq_ok {m : Matcher} {f : Search.Filter} (h : m.filter = .ok f) :
    f = m.toFilter := by
  unfold filter at h
  split at h
  · cases h
  · cases h
    rfl

theorem Matcher.invalidQuery_of_filter {m : Matcher} {e : Error} (h : m.filter = .error e) :
    ∃ message, e = .invalidQuery message := by
  unfold filter at h
  split at h
  · cases h
    exact ⟨_, rfl⟩
  · cases h

section

variable [Regex.Library]

-- A query is refused for a matcher that does not compile.
theorem search_of_refused {q : Query} {m : Matcher} (hm : m ∈ q.matchers) {e : Error}
    (h : m.toFilter.compile = .error e) (aliasName : String) (maxDocs : Nat) :
    ∃ message, q.search aliasName maxDocs = .error (.invalidQuery message) := by
  unfold Query.search
  split
  · exact ⟨_, rfl⟩
  obtain ⟨filters, hfilters, hall⟩ | ⟨message, herror⟩ :=
    Search.mapM_cases (f := Matcher.filter) (fun _ _ => Matcher.invalidQuery_of_filter) q.matchers
  · obtain ⟨f, hf, hfilter⟩ := hall m hm
    obtain rfl := Matcher.filter_eq_ok hfilter
    obtain ⟨message, herror⟩ := Search.compile_of_refused
      (s := ⟨aliasName, q.start, q.stop, filters, maxDocs⟩) hf h
    refine ⟨message, ?_⟩
    rw [hfilters]
    change (do
      let _ ← Search.compile ⟨aliasName, q.start, q.stop, filters, maxDocs⟩
      return _) = _
    rw [herror]
    rfl
  · exact ⟨message, by rw [herror]; rfl⟩

-- The filters by this pattern say whether it matches the whole value of the label, which is
-- empty where there is none.
def Followed (label pattern : String) : Prop :=
  ∃ regex,
    (⟨label, .pattern, pattern⟩ : Search.Filter).compile = .ok (.pattern regex) ∧
    (⟨label, .notPattern, pattern⟩ : Search.Filter).compile = .ok (.notPattern regex) ∧
    ∀ labels : Labels,
      ((Search.Condition.pattern regex).holds (Search.labelValue labels label) = true ↔
        Search.Matches pattern ((labels.find? label).getD "")) ∧
      ((Search.Condition.notPattern regex).holds (Search.labelValue labels label) = true ↔
        ¬Search.Matches pattern ((labels.find? label).getD ""))

-- Neither filter by this pattern compiles, and a query that asks for one is refused.
def Refused (label pattern : String) : Prop :=
  ∀ operator : Search.Operator, operator = .pattern ∨ operator = .notPattern →
    (⟨label, operator, pattern⟩ : Search.Filter).compile = .error (Search.badRegex label pattern) ∧
    ∀ q : Query, ⟨label, operator, pattern⟩ ∈ q.matchers → ∀ aliasName maxDocs,
      ∃ message, q.search aliasName maxDocs = .error (.invalidQuery message)

theorem refused_of_none {label pattern : String} (h : Search.wholeValue? pattern = none) :
    Refused label pattern := by
  have hcompile := Search.compile_of_none label h
  rintro operator (rfl | rfl)
  · exact ⟨hcompile.1, fun q hm => search_of_refused hm hcompile.1⟩
  · exact ⟨hcompile.2, fun q hm => search_of_refused hm hcompile.2⟩

theorem followed_of_framable {label pattern : String} (hvalid : Search.Valid pattern)
    (hframable : Search.Framable pattern) : Followed label pattern := by
  obtain ⟨regex, hregex, hholds⟩ := Search.wholeValue?_of_framable hvalid hframable
  have hcompile := Search.compile_of_some label hregex
  refine ⟨regex, hcompile.1, hcompile.2, fun labels => ⟨hholds _, ?_⟩⟩
  exact (Iff.of_eq (Bool.not_eq_true' _)).trans (Bool.eq_false_iff.trans (not_congr (hholds _)))

theorem complement_of_compile {label pattern : String} {condition : Search.Condition}
    (h : (⟨label, .pattern, pattern⟩ : Search.Filter).compile = .ok condition) :
    ∃ other, (⟨label, .notPattern, pattern⟩ : Search.Filter).compile = .ok other ∧
      ∀ value, other.holds value = !condition.holds value := by
  cases hregex : Search.wholeValue? pattern with
  | none =>
    rw [(Search.compile_of_none label hregex).1] at h
    cases h
  | some regex =>
    have hcompile := Search.compile_of_some label hregex
    rw [hcompile.1] at h
    cases h
    exact ⟨_, hcompile.2, fun _ => rfl⟩

-- This holds whatever properties of characters the library knows and whatever room it gives. A
-- pattern that is valid by itself is followed if it can stand in the frame, and refused if it
-- cannot. One that is not valid is refused unless it closes a group it did not open. Whatever the
-- pattern, the two filters by it are complements.
theorem filters_follow_pattern (label pattern : String) :
    (Search.Valid pattern → Search.Framable pattern → Followed label pattern) ∧
      (Search.Valid pattern → ¬Search.Framable pattern → Refused label pattern) ∧
      (¬Search.Valid pattern → ¬Overcloses pattern.toList → Refused label pattern) ∧
      ∀ condition, (⟨label, .pattern, pattern⟩ : Search.Filter).compile = .ok condition →
        ∃ other, (⟨label, .notPattern, pattern⟩ : Search.Filter).compile = .ok other ∧
          ∀ value, other.holds value = !condition.holds value :=
  ⟨followed_of_framable,
    fun hvalid hframable => refused_of_none (Search.wholeValue?_of_not_framable hvalid hframable),
    fun hvalid hover => refused_of_none (Search.wholeValue?_of_not_valid hvalid hover),
    fun _ => complement_of_compile⟩

end

-- Either half of an alternative is the whole value, a group is open at the end, and a comment
-- takes in the end of the frame.
theorem filters_follow_alternative :
    Followed "job" "api|web" ∧ Refused "job" "(api" ∧ Refused "job" "(?x)api # or web" :=
  ⟨(filters_follow_pattern "job" "api|web").1 (by decide) (by decide),
    (filters_follow_pattern "job" "(api").2.2.1 (by decide) (by decide),
    (filters_follow_pattern "job" "(?x)api # or web").2.1 (by decide) (by decide)⟩

-- A pattern that closes the frame's group and opens one for the frame's end. By itself it is no
-- regular expression, and it matches what only begins with its first half.
theorem stray_bracket_accepted :
    ¬Search.Valid "a)|(?:b" ∧
      (∃ condition, (⟨"job", .pattern, "a)|(?:b"⟩ : Search.Filter).compile = .ok condition ∧
        condition.holds "axyz" = true) ∧
      ∃ search, Query.search ⟨1000, 2000, [⟨"job", .pattern, "a)|(?:b"⟩]⟩ "prom-metrics" 50 =
        .ok search := by
  have hmatch : (Search.wholeValue? "a)|(?:b").any (fun r => r.holdsIn "axyz") = true := by decide
  obtain ⟨regex, hregex, hholds⟩ := (Option.any_eq_true _ _).mp hmatch
  have hcompile := (Search.compile_of_some "job" hregex).1
  refine ⟨by decide, ⟨_, hcompile, hholds⟩,
    ⟨"prom-metrics", 1000, 2000, [⟨"job", .pattern, "a)|(?:b"⟩], 50⟩, ?_⟩
  have hsearch : Search.compile ⟨"prom-metrics", 1000, 2000, [⟨"job", .pattern, "a)|(?:b"⟩], 50⟩ =
      .ok ⟨1000, 2000, [("job", .pattern regex)]⟩ := by
    rw [Search.compile, List.mapM_cons, hcompile]
    rfl
  unfold Query.search
  rw [if_neg (by decide)]
  change (do
    let _ ← Search.compile ⟨"prom-metrics", 1000, 2000, [⟨"job", .pattern, "a)|(?:b"⟩], 50⟩
    return _) = _
  rw [hsearch]
  rfl

end Read

end MetricRelay

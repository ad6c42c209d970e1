import MetricRelay.Proofs.Text.Blank
import MetricRelay.Proofs.Trigger
import Mathlib.Data.List.Forall2

-- Which texts give an order of precedence: those that list every kind once. The order is that of
-- the text, and under it every limit that is on is looked at.

namespace MetricRelay

namespace TriggerKind

def words : TriggerKind → List String
  | .size => ["size"]
  | .count => ["count", "docs"]
  | .age => ["age"]

-- One of the kind's words in small or capital letters, with blanks on both sides or none.
inductive Spells (k : TriggerKind) (raw : String) : Prop
  | intro {before word after : List Char} (whole : raw.toList = before ++ (word ++ after))
      (blank : ∀ c ∈ before ++ after, Text.isBlank c = true)
      (listed : Text.lowerAscii (String.ofList word) ∈ k.words)

variable {raw : String} {k : TriggerKind}

theorem parse_eq_ok_iff_mem : parse raw = .ok k ↔ Text.lowerAscii (Text.trim raw) ∈ k.words := by
  unfold parse
  cases k <;> simp only [words, List.mem_cons, List.not_mem_nil, or_false] <;> grind

theorem isLower_of_mem_words {word : String} (h : word ∈ k.words) :
    word ≠ "" ∧ ∀ c ∈ word.toList, c.isLower = true := by
  have hwords : k.words.all (fun w => w ≠ "" ∧ w.toList.all Char.isLower) = true := by
    cases k <;> decide
  simpa using List.all_eq_true.mp hwords word h

theorem parse_eq_ok_iff : parse raw = .ok k ↔ k.Spells raw := by
  rw [parse_eq_ok_iff_mem, Text.trim]
  constructor
  · intro h
    obtain ⟨before, after, hwhole, hblank⟩ := Text.exists_trimChars raw.toList
    exact ⟨hwhole, hblank, h⟩
  · rintro ⟨hwhole, hblank, hlisted⟩
    rename_i before word after
    obtain ⟨hsome, hsmall⟩ := isLower_of_mem_words hlisted
    have hcore : ∀ c ∈ word, Text.isBlank c = false := fun c hc => by
      obtain ⟨hlow, hhigh⟩ := Text.bounds_of_isLower_lowerAscii hsmall c hc
      exact Text.not_isBlank_of_between (by omega) (by omega)
    have hword : word ≠ [] := by
      rintro rfl
      exact hsome rfl
    rwa [hwhole, Text.trimChars_surrounded hblank hcore hword]

end TriggerKind

theorem mapM_eq_ok_iff {α β ε : Type} {f : α → Except ε β} {xs : List α} {ys : List β} :
    xs.mapM f = .ok ys ↔ List.Forall₂ (fun x y => f x = .ok y) xs ys := by
  induction xs generalizing ys with
  | nil => cases ys <;> simp [pure, Except.pure]
  | cons x rest ih =>
    rw [List.mapM_cons, List.forall₂_cons_left_iff]
    cases hx : f x with
    | error e => simp [bind, Except.bind]
    | ok y =>
      cases hrest : rest.mapM f with
      | error e => simp [bind, Except.bind, ← ih, hrest]
      | ok more => simp [bind, Except.bind, pure, Except.pure, ← ih, hrest, eq_comm]

namespace Precedence

-- Pieces without a comma, joined by commas; each of them spells its kind.
inductive Lists (raw : String) (kinds : List TriggerKind) : Prop
  | intro {pieces : List String} (whole : raw = ",".intercalate pieces)
      (bare : ∀ piece ∈ pieces, ',' ∉ piece.toList)
      (spelled : List.Forall₂ (fun piece k => TriggerKind.Spells k piece) pieces kinds)

variable {raw : String} {p : Precedence} {kinds : List TriggerKind}

theorem mapM_parse_eq_ok_iff :
    (Text.pieces ',' raw).mapM TriggerKind.parse = .ok kinds ↔ kinds ≠ [] ∧ Lists raw kinds := by
  have hcomma : String.singleton ',' = "," := by decide
  rw [mapM_eq_ok_iff]
  simp only [TriggerKind.parse_eq_ok_iff]
  constructor
  · intro h
    obtain ⟨hsome, hwhole, hbare⟩ := Text.pieces_eq_iff.mp (Eq.refl (Text.pieces ',' raw))
    refine ⟨?_, hcomma ▸ hwhole, hbare, h⟩
    rintro rfl
    exact hsome (List.forall₂_nil_right_iff.mp h)
  · rintro ⟨hsome, hwhole, hbare, hspelled⟩
    rename_i pieces
    have hpieces : pieces ≠ [] := by
      rintro rfl
      exact hsome (List.forall₂_nil_left_iff.mp hspelled)
    rwa [Text.pieces_eq_iff.mpr ⟨hpieces, hcomma.symm ▸ hwhole, hbare⟩]

theorem ofKinds_eq_ok_iff {a b c : TriggerKind} : ofKinds a b c = .ok p ↔ [a, b, c] = p.order := by
  obtain ⟨first, second, third, hdistinct⟩ := p
  unfold ofKinds order
  split
  · simp
  · rename_i hrepeated
    simp only [reduceCtorEq, false_iff, List.cons.injEq, and_true]
    rintro ⟨rfl, rfl, rfl⟩
    exact hrepeated hdistinct

theorem parse_eq_ok_iff : parse raw = .ok p ↔ Lists raw p.order := by
  have hread : parse raw = .ok p ↔
      (Text.pieces ',' raw).mapM TriggerKind.parse = .ok p.order := by
    unfold parse
    cases (Text.pieces ',' raw).mapM TriggerKind.parse with
    | error e => simp [bind, Except.bind]
    | ok kinds =>
      simp only [bind, Except.bind, Except.ok.injEq]
      split
      · exact ofKinds_eq_ok_iff
      · rename_i hother
        simp only [reduceCtorEq, false_iff]
        rintro rfl
        exact hother _ _ _ rfl
  rw [hread, mapM_parse_eq_ok_iff, and_iff_right (by simp [order])]

theorem exists_order_iff :
    (∃ p : Precedence, p.order = kinds) ↔ kinds.Perm [.size, .count, .age] := by
  constructor
  · rintro ⟨p, rfl⟩
    refine (List.perm_ext_iff_of_nodup ?_ (by decide)).mpr fun k => ?_
    · exact p.pairwise_rank.imp fun hrank hsame => absurd (hsame ▸ hrank) (Nat.lt_irrefl _)
    · exact iff_of_true (p.mem_order k) (by cases k <;> decide)
  · intro hperm
    obtain ⟨a, b, c, rfl⟩ := List.length_eq_three.mp hperm.length_eq
    have hnodup : [a, b, c].Nodup := hperm.nodup_iff.mpr (by decide)
    simp only [List.nodup_cons, List.mem_cons, List.not_mem_nil, or_false, not_or] at hnodup
    obtain ⟨⟨hab, hac⟩, hbc, -⟩ := hnodup
    exact ⟨⟨a, b, c, hab, hbc, hac⟩, rfl⟩

-- A text is accepted exactly if it lists size, count and age once each, and they are then looked at
-- in the order of the text. As no kind is missing, something is reported whenever a limit that is
-- on, and that an evaluation asks for, is reached.
theorem permutations_accepted (raw : String) :
    ((∃ p, parse raw = .ok p) ↔
      ∃ kinds, Lists raw kinds ∧ kinds.Perm [.size, .count, .age]) ∧
    (∀ p, parse raw = .ok p ↔ Lists raw p.order) ∧
    ∀ p, parse raw = .ok p → p.order.Perm [.size, .count, .age] ∧
      ∀ (t : Thresholds) (m : Measurement),
        ((t.evaluateIncludingEmpty m p).isSome = true ↔ ∃ k, t.Reached m k) ∧
        ((t.evaluate m p).isSome = true ↔ 0 < m.count ∧ ∃ k, t.Reached m k) ∧
        ∀ kinds, (t.evaluateOnly m p kinds).isSome = true ↔
          0 < m.count ∧ ∃ k ∈ kinds, t.Reached m k := by
  refine ⟨?_, fun p => parse_eq_ok_iff, fun p _ => ⟨exists_order_iff.mp ⟨p, rfl⟩, fun t m => ?_⟩⟩
  · constructor
    · rintro ⟨p, h⟩
      exact ⟨p.order, parse_eq_ok_iff.mp h, exists_order_iff.mp ⟨p, rfl⟩⟩
    · rintro ⟨kinds, hlists, hperm⟩
      obtain ⟨p, rfl⟩ := exists_order_iff.mpr hperm
      exact ⟨p, parse_eq_ok_iff.mpr hlists⟩
  · exact ⟨Thresholds.evaluateIncludingEmpty_isSome_iff, Thresholds.evaluate_isSome_iff,
      fun kinds => Thresholds.evaluateOnly_isSome_iff⟩

-- The limit on age is the only one that is reached here, and the age comes second in the text.
theorem permutations_accepted_of_docs :
    let p : Precedence := { first := .count, second := .age, third := .size }
    let t : Thresholds := ⟨some 100, some 10, some (.ofSeconds 30)⟩
    parse " Docs,\tAGE,size" = .ok p ∧ p.order.Perm [.size, .count, .age] ∧
      (t.evaluate ⟨5, 1, .ofSeconds 60⟩ p).isSome = true := by
  intro p t
  have hread : parse " Docs,\tAGE,size" = .ok p := by decide
  obtain ⟨hperm, hreports⟩ := (permutations_accepted " Docs,\tAGE,size").2.2 p hread
  refine ⟨hread, hperm, (hreports t _).2.1.mpr ⟨by decide, .age, ?_⟩⟩
  exact ⟨.ofSeconds 30, rfl, by decide⟩

end Precedence

end MetricRelay

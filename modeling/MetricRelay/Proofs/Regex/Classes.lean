import MetricRelay.Proofs.Regex.Closing

-- Bracketed classes in a text with and without a frame's end behind it. A class that is still open
-- where the text ends stays open: nothing of the frame's end can close it.

namespace MetricRelay.Regex

-- How two readings that cannot fail compare.
structure Agree {α : Type} (n n' : Nat) (x y : α × List Char) : Prop where
  value : x.1 = y.1
  rest : Joins x.2 y.2
  length_le : x.2.length ≤ n
  length_le' : y.2.length ≤ n'

theorem Agree.mono {α : Type} {n n' m m' : Nat} {x y : α × List Char} (h : Agree n n' x y)
    (hn : n ≤ m) (hn' : n' ≤ m') : Agree m m' x y :=
  ⟨h.value, h.rest, Nat.le_trans h.length_le hn, Nat.le_trans h.length_le' hn'⟩

-- What is left when a class can no longer be closed.
inductive Unclosed (f : Flags) : List Char → Prop
  | spent {cs : List Char} (h : Spent f cs) : Unclosed f cs
  | closing : Unclosed f [')', '$']

variable {f : Flags} {cs cs' : List Char}

theorem Unclosed.skip (h : Unclosed f cs) : f.skip cs = cs := by
  cases h with
  | spent h =>
    cases h with
    | ended => exact Flags.skip_nil
    | dollar => exact Flags.skip_dollar
    | brace h => exact Flags.skip_cons rfl (by decide) _
  | closing => exact Flags.skip_closing

theorem Flags.class?_nil [Library] {fuel : Nat} {d : Draft} (h : f.skip cs = []) :
    f.class? fuel d cs = none := by
  cases fuel with
  | zero => rfl
  | succ fuel => simp only [class?, h]

-- What stands before a character that is not in the frame's end.
theorem Joins.span (h : Joins cs cs') {p : Char → Bool} (hbracket : p ')' = true)
    (hdollar : p '$' = true) :
    (cs.dropWhile p = [] ∧ cs'.dropWhile p = []) ∨
      (cs.takeWhile p = cs'.takeWhile p ∧ Joins (cs.dropWhile p) (cs'.dropWhile p)) := by
  induction h with
  | ended => exact .inl ⟨rfl, rfl⟩
  | closed => simp [List.dropWhile, hbracket, hdollar]
  | cons c h ih =>
    by_cases hc : p c = true
    · simpa [List.dropWhile_cons, List.takeWhile_cons, hc] using ih
    · simpa [List.dropWhile_cons, List.takeWhile_cons, hc] using Joins.cons c h

theorem drop_length_takeWhile (p : Char → Bool) (cs : List Char) :
    cs.drop (cs.takeWhile p).length = cs.dropWhile p := by
  induction cs with
  | nil => rfl
  | cons c rest ih =>
    rw [List.takeWhile_cons, List.dropWhile_cons]
    split
    · rw [List.length_cons, List.drop_succ_cons, ih]
    · rfl

-- The front of a class.

def caret : List Char → Bool × List Char
  | '^' :: rest => (true, rest)
  | cs => (false, cs)

-- A closing bracket that begins a class belongs to it.
def Draft.front (d : Draft) (cs : List Char) : Draft × List Char :=
  match d.items, cs with
  | [], ']' :: rest => (d.add ⟨.single ']', 0⟩, rest)
  | _, _ => (d, cs)

theorem caret_plain (h : cs.head? ≠ some '^') : caret cs = (false, cs) := by
  unfold caret
  split
  · exact absurd rfl h
  · rfl

theorem Draft.front_plain {d : Draft} (h : d.items ≠ [] ∨ cs.head? ≠ some ']') :
    d.front cs = (d, cs) := by
  unfold front
  split
  · rename_i hitems
    exact h.elim (absurd hitems) (absurd rfl)
  · rfl

theorem Joins.caret (h : Joins cs cs') : Agree cs.length cs'.length (caret cs) (caret cs') := by
  obtain ⟨rest, rest', rfl, rfl, hrest⟩ | ⟨h1, h2⟩ := h.head_cases (c := '^') (by decide)
  · exact ⟨rfl, hrest, Nat.le_succ _, Nat.le_succ _⟩
  · rw [caret_plain h1, caret_plain h2]
    exact ⟨rfl, h, Nat.le_refl _, Nat.le_refl _⟩

theorem Joins.front (h : Joins cs cs') (d : Draft) :
    Agree cs.length cs'.length (d.front cs) (d.front cs') := by
  have hplain (h1 : d.items ≠ [] ∨ cs.head? ≠ some ']') (h2 : d.items ≠ [] ∨ cs'.head? ≠ some ']') :
      Agree cs.length cs'.length (d.front cs) (d.front cs') := by
    rw [Draft.front_plain h1, Draft.front_plain h2]
    exact ⟨rfl, h, Nat.le_refl _, Nat.le_refl _⟩
  by_cases hitems : d.items = []
  · obtain ⟨rest, rest', rfl, rfl, hrest⟩ | ⟨h1, h2⟩ := h.head_cases (c := ']') (by decide)
    · simp only [Draft.front, hitems]
      exact ⟨rfl, hrest, Nat.le_succ _, Nat.le_succ _⟩
    · exact hplain (.inr h1) (.inr h2)
  · exact hplain (.inl hitems) (.inl hitems)

namespace Flags

theorem leadingDashes_stop (fuel : Nat) (d : Draft) (h : (f.skip cs).head? ≠ some '-') :
    f.leadingDashes (fuel + 1) d cs = (d, f.skip cs) := by
  rw [leadingDashes]
  split
  · rename_i heq
    exact absurd (by rw [heq]; rfl) h
  · rfl

theorem leadingDashes_agree {fuel fuel' : Nat} (d : Draft) (h : Joins cs cs')
    (hf : cs.length < fuel) (hf' : cs'.length < fuel') :
    Agree cs.length cs'.length (f.leadingDashes fuel d cs) (f.leadingDashes fuel' d cs') := by
  induction fuel generalizing d cs cs' fuel' with
  | zero => omega
  | succ fuel ih =>
    obtain _ | fuel' := fuel'
    · omega
    have hl := f.length_skip_le cs
    have hl' := f.length_skip_le cs'
    obtain ⟨rest, rest', h1, h2, hrest⟩ | ⟨h1, h2⟩ := (h.skip f).head_cases (c := '-') (by decide)
    · rw [h1, List.length_cons] at hl
      rw [h2, List.length_cons] at hl'
      simp only [leadingDashes, h1, h2]
      exact (ih _ hrest (by omega) (by omega)).mono (by omega) (by omega)
    · rw [leadingDashes_stop fuel d h1, leadingDashes_stop fuel' d h2]
      exact ⟨rfl, h.skip f, hl, hl'⟩

theorem openClass_eq (cs : List Char) :
    f.openClass cs =
      let start := caret (f.skip cs)
      let dashes := f.leadingDashes (start.2.length + 1) ⟨start.1, [], none⟩ start.2
      dashes.1.front dashes.2 := rfl

theorem openClass_agree (h : Joins cs cs') :
    Agree cs.length cs'.length (f.openClass cs) (f.openClass cs') := by
  have hstart := ((h.skip f).caret).mono (f.length_skip_le cs) (f.length_skip_le cs')
  rw [openClass_eq, openClass_eq]
  dsimp only
  rw [← hstart.value]
  have hdashes := (leadingDashes_agree (f := f) ⟨(caret (f.skip cs)).1, [], none⟩ hstart.rest
    (Nat.lt_succ_self _) (Nat.lt_succ_self _)).mono hstart.length_le hstart.length_le'
  rw [← hdashes.value]
  exact (hdashes.rest.front _).mono hdashes.length_le hdashes.length_le'

-- A portable class.

-- The name between two colons.
def portableName? (cs : List Char) : Option (List Char × List Char) :=
  let name := cs.takeWhile (· != ':')
  match cs.drop name.length with
  | ':' :: ']' :: rest => some (name, rest)
  | _ => none

theorem portable?_colon (cs : List Char) :
    f.portable? (':' :: cs) = (portableName? (caret cs).2 >>= fun p =>
      CharSet.portable? (String.ofList p.1) >>= fun set =>
        pure (f.negate? (caret cs).1 (f.fold set), p.2)) := by
  unfold portable? portableName?
  change (match (caret cs).2.drop ((caret cs).2.takeWhile (· != ':')).length with
    | ':' :: ']' :: rest =>
      CharSet.portable? (String.ofList ((caret cs).2.takeWhile (· != ':'))) >>= fun set =>
        pure (f.negate? (caret cs).1 (f.fold set), rest)
    | _ => none) = _
  dsimp only
  split <;> rfl

theorem portable?_plain (h : cs.head? ≠ some ':') : f.portable? cs = none := by
  unfold portable?
  split
  · exact absurd rfl h
  · rfl

theorem portableName?_some {rest : List Char} (h : cs.dropWhile (· != ':') = ':' :: ']' :: rest) :
    portableName? cs = some (cs.takeWhile (· != ':'), rest) := by
  simp only [portableName?, drop_length_takeWhile, h]

theorem portableName?_none (h : ∀ rest, cs.dropWhile (· != ':') ≠ ':' :: ']' :: rest) :
    portableName? cs = none := by
  unfold portableName?
  dsimp only
  rw [drop_length_takeWhile]
  split
  · rename_i heq
    exact absurd heq (h _)
  · rfl

theorem portableName?_meets (h : Joins cs cs') :
    Meets never cs.length cs'.length (portableName? cs) (portableName? cs') := by
  have hl : (cs.dropWhile (· != ':')).length ≤ cs.length := (List.dropWhile_suffix _).length_le
  have hl' : (cs'.dropWhile (· != ':')).length ≤ cs'.length := (List.dropWhile_suffix _).length_le
  obtain ⟨h1, h2⟩ | ⟨hname, hrest⟩ := h.span (p := (· != ':')) rfl rfl
  · rw [portableName?_none (by rw [h1]; nofun), portableName?_none (by rw [h2]; nofun)]
    exact .fails
  obtain ⟨rest, rest', h1, h2, hrest⟩ | ⟨h1, h2⟩ :=
    hrest.pair_cases (a := ':') (b := ']') (by decide) (by decide)
  · rw [h1, List.length_cons, List.length_cons] at hl
    rw [h2, List.length_cons, List.length_cons] at hl'
    rw [portableName?_some h1, portableName?_some h2, hname]
    exact .reads hrest (by omega) (by omega)
  · rw [portableName?_none h1, portableName?_none h2]
    exact .fails

theorem portable?_meets (h : Joins cs cs') :
    Meets never cs.length cs'.length (f.portable? cs) (f.portable? cs') := by
  obtain ⟨rest, rest', rfl, rfl, hrest⟩ | ⟨h1, h2⟩ := h.head_cases (c := ':') (by decide)
  · have hcaret := hrest.caret
    rw [portable?_colon, portable?_colon, ← hcaret.value]
    refine (portableName?_meets hcaret.rest).bind (fun name rest₁ rest₁' hrest hn hn' => ?_)
      fun _ _ h => h.elim
    exact .value _ (fun set => f.negate? (caret rest).1 (f.fold set)) hrest
      (Nat.le_trans hn (Nat.le_succ_of_le hcaret.length_le))
      (Nat.le_trans hn' (Nat.le_succ_of_le hcaret.length_le'))
  · rw [portable?_plain h1, portable?_plain h2]
    exact .fails

-- Items of a class.

theorem afterDash_plain (hverbose : f.verbose = true)
    (h : (cs.dropWhile Text.isBlank).head? ≠ some '#') :
    f.afterDash cs = (cs.dropWhile Text.isBlank).head? := by
  unfold afterDash
  rw [if_pos hverbose]
  split
  · rename_i heq
    exact absurd (by rw [heq]; rfl) h
  · rfl

theorem afterDash_iff (h : Joins cs cs') {c : Char} (hc : c ≠ ')') :
    f.afterDash cs = some c ↔ f.afterDash cs' = some c := by
  cases hverbose : f.verbose with
  | false =>
    have hplain (cs : List Char) : f.afterDash cs = cs.head? := by
      unfold afterDash
      rw [hverbose]
      rfl
    rw [hplain, hplain]
    exact h.head?_iff hc
  | true =>
    have hrest := h.dropWhile (p := Text.isBlank) rfl
    obtain ⟨rest, rest', h1, h2, hrest⟩ | ⟨h1, h2⟩ := hrest.head_cases (c := '#') (by decide)
    · simp only [afterDash, hverbose, h1, h2]
      exact (hrest.dropWhile rfl).head?_iff hc
    · rw [afterDash_plain hverbose h1, afterDash_plain hverbose h2]
      exact hrest.head?_iff hc

-- The set of a single item.
def oneSet? (f : Flags) : Atom → Option CharSet
  | .literal c _ => (f.classCode? c).map fun n => .runs [(n, n)]
  | .chars set => some set
  | .look _ => none

-- The set of a range.
def rangeSet? (f : Flags) (first second : Atom) : Option CharSet :=
  match first, second with
  | .literal a _, .literal b _ => do
    let low ← f.classCode? a
    let high ← f.classCode? b
    if low ≤ high then return .runs [(low, high)] else none
  | _, _ => none

-- Whether a dash in front of this stands for itself.
def DashAlone (f : Flags) (cs : List Char) : Prop :=
  f.afterDash cs = some ']' ∨ f.afterDash cs = some '-'

-- What an item becomes by what follows its first character.
def itemFrom? [Library] (f : Flags) (first : Atom) (cs : List Char) :
    Option (CharSet × List Char) :=
  match f.skip cs with
  | [] => none
  | '-' :: more =>
    if f.afterDash more = some ']' ∨ f.afterDash more = some '-' then
      f.oneSet? first >>= fun set => pure (set, '-' :: more)
    else f.classAtom? (f.skip more) >>= fun p =>
      f.rangeSet? first p.1 >>= fun set => pure (set, p.2)
  | rest => f.oneSet? first >>= fun set => pure (set, rest)

theorem rangeSet?_bind (first second : Atom) (rest : List Char) :
    (f.rangeSet? first second >>= fun set => pure (set, rest)) =
      match first, second with
      | .literal a _, .literal b _ => do
        let low ← f.classCode? a
        let high ← f.classCode? b
        if low ≤ high then return (.runs [(low, high)], rest) else none
      | _, _ => none := by
  unfold rangeSet?
  split
  · simp only [bind_assoc]
    refine bind_congr fun low => bind_congr fun high => ?_
    split <;> rfl
  · rfl

variable [Library]

theorem classItem?_eq (cs : List Char) :
    f.classItem? cs = (f.classAtom? cs >>= fun p => f.itemFrom? p.1 p.2) := by
  simp only [itemFrom?, rangeSet?_bind]
  rfl

section

variable {first : Atom} {more : List Char}

theorem itemFrom?_alone (h : f.skip cs = '-' :: more) (hnext : f.DashAlone more) :
    f.itemFrom? first cs = (f.oneSet? first >>= fun set => pure (set, '-' :: more)) := by
  simp only [itemFrom?, h]
  exact if_pos hnext

theorem itemFrom?_range (h : f.skip cs = '-' :: more) (hnext : ¬f.DashAlone more) :
    f.itemFrom? first cs = (f.classAtom? (f.skip more) >>= fun p =>
      f.rangeSet? first p.1 >>= fun set => pure (set, p.2)) := by
  simp only [itemFrom?, h]
  exact if_neg hnext

theorem itemFrom?_plain {c : Char} (h : f.skip cs = c :: more) (hc : c ≠ '-') :
    f.itemFrom? first cs = (f.oneSet? first >>= fun set => pure (set, c :: more)) := by
  unfold itemFrom?
  rw [h]
  split
  · contradiction
  · rename_i heq
    exact absurd (List.cons.inj heq).1 hc
  · rfl

end

theorem classAtom?_plain {c : Char} (hc : c ≠ '\\') (rest : List Char) :
    f.classAtom? (c :: rest) = some (.literal c false, rest) := by
  unfold classAtom?
  split
  · contradiction
  · rename_i heq
    exact absurd (List.cons.inj heq).1 hc
  · rename_i heq
    cases heq
    rfl

theorem classAtom?_meets (h : Joins cs cs') :
    Meets (fun _ => Spent f) (cs.length - 1) (cs'.length - 1) (f.classAtom? cs)
      (f.classAtom? cs') := by
  obtain _ | _ | @⟨c, rest, rest', hrest⟩ := h
  · exact .fails
  · exact .late .dollar
  · by_cases hc : c = '\\'
    · subst hc
      exact (escape?_meets hrest).mono (Nat.sub_le _ _) (Nat.sub_le _ _)
    · rw [classAtom?_plain hc, classAtom?_plain hc]
      exact .reads hrest (Nat.le_refl _) (Nat.le_refl _)

theorem itemFrom?_meets (first : Atom) (h : Joins cs cs') :
    Meets (fun _ => Unclosed f) cs.length cs'.length (f.itemFrom? first cs)
      (f.itemFrom? first cs') := by
  obtain ⟨h1, h2⟩ | ⟨h1, h2⟩ | ⟨c, rest, rest', h1, h2, hrest, hl, hl'⟩ := h.skip_cases f
  · simp only [itemFrom?, h1, h2]
    exact .fails
  · rw [itemFrom?_plain h2 (by decide)]
    simp only [itemFrom?, h1]
    exact .value_late (f.oneSet? first) id fun _ => .closing
  · by_cases hc : c = '-'
    · subst hc
      have hiff : f.DashAlone rest ↔ f.DashAlone rest' :=
        or_congr (afterDash_iff hrest (by decide)) (afterDash_iff hrest (by decide))
      by_cases hnext : f.DashAlone rest
      · rw [itemFrom?_alone h1 hnext, itemFrom?_alone h2 (hiff.mp hnext)]
        exact .value (f.oneSet? first) id (.cons _ hrest) hl hl'
      · rw [itemFrom?_range h1 hnext, itemFrom?_range h2 (mt hiff.mpr hnext)]
        have hskip := f.length_skip_le rest
        have hskip' := f.length_skip_le rest'
        refine (classAtom?_meets (hrest.skip f)).bind (fun second _ _ hmore hn hn' => ?_)
          fun second _ hdead => ?_
        · exact .value (f.rangeSet? first second) id hmore (by dsimp only; omega)
            (by dsimp only; omega)
        · exact .value_late (f.rangeSet? first second) id fun _ => .spent hdead
    · rw [itemFrom?_plain h1 hc, itemFrom?_plain h2 hc]
      exact .value (f.oneSet? first) id (.cons _ hrest) hl hl'

theorem itemFrom?_spent (first : Atom) {n n' : Nat} (h : Spent f cs) :
    Meets (fun _ => Unclosed f) n n' none (f.itemFrom? first cs) := by
  cases h with
  | ended =>
    simp only [itemFrom?, skip_nil]
    exact .fails
  | dollar =>
    rw [itemFrom?_plain skip_dollar (by decide)]
    exact .value_late (f.oneSet? first) id fun _ => .spent .dollar
  | brace h =>
    rw [itemFrom?_plain (skip_cons rfl (by decide) _) (by decide)]
    exact .value_late (f.oneSet? first) id fun _ => .spent (.brace h)

theorem classItem?_meets (h : Joins cs cs') :
    Meets (fun _ => Unclosed f) (cs.length - 1) (cs'.length - 1) (f.classItem? cs)
      (f.classItem? cs') := by
  rw [classItem?_eq, classItem?_eq]
  refine (classAtom?_meets h).bind (fun first _ _ hrest hn hn' => ?_) fun first _ hdead => ?_
  · exact (itemFrom?_meets first hrest).mono hn hn'
  · exact itemFrom?_spent first hdead

-- Whole classes.

-- The operator that two equal signs stand for.
def setOp? : Char → Option SetOp
  | '&' => some .inter
  | '-' => some .diff
  | '~' => some .symmDiff
  | _ => none

section

variable {fuel : Nat} {d : Draft} {rest : List Char}

theorem class?_close (h : f.skip cs = ']' :: rest) :
    f.class? (fuel + 1) d cs = (d.close? f).map fun part => (part, rest) := by
  simp only [class?, h]

theorem class?_op {c : Char} {op : SetOp} (h : f.skip cs = c :: c :: rest)
    (hop : setOp? c = some op) :
    f.class? (fuel + 1) d cs = f.class? fuel (d.apply f op) rest := by
  unfold setOp? at hop
  split at hop
  · cases hop
    simp only [class?, h]
  · cases hop
    simp only [class?, h]
  · cases hop
    simp only [class?, h]
  · contradiction

theorem class?_portable {set : Option CharSet} {more : List Char} (h : f.skip cs = '[' :: rest)
    (hportable : f.portable? rest = some (set, more)) :
    f.class? (fuel + 1) d cs = (set >>= fun set => f.class? fuel (d.add ⟨set, 0⟩) more) := by
  simp only [class?, h, hportable]
  cases set <;> rfl

theorem class?_nested (h : f.skip cs = '[' :: rest) (hportable : f.portable? rest = none) :
    f.class? (fuel + 1) d cs = (f.class? fuel (f.openClass rest).1 (f.openClass rest).2 >>= fun p =>
      f.class? fuel (d.add p.1) p.2) := by
  simp only [class?, h, hportable]
  cases f.class? fuel (f.openClass rest).1 (f.openClass rest).2 <;> rfl

theorem class?_item {c : Char} (h : f.skip cs = c :: rest) (hopen : c ≠ '[') (hclose : c ≠ ']')
    (hop : setOp? c = none ∨ rest.head? ≠ some c) :
    f.class? (fuel + 1) d cs = (f.classItem? (c :: rest) >>= fun p =>
      f.class? fuel (d.add ⟨p.1, 0⟩) p.2) := by
  rw [class?, h]
  split
  case h_1 => contradiction
  case h_2 heq => exact absurd (List.cons.inj heq).1 hopen
  case h_3 heq => exact absurd (List.cons.inj heq).1 hclose
  case h_7 => cases f.classItem? (c :: rest) <;> rfl
  all_goals
    rename_i heq
    cases heq
    exact hop.elim nofun (absurd rfl)

end

theorem classItem?_plain {c : Char} (hc : c ≠ '\\') (rest : List Char) :
    f.classItem? (c :: rest) = f.itemFrom? (.literal c false) rest := by
  rw [classItem?_eq, classAtom?_plain hc]
  rfl

theorem class?_unclosed {fuel : Nat} {d : Draft} (h : Unclosed f (f.skip cs)) :
    f.class? fuel d cs = none := by
  have hdollar {fuel : Nat} {d : Draft} {cs : List Char} (h : f.skip cs = ['$']) :
      f.class? fuel d cs = none := by
    cases fuel with
    | zero => rfl
    | succ fuel =>
      rw [class?_item h (by decide) (by decide) (.inl rfl), classItem?_plain (by decide)]
      simp only [itemFrom?, skip_nil]
      rfl
  have hclosing {fuel : Nat} {d : Draft} {cs : List Char} (h : f.skip cs = [')', '$']) :
      f.class? fuel d cs = none := by
    cases fuel with
    | zero => rfl
    | succ fuel =>
      rw [class?_item h (by decide) (by decide) (.inl rfl), classItem?_plain (by decide),
        itemFrom?_plain skip_dollar (by decide)]
      cases f.oneSet? (.literal ')' false) with
      | none => rfl
      | some set => exact hdollar skip_dollar
  generalize hskip : f.skip cs = ds at h
  cases h with
  | closing => exact hclosing hskip
  | spent h =>
    cases h with
    | ended => exact class?_nil hskip
    | dollar => exact hdollar hskip
    | brace h =>
      cases fuel with
      | zero => rfl
      | succ fuel =>
        rw [class?_item hskip (by decide) (by decide) (.inl rfl), classItem?_plain (by decide),
          itemFrom?_plain h (by decide)]
        cases f.oneSet? (.literal '\x7b' false) with
        | none => rfl
        | some set => exact hclosing skip_closing

theorem class?_meets {fuel fuel' : Nat} (d : Draft) (h : Joins cs cs') (hf : cs.length < fuel)
    (hf' : cs'.length < fuel') :
    Meets never cs.length cs'.length (f.class? fuel d cs) (f.class? fuel' d cs') := by
  induction fuel generalizing d cs cs' fuel' with
  | zero => omega
  | succ fuel ih =>
    obtain _ | fuel' := fuel'
    · omega
    obtain ⟨h1, h2⟩ | ⟨h1, h2⟩ | ⟨c, rest, rest', h1, h2, hrest, hl, hl'⟩ := h.skip_cases f
    · rw [class?_nil h1, class?_nil h2]
      exact .fails
    · rw [class?_nil h1, class?_unclosed (h2 ▸ .closing)]
      exact .fails
    by_cases hclose : c = ']'
    · subst hclose
      rw [class?_close h1, class?_close h2]
      cases d.close? f with
      | none => exact .fails
      | some part => exact .reads hrest (Nat.le_of_lt hl) (Nat.le_of_lt hl')
    by_cases hopen : c = '['
    · subst hopen
      have hportable := portable?_meets (f := f) hrest
      generalize hx : f.portable? rest = x at hportable
      generalize hy : f.portable? rest' = y at hportable
      cases hportable with
      | fails =>
        have hinner := openClass_agree (f := f) hrest
        have hle := hinner.length_le
        have hle' := hinner.length_le'
        rw [class?_nested h1 hx, class?_nested h2 hy, ← hinner.value]
        refine (ih _ hinner.rest (by omega) (by omega)).bind
          (fun part more more' hmore hn hn' => ?_) fun _ _ h => h.elim
        exact (ih _ hmore (by omega) (by omega)).mono (by omega) (by omega)
      | @reads set more more' hmore hn hn' =>
        rw [class?_portable h1 hx, class?_portable h2 hy]
        cases set with
        | none => exact .fails
        | some set => exact (ih _ hmore (by omega) (by omega)).mono (by omega) (by omega)
      | late h => exact h.elim
    have hitem (hop : setOp? c = none ∨ rest.head? ≠ some c)
        (hop' : setOp? c = none ∨ rest'.head? ≠ some c) :
        Meets never cs.length cs'.length (f.class? (fuel + 1) d cs)
          (f.class? (fuel' + 1) d cs') := by
      rw [class?_item h1 hopen hclose hop, class?_item h2 hopen hclose hop']
      refine (classItem?_meets (.cons c hrest)).bind (fun set more more' hmore hn hn' => ?_)
        fun set more' hdead => ?_
      · simp only [List.length_cons, Nat.add_sub_cancel] at hn hn'
        exact (ih _ hmore (by omega) (by omega)).mono (by omega) (by omega)
      · rw [class?_unclosed (hdead.skip.symm ▸ hdead)]
        exact .fails
    cases hop : setOp? c with
    | none => exact hitem (.inl hop) (.inl hop)
    | some op =>
      have hc : c ≠ ')' := fun hc => by
        rw [hc] at hop
        contradiction
      obtain ⟨more, more', rfl, rfl, hmore⟩ | ⟨hne, hne'⟩ := hrest.head_cases hc
      · rw [List.length_cons] at hl hl'
        rw [class?_op h1 hop, class?_op h2 hop]
        exact (ih _ hmore (by omega) (by omega)).mono (by omega) (by omega)
      · exact hitem (.inr hne) (.inr hne')

end Flags

end MetricRelay.Regex

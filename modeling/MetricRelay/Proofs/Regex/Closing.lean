import MetricRelay.Regex.Reader

-- What the reader makes of a text when the end of a frame, a closing bracket and the sign for the
-- end of the text, stands behind it. What is read off the front is the same, unless a comment
-- swallows the frame's end or the text breaks off in the middle of something that the frame's end
-- can complete.

namespace MetricRelay.Regex

-- The second text is the first one, with or without the frame's end behind it.
inductive Joins : List Char → List Char → Prop
  | ended : Joins [] []
  | closed : Joins [] [')', '$']
  | cons (c : Char) {rest rest' : List Char} (h : Joins rest rest') : Joins (c :: rest) (c :: rest')

-- How a reading of the first text and one of the second compare. Either both fail, or both give
-- the same, or only the second succeeds and leaves no more than a dead end.
inductive Meets {α : Type} (dead : α → List Char → Prop) (n n' : Nat) :
    Option (α × List Char) → Option (α × List Char) → Prop
  | fails : Meets dead n n' none none
  | reads {a : α} {rest rest' : List Char} (h : Joins rest rest') (hn : rest.length ≤ n)
      (hn' : rest'.length ≤ n') : Meets dead n n' (some (a, rest)) (some (a, rest'))
  | late {a : α} {rest' : List Char} (h : dead a rest') : Meets dead n n' none (some (a, rest'))

def never {α : Type} (_ : α) (_ : List Char) : Prop := False

-- What may be left where the text broke off: not even the frame's bracket, or the brace of a
-- repetition that counts nothing.
inductive Spent (f : Flags) : List Char → Prop
  | ended : Spent f []
  | dollar : Spent f ['$']
  | brace {more : List Char} (h : f.skip more = [')', '$']) : Spent f ('\x7b' :: more)

namespace Meets

variable {α β : Type} {dead : α → List Char → Prop} {dead' : β → List Char → Prop}
  {x y : Option (α × List Char)} {n n' m m' : Nat} {rest rest' : List Char}

theorem mono (h : Meets dead n n' x y) (hn : n ≤ m) (hn' : n' ≤ m') : Meets dead m m' x y := by
  cases h with
  | fails => exact .fails
  | reads h hl hl' => exact .reads h (Nat.le_trans hl hn) (Nat.le_trans hl' hn')
  | late h => exact .late h

theorem live (h : Meets never n n' x y) : Meets dead n n' x y := by
  cases h with
  | fails => exact .fails
  | reads h hn hn' => exact .reads h hn hn'
  | late h => exact h.elim

theorem bind {k k' : α × List Char → Option (β × List Char)} (h : Meets dead n n' x y)
    (hreads : ∀ a rest rest', Joins rest rest' → rest.length ≤ n → rest'.length ≤ n' →
      Meets dead' m m' (k (a, rest)) (k' (a, rest')))
    (hlate : ∀ a rest', dead a rest' → Meets dead' m m' none (k' (a, rest'))) :
    Meets dead' m m' (x >>= k) (y >>= k') := by
  cases h with
  | fails => exact .fails
  | reads h hn hn' => exact hreads _ _ _ h hn hn'
  | late h => exact hlate _ _ h

theorem map (h : Meets never n n' x y) (g : α → β) :
    Meets dead' n n' (x.map fun p => (g p.1, p.2)) (y.map fun p => (g p.1, p.2)) := by
  cases h with
  | fails => exact .fails
  | reads h hn hn' => exact .reads h hn hn'
  | late h => exact h.elim

-- A value that does not depend on what is left.
theorem value (v : Option β) (g : β → α) (h : Joins rest rest') (hn : rest.length ≤ n)
    (hn' : rest'.length ≤ n') :
    Meets dead n n' (v >>= fun b => pure (g b, rest)) (v >>= fun b => pure (g b, rest')) := by
  cases v with
  | none => exact .fails
  | some b => exact .reads h hn hn'

theorem value_late (v : Option β) (g : β → α) (h : ∀ a, dead a rest') :
    Meets dead n n' none (v >>= fun b => pure (g b, rest')) := by
  cases v with
  | none => exact .fails
  | some b => exact .late (h _)

end Meets

-- Blanks and comments.

theorem dropBlanks_suffix (inComment : Bool) (cs : List Char) : dropBlanks inComment cs <:+ cs := by
  induction cs generalizing inComment with
  | nil => exact List.suffix_rfl
  | cons c rest ih =>
    have hrest (b : Bool) : dropBlanks b rest <:+ c :: rest :=
      (ih b).trans (List.suffix_cons c rest)
    rw [dropBlanks]
    split
    · exact hrest _
    split
    · exact hrest _
    split
    · exact hrest _
    · exact List.suffix_rfl

theorem Flags.skip_suffix (f : Flags) (cs : List Char) : f.skip cs <:+ cs := by
  unfold skip
  split
  · exact dropBlanks_suffix _ _
  · exact List.suffix_rfl

theorem Flags.length_skip_le (f : Flags) (cs : List Char) : (f.skip cs).length ≤ cs.length :=
  (f.skip_suffix cs).length_le

theorem Flags.skip_cons {f : Flags} {c : Char} (hblank : Text.isBlank c = false) (hc : c ≠ '#')
    (rest : List Char) : f.skip (c :: rest) = c :: rest := by
  simp [skip, dropBlanks, hblank, hc]

namespace Joins

variable {cs cs' : List Char}

theorem append (cs : List Char) : Joins cs (cs ++ [')', '$']) := by
  induction cs with
  | nil => exact .closed
  | cons c rest ih => exact .cons c ih

theorem dropBlanks (h : Joins cs cs') (inComment : Bool) :
    Joins (dropBlanks inComment cs) (dropBlanks inComment cs') := by
  induction h generalizing inComment with
  | ended => exact .ended
  | closed =>
    cases inComment
    · exact .closed
    · exact .ended
  | cons c h ih =>
    rw [Regex.dropBlanks, Regex.dropBlanks]
    split
    · exact ih _
    split
    · exact ih _
    split
    · exact ih _
    · exact .cons c h

theorem skip (h : Joins cs cs') (f : Flags) : Joins (f.skip cs) (f.skip cs') := by
  unfold Flags.skip
  split
  · exact h.dropBlanks _
  · exact h

theorem skip_cases (h : Joins cs cs') (f : Flags) :
    (f.skip cs = [] ∧ f.skip cs' = []) ∨ (f.skip cs = [] ∧ f.skip cs' = [')', '$']) ∨
      ∃ c rest rest', f.skip cs = c :: rest ∧ f.skip cs' = c :: rest' ∧ Joins rest rest' ∧
        rest.length < cs.length ∧ rest'.length < cs'.length := by
  have hs := h.skip f
  have hl := f.length_skip_le cs
  have hl' := f.length_skip_le cs'
  generalize f.skip cs = ds at hs hl
  generalize f.skip cs' = ds' at hs hl'
  cases hs with
  | ended => exact .inl ⟨rfl, rfl⟩
  | closed => exact .inr (.inl ⟨rfl, rfl⟩)
  | cons c hs => exact .inr (.inr ⟨c, _, _, rfl, rfl, hs, hl, hl'⟩)

-- Both begin with a character or neither does, unless it is the bracket of the frame's end.
theorem head_cases (h : Joins cs cs') {c : Char} (hc : c ≠ ')') :
    (∃ rest rest', cs = c :: rest ∧ cs' = c :: rest' ∧ Joins rest rest') ∨
      (cs.head? ≠ some c ∧ cs'.head? ≠ some c) := by
  cases h with
  | ended => exact .inr ⟨nofun, nofun⟩
  | closed => exact .inr ⟨nofun, fun h => hc (Option.some.inj h).symm⟩
  | @cons d rest rest' h =>
    by_cases hd : d = c
    · subst hd
      exact .inl ⟨rest, rest', rfl, rfl, h⟩
    · exact .inr ⟨fun h => hd (Option.some.inj h), fun h => hd (Option.some.inj h)⟩

theorem head?_iff (h : Joins cs cs') {c : Char} (hc : c ≠ ')') :
    cs.head? = some c ↔ cs'.head? = some c := by
  obtain ⟨_, _, rfl, rfl, -⟩ | ⟨h1, h2⟩ := h.head_cases hc
  · exact Iff.rfl
  · exact iff_of_false h1 h2

theorem pair_cases (h : Joins cs cs') {a b : Char} (ha : a ≠ ')') (hb : b ≠ ')') :
    (∃ rest rest', cs = a :: b :: rest ∧ cs' = a :: b :: rest' ∧ Joins rest rest') ∨
      ((∀ rest, cs ≠ a :: b :: rest) ∧ ∀ rest, cs' ≠ a :: b :: rest) := by
  obtain ⟨rest, rest', rfl, rfl, hrest⟩ | ⟨h1, h2⟩ := h.head_cases ha
  · obtain ⟨more, more', rfl, rfl, hmore⟩ | ⟨h1, h2⟩ := hrest.head_cases hb
    · exact .inl ⟨more, more', rfl, rfl, hmore⟩
    · exact .inr ⟨fun _ h => h1 (by rw [(List.cons.inj h).2]; rfl),
        fun _ h => h2 (by rw [(List.cons.inj h).2]; rfl)⟩
  · exact .inr ⟨fun _ h => h1 (by rw [h]; rfl), fun _ h => h2 (by rw [h]; rfl)⟩

theorem dropWhile (h : Joins cs cs') {p : Char → Bool} (hp : p ')' = false) :
    Joins (cs.dropWhile p) (cs'.dropWhile p) := by
  induction h with
  | ended => exact .ended
  | closed => simpa [List.dropWhile, hp] using Joins.closed
  | cons c h ih =>
    rw [List.dropWhile_cons, List.dropWhile_cons]
    split
    · exact ih
    · exact .cons c h

end Joins

namespace Flags

variable {f : Flags} {cs cs' : List Char}

theorem skip_nil : f.skip [] = [] := by
  unfold skip
  split <;> rfl

theorem skip_closing : f.skip [')', '$'] = [')', '$'] := skip_cons rfl (by decide) _

theorem skip_dollar : f.skip ['$'] = ['$'] := skip_cons rfl (by decide) _

-- Escapes.

theorem hexDigits?_meets (digits : Nat) (h : Joins cs cs') :
    Meets never cs.length cs'.length (f.hexDigits? digits cs) (f.hexDigits? digits cs') := by
  induction digits generalizing cs cs' with
  | zero => exact .reads h (Nat.le_refl _) (Nat.le_refl _)
  | succ digits ih =>
    obtain ⟨h1, h2⟩ | ⟨h1, h2⟩ | ⟨c, rest, rest', h1, h2, hrest, hl, hl'⟩ := h.skip_cases f
    · simp only [hexDigits?, h1, h2]
      exact .fails
    · simp only [hexDigits?, h1, h2]
      exact .fails
    · simp only [hexDigits?, h1, h2]
      split
      · exact ((ih hrest).map (c :: ·)).mono (Nat.le_of_lt hl) (Nat.le_of_lt hl')
      · exact .fails

theorem braced?_eq_none (fuel : Nat) (h : '\x7d' ∉ f.skip cs) : f.braced? fuel cs = none := by
  induction fuel generalizing cs with
  | zero => rfl
  | succ fuel ih =>
    rw [braced?]
    split
    · rfl
    · rename_i heq
      exact absurd (heq ▸ List.mem_cons_self) h
    · rename_i c rest _ heq
      have hrest : '\x7d' ∉ f.skip rest := fun hc =>
        h (heq ▸ List.mem_cons_of_mem c ((f.skip_suffix rest).mem hc))
      rw [ih hrest]
      rfl

theorem braced?_meets {fuel fuel' : Nat} (h : Joins cs cs') (hf : cs.length < fuel)
    (hf' : cs'.length < fuel') :
    Meets never cs.length cs'.length (f.braced? fuel cs) (f.braced? fuel' cs') := by
  induction fuel generalizing cs cs' fuel' with
  | zero => omega
  | succ fuel ih =>
    obtain _ | fuel' := fuel'
    · omega
    obtain ⟨h1, h2⟩ | ⟨h1, h2⟩ | ⟨c, rest, rest', h1, h2, hrest, hl, hl'⟩ := h.skip_cases f
    · simp only [braced?, h1, h2]
      exact .fails
    · rw [braced?_eq_none _ (by rw [h1]; decide), braced?_eq_none _ (by rw [h2]; decide)]
      exact .fails
    · by_cases hc : c = '\x7d'
      · subst hc
        simp only [braced?, h1, h2]
        exact .reads hrest (Nat.le_of_lt hl) (Nat.le_of_lt hl')
      · simp only [braced?, h1, h2]
        exact ((ih hrest (by omega) (by omega)).map (c :: ·)).mono
          (Nat.le_of_lt hl) (Nat.le_of_lt hl')

-- The character that digits stand for, and what comes after the blanks behind them.
theorem meets_hex {n n' : Nat} {dead : Atom → List Char → Prop}
    {x y : Option (List Char × List Char)} (v : List Char → Option Char) (byte : Bool)
    (h : Meets never n n' x y) :
    Meets dead n n' (x >>= fun p => v p.1 >>= fun c => pure (.literal c byte, f.skip p.2))
      (y >>= fun p => v p.1 >>= fun c => pure (.literal c byte, f.skip p.2)) := by
  refine h.bind (fun ds rest rest' hrest hn hn' => ?_) fun _ _ h => h.elim
  exact .value (v ds) (Atom.literal · byte) (hrest.skip f)
    (Nat.le_trans (f.length_skip_le _) hn) (Nat.le_trans (f.length_skip_le _) hn')

theorem hexEscape?_plain (digits : Nat) (h : (f.skip cs).head? ≠ some '\x7b') :
    f.hexEscape? digits cs = (f.hexDigits? digits (f.skip cs) >>= fun p =>
      charOfHex? p.1 >>= fun c => pure (.literal c (digits == 2), f.skip p.2)) := by
  unfold hexEscape?
  split
  · rename_i heq
    exact absurd (by rw [heq]; rfl) h
  · rfl

-- The character that digits in braces stand for.
def bracedHex? (inside : List Char) : Option Char :=
  if inside.isEmpty || !inside.all isHexDigit then none else charOfHex? inside

theorem hexEscape?_braced (digits : Nat) {rest : List Char} (h : f.skip cs = '\x7b' :: rest) :
    f.hexEscape? digits cs = (f.braced? (rest.length + 1) rest >>= fun p =>
      bracedHex? p.1 >>= fun c => pure (.literal c false, f.skip p.2)) := by
  simp only [hexEscape?, h]
  refine bind_congr fun (inside, _) => ?_
  dsimp only [bracedHex?]
  split <;> rfl

theorem hexEscape?_meets (digits : Nat) (h : Joins cs cs') :
    Meets (fun _ => Spent f) cs.length cs'.length (f.hexEscape? digits cs)
      (f.hexEscape? digits cs') := by
  have hl := f.length_skip_le cs
  have hl' := f.length_skip_le cs'
  obtain ⟨rest, rest', h1, h2, hrest⟩ | ⟨h1, h2⟩ := (h.skip f).head_cases (c := '\x7b') (by decide)
  · rw [h1] at hl
    rw [h2] at hl'
    rw [hexEscape?_braced digits h1, hexEscape?_braced digits h2]
    exact (meets_hex bracedHex? false
      (braced?_meets hrest (Nat.lt_succ_self _) (Nat.lt_succ_self _))).mono
      (Nat.le_of_succ_le hl) (Nat.le_of_succ_le hl')
  · rw [hexEscape?_plain digits h1, hexEscape?_plain digits h2]
    exact (meets_hex charOfHex? (digits == 2) (hexDigits?_meets digits (h.skip f))).mono hl hl'

-- The text of a property, in braces or a single letter.
def propertyText? (f : Flags) (cs : List Char) : Option (List Char × List Char) :=
  match f.skip cs with
  | [] => none
  | '\\' :: _ => none
  | '\x7b' :: rest => f.braced? (rest.length + 1) rest
  | c :: rest => some ([c], f.skip rest)

def propertyOf? [Library] (f : Flags) (negated : Bool) (inside : List Char) : Option CharSet :=
  if !f.unicode then none
  else propertySet? inside >>= fun p => f.negate? (negated != p.2) (f.fold p.1)

theorem property?_eq [Library] (negated : Bool) (cs : List Char) :
    f.property? negated cs = (f.propertyText? cs >>= fun p =>
      f.propertyOf? negated p.1 >>= fun set => pure (.chars set, p.2)) := by
  have hvalue (inside rest : List Char) :
      (if !f.unicode then none else (propertySet? inside >>= fun p =>
        f.negate? (negated != p.2) (f.fold p.1) >>= fun set => pure (Atom.chars set, rest))) =
      (f.propertyOf? negated inside >>= fun set => pure (.chars set, rest)) := by
    unfold propertyOf?
    split
    · rfl
    · rw [bind_assoc]
  cases hskip : f.skip cs with
  | nil =>
    simp only [property?, propertyText?, hskip]
    rfl
  | cons c rest =>
    by_cases hslash : c = '\\'
    · subst hslash
      simp only [property?, propertyText?, hskip]
      rfl
    by_cases hbrace : c = '\x7b'
    · subst hbrace
      simp only [property?, propertyText?, hskip]
      exact bind_congr fun p => hvalue p.1 p.2
    · simp only [property?, propertyText?, hskip]
      exact hvalue _ _

theorem propertyText?_meets (h : Joins cs cs') :
    Meets (fun _ => Spent f) cs.length cs'.length (f.propertyText? cs) (f.propertyText? cs') := by
  obtain ⟨h1, h2⟩ | ⟨h1, h2⟩ | ⟨c, rest, rest', h1, h2, hrest, hl, hl'⟩ := h.skip_cases f
  · simp only [propertyText?, h1, h2]
    exact .fails
  · simp only [propertyText?, h1, h2]
    change Meets _ _ _ none (some ([')'], f.skip ['$']))
    rw [skip_dollar]
    exact .late .dollar
  · by_cases hslash : c = '\\'
    · subst hslash
      simp only [propertyText?, h1, h2]
      exact .fails
    · by_cases hbrace : c = '\x7b'
      · subst hbrace
        simp only [propertyText?, h1, h2]
        exact (braced?_meets hrest (Nat.lt_succ_self _) (Nat.lt_succ_self _)).live.mono
          (Nat.le_of_lt hl) (Nat.le_of_lt hl')
      · simp only [propertyText?, h1, h2]
        exact .reads (hrest.skip f) (Nat.le_trans (f.length_skip_le _) (Nat.le_of_lt hl))
          (Nat.le_trans (f.length_skip_le _) (Nat.le_of_lt hl'))

theorem property?_meets [Library] (negated : Bool) (h : Joins cs cs') :
    Meets (fun _ => Spent f) cs.length cs'.length (f.property? negated cs)
      (f.property? negated cs') := by
  rw [property?_eq, property?_eq]
  refine (propertyText?_meets h).bind (fun inside rest rest' hrest hn hn' => ?_)
    fun inside rest' hdead => ?_
  · exact .value _ Atom.chars hrest hn hn'
  · exact .value_late _ Atom.chars fun _ => hdead

theorem edgeName?_plain {c : Char} (hc : c ≠ '\x7b') (rest : List Char) :
    f.edgeName? (c :: rest) = some (none, c :: rest) := by
  unfold edgeName?
  split
  · rename_i heq
    exact absurd (List.cons.inj heq).1 hc
  · rfl

theorem edgeName?_meets (h : Joins cs cs') :
    Meets (fun _ => Spent f) cs.length cs'.length (f.edgeName? cs) (f.edgeName? cs') := by
  obtain _ | _ | @⟨c, rest, rest', hrest⟩ := h
  · exact .reads .ended (Nat.le_refl _) (Nat.le_refl _)
  · exact .reads .closed (Nat.le_refl _) (Nat.le_refl _)
  · by_cases hc : c = '\x7b'
    · subst hc
      obtain ⟨h1, h2⟩ | ⟨h1, h2⟩ | ⟨d, more, more', h1, h2, hmore, hl, hl'⟩ := hrest.skip_cases f
      · simp only [edgeName?, h1, h2]
        exact .fails
      · simp only [edgeName?, h1, h2]
        exact .late (.brace h2)
      · simp only [edgeName?, h1, h2]
        split
        · exact .reads (.cons _ hrest) (Nat.le_refl _) (Nat.le_refl _)
        · have hname : Meets never (more.length + 1) (more'.length + 1)
              (f.braced? (more.length + 2) (d :: more))
              (f.braced? (more'.length + 2) (d :: more')) :=
            braced?_meets (.cons d hmore) (Nat.lt_succ_self _) (Nat.lt_succ_self _)
          have hrest := Nat.le_trans hl (Nat.le_succ rest.length)
          have hrest' := Nat.le_trans hl' (Nat.le_succ rest'.length)
          generalize f.braced? (more.length + 2) (d :: more) = name at hname
          generalize f.braced? (more'.length + 2) (d :: more') = name' at hname
          cases hname with
          | fails => exact .fails
          | reads hjoins hn hn' =>
            dsimp only
            split
            · exact .reads hjoins (Nat.le_trans hn hrest) (Nat.le_trans hn' hrest')
            · exact .fails
          | late h => exact h.elim
    · rw [edgeName?_plain hc, edgeName?_plain hc]
      exact .reads (.cons c hrest) (Nat.le_refl _) (Nat.le_refl _)

-- The condition with a name, or without one.
def edgeLook? (ascii : Bool) : Option String → Option Look
  | none => some (.wordEdge ascii)
  | some "start" => some (.wordStart ascii)
  | some "end" => some (.wordEnd ascii)
  | some "start-half" => some (.wordStartHalf ascii)
  | some "end-half" => some (.wordEndHalf ascii)
  | _ => none

theorem wordEdge?_eq (cs : List Char) :
    f.wordEdge? cs = (f.edgeName? cs >>= fun p =>
      edgeLook? (!f.unicode) p.1 >>= fun l => pure (.look l, p.2)) := by
  unfold wordEdge?
  refine bind_congr fun (name, rest) => ?_
  dsimp only
  split
  case h_6 h h₁ h₂ h₃ h₄ =>
    have hnone : edgeLook? (!f.unicode) name = none := by
      unfold edgeLook?
      split <;> simp_all
    rw [hnone]
    rfl
  all_goals
    rename_i heq
    cases heq
    rfl

theorem wordEdge?_meets (h : Joins cs cs') :
    Meets (fun _ => Spent f) cs.length cs'.length (f.wordEdge? cs) (f.wordEdge? cs') := by
  rw [wordEdge?_eq, wordEdge?_eq]
  refine (edgeName?_meets h).bind (fun name rest rest' hrest hn hn' => ?_)
    fun name rest' hdead => ?_
  · exact .value _ Atom.look hrest hn hn'
  · exact .value_late _ Atom.look fun _ => hdead

theorem escape?_meets [Library] (h : Joins cs cs') :
    Meets (fun _ => Spent f) (cs.length - 1) (cs'.length - 1) (f.escape? cs) (f.escape? cs') := by
  obtain _ | _ | @⟨c, rest, rest', hrest⟩ := h
  · exact .fails
  · exact .late .dollar
  have hplain (a : Atom) : Meets (fun _ => Spent f) rest.length rest'.length (some (a, rest))
      (some (a, rest')) := .reads hrest (Nat.le_refl _) (Nat.le_refl _)
  have hclass (wide ascii : CharSet) (negated : Bool) : Meets (fun _ => Spent f) rest.length
      rest'.length ((f.letterClass? wide ascii negated).map (·, rest))
      ((f.letterClass? wide ascii negated).map (·, rest')) := by
    cases f.letterClass? wide ascii negated with
    | none => exact .fails
    | some a => exact hplain a
  simp only [escape?, List.length_cons, Nat.add_sub_cancel]
  split
  · exact hplain _
  split
  all_goals first
    | exact hplain _
    | exact hclass _ _ _
    | exact hexEscape?_meets _ hrest
    | exact property?_meets _ hrest
    | exact wordEdge?_meets hrest
    | exact .fails

end Flags

end MetricRelay.Regex

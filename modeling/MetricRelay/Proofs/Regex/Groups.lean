import MetricRelay.Proofs.Regex.Classes

-- One step of the reader on a text with and without a frame's end behind it: groups, directives,
-- counts and all the rest.

namespace MetricRelay.Regex

variable {f : Flags} {cs cs' : List Char}

-- Flag lists.

theorem flagLetters?_cases (seen : List Char) (h : Joins cs cs') :
    (flagLetters? seen cs = none ∧ flagLetters? seen cs' = none) ∨
      (∃ letters c rest rest', flagLetters? seen cs = some (letters, c, rest) ∧
        flagLetters? seen cs' = some (letters, c, rest') ∧ Joins rest rest' ∧
        rest.length ≤ cs.length ∧ rest'.length ≤ cs'.length) ∨
      (flagLetters? seen cs = none ∧
        ∃ letters, flagLetters? seen cs' = some (letters, ')', ['$'])) := by
  induction h generalizing seen with
  | ended => exact .inl ⟨rfl, rfl⟩
  | closed =>
    by_cases hdash : seen.head? = some '-'
    · exact .inl ⟨rfl, by simp [flagLetters?, hdash]⟩
    · exact .inr (.inr ⟨rfl, seen.reverse, by simp [flagLetters?, hdash]⟩)
  | @cons c rest rest' h ih =>
    by_cases hend : c = ':' ∨ c = ')'
    · by_cases hdash : seen.head? = some '-'
      · exact .inl ⟨by simp [flagLetters?, hend, hdash], by simp [flagLetters?, hend, hdash]⟩
      · exact .inr (.inl ⟨seen.reverse, c, rest, rest', by simp [flagLetters?, hend, hdash],
          by simp [flagLetters?, hend, hdash], h, Nat.le_succ _, Nat.le_succ _⟩)
    · rw [flagLetters?, if_neg hend, flagLetters?, if_neg hend]
      split
      · exact .inl ⟨rfl, rfl⟩
      · obtain h | ⟨letters, d, more, more', h1, h2, hmore, hl, hl'⟩ | h := ih (c :: seen)
        · exact .inl h
        · exact .inr (.inl ⟨letters, d, more, more', h1, h2, hmore, Nat.le_succ_of_le hl,
            Nat.le_succ_of_le hl'⟩)
        · exact .inr (.inr h)

namespace Reader

variable {r : Reader}

-- Named groups.

-- The reader in a group of that name.
def groupNamed? (r : Reader) : List Char → Option Reader
  | [] => none
  | c :: more =>
    let text := String.ofList (c :: more)
    if !isNameChar true c || !more.all (isNameChar false) || r.names.contains text then none
    else some ({ r with names := text :: r.names }.openGroup r.flags)

theorem named?_closed {rest : List Char} (h : cs.dropWhile (· != '>') = '>' :: rest) :
    r.named? cs = (r.groupNamed? (cs.takeWhile (· != '>')) >>= fun r => pure (r, rest)) := by
  unfold named?
  dsimp only
  rw [drop_length_takeWhile, h]
  cases cs.takeWhile (· != '>') with
  | nil => rfl
  | cons c more =>
    change (if _ then none else some _) = ((if _ then none else some _) >>= _)
    split <;> rfl

theorem named?_open (h : (cs.dropWhile (· != '>')).head? ≠ some '>') : r.named? cs = none := by
  unfold named?
  dsimp only
  rw [drop_length_takeWhile]
  split
  · rename_i heq
    exact absurd (by rw [heq]; rfl) h
  · rfl

theorem named?_meets {dead : Reader → List Char → Prop} (h : Joins cs cs') :
    Meets dead cs.length cs'.length (r.named? cs) (r.named? cs') := by
  have hl : (cs.dropWhile (· != '>')).length ≤ cs.length := (List.dropWhile_suffix _).length_le
  have hl' : (cs'.dropWhile (· != '>')).length ≤ cs'.length := (List.dropWhile_suffix _).length_le
  obtain ⟨h1, h2⟩ | ⟨hname, hrest⟩ := h.span (p := (· != '>')) rfl rfl
  · rw [named?_open (by rw [h1]; nofun), named?_open (by rw [h2]; nofun)]
    exact .fails
  obtain ⟨rest, rest', h1, h2, hrest⟩ | ⟨h1, h2⟩ := hrest.head_cases (c := '>') (by decide)
  · rw [h1, List.length_cons] at hl
    rw [h2, List.length_cons] at hl'
    rw [named?_closed h1, named?_closed h2, hname]
    exact .value _ id hrest (by omega) (by omega)
  · rw [named?_open h1, named?_open h2]
    exact .fails

-- Groups and directives.

-- A group or a directive with its flags, after the question mark.
def flagged? (r : Reader) (cs : List Char) : Option (Reader × List Char) :=
  match flagLetters? [] cs with
  | none => none
  | some (letters, ')', rest) =>
    if letters.isEmpty then none
    else some ({ r with flags := r.flags.change letters,
                        items := ⟨.empty, 0, false⟩ :: r.items }, rest)
  | some (letters, _, rest) => some (r.openGroup (r.flags.change letters), rest)

-- A group or a directive, after its question mark.
def questioned? (r : Reader) (cs : List Char) : Option (Reader × List Char) :=
  match cs with
  | '<' :: rest => if rest.head? = some '=' ∨ rest.head? = some '!' then none else r.named? rest
  | 'P' :: '<' :: rest => r.named? rest
  | rest => r.flagged? rest

theorem questioned?_flagged (hangle : cs.head? ≠ some '<')
    (hname : ∀ more, cs ≠ 'P' :: '<' :: more) : r.questioned? cs = r.flagged? cs := by
  unfold questioned?
  split
  · exact absurd rfl hangle
  · exact absurd rfl (hname _)
  · rfl

theorem group?_eq (cs : List Char) :
    r.group? cs = if (r.flags.skip cs).head? = some '?' then r.questioned? (r.flags.skip cs).tail
      else some (r.openGroup r.flags, r.flags.skip cs) := by
  unfold group?
  split
  case h_6 hequal hnot heq =>
    rw [heq]
    refine (if_neg ?_).symm
    rintro (h | h)
    · obtain ⟨rest, rfl⟩ := List.head?_eq_some_iff.mp h
      exact hequal _ rfl
    · obtain ⟨rest, rfl⟩ := List.head?_eq_some_iff.mp h
      exact hnot _ rfl
  case h_7 rest _ _ _ _ hname hangle heq =>
    rw [heq]
    refine (questioned?_flagged (fun h => ?_) fun more h => hname more (h ▸ rfl)).symm
    obtain ⟨more, rfl⟩ := List.head?_eq_some_iff.mp h
    exact hangle more rfl
  case h_8 hquestion =>
    refine (if_neg fun h => ?_).symm
    obtain ⟨rest, hrest⟩ := List.head?_eq_some_iff.mp h
    exact hquestion rest hrest
  all_goals
    rename_i heq
    rw [heq]
    rfl

theorem flagged?_group {letters rest : List Char} {c : Char}
    (h : flagLetters? [] cs = some (letters, c, rest)) (hc : c ≠ ')') :
    r.flagged? cs = some (r.openGroup (r.flags.change letters), rest) := by
  unfold flagged?
  rw [h]
  split
  · contradiction
  · rename_i heq
    cases heq
    exact absurd rfl hc
  · rename_i heq
    cases heq
    rfl

theorem flagged?_meets (h : Joins cs cs') :
    Meets (fun r => Spent r.flags) cs.length cs'.length (r.flagged? cs) (r.flagged? cs') := by
  obtain ⟨h1, h2⟩ | ⟨letters, c, rest, rest', h1, h2, hrest, hl, hl'⟩ | ⟨h1, letters, h2⟩ :=
    flagLetters?_cases [] h
  · simp only [flagged?, h1, h2]
    exact .fails
  · by_cases hc : c = ')'
    · subst hc
      simp only [flagged?, h1, h2]
      split
      · exact .fails
      · exact .reads hrest hl hl'
    · rw [flagged?_group h1 hc, flagged?_group h2 hc]
      exact .reads hrest hl hl'
  · simp only [flagged?, h1, h2]
    split
    · exact .fails
    · exact .late .dollar

theorem questioned?_meets (h : Joins cs cs') :
    Meets (fun r => Spent r.flags) cs.length cs'.length (r.questioned? cs) (r.questioned? cs') := by
  obtain ⟨more, more', rfl, rfl, hmore⟩ | ⟨hname, hname'⟩ :=
    h.pair_cases (a := 'P') (b := '<') (by decide) (by decide)
  · exact (named?_meets hmore).mono (Nat.le_add_right _ 2) (Nat.le_add_right _ 2)
  obtain ⟨more, more', rfl, rfl, hmore⟩ | ⟨hangle, hangle'⟩ :=
    h.head_cases (c := '<') (by decide)
  · simp only [questioned?, hmore.head?_iff (c := '=') (by decide),
      hmore.head?_iff (c := '!') (by decide)]
    split
    · exact .fails
    · exact (named?_meets hmore).mono (Nat.le_succ _) (Nat.le_succ _)
  · rw [questioned?_flagged hangle hname, questioned?_flagged hangle' hname']
    exact flagged?_meets h

theorem group?_meets (h : Joins cs cs') :
    Meets (fun r => Spent r.flags) cs.length cs'.length (r.group? cs) (r.group? cs') := by
  have hskip := h.skip r.flags
  have hl := r.flags.length_skip_le cs
  have hl' := r.flags.length_skip_le cs'
  rw [group?_eq, group?_eq]
  obtain ⟨rest, rest', h1, h2, hrest⟩ | ⟨h1, h2⟩ := hskip.head_cases (c := '?') (by decide)
  · rw [h1] at hl ⊢
    rw [h2] at hl' ⊢
    exact (questioned?_meets hrest).mono (Nat.le_of_succ_le hl) (Nat.le_of_succ_le hl')
  · rw [if_neg h1, if_neg h2]
    exact .reads hskip hl hl'

-- Counts.

theorem countDigits_agree {fuel fuel' : Nat} (h : Joins cs cs') (hf : cs.length < fuel)
    (hf' : cs'.length < fuel') :
    Agree cs.length cs'.length (countDigits f fuel cs) (countDigits f fuel' cs') := by
  induction fuel generalizing cs cs' fuel' with
  | zero => omega
  | succ fuel ih =>
    obtain _ | fuel' := fuel'
    · omega
    obtain _ | _ | @⟨c, rest, rest', hrest⟩ := h
    · exact ⟨rfl, .ended, Nat.le_refl _, Nat.le_refl _⟩
    · exact ⟨rfl, .closed, Nat.le_refl _, Nat.le_refl _⟩
    · rw [countDigits, countDigits]
      split
      · have hl := f.length_skip_le rest
        have hl' := f.length_skip_le rest'
        rw [List.length_cons] at hf hf'
        have hdigits : Agree (f.skip rest).length (f.skip rest').length
            (countDigits f fuel (f.skip rest)) (countDigits f fuel' (f.skip rest')) :=
          ih (hrest.skip f) (by omega) (by omega)
        exact ⟨congrArg (c :: ·) hdigits.value, hdigits.rest,
          Nat.le_trans hdigits.length_le (Nat.le_succ_of_le hl),
          Nat.le_trans hdigits.length_le' (Nat.le_succ_of_le hl')⟩
      · exact ⟨rfl, .cons c hrest, Nat.le_refl _, Nat.le_refl _⟩

-- The number that digits are, if there are any.
def countValue? (digits : List Char) : Option (Option Nat) :=
  if digits.isEmpty then some none
  else if Decimal.readDigits digits < UInt32.size then some (some (Decimal.readDigits digits))
  else none

theorem count?_eq (cs : List Char) :
    count? f cs =
      let front := cs.dropWhile Text.isBlank
      let digits := countDigits f (front.length + 1) front
      countValue? digits.1 >>= fun n => pure (n, f.skip (digits.2.dropWhile Text.isBlank)) := by
  unfold count? countValue?
  dsimp only
  split
  · rfl
  · split <;> rfl

theorem count?_meets (h : Joins cs cs') :
    Meets never cs.length cs'.length (count? f cs) (count? f cs') := by
  have hblank (cs : List Char) : (cs.dropWhile Text.isBlank).length ≤ cs.length :=
    (List.dropWhile_suffix _).length_le
  have hdigits := countDigits_agree (f := f) (h.dropWhile (p := Text.isBlank) rfl)
    (Nat.lt_succ_self _) (Nat.lt_succ_self _)
  rw [count?_eq, count?_eq]
  dsimp only
  rw [← hdigits.value]
  have hskip (cs : List Char) : (f.skip (cs.dropWhile Text.isBlank)).length ≤ cs.length :=
    Nat.le_trans (f.length_skip_le _) (hblank cs)
  exact .value _ id ((hdigits.rest.dropWhile rfl).skip f)
    (Nat.le_trans (hskip _) (Nat.le_trans hdigits.length_le (hblank _)))
    (Nat.le_trans (hskip _) (Nat.le_trans hdigits.length_le' (hblank _)))

theorem dropLazy_plain (h : cs.head? ≠ some '?') : dropLazy cs = cs := by
  unfold dropLazy
  split
  · exact absurd rfl h
  · rfl

-- The highest count, after the lowest.
def most? (f : Flags) (least : Nat) (cs : List Char) : Option (Option Nat × List Char) :=
  match cs with
  | ',' :: rest =>
    match f.skip rest with
    | '\x7d' :: rest => pure (none, '\x7d' :: rest)
    | rest => count? f rest >>= fun p => p.1 >>= fun most => pure (some most, p.2)
  | rest => pure (some least, rest)

-- The repetition, at its last brace.
def repeated? (r : Reader) (least : Nat) (most : Option Nat) (cs : List Char) :
    Option (Reader × List Char) :=
  match cs with
  | '\x7d' :: rest =>
    if most.any (· < least) then none
    else r.repeatLast? least most >>= fun r' => pure (r', dropLazy (r.flags.skip rest))
  | _ => none

theorem most?_plain {least : Nat} (h : cs.head? ≠ some ',') :
    most? f least cs = some (some least, cs) := by
  unfold most?
  split
  · exact absurd rfl h
  · rfl

theorem most?_comma {least : Nat} {rest : List Char} (h : (f.skip rest).head? ≠ some '\x7d') :
    most? f least (',' :: rest) = (count? f (f.skip rest) >>= fun p => p.1 >>= fun most =>
      pure (some most, p.2)) := by
  change (match f.skip rest with
    | '\x7d' :: rest => some (none, '\x7d' :: rest)
    | rest => count? f rest >>= fun p => p.1 >>= fun most => pure (some most, p.2)) = _
  split
  · rename_i heq
    exact absurd (by rw [heq]; rfl) h
  · rfl

theorem repeated?_none {least : Nat} {most : Option Nat} (h : cs.head? ≠ some '\x7d') :
    r.repeated? least most cs = none := by
  unfold repeated?
  split
  · exact absurd rfl h
  · rfl

theorem counted?_eq (cs : List Char) :
    r.counted? cs = (count? r.flags (r.flags.skip cs) >>= fun p => p.1 >>= fun least =>
      most? r.flags least p.2 >>= fun q => r.repeated? least q.1 q.2) := by
  unfold counted?
  refine bind_congr fun (n, rest) => bind_congr fun least => ?_
  split
  · rename_i more
    split
    · rename_i heq
      simp only [most?, heq]
      rfl
    · rename_i hbrace
      rw [most?_comma fun hhead => by
        obtain ⟨_, heq⟩ := List.head?_eq_some_iff.mp hhead
        exact hbrace _ heq]
      simp only [bind_assoc]
      rfl
  · rename_i hcomma
    rw [most?_plain fun hhead => by
      obtain ⟨_, heq⟩ := List.head?_eq_some_iff.mp hhead
      exact hcomma _ heq]
    rfl

theorem Joins.dropLazy (h : Joins cs cs') :
    Joins (dropLazy cs) (dropLazy cs') := by
  obtain ⟨rest, rest', rfl, rfl, hrest⟩ | ⟨h1, h2⟩ := h.head_cases (c := '?') (by decide)
  · exact hrest
  · rw [dropLazy_plain h1, dropLazy_plain h2]
    exact h

theorem length_dropLazy_le (cs : List Char) : (dropLazy cs).length ≤ cs.length := by
  unfold dropLazy
  split
  · exact Nat.le_succ _
  · exact Nat.le_refl _

theorem most?_meets (least : Nat) (h : Joins cs cs') :
    Meets never cs.length cs'.length (most? f least cs) (most? f least cs') := by
  obtain ⟨rest, rest', rfl, rfl, hrest⟩ | ⟨h1, h2⟩ := h.head_cases (c := ',') (by decide)
  · have hl := f.length_skip_le rest
    have hl' := f.length_skip_le rest'
    obtain ⟨more, more', h1, h2, hmore⟩ | ⟨h1, h2⟩ :=
      (hrest.skip f).head_cases (c := '\x7d') (by decide)
    · rw [h1] at hl
      rw [h2] at hl'
      simp only [most?, h1, h2]
      exact .reads (.cons _ hmore) (Nat.le_succ_of_le hl) (Nat.le_succ_of_le hl')
    · rw [most?_comma h1, most?_comma h2]
      refine (count?_meets (hrest.skip f)).bind (fun n _ _ hmore hn hn' => ?_)
        fun _ _ h => h.elim
      exact .value n some hmore (Nat.le_trans hn (Nat.le_succ_of_le hl))
        (Nat.le_trans hn' (Nat.le_succ_of_le hl'))
  · rw [most?_plain h1, most?_plain h2]
    exact .reads h (Nat.le_refl _) (Nat.le_refl _)

theorem repeated?_meets {dead : Reader → List Char → Prop} (least : Nat) (most : Option Nat)
    (h : Joins cs cs') :
    Meets dead cs.length cs'.length (r.repeated? least most cs) (r.repeated? least most cs') := by
  obtain ⟨rest, rest', rfl, rfl, hrest⟩ | ⟨h1, h2⟩ := h.head_cases (c := '\x7d') (by decide)
  · have hle (cs : List Char) : (dropLazy (r.flags.skip cs)).length ≤ cs.length + 1 :=
      Nat.le_succ_of_le (Nat.le_trans (length_dropLazy_le _) (r.flags.length_skip_le cs))
    simp only [repeated?]
    split
    · exact .fails
    · exact .value _ id (Joins.dropLazy (hrest.skip r.flags)) (hle rest) (hle rest')
  · rw [repeated?_none h1, repeated?_none h2]
    exact .fails

theorem counted?_meets {dead : Reader → List Char → Prop} (h : Joins cs cs') :
    Meets dead cs.length cs'.length (r.counted? cs) (r.counted? cs') := by
  rw [counted?_eq, counted?_eq]
  refine (count?_meets (h.skip r.flags)).bind (fun n _ _ hrest hn hn' => ?_)
    fun _ _ h => h.elim
  cases n with
  | none => exact .fails
  | some least =>
    refine (most?_meets least hrest).bind (fun most _ _ hmore hm hm' => ?_) fun _ _ h => h.elim
    exact (repeated?_meets least most hmore).mono
      (Nat.le_trans hm (Nat.le_trans hn (r.flags.length_skip_le cs)))
      (Nat.le_trans hm' (Nat.le_trans hn' (r.flags.length_skip_le cs')))

-- A brace right before the frame's end counts nothing.
theorem counted?_closing (h : r.flags.skip cs = [')', '$']) : r.counted? cs = none := by
  rw [counted?_eq, h]
  rfl

-- A bracketed class, after its bracket.
def bracketed? [Library] (r : Reader) (cs : List Char) : Option (Reader × List Char) :=
  let start := r.flags.openClass cs
  r.flags.class? (start.2.length + 1) start.1 start.2 >>= fun p =>
    pure (r.push (.chars p.1.set) p.1.height, p.2)

theorem bracketed?_meets [Library] {dead : Reader → List Char → Prop} (h : Joins cs cs') :
    Meets dead cs.length cs'.length (r.bracketed? cs) (r.bracketed? cs') := by
  have hopen := Flags.openClass_agree (f := r.flags) h
  unfold bracketed?
  dsimp only
  rw [← hopen.value]
  refine (Flags.class?_meets (r.flags.openClass cs).1 hopen.rest (Nat.lt_succ_self _)
    (Nat.lt_succ_self _)).bind (fun part rest rest' hrest hn hn' => ?_) fun _ _ h => h.elim
  exact .reads hrest (Nat.le_trans hn hopen.length_le) (Nat.le_trans hn' hopen.length_le')

theorem atom?_flags {a : Atom} {r' : Reader} (h : r.atom? a = some r') : r'.flags = r.flags := by
  cases a with
  | literal c byte =>
    unfold atom? literal? at h
    dsimp only at h
    split at h
    · cases h
      rfl
    · contradiction
  | chars set =>
    cases h
    rfl
  | look l =>
    cases h
    rfl

-- An escape, after its backslash.
def escaped? [Library] (r : Reader) (cs : List Char) : Option (Reader × List Char) :=
  r.flags.escape? cs >>= fun p => r.atom? p.1 >>= fun r' => pure (r', p.2)

theorem escaped?_meets [Library] (h : Joins cs cs') :
    Meets (fun r => Spent r.flags) cs.length cs'.length (r.escaped? cs) (r.escaped? cs') := by
  refine ((Flags.escape?_meets h).mono (Nat.sub_le _ _) (Nat.sub_le _ _)).bind
    (fun a rest rest' hrest hn hn' => ?_) fun a rest' hdead => ?_
  · exact .value _ id hrest hn hn'
  · cases hatom : r.atom? a with
    | none => exact .fails
    | some r' => exact .late (atom?_flags hatom ▸ hdead)

theorem step?_meets [Library] (c : Char) (h : Joins cs cs') :
    Meets (fun r => Spent r.flags) cs.length cs'.length (r.step? c cs) (r.step? c cs') := by
  have hlazy (x : Option Reader) : Meets (fun r => Spent r.flags) cs.length cs'.length
      (x.map (·, dropLazy cs)) (x.map (·, dropLazy cs')) := by
    cases x with
    | none => exact .fails
    | some r => exact .reads (Joins.dropLazy h) (length_dropLazy_le cs) (length_dropLazy_le cs')
  have hplain (x : Option Reader) : Meets (fun r => Spent r.flags) cs.length cs'.length
      (x.map (·, cs)) (x.map (·, cs')) := by
    cases x with
    | none => exact .fails
    | some r => exact .reads h (Nat.le_refl _) (Nat.le_refl _)
  unfold step?
  split
  · exact group?_meets h
  · exact hplain _
  · exact .reads h (Nat.le_refl _) (Nat.le_refl _)
  · exact bracketed?_meets h
  · exact hlazy _
  · exact hlazy _
  · exact hlazy _
  · exact counted?_meets h
  · exact escaped?_meets h
  · exact hplain _
  · exact .reads h (Nat.le_refl _) (Nat.le_refl _)
  · exact .reads h (Nat.le_refl _) (Nat.le_refl _)
  · exact hplain _

end Reader

end MetricRelay.Regex

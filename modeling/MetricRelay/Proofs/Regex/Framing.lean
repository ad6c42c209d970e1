import MetricRelay.Proofs.Regex.Groups

-- Reading a text between `^(?:` and `)$`. The reader goes through the framed text as it goes
-- through the text alone, with one group more open around it (`Reader.step?_within`), until it
-- comes to the frame's end. There it closes the group, unless the text ends in a comment
-- (`Reader.run?_framed`). A text that is no expression is none in the frame either
-- (`piece?_framed_of_none`), unless it closes the frame's group itself.

namespace MetricRelay.Regex

namespace Reader

-- The reader with more groups open around it.
def within (base : List Level) (r : Reader) : Reader := { r with levels := r.levels ++ base }

section

variable {base : List Level} {r : Reader} {cs : List Char}

theorem closeGroup?_within (h : r.levels ≠ []) :
    (r.within base).closeGroup? = r.closeGroup?.map (within base) := by
  unfold closeGroup? within
  cases hlevels : r.levels with
  | nil => exact absurd hlevels h
  | cons level levels => rfl

theorem repeatLast?_within (least : Nat) (most : Option Nat) :
    (r.within base).repeatLast? least most = (r.repeatLast? least most).map (within base) := by
  unfold repeatLast? within
  dsimp only
  cases r.items with
  | nil => rfl
  | cons p items =>
    dsimp only
    split <;> rfl

theorem literal?_within (c : Char) (byte : Bool) :
    (r.within base).literal? c byte = (r.literal? c byte).map (within base) := by
  unfold literal?
  rw [apply_ite (Option.map (within base))]
  rfl

theorem atom?_within (a : Atom) :
    (r.within base).atom? a = (r.atom? a).map (within base) := by
  cases a with
  | literal c byte => exact literal?_within c byte
  | chars set => rfl
  | look l => rfl

theorem dot?_within : (r.within base).dot? = r.dot?.map (within base) := by
  unfold dot?
  dsimp only [within]
  split
  · rfl
  split
  · rfl
  split <;> rfl

theorem groupNamed?_within (name : List Char) :
    (r.within base).groupNamed? name = (r.groupNamed? name).map (within base) := by
  cases name with
  | nil => rfl
  | cons c more =>
    unfold groupNamed?
    dsimp only
    rw [apply_ite (Option.map (within base))]
    rfl

theorem named?_within :
    (r.within base).named? cs = (r.named? cs).map fun p => (p.1.within base, p.2) := by
  by_cases hclosed : (cs.dropWhile (· != '>')).head? = some '>'
  · obtain ⟨rest, hrest⟩ := List.head?_eq_some_iff.mp hclosed
    rw [named?_closed hrest, named?_closed hrest, groupNamed?_within]
    cases r.groupNamed? (cs.takeWhile (· != '>')) <;> rfl
  · rw [named?_open hclosed, named?_open hclosed]
    rfl

theorem flagged?_within :
    (r.within base).flagged? cs = (r.flagged? cs).map fun p => (p.1.within base, p.2) := by
  unfold flagged?
  generalize flagLetters? [] cs = x
  split
  · rfl
  · rw [apply_ite (Option.map _)]
    rfl
  · rfl

theorem questioned?_within :
    (r.within base).questioned? cs = (r.questioned? cs).map fun p => (p.1.within base, p.2) := by
  unfold questioned?
  split
  · rw [apply_ite (Option.map _), named?_within]
    rfl
  · exact named?_within
  · exact flagged?_within

theorem group?_within :
    (r.within base).group? cs = (r.group? cs).map fun p => (p.1.within base, p.2) := by
  rw [group?_eq, group?_eq, apply_ite (Option.map _), ← questioned?_within]
  rfl

theorem repeated?_within (least : Nat) (most : Option Nat) :
    (r.within base).repeated? least most cs =
      (r.repeated? least most cs).map fun p => (p.1.within base, p.2) := by
  unfold repeated?
  split
  · rw [apply_ite (Option.map _), repeatLast?_within]
    cases r.repeatLast? least most <;> rfl
  · rfl

theorem counted?_within :
    (r.within base).counted? cs = (r.counted? cs).map fun p => (p.1.within base, p.2) := by
  rw [counted?_eq, counted?_eq]
  simp only [repeated?_within, Option.bind_eq_bind, Option.map_bind, Function.comp_def]
  rfl

-- The groups around it change a step only when it closes the innermost of them.
theorem step?_within [Library] {c : Char} (h : c = ')' → r.levels ≠ []) :
    (r.within base).step? c cs = (r.step? c cs).map fun p => (p.1.within base, p.2) := by
  have hmap {x y : Option Reader} (h : x = y.map (within base)) (rest : List Char) :
      x.map (·, rest) = (y.map (·, rest)).map fun p => (p.1.within base, p.2) := by
    rw [h]
    cases y <;> rfl
  unfold step?
  split
  case h_1 => exact group?_within
  case h_2 => exact hmap (closeGroup?_within (h rfl)) cs
  case h_4 =>
    simp only [Option.bind_eq_bind, Option.map_bind, Function.comp_def]
    rfl
  case h_5 => exact hmap (repeatLast?_within 0 (some 1)) _
  case h_6 => exact hmap (repeatLast?_within 0 none) _
  case h_7 => exact hmap (repeatLast?_within 1 none) _
  case h_8 => exact counted?_within
  case h_9 =>
    simp only [atom?_within, Option.bind_eq_bind, Option.map_bind, Option.bind_map,
      Function.comp_def]
    rfl
  case h_10 => exact hmap dot?_within _
  case h_13 => exact hmap (literal?_within c false) _
  all_goals rfl

end

-- Whole runs.

section

variable [Library] {r q : Reader} {base : List Level} {fuel fuel' : Nat} {cs cs' : List Char}

theorem run?_nil (h : r.flags.skip cs = []) : run? (fuel + 1) r cs = some r := by
  simp only [run?, h]

theorem run?_cons {c : Char} {rest : List Char} (h : r.flags.skip cs = c :: rest) :
    run? (fuel + 1) r cs = (r.step? c rest >>= fun p => run? fuel p.1 p.2) := by
  simp only [run?, h]
  cases r.step? c rest <;> rfl

-- The end of a run does not depend on blanks in front.
theorem run?_skip (h : r.flags.skip cs = r.flags.skip cs') : run? fuel r cs = run? fuel r cs' := by
  cases fuel with
  | zero => rfl
  | succ fuel => simp only [run?, h]

theorem closeGroup?_of_step? {rest : List Char} {p : Reader × List Char}
    (h : r.step? ')' rest = some p) : r.levels ≠ [] := by
  intro hlevels
  change (r.closeGroup?.map _) = some p at h
  rw [closeGroup?, hlevels] at h
  contradiction

-- A reading that succeeds goes on in the same way before the frame's end. Only a comment at its
-- end swallows that.
theorem run?_framed (h : run? fuel r cs = some q) (hjoins : Joins cs cs') :
    (∀ base fuel', cs'.length < fuel' → run? fuel' (r.within base) cs' = some (q.within base)) ∨
      ∀ base fuel', cs'.length < fuel' → ∃ k, 2 < k ∧
        run? fuel' (r.within base) cs' = run? k (q.within base) [')', '$'] := by
  induction fuel generalizing r cs cs' with
  | zero => contradiction
  | succ fuel ih =>
    obtain ⟨h1, h2⟩ | ⟨h1, h2⟩ | ⟨c, rest, rest', h1, h2, hrest, hl, hl'⟩ :=
      hjoins.skip_cases r.flags
    · rw [run?_nil h1, Option.some.injEq] at h
      subst h
      refine .inl fun base fuel' hf' => ?_
      obtain _ | fuel' := fuel'
      · omega
      exact run?_nil h2
    · rw [run?_nil h1, Option.some.injEq] at h
      subst h
      refine .inr fun base fuel' hf' => ⟨fuel', ?_, run?_skip (h2.trans Flags.skip_closing.symm)⟩
      have hle := r.flags.length_skip_le cs'
      rw [h2] at hle
      exact Nat.lt_of_le_of_lt hle hf'
    · rw [run?_cons h1] at h
      obtain ⟨⟨s, more⟩, hstep, hrun⟩ := Option.bind_eq_some_iff.mp h
      have hlevels : c = ')' → r.levels ≠ [] := by
        rintro rfl
        exact closeGroup?_of_step? hstep
      have hmeets := r.step?_meets c hrest
      rw [hstep] at hmeets
      generalize hstep' : r.step? c rest' = y at hmeets
      cases hmeets with
      | @reads _ _ more' hmore hn hn' =>
        have hnext (base : List Level) (k : Nat) :
            run? (k + 1) (r.within base) cs' = run? k (s.within base) more' := by
          rw [run?_cons (r := r.within base) h2, step?_within hlevels, hstep']
          rfl
        obtain hdone | hgoes := ih hrun hmore
        · refine .inl fun base fuel' hf' => ?_
          obtain _ | fuel' := fuel'
          · omega
          rw [hnext]
          exact hdone base fuel' (by omega)
        · refine .inr fun base fuel' hf' => ?_
          obtain _ | fuel' := fuel'
          · omega
          rw [hnext]
          exact hgoes base fuel' (by omega)

-- Whether the reader comes to a closing bracket while no group is open.
def overcloses : Nat → Reader → List Char → Bool
  | 0, _, _ => false
  | fuel + 1, r, cs =>
    match r.flags.skip cs with
    | [] => false
    | c :: rest =>
      c == ')' && r.levels.isEmpty ||
        match r.step? c rest with
        | some (r, rest) => overcloses fuel r rest
        | none => false

theorem levels_of_spent (h : Spent r.flags cs) (hrun : run? fuel r cs = some q)
    (hlevels : r.levels ≠ []) : q.levels ≠ [] := by
  obtain _ | fuel := fuel
  · contradiction
  cases h with
  | ended =>
    rw [run?_nil Flags.skip_nil, Option.some.injEq] at hrun
    exact hrun ▸ hlevels
  | dollar =>
    rw [run?_cons Flags.skip_dollar] at hrun
    obtain _ | fuel := fuel
    · contradiction
    change run? (fuel + 1) (r.push (.look (endLook r.flags)) 0) [] = some q at hrun
    rw [run?_nil Flags.skip_nil, Option.some.injEq] at hrun
    subst hrun
    exact hlevels
  | @brace more h =>
    have hstep : r.step? '\x7b' more = none := counted?_closing h
    rw [run?_cons (Flags.skip_cons rfl (by decide) more), hstep] at hrun
    contradiction

-- A reading that fails, but not for a bracket too many, leaves a group open before the frame's
-- end.
theorem levels_of_stuck (hrun : run? fuel r cs = none) (hf : cs.length < fuel)
    (hover : overcloses fuel r cs = false) (hjoins : Joins cs cs') (hbase : base ≠ [])
    (hrun' : run? fuel' (r.within base) cs' = some q) : q.levels ≠ [] := by
  induction fuel generalizing r cs cs' fuel' with
  | zero => omega
  | succ fuel ih =>
    obtain ⟨h1, -⟩ | ⟨h1, -⟩ | ⟨c, rest, rest', h1, h2, hrest, hl, -⟩ := hjoins.skip_cases r.flags
    · rw [run?_nil h1] at hrun
      contradiction
    · rw [run?_nil h1] at hrun
      contradiction
    simp only [overcloses, h1, Bool.or_eq_false_iff] at hover
    obtain ⟨hclose, hover⟩ := hover
    have hlevels : c = ')' → r.levels ≠ [] := by
      rintro rfl hnil
      simp [hnil] at hclose
    obtain _ | fuel' := fuel'
    · contradiction
    rw [run?_cons h1] at hrun
    rw [run?_cons (r := r.within base) h2, step?_within hlevels] at hrun'
    have hmeets := r.step?_meets c hrest
    generalize r.step? c rest = x at hmeets hrun hover
    generalize r.step? c rest' = y at hmeets hrun'
    cases hmeets with
    | fails => contradiction
    | reads hmore hn _ => exact ih hrun (Nat.lt_of_le_of_lt hn (by omega)) hover hmore hrun'
    | @late s more' hdead =>
      change run? fuel' (s.within base) more' = some q at hrun'
      exact levels_of_spent (r := s.within base) hdead hrun' fun h =>
        hbase (List.append_eq_nil_iff.mp h).2

-- The frame's end closes the innermost group.
theorem run?_closing {level : Level} {levels : List Level} (h : r.levels = level :: levels)
    (hf : 2 < fuel) :
    run? fuel r [')', '$'] = some ⟨level.flags,
      ⟨.look (endLook level.flags), 0, true⟩ :: ⟨r.piece.regex, r.piece.height + 1, true⟩ ::
        level.items, level.branches, levels, r.names⟩ := by
  obtain ⟨n, rfl⟩ : ∃ n, fuel = n + 3 := ⟨fuel - 3, by omega⟩
  have hclose : r.step? ')' ['$'] = some (⟨level.flags,
      ⟨r.piece.regex, r.piece.height + 1, true⟩ :: level.items, level.branches, levels, r.names⟩,
      ['$']) := by
    change r.closeGroup?.map _ = _
    rw [closeGroup?, h]
    rfl
  rw [run?_cons Flags.skip_closing, hclose]
  change run? (n + 2) _ ['$'] = _
  rw [run?_cons Flags.skip_dollar]
  change run? (n + 1) _ [] = _
  rw [run?_nil Flags.skip_nil]
  rfl

theorem run?_closing_none (h : r.levels = []) : run? fuel r [')', '$'] = none := by
  obtain _ | fuel := fuel
  · rfl
  cases hstep : r.step? ')' ['$'] with
  | none => rw [run?_cons Flags.skip_closing, hstep]; rfl
  | some p => exact absurd h (closeGroup?_of_step? hstep)

end

end Reader

-- Framed texts.

-- The text as a group between the two ends.
def framed (text : List Char) : List Char := ['^', '(', '?', ':'] ++ text ++ [')', '$']

def Piece.framed (p : Piece) : Piece :=
  ⟨.seq (.look .textStart) (.seq p.regex (.look .textEnd)), p.height + 2, true⟩

-- What stands around the group.
def frame : Level := ⟨.initial, [⟨.look .textStart, 0, true⟩], []⟩

theorem length_closed (text : List Char) : (text ++ [')', '$']).length < text.length + 5 := by
  simp

section

variable [Library]

-- What a text says, if every group in it is closed.
def piece? (text : List Char) : Option Piece :=
  (Reader.run? (text.length + 1) .initial text).bind fun r =>
    if r.levels.isEmpty then some r.piece else none

-- Whether an expression is within the limits.
def Piece.Fits (p : Piece) : Prop := p.height ≤ maxHeight ∧ Library.hasRoom p.regex = true

instance (p : Piece) : Decidable p.Fits := inferInstanceAs (Decidable (_ ∧ _))

theorem piece?_eq_some {text : List Char} {p : Piece} :
    piece? text = some p ↔ ∃ r, Reader.run? (text.length + 1) .initial text = some r ∧
      r.levels = [] ∧ r.piece = p := by
  simp [piece?, Option.bind_eq_some_iff]

theorem read?_eq_some {text : List Char} {regex : Regex} :
    read? text = some regex ↔ ∃ p, piece? text = some p ∧ p.Fits ∧ p.regex = regex := by
  unfold read? piece? Piece.Fits
  cases Reader.run? (text.length + 1) .initial text with
  | none => simp
  | some r => by_cases hlevels : r.levels = [] <;> simp [hlevels, and_assoc]

-- Whether the reader comes to a closing bracket with no group open.
def Overcloses (text : List Char) : Prop :=
  Reader.overcloses (text.length + 1) .initial text = true

instance (text : List Char) : Decidable (Overcloses text) := inferInstanceAs (Decidable (_ = true))

-- Whether the text ends in a comment: a closing bracket too many behind it does no harm.
def EndsInComment (text : List Char) : Prop :=
  (piece? text).isSome = true ∧ (piece? (text ++ [')', '$'])).isSome = true

instance (text : List Char) : Decidable (EndsInComment text) :=
  inferInstanceAs (Decidable (_ ∧ _))

-- The frame takes up some of the room.
theorem fits_of_framed {p : Piece} (h : p.framed.Fits) : p.Fits := by
  obtain ⟨hheight, hroom⟩ := h
  have hinner : p.framed.height = p.height + 2 := rfl
  refine ⟨by omega, ?_⟩
  exact (Library.hasRoom_of_seq (Library.hasRoom_of_seq hroom).2).1

theorem run?_framed_start (text : List Char) :
    Reader.run? ((framed text).length + 1) .initial (framed text) =
      Reader.run? (text.length + 5) (Reader.within [frame] .initial) (text ++ [')', '$']) := by
  have hlength : (framed text).length + 1 = text.length + 5 + 2 := by simp [framed]
  rw [hlength]
  rfl

theorem piece?_framed {text : List Char} {p : Piece} (h : piece? text = some p)
    (hcomment : ¬EndsInComment text) : piece? (framed text) = some p.framed := by
  obtain ⟨r, hrun, hlevels, rfl⟩ := piece?_eq_some.mp h
  obtain hdone | hgoes := Reader.run?_framed hrun (Joins.append text)
  · have hclosed : piece? (text ++ [')', '$']) = some r.piece :=
      piece?_eq_some.mpr ⟨r.within [], hdone [] _ (Nat.lt_succ_self _),
        (List.append_nil _).trans hlevels, rfl⟩
    exact absurd ⟨Option.isSome_of_eq_some h, Option.isSome_of_eq_some hclosed⟩ hcomment
  · obtain ⟨k, hk, hk'⟩ := hgoes [frame] (text.length + 5) (length_closed text)
    have hframe : (r.within [frame]).levels = frame :: [] := by
      rw [Reader.within, hlevels]
      rfl
    rw [Reader.run?_closing hframe hk, ← run?_framed_start] at hk'
    refine piece?_eq_some.mpr ⟨_, hk', rfl, ?_⟩
    simp [Reader.piece, Piece.ofItems, Piece.ofBranches, Piece.framed, heights, frame,
      Reader.endLook, Flags.initial, Reader.within]

theorem piece?_framed_eq_none {text : List Char} {p : Piece} (h : piece? text = some p)
    (hcomment : EndsInComment text) : piece? (framed text) = none := by
  obtain ⟨r, hrun, hlevels, rfl⟩ := piece?_eq_some.mp h
  obtain hdone | hgoes := Reader.run?_framed hrun (Joins.append text)
  · rw [piece?, run?_framed_start, hdone [frame] _ (length_closed text)]
    simp [Reader.within]
  · obtain ⟨k, hk, hk'⟩ := hgoes [] _ (Nat.lt_succ_self _)
    have hnil : (r.within []).levels = [] := (List.append_nil _).trans hlevels
    change Reader.run? _ .initial _ = _ at hk'
    have hclosed := hcomment.2
    rw [piece?, hk', Reader.run?_closing_none hnil] at hclosed
    contradiction

theorem piece?_framed_of_none {text : List Char} (h : piece? text = none)
    (hover : ¬Overcloses text) : piece? (framed text) = none := by
  refine Option.eq_none_iff_forall_ne_some.mpr fun p hp => ?_
  obtain ⟨q, hrun, hlevels, -⟩ := piece?_eq_some.mp hp
  rw [run?_framed_start] at hrun
  cases halone : Reader.run? (text.length + 1) .initial text with
  | none =>
    refine Reader.levels_of_stuck halone (Nat.lt_succ_self _) ?_ (Joins.append text) ?_ hrun hlevels
    · exact Bool.eq_false_iff.mpr hover
    · exact List.cons_ne_nil _ _
  | some r =>
    obtain hdone | hgoes := Reader.run?_framed halone (Joins.append text)
    · rw [hdone [frame] _ (length_closed text), Option.some.injEq] at hrun
      subst hrun
      exact List.append_ne_nil_of_right_ne_nil _ (List.cons_ne_nil _ _) hlevels
    · obtain ⟨k, hk, hk'⟩ := hgoes [frame] _ (length_closed text)
      cases hopen : r.levels with
      | nil => exact absurd (piece?_eq_some.mpr ⟨r, halone, hopen, rfl⟩) (by rw [h]; nofun)
      | cons level levels =>
        have hwithin : (r.within [frame]).levels = level :: (levels ++ [frame]) := by
          rw [Reader.within, hopen]
          rfl
        rw [hk', Reader.run?_closing hwithin hk, Option.some.injEq] at hrun
        subst hrun
        exact List.append_ne_nil_of_right_ne_nil _ (List.cons_ne_nil _ _) hlevels

end

end MetricRelay.Regex

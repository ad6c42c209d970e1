import MetricRelay.Proofs.Json.Number

-- Every value that is written is a JSON text and is read as the spelling of that value: escapes
-- name the characters they were made of, and what follows a value is left where it is.

namespace MetricRelay.Json

-- Strings.

theorem stringBody_letter {e c : Char} (rest : List Char) (hne : e ≠ 'u')
    (h : simpleEscape? e = some c) : stringBody ('\\' :: e :: rest) = push c (stringBody rest) := by
  simp [stringBody, hne, h]

-- The controls that have no letter of their own are written by their number.
theorem hexWord?_control :
    ∀ n < 0x20, hexWord? '0' '0' (hexDigit (n / 16)) (hexDigit n) = some n := by
  decide

theorem stringBody_number {c : Char} (rest : List Char) (hc : c.toNat < 0x20) :
    stringBody ('\\' :: 'u' :: '0' :: '0' :: hexDigit (c.toNat / 16) :: hexDigit c.toNat :: rest) =
      push c (stringBody rest) := by
  have hhigh : isHighSurrogate c.toNat = false := by
    rw [isHighSurrogate, Bool.and_eq_false_iff]
    exact .inl (by simp; omega)
  have hlow : isLowSurrogate c.toNat = false := by
    rw [isLowSurrogate, Bool.and_eq_false_iff]
    exact .inl (by simp; omega)
  simp [stringBody, hexWord?_control c.toNat hc, hhigh, hlow, Char.ofNat_toNat]

theorem stringBody_escape (c : Char) (rest : List Char) :
    stringBody (escape c ++ rest) = push c (stringBody rest) := by
  have hchar : ∀ n, c.toNat = n → c = Char.ofNat n := fun n h => by rw [← h, Char.ofNat_toNat]
  by_cases hquote : c = '"'
  · subst hquote
    exact stringBody_letter rest (by decide) (by decide)
  by_cases hbackslash : c = '\\'
  · subst hbackslash
    exact stringBody_letter rest (by decide) (by decide)
  by_cases hcontrol : c.toNat < 0x20
  · -- the five controls with a letter, then the others
    by_cases h8 : c.toNat = 8
    · rw [hchar 8 h8]
      exact stringBody_letter rest (by decide) (by decide)
    by_cases h9 : c.toNat = 9
    · rw [hchar 9 h9]
      exact stringBody_letter rest (by decide) (by decide)
    by_cases h10 : c.toNat = 10
    · rw [hchar 10 h10]
      exact stringBody_letter rest (by decide) (by decide)
    by_cases h12 : c.toNat = 12
    · rw [hchar 12 h12]
      exact stringBody_letter rest (by decide) (by decide)
    by_cases h13 : c.toNat = 13
    · rw [hchar 13 h13]
      exact stringBody_letter rest (by decide) (by decide)
    rw [escape, if_neg hquote, if_neg hbackslash, if_pos hcontrol, if_neg h8, if_neg h9,
      if_neg h10, if_neg h12, if_neg h13]
    exact stringBody_number rest hcontrol
  · rw [escape, if_neg hquote, if_neg hbackslash, if_neg hcontrol]
    simp [stringBody, hbackslash, hcontrol]

theorem stringBody_escapes (cs rest : List Char) :
    stringBody (cs.flatMap escape ++ '"' :: rest) = some (some cs, rest) := by
  induction cs with
  | nil => simp [stringBody]
  | cons c cs ih =>
    rw [List.flatMap_cons, List.append_assoc, stringBody_escape, ih]
    rfl

theorem stringChars_append (s : String) (rest : List Char) :
    stringChars s ++ rest = '"' :: (s.toList.flatMap escape ++ '"' :: rest) := by
  simp [stringChars]

-- Values.

mutual

-- What a reader finds where a value was written.
def spelled : Json → Spelling
  | .null => .null
  | .bool b => .bool b
  | .int i => .number (intNumber i)
  | .real x => if x.isFinite then .number (realNumber x) else .null
  | .str s => .string (some s.toList)
  | .arr items => .array (spelledItems items)
  | .obj members => .object (spelledMembers members)

def spelledItems : List Json → List Spelling
  | [] => []
  | j :: rest => spelled j :: spelledItems rest

def spelledMembers : List (String × Json) → List (Option (List Char) × Spelling)
  | [] => []
  | (k, j) :: rest => (some k.toList, spelled j) :: spelledMembers rest

end

theorem skipSpace_cons {c : Char} (rest : List Char) (hc : isSpace c = false) :
    skipSpace (c :: rest) = c :: rest := by
  simp [skipSpace, hc]

-- A sign or a digit is no other character.
theorem ne_of_sign_or_digit {c d : Char} (hc : c = '-' ∨ c.isDigit = true) (hsign : d ≠ '-')
    (hdigit : d.isDigit = false) : c ≠ d := by
  rintro rfl
  rw [hdigit] at hc
  exact hc.elim hsign Bool.false_ne_true

theorem isSpace_of_sign_or_digit {c : Char} (hc : c = '-' ∨ c.isDigit = true) :
    isSpace c = false := by
  have hne : ∀ d : Char, d ≠ '-' → d.isDigit = false → (c == d) = false := fun d hsign hdigit =>
    beq_eq_false_iff_ne.mpr (ne_of_sign_or_digit hc hsign hdigit)
  simp only [isSpace, Bool.or_eq_false_iff]
  exact ⟨⟨⟨hne _ (by decide) (by decide), hne _ (by decide) (by decide)⟩,
    hne _ (by decide) (by decide)⟩, hne _ (by decide) (by decide)⟩

theorem scanValue?_number (fuel : Nat) {t : NumberText} {rest : List Char} (ht : t.WellFormed)
    (hrest : Stops rest) : scanValue? (fuel + 1) (t.chars ++ rest) = some (.number t, rest) := by
  have hnumber := NumberText.number?_chars ht hrest
  obtain ⟨c, more, hcs, hc⟩ := NumberText.chars_head ht rest
  rw [hcs] at hnumber ⊢
  rw [scanValue?, skipSpace_cons more (isSpace_of_sign_or_digit hc)]
  -- the other values start with a letter, a quote or a bracket
  split
  case h_7 =>
    rw [hnumber]
    rfl
  all_goals
    rename_i h
    exact absurd (List.cons.inj h).1 (ne_of_sign_or_digit hc (by decide) (by decide))

theorem scanValue?_string (fuel : Nat) (s : String) (rest : List Char) :
    scanValue? (fuel + 1) (stringChars s ++ rest) = some (.string (some s.toList), rest) := by
  rw [stringChars_append, scanValue?, skipSpace_cons _ (by decide)]
  simp only [stringBody_escapes, Option.map_some]

-- No value starts with a blank or a closing bracket.
theorem chars_head (j : Json) (rest : List Char) :
    ∃ c more, chars j ++ rest = c :: more ∧ isSpace c = false ∧ c ≠ ']' := by
  have hnumber : ∀ t : NumberText, t.WellFormed →
      ∃ c more, t.chars ++ rest = c :: more ∧ isSpace c = false ∧ c ≠ ']' := by
    intro t ht
    obtain ⟨c, more, hcs, hc⟩ := NumberText.chars_head ht rest
    exact ⟨c, more, hcs, isSpace_of_sign_or_digit hc,
      ne_of_sign_or_digit hc (by decide) (by decide)⟩
  cases j with
  | null => exact ⟨_, _, rfl, by decide, by decide⟩
  | bool b => cases b <;> exact ⟨_, _, rfl, by decide, by decide⟩
  | int i =>
    rw [chars, ← chars_intNumber]
    exact hnumber _ (intNumber_wellFormed i)
  | real x =>
    rw [chars]
    split
    · rw [← chars_realNumber]
      exact hnumber _ (realNumber_wellFormed x)
    · exact ⟨_, _, rfl, by decide, by decide⟩
  | str s => exact ⟨_, _, rfl, by decide, by decide⟩
  | arr items => exact ⟨_, _, rfl, by decide, by decide⟩
  | obj members => exact ⟨_, _, rfl, by decide, by decide⟩

theorem itemChars_head (j : Json) (items : List Json) (rest : List Char) :
    ∃ c more, itemChars (j :: items) ++ rest = c :: more ∧ isSpace c = false ∧ c ≠ ']' := by
  cases items with
  | nil => exact chars_head j rest
  | cons k items =>
    rw [itemChars, List.append_assoc]
    · exact chars_head j _
    · simp

theorem memberChars_head (k : String) (j : Json) (members : List (String × Json))
    (rest : List Char) : ∃ more, memberChars ((k, j) :: members) ++ rest = '"' :: more := by
  cases members <;> exact ⟨_, rfl⟩

theorem stops_comma (rest : List Char) : Stops (',' :: rest) := by
  rintro c ⟨rfl⟩
  decide

theorem stops_bracket (rest : List Char) : Stops (']' :: rest) := by
  rintro c ⟨rfl⟩
  decide

theorem stops_brace (rest : List Char) : Stops ('\x7d' :: rest) := by
  rintro c ⟨rfl⟩
  decide

mutual

-- Two units of fuel for each character are enough, and one more inside brackets.
theorem scanValue?_chars (j : Json) (fuel : Nat) (rest : List Char)
    (hfuel : 2 * (chars j).length ≤ fuel) (hrest : Stops rest) :
    scanValue? fuel (chars j ++ rest) = some (spelled j, rest) := by
  obtain ⟨c, more, hc, _⟩ := chars_head j []
  have hlength := congrArg List.length hc
  rw [List.append_nil, List.length_cons] at hlength
  obtain ⟨fuel, rfl⟩ : ∃ k, fuel = k + 1 := ⟨fuel - 1, by omega⟩
  match j with
  | .null => simp [chars, scanValue?, skipSpace, isSpace, spelled]
  | .bool true => simp [chars, scanValue?, skipSpace, isSpace, spelled]
  | .bool false => simp [chars, scanValue?, skipSpace, isSpace, spelled]
  | .int i =>
    rw [chars, ← chars_intNumber]
    exact scanValue?_number fuel (intNumber_wellFormed i) hrest
  | .real x =>
    rw [chars, spelled]
    split
    · rw [← chars_realNumber]
      exact scanValue?_number fuel (realNumber_wellFormed x) hrest
    · simp [scanValue?, skipSpace, isSpace]
  | .str s => exact scanValue?_string fuel s rest
  | .arr [] => simp [chars, itemChars, scanValue?, skipSpace, isSpace, spelled, spelledItems]
  | .arr (j :: items) =>
    have hitems := scanItems?_chars j items fuel rest (by
      simp only [chars, List.length_cons, List.length_append] at hfuel
      omega)
    obtain ⟨c, more, hitem, hspace, hbracket⟩ := itemChars_head j items (']' :: rest)
    rw [hitem] at hitems
    have hskip := skipSpace_cons more hspace
    simp [chars, scanValue?, skipSpace_cons, isSpace, hitem, hskip, hbracket, hitems, spelled]
  | .obj [] => simp [chars, memberChars, scanValue?, skipSpace, isSpace, spelled, spelledMembers]
  | .obj ((k, j) :: members) =>
    have hmembers := scanMembers?_chars k j members fuel rest (by
      simp only [chars, List.length_cons, List.length_append] at hfuel
      omega)
    obtain ⟨more, hmember⟩ := memberChars_head k j members ('\x7d' :: rest)
    rw [hmember] at hmembers
    simp [chars, scanValue?, skipSpace_cons, isSpace, hmember, hmembers, spelled]
termination_by fuel

theorem scanItems?_chars (j : Json) (items : List Json) (fuel : Nat) (rest : List Char)
    (hfuel : 2 * (itemChars (j :: items)).length + 1 ≤ fuel) :
    scanItems? fuel (itemChars (j :: items) ++ ']' :: rest) =
      some (spelledItems (j :: items), rest) := by
  obtain ⟨fuel, rfl⟩ : ∃ k, fuel = k + 1 := ⟨fuel - 1, by omega⟩
  match items with
  | [] =>
    have hvalue := scanValue?_chars j fuel (']' :: rest) (by
      rw [itemChars] at hfuel
      omega) (stops_bracket rest)
    simp [itemChars, scanItems?, hvalue, skipSpace_cons, isSpace, spelledItems]
  | k :: items =>
    have hvalue := scanValue?_chars j fuel (',' :: (itemChars (k :: items) ++ ']' :: rest)) (by
      simp only [itemChars, List.length_append] at hfuel
      omega) (stops_comma _)
    have hitems := scanItems?_chars k items fuel rest (by
      simp only [itemChars, List.length_append, List.length_cons] at hfuel
      omega)
    simp [itemChars, scanItems?, hvalue, hitems, skipSpace_cons, isSpace, spelledItems]
termination_by fuel

theorem scanMembers?_chars (k : String) (j : Json) (members : List (String × Json)) (fuel : Nat)
    (rest : List Char) (hfuel : 2 * (memberChars ((k, j) :: members)).length + 1 ≤ fuel) :
    scanMembers? fuel (memberChars ((k, j) :: members) ++ '\x7d' :: rest) =
      some (spelledMembers ((k, j) :: members), rest) := by
  obtain ⟨fuel, rfl⟩ : ∃ n, fuel = n + 1 := ⟨fuel - 1, by omega⟩
  match members with
  | [] =>
    have hvalue := scanValue?_chars j fuel ('\x7d' :: rest) (by
      simp only [memberChars, List.length_append, List.length_cons] at hfuel
      omega) (stops_brace rest)
    simp [memberChars, stringChars_append, stringBody_escapes, scanMembers?, hvalue,
      skipSpace_cons, isSpace, spelledMembers]
  | (l, i) :: members =>
    have hvalue := scanValue?_chars j fuel
      (',' :: (memberChars ((l, i) :: members) ++ '\x7d' :: rest)) (by
        simp only [memberChars, List.length_append, List.length_cons] at hfuel
        omega) (stops_comma _)
    have hmembers := scanMembers?_chars l i members fuel rest (by
      simp only [memberChars, List.length_append, List.length_cons] at hfuel
      omega)
    simp [memberChars, stringChars_append, stringBody_escapes, scanMembers?, hvalue, hmembers,
      skipSpace_cons, isSpace, spelledMembers]
termination_by fuel

end

theorem spelling?_chars (j : Json) : spelling? (chars j) = some (spelled j) := by
  have hscan := scanValue?_chars j (2 * (chars j).length + 2) [] (by omega) stops_nil
  rw [List.append_nil] at hscan
  rw [spelling?, hscan]
  rfl

end MetricRelay.Json

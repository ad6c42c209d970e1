import MetricRelay.Cluster.Client
import MetricRelay.Proofs.Document
import MetricRelay.Proofs.Text.Bytes

-- The body of a bulk request: two lines for each document, one that names the target and one that
-- holds the document. No newline of a label or a name gets into a line, so that every newline of
-- the body ends one.

namespace MetricRelay

namespace Json

-- No newline in a written value.

theorem newline_not_mem_digits {cs : List Char} (h : ∀ c ∈ cs, c.isDigit = true) : '\n' ∉ cs := by
  intro hmem
  exact absurd (h '\n' hmem) (by decide)

theorem NumberText.newline_not_mem_chars {t : NumberText} (ht : t.WellFormed) :
    '\n' ∉ t.chars := by
  have hwhole := newline_not_mem_digits ht.whole.2
  have hsign : '\n' ∉ Decimal.signChars t.negative := by
    cases t.negative <;> decide
  have hfraction : '\n' ∉ fractionChars t.fraction := by
    cases hf : t.fraction with
    | none => simp [fractionChars]
    | some digits => simp [fractionChars, newline_not_mem_digits (ht.fraction digits hf).2]
  have hexponent : '\n' ∉ exponentChars t.exponent := by
    cases he : t.exponent with
    | none => simp [exponentChars]
    | some e =>
      have hdigits := newline_not_mem_digits (ht.exponent e he).2
      cases hnegative : e.1 <;> simp [exponentChars, hdigits, hnegative]
  simp [chars, hwhole, hsign, hfraction, hexponent]

theorem newline_not_mem_escape (c : Char) : '\n' ∉ escape c := by
  have hhex : ∀ n < 0x20, '\n' ≠ hexDigit (n / 16) ∧ '\n' ≠ hexDigit n := by decide
  unfold escape
  split
  · decide
  split
  · decide
  split
  · rename_i hcontrol
    have hdigits := hhex c.toNat hcontrol
    -- the five controls with a letter, then the others
    repeat' split
    all_goals simp [hdigits]
  · rename_i hcontrol
    rw [List.mem_singleton]
    rintro rfl
    exact hcontrol (by decide)

theorem newline_not_mem_stringChars (s : String) : '\n' ∉ stringChars s := by
  simp [stringChars, newline_not_mem_escape]

mutual

theorem newline_not_mem_chars (j : Json) : '\n' ∉ chars j := by
  match j with
  | .null => decide
  | .bool true => decide
  | .bool false => decide
  | .int i =>
    rw [chars, ← chars_intNumber]
    exact NumberText.newline_not_mem_chars (intNumber_wellFormed i)
  | .real x =>
    rw [chars]
    split
    · rw [← chars_realNumber]
      exact NumberText.newline_not_mem_chars (realNumber_wellFormed x)
    · decide
  | .str s => exact newline_not_mem_stringChars s
  | .arr items => simp [chars, newline_not_mem_itemChars items]
  | .obj members => simp [chars, newline_not_mem_memberChars members]

theorem newline_not_mem_itemChars (items : List Json) : '\n' ∉ itemChars items := by
  match items with
  | [] => simp [itemChars]
  | [j] => exact newline_not_mem_chars j
  | j :: k :: rest =>
    simp [itemChars, newline_not_mem_chars j, newline_not_mem_itemChars (k :: rest)]

theorem newline_not_mem_memberChars (members : List (String × Json)) :
    '\n' ∉ memberChars members := by
  match members with
  | [] => simp [memberChars]
  | [(k, j)] => simp [memberChars, newline_not_mem_stringChars k, newline_not_mem_chars j]
  | (k, j) :: e :: rest =>
    simp [memberChars, newline_not_mem_stringChars k, newline_not_mem_chars j,
      newline_not_mem_memberChars (e :: rest)]

end

end Json

-- Lines and the bytes they are sent as.

namespace Text

theorem splitAt_lines {sep : Char} {lines : List (List Char)} (h : ∀ line ∈ lines, sep ∉ line) :
    splitAt sep (lines.flatMap (· ++ [sep])) = lines ++ [[]] := by
  induction lines with
  | nil => rfl
  | cons line lines ih =>
    have hline : sep ∉ line := h line List.mem_cons_self
    have hlines : ∀ l ∈ lines, sep ∉ l := fun l hl => h l (List.mem_cons_of_mem _ hl)
    rw [List.flatMap_cons, List.append_assoc, List.singleton_append, splitAt_append hline,
      ih hlines, List.cons_append]

theorem pieces_lines {lines : List String} (h : ∀ line ∈ lines, '\n' ∉ line.toList) :
    pieces '\n' (String.join (lines.map (· ++ "\n"))) = lines ++ [""] := by
  have hchars : (String.join (lines.map (· ++ "\n"))).toList =
      (lines.map String.toList).flatMap (· ++ ['\n']) := by
    rw [String.toList_join, List.flatMap_map, List.flatMap_map]
    simp
  rw [pieces, hchars, splitAt_lines (by simpa using h)]
  simp

def newlineBytes (s : String) : Nat := s.toUTF8.data.toList.count 10

-- No byte of any other character is a newline.
theorem count_utf8EncodeChar (c : Char) :
    (String.utf8EncodeChar c).count 10 = [c].count '\n' := by
  have hchar : c = '\n' ↔ c.val.toNat = 10 := by
    rw [Char.ext_iff, ← UInt32.toNat_inj]
    rfl
  have hbyte : ∀ n < 256, UInt8.ofNat n = 10 ↔ n = 10 := by
    intro n hn
    rw [← UInt8.toNat_inj, UInt8.toNat_ofNat_of_lt' hn]
    rfl
  by_cases hc : c = '\n'
  · subst hc
    decide
  · have hvalue : c.val.toNat ≠ 10 := fun h => hc (hchar.mpr h)
    have hnone : (10 : UInt8) ∉ String.utf8EncodeChar c := by
      unfold String.utf8EncodeChar
      dsimp only
      repeat' split
      all_goals
        simp only [List.mem_cons, List.not_mem_nil, or_false, eq_comm (a := (10 : UInt8))]
        repeat rw [hbyte _ (by omega)]
        omega
    rw [List.count_eq_zero.mpr hnone, List.count_eq_zero.mpr (by simpa using Ne.symm hc)]

theorem newlineBytes_eq (s : String) : newlineBytes s = s.toList.count '\n' := by
  rw [newlineBytes, Text.bytes_eq]
  induction s.toList with
  | nil => rfl
  | cons c rest ih =>
    rw [List.flatMap_cons, List.count_append, ih, count_utf8EncodeChar, ← List.count_append]
    rfl

-- One for each line, as long as none has its own.
theorem newlineBytes_lines {lines : List String} (h : ∀ line ∈ lines, '\n' ∉ line.toList) :
    newlineBytes (String.join (lines.map (· ++ "\n"))) = lines.length := by
  rw [newlineBytes_eq, String.toList_join]
  induction lines with
  | nil => rfl
  | cons line lines ih =>
    have hline : line.toList.count '\n' = 0 := List.count_eq_zero.mpr (h line List.mem_cons_self)
    have hlines := ih fun l hl => h l (List.mem_cons_of_mem _ hl)
    rw [List.map_cons, List.flatMap_cons, List.count_append, hlines, String.toList_append,
      List.count_append, hline, List.length_cons]
    show 0 + 1 + lines.length = lines.length + 1
    omega

end Text

namespace Cluster

-- The line that has a document put into an index.
def indexAction (target : String) : Json := .obj [("index", .obj [("_index", .str target)])]

-- The text of a document, as long as the text of its value reads back.
def Decodes (line : String) (d : Document) : Prop :=
  (d.value.isFinite = true → Json.read? (Decimal.valueText d.value) = some (.real d.value)) →
    Document.decode line = .ok { d with value := if d.value.isNaN then .nan else d.value }

-- For each document in turn a line that names the target and one that holds the document.
inductive Alternate (target : String) : List Document → List String → Prop
  | nil : Alternate target [] []
  | cons {d : Document} {docs : List Document} {action line : String} {lines : List String}
      (naming : Json.read? action = some (indexAction target)) (holding : Decodes line d)
      (others : Alternate target docs lines) :
      Alternate target (d :: docs) (action :: line :: lines)

structure Framed (target : String) (docs : List Document) (body : String) : Prop where
  newlines : Text.newlineBytes body = 2 * docs.length
  -- Nothing stands after the last newline.
  alternate : ∃ lines, Text.pieces '\n' body = lines ++ [""] ∧ Alternate target docs lines

theorem read?_indexAction (target : String) :
    Json.read? (indexAction target).render = some (indexAction target) := by
  have hspelling : Json.spelling? (indexAction target).render.toList =
      some (Json.spelled (indexAction target)) := by
    rw [Json.render, String.toList_ofList, Json.spelling?_chars]
  rw [Json.read?, hspelling]
  simp [indexAction, Json.spelled, Json.spelledMembers, Json.Spelling.depth,
    Json.Spelling.depthMembers, Json.Spelling.value?, Json.Spelling.valueMembers?, Json.sorted,
    Json.sortedMembers, Json.object, Json.insertMember]

theorem alternate_bulkLines (target : String) (docs : List Document) :
    Alternate target docs (Talk.bulkLines target docs) := by
  induction docs with
  | nil => exact .nil
  | cons d docs ih =>
    show Alternate target (d :: docs)
      ((indexAction target).render :: d.render :: Talk.bulkLines target docs)
    exact .cons (read?_indexAction target) (Document.decode_render d) ih

theorem newline_not_mem_bulkLines {target : String} {docs : List Document} :
    ∀ line ∈ Talk.bulkLines target docs, '\n' ∉ line.toList := by
  have hrender : ∀ j : Json, '\n' ∉ j.render.toList := by
    intro j
    rw [Json.render, String.toList_ofList]
    exact Json.newline_not_mem_chars j
  intro line hline
  obtain ⟨d, -, hd⟩ := List.mem_flatMap.mp hline
  rcases List.mem_pair.mp hd with rfl | rfl
  · exact hrender _
  · exact hrender d.toJson

theorem length_bulkLines (target : String) (docs : List Document) :
    (Talk.bulkLines target docs).length = 2 * docs.length := by
  simp [Talk.bulkLines, Nat.mul_comm]

theorem framed_bulkBody (target : String) (docs : List Document) :
    Framed target docs (Talk.bulkBody target docs) where
  newlines := by
    rw [Talk.bulkBody, Text.newlineBytes_lines newline_not_mem_bulkLines, length_bulkLines]
  alternate := ⟨_, Text.pieces_lines newline_not_mem_bulkLines, alternate_bulkLines target docs⟩

end Cluster

end MetricRelay

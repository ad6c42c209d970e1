import MetricRelay.Proofs.Protobuf.Wire
import MetricRelay.Remote.Message

-- Messages that were written are read back: labels, points, series, and lists of messages. The one
-- thing the wire does not keep is the sign of a zero, since a field that holds its default is left
-- out and both zeros are the default.

namespace MetricRelay.Remote

open Protobuf

-- What a reader makes of a message with these fields.
theorem message?_encode {α : Type} (start : α) (add : α → Field → Option α) (depth : Nat)
    (fs : List Field) (hfits : ∀ f ∈ fs, f.Fits) :
    message? start add depth (encode fs) = fs.foldlM add start := by
  rw [message?, fields?_encode depth fs hfits]
  rfl

-- Every field holds bytes and has one of the few numbers that these messages use.
def Nesting (fs : List Field) : Prop :=
  ∀ f ∈ fs, ∃ number b, f = ⟨number, .bytes b⟩ ∧ 0 < number ∧ number < 16

theorem Nesting.append {fs gs : List Field} (hf : Nesting fs) (hg : Nesting gs) :
    Nesting (fs ++ gs) := by
  intro f hmem
  rcases List.mem_append.mp hmem with h | h
  · exact hf f h
  · exact hg f h

-- What a field holds is no longer than the message it stands in.
theorem Nesting.fits {fs : List Field} (hfs : Nesting fs)
    (hlength : (encode fs).length < UInt64.size) : ∀ f ∈ fs, f.Fits := by
  intro f hmem
  obtain ⟨number, b, rfl, hpos, hsmall⟩ := hfs f hmem
  have hkey : 16 * 8 + 7 < UInt32.size := by decide
  have hpayload : b.length < UInt64.size :=
    Nat.lt_of_le_of_lt (length_le_of_mem_fields hmem) hlength
  exact ⟨hpos, by simp only; omega, hpayload⟩

theorem nesting_map {α : Type} (number : Nat) (write : α → Bytes) (xs : List α)
    (hpos : 0 < number) (hsmall : number < 16) :
    Nesting (xs.map fun x => ⟨number, .bytes (write x)⟩) := by
  intro f hmem
  obtain ⟨x, _, rfl⟩ := List.mem_map.mp hmem
  exact ⟨number, write x, rfl, hpos, hsmall⟩

-- Labels.

theorem nesting_textField (number : Nat) (s : String) (hpos : 0 < number) (hsmall : number < 16) :
    Nesting (textField number s) := by
  unfold textField
  split
  · simp [Nesting]
  · exact nesting_map number textBytes [s] hpos hsmall

-- A text that is left out is the empty one the reader starts from.
theorem addLabelField_name (s value : String) :
    (textField 1 s).foldlM addLabelField ("", value) = some (s, value) := by
  by_cases hs : s = ""
  · simp [textField, hs]
  · simp [textField, hs, addLabelField]

theorem addLabelField_value (name s : String) :
    (textField 2 s).foldlM addLabelField (name, "") = some (name, s) := by
  by_cases hs : s = ""
  · simp [textField, hs]
  · simp [textField, hs, addLabelField]

theorem label_read (depth : Nat) (l : String × String)
    (hlength : (encode (labelFields l)).length < UInt64.size) :
    message? ("", "") addLabelField depth (encode (labelFields l)) = some l := by
  have hnesting : Nesting (labelFields l) :=
    (nesting_textField 1 l.1 (by omega) (by omega)).append
      (nesting_textField 2 l.2 (by omega) (by omega))
  rw [message?_encode _ _ _ _ (hnesting.fits hlength), labelFields, List.foldlM_append,
    addLabelField_name]
  exact addLabelField_value l.1 l.2

-- Points.

-- A point once it was written and read.
def received (p : Point) : Point :=
  { p with value := if isZero p.value then .zero false else p.value }

theorem received_eq_self {p : Point} (hp : p.value ≠ .zero true) : received p = p := by
  have hvalue : (if isZero p.value then .zero false else p.value) = p.value := by
    split
    · rename_i hzero
      simp only [isZero, Bool.or_eq_true, beq_iff_eq, hp, or_false] at hzero
      exact hzero.symm
    · rfl
  rw [received, hvalue]

theorem int64_toNat (t : Int64) : int64 t.toUInt64.toNat = t := by
  rw [int64, UInt64.ofNat_toNat, Int64.toInt64_toUInt64]

theorem double_toNat (x : Binary64) : double x.bits.toNat = x := by
  rw [double, UInt64.ofNat_toNat]

theorem pointFields_fits (p : Point) : ∀ f ∈ pointFields p, f.Fits := by
  intro f hf
  have hkey : 16 * 8 + 7 < UInt32.size := by decide
  rcases List.mem_append.mp hf with hvalue | htime
  · split at hvalue
    · simp at hvalue
    · rw [List.mem_singleton] at hvalue
      subst hvalue
      exact ⟨by simp, by simp only; omega, p.value.bits.toNat_lt⟩
  · split at htime
    · simp at htime
    · rw [List.mem_singleton] at htime
      subst htime
      exact ⟨by simp, by simp only; omega, p.timestamp.toUInt64.toNat_lt⟩

theorem point_read (depth : Nat) (p : Point) :
    message? ⟨0, .zero false⟩ addPointField depth (encode (pointFields p)) = some (received p) := by
  obtain ⟨timestamp, value⟩ := p
  rw [message?_encode _ _ _ _ (pointFields_fits _), pointFields, List.foldlM_append]
  by_cases hzero : isZero value = true <;> by_cases htime : timestamp = 0 <;>
    simp [received, hzero, htime, addPointField, int64_toNat, double_toNat]

-- Series.

def TimeSeries.received (s : TimeSeries) : TimeSeries :=
  { s with samples := s.samples.map Remote.received }

theorem addSeriesField_labels (depth : Nat) (s : TimeSeries) (ls : List (String × String))
    (hlength : ∀ l ∈ ls, (encode (labelFields l)).length < UInt64.size) :
    (ls.map fun l => (⟨1, .bytes (encode (labelFields l))⟩ : Field)).foldlM
      (addSeriesField depth) s = some { s with labels := s.labels ++ ls } := by
  induction ls generalizing s with
  | nil => simp
  | cons l ls ih =>
    have hread := label_read depth l (hlength l List.mem_cons_self)
    rw [List.map_cons, List.foldlM_cons]
    simp only [addSeriesField, hread, Option.map_some, Option.bind_eq_bind, Option.bind_some]
    rw [ih _ fun m hm => hlength m (List.mem_cons_of_mem l hm), List.append_assoc,
      List.singleton_append]

theorem addSeriesField_samples (depth : Nat) (s : TimeSeries) (ps : List Point) :
    (ps.map fun p => (⟨2, .bytes (encode (pointFields p))⟩ : Field)).foldlM
      (addSeriesField depth) s = some { s with samples := s.samples ++ ps.map received } := by
  induction ps generalizing s with
  | nil => simp
  | cons p ps ih =>
    rw [List.map_cons, List.foldlM_cons]
    simp only [addSeriesField, point_read, Option.map_some, Option.bind_eq_bind, Option.bind_some]
    rw [ih, List.map_cons, List.append_assoc, List.singleton_append]

theorem timeSeries_read (depth : Nat) (s : TimeSeries)
    (hlength : (encode (seriesFields s)).length < UInt64.size) :
    timeSeries? depth (encode (seriesFields s)) = some s.received := by
  have hnesting : Nesting (seriesFields s) :=
    (nesting_map 1 _ s.labels (by omega) (by omega)).append
      (nesting_map 2 _ s.samples (by omega) (by omega))
  have hlabels : ∀ l ∈ s.labels, (encode (labelFields l)).length < UInt64.size := fun l hl =>
    Nat.lt_of_le_of_lt
      (length_le_of_mem_fields (List.mem_append_left _ (List.mem_map.mpr ⟨l, hl, rfl⟩))) hlength
  rw [timeSeries?, message?_encode _ _ _ _ (hnesting.fits hlength), seriesFields,
    List.foldlM_append, addSeriesField_labels _ _ _ hlabels]
  exact addSeriesField_samples _ _ _

-- Lists of messages.

theorem addItem_read {α β : Type} {item? : Bytes → Option β} {write : α → Bytes} {seen : α → β}
    (items : List β) (xs : List α) (hitem : ∀ x ∈ xs, item? (write x) = some (seen x)) :
    (xs.map fun x => (⟨1, .bytes (write x)⟩ : Field)).foldlM (addItem item?) items =
      some (items ++ xs.map seen) := by
  induction xs generalizing items with
  | nil => simp
  | cons x xs ih =>
    rw [List.map_cons, List.foldlM_cons]
    simp only [addItem, hitem x List.mem_cons_self, Option.map_some, Option.bind_eq_bind,
      Option.bind_some]
    rw [ih _ fun y hy => hitem y (List.mem_cons_of_mem x hy), List.map_cons, List.append_assoc,
      List.singleton_append]

theorem items_read {α β : Type} {item? : Bytes → Option β} {write : α → Bytes} {seen : α → β}
    (depth : Nat) (xs : List α)
    (hlength : (encode (xs.map fun x => ⟨1, .bytes (write x)⟩)).length < UInt64.size)
    (hitem : ∀ x, (write x).length < UInt64.size → item? (write x) = some (seen x)) :
    message? [] (addItem item?) depth (encode (xs.map fun x => ⟨1, .bytes (write x)⟩)) =
      some (xs.map seen) := by
  have hnesting := nesting_map 1 write xs (by omega) (by omega)
  rw [message?_encode _ _ _ _ (hnesting.fits hlength)]
  exact addItem_read [] xs fun x hx => hitem x (Nat.lt_of_le_of_lt
    (length_le_of_mem_fields (List.mem_map.mpr ⟨x, hx, rfl⟩)) hlength)

theorem writeRequest_read (request : List TimeSeries)
    (hlength : (writeRequestBytes request).length < UInt64.size) :
    writeRequest? (writeRequestBytes request) = some (request.map TimeSeries.received) :=
  items_read _ request hlength (timeSeries_read _)

theorem result_read (depth : Nat) (result : List TimeSeries)
    (hlength : (resultBytes result).length < UInt64.size) :
    message? [] (addItem (timeSeries? (depth - 1))) depth (resultBytes result) =
      some (result.map TimeSeries.received) :=
  items_read _ result hlength (timeSeries_read _)

theorem readResponse_read (response : List (List TimeSeries))
    (hlength : (readResponseBytes response).length < UInt64.size) :
    readResponse? (readResponseBytes response) =
      some (response.map fun result => result.map TimeSeries.received) :=
  items_read _ response hlength (result_read (maxDepth - 1))

end MetricRelay.Remote

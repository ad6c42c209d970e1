import MetricRelay.Protobuf.Wire

-- Messages are read back as they were written: every number that fits its width, every field with a
-- number of its own, every list of fields. What follows a number or a field is left for the next
-- one to read.

namespace MetricRelay.Protobuf

-- Numbers.

-- The last byte of ten holds one bit, and each byte before it seven.
theorem varint?_varintBytes (left n : Nat) (rest : Bytes) (hn : n < 2 * Nat.pow 128 left) :
    varint? (left + 1) (varintBytes n ++ rest) = some (n, rest) := by
  induction left generalizing n with
  | zero =>
    have hn : n < 2 := by simpa using hn
    have hb : (UInt8.ofNat n).toNat = n := by rw [UInt8.toNat_ofNat']; omega
    rw [varintBytes, if_pos (by omega), List.cons_append, varint?, hb, if_pos (by omega),
      if_neg (by omega), List.nil_append]
  | succ left ih =>
    rw [varintBytes]
    by_cases hlast : n < 128
    · have hb : (UInt8.ofNat n).toNat = n := by rw [UInt8.toNat_ofNat']; omega
      rw [if_pos hlast, List.cons_append, varint?, hb, if_pos hlast, if_neg (by simp),
        List.nil_append]
    · have hb : (UInt8.ofNat (n % 128 + 128)).toNat = n % 128 + 128 := by
        rw [UInt8.toNat_ofNat']; omega
      have hpow : Nat.pow 128 (left + 1) = Nat.pow 128 left * 128 := rfl
      have hdiv : n / 128 < 2 * Nat.pow 128 left := by omega
      rw [if_neg hlast, List.cons_append, varint?, hb, if_neg (by omega), ih _ hdiv]
      have hwhole : n % 128 + 128 - 128 + 128 * (n / 128) = n := by omega
      simp only [Option.map_some, hwhole]

theorem readVarint?_varintBytes (n : Nat) (rest : Bytes) (hn : n < UInt64.size) :
    readVarint? (varintBytes n ++ rest) = some (n, rest) :=
  varint?_varintBytes 9 n rest hn

theorem varintBytes_ne_nil (n : Nat) : varintBytes n ≠ [] := by
  rw [varintBytes]
  split <;> simp

theorem fixed?_fixedBytes (width n : Nat) (rest : Bytes) (hn : n < Nat.pow 256 width) :
    fixed? width (fixedBytes width n ++ rest) = some (n, rest) := by
  induction width generalizing n with
  | zero =>
    have hn : n < 1 := hn
    have hzero : n = 0 := by omega
    rw [hzero]
    rfl
  | succ width ih =>
    have hpow : Nat.pow 256 (width + 1) = Nat.pow 256 width * 256 := rfl
    have hdiv : n / 256 < Nat.pow 256 width := by omega
    have hwhole : n % 256 + 256 * (n / 256) = n := by omega
    rw [fixedBytes, List.cons_append, fixed?, ih _ hdiv]
    simp only [Option.map_some, UInt8.toNat_ofNat', Nat.reducePow, hwhole]

-- Fields.

-- What a payload has to be for its wire type to hold it.
def Payload.Fits : Payload → Prop
  | .varint n | .fixed64 n => n < UInt64.size
  | .bytes b => b.length < UInt64.size
  | .group => False
  | .fixed32 n => n < UInt32.size

structure Field.Fits (f : Field) : Prop where
  numbered : 0 < f.number
  -- the key has thirty-two bits, three of them for the wire type
  key : f.number * 8 + 7 < UInt32.size
  payload : f.payload.Fits

theorem key?_varintBytes (number wire : Nat) (rest : Bytes) (hnumber : 0 < number)
    (hwire : wire ≤ 5) (hkey : number * 8 + 7 < UInt32.size) :
    key? (varintBytes (number * 8 + wire) ++ rest) = some (number, wire, rest) := by
  have hsize : UInt32.size < UInt64.size := by decide
  have hnum : (number * 8 + wire) / 8 = number := by omega
  have hmod : (number * 8 + wire) % 8 = wire := by omega
  rw [key?, readVarint?_varintBytes _ _ (by omega)]
  simp only [Option.bind_eq_bind, Option.bind_some, hnum, hmod]
  rw [if_neg (by omega)]

theorem field?_encode (depth : Nat) (f : Field) (rest : Bytes) (hf : f.Fits) :
    field? depth (f.encode ++ rest) = some (f, rest) := by
  obtain ⟨number, payload⟩ := f
  obtain ⟨hnumber, hkey, hpayload⟩ := hf
  have hk := fun wire rest hwire => key?_varintBytes number wire rest hnumber hwire hkey
  cases payload with
  | varint n =>
    have hk := hk 0 (varintBytes n ++ rest) (by omega)
    simp only [Field.encode, List.append_assoc, Nat.add_zero] at hk ⊢
    simp [field?, hk, payload?, readVarint?_varintBytes n rest hpayload]
  | fixed64 n =>
    have hk := hk 1 (fixedBytes 8 n ++ rest) (by omega)
    simp only [Field.encode, List.append_assoc]
    simp [field?, hk, payload?, fixed?_fixedBytes 8 n rest hpayload]
  | bytes b =>
    have hk := hk 2 (varintBytes b.length ++ (b ++ rest)) (by omega)
    simp only [Field.encode, List.append_assoc]
    simp [field?, hk, payload?, readVarint?_varintBytes b.length (b ++ rest) hpayload]
  | group => exact hpayload.elim
  | fixed32 n =>
    have hk := hk 5 (fixedBytes 4 n ++ rest) (by omega)
    simp only [Field.encode, List.append_assoc]
    simp [field?, hk, payload?, fixed?_fixedBytes 4 n rest hpayload]

theorem encode_ne_nil (f : Field) : f.encode ≠ [] := by
  unfold Field.encode
  split <;> simp [varintBytes_ne_nil]

-- Each field takes a byte at least, so as much fuel as there are bytes is enough.
theorem fieldList?_encode (fuel depth : Nat) (fs : List Field) (hfits : ∀ f ∈ fs, f.Fits)
    (hfuel : (encode fs).length ≤ fuel) : fieldList? fuel depth (encode fs) = some fs := by
  induction fs generalizing fuel with
  | nil => cases fuel <;> rfl
  | cons f fs ih =>
    have hbytes : encode (f :: fs) = f.encode ++ encode fs := List.flatMap_cons
    have hfirst : 0 < f.encode.length := List.length_pos_iff.mpr (encode_ne_nil f)
    rw [hbytes, List.length_append] at hfuel
    obtain ⟨fuel, rfl⟩ : ∃ n, fuel = n + 1 := ⟨fuel - 1, by omega⟩
    have hread := field?_encode depth f (encode fs) (hfits f List.mem_cons_self)
    have hrest := ih fuel (fun g hg => hfits g (List.mem_cons_of_mem f hg)) (by omega)
    rw [hbytes]
    rw [fieldList?.eq_def]
    cases hb : f.encode ++ encode fs with
    | nil => simp [encode_ne_nil] at hb
    | cons b bs =>
      simp only [← hb, hread, hrest, Option.bind_eq_bind, Option.bind_some, Option.pure_def]

theorem fields?_encode (depth : Nat) (fs : List Field) (hfits : ∀ f ∈ fs, f.Fits) :
    fields? depth (encode fs) = some fs :=
  fieldList?_encode _ depth fs hfits (Nat.le_refl _)

-- A message is longer than what its fields hold.
theorem length_le_of_mem_fields {number : Nat} {b : Bytes} {fs : List Field}
    (hmem : ⟨number, .bytes b⟩ ∈ fs) : b.length ≤ (encode fs).length := by
  obtain ⟨before, after, rfl⟩ := List.append_of_mem hmem
  simp only [encode, List.flatMap_append, List.flatMap_cons, Field.encode, List.length_append]
  omega

-- Text.

@[simp] theorem text?_textBytes (s : String) : text? (textBytes s) = some s := by
  have hvalid : s.toUTF8.IsValidUTF8 := s.isValidUTF8
  have harray : (⟨s.toUTF8.data.toList.toArray⟩ : ByteArray) = s.toUTF8 := rfl
  rw [text?, textBytes, harray, String.fromUTF8?, dif_pos hvalid]
  rfl

end MetricRelay.Protobuf

import MetricRelay.Proofs.Protobuf.Wire
import MetricRelay.Remote.Snappy

-- What was compressed comes back, as long as a block can hold it: the length in front is read as a
-- number, and then the literals one after another. Data that comes back is never longer than a
-- block.

namespace MetricRelay.Snappy

open Protobuf

-- The length in front.

-- Seven bits go below all those that follow, so putting them together is adding.
theorem seven_or (n shift : Nat) :
    n % 128 * Nat.pow 2 shift ||| n / 128 * Nat.pow 2 (shift + 7) = n * Nat.pow 2 shift := by
  have hpow : Nat.pow 2 (shift + 7) = 128 * Nat.pow 2 shift := by
    rw [Nat.mul_comm]
    exact Nat.pow_add 2 shift 7
  have hpos : 0 < Nat.pow 2 shift := Nat.two_pow_pos shift
  have hlow : n % 128 * Nat.pow 2 shift < Nat.pow 2 (shift + 7) := by
    rw [hpow]
    exact Nat.mul_lt_mul_of_pos_right (Nat.mod_lt n (by omega)) hpos
  have hor := Nat.two_pow_add_eq_or_of_lt hlow (n / 128)
  calc n % 128 * Nat.pow 2 shift ||| n / 128 * Nat.pow 2 (shift + 7)
      = Nat.pow 2 (shift + 7) * (n / 128) + n % 128 * Nat.pow 2 shift := by
        rw [Nat.or_comm, Nat.mul_comm (n / 128)]
        exact hor.symm
    _ = (128 * (n / 128) + n % 128) * Nat.pow 2 shift := by
        rw [hpow, Nat.add_mul, Nat.mul_right_comm]
    _ = n * Nat.pow 2 shift := by rw [Nat.div_add_mod]

theorem header?_varintBytes (shift n : Nat) (rest : Bytes) (hshift : shift < 64)
    (hn : n * Nat.pow 2 shift < Nat.pow 2 64) :
    header? shift (varintBytes n ++ rest) = some (n * Nat.pow 2 shift, rest) := by
  induction n using varintBytes.induct generalizing shift with
  | case1 n hlast =>
    have hb : (UInt8.ofNat n).toNat = n := by rw [UInt8.toNat_ofNat']; omega
    have hmod : n % 128 = n := Nat.mod_eq_of_lt hlast
    rw [varintBytes, if_pos hlast, List.cons_append, header?, if_neg (by omega)]
    simp only [hb, hmod, hlast, if_true, low, Nat.mod_eq_of_lt hn, List.nil_append]
  | case2 n hmore ih =>
    have hb : (UInt8.ofNat (n % 128 + 128)).toNat = n % 128 + 128 := by
      rw [UInt8.toNat_ofNat']; omega
    have hpart : (n % 128 + 128) % 128 = n % 128 := by omega
    have hpow : Nat.pow 2 (shift + 7) = 128 * Nat.pow 2 shift := by
      rw [Nat.mul_comm]
      exact Nat.pow_add 2 shift 7
    have hbits : n % 128 * Nat.pow 2 shift < Nat.pow 2 64 :=
      Nat.lt_of_le_of_lt (Nat.mul_le_mul_right _ (Nat.mod_le n 128)) hn
    have hrest : n / 128 * Nat.pow 2 (shift + 7) < Nat.pow 2 64 := by
      refine Nat.lt_of_le_of_lt ?_ hn
      rw [hpow, ← Nat.mul_assoc]
      exact Nat.mul_le_mul_right _ (Nat.div_mul_le_self n 128)
    have hnext : shift + 7 < 64 := by
      refine (Nat.pow_lt_pow_iff_right (by omega : 1 < 2)).mp (Nat.lt_of_le_of_lt ?_ hn)
      show Nat.pow 2 (shift + 7) ≤ n * Nat.pow 2 shift
      rw [hpow]
      exact Nat.mul_le_mul_right _ (by omega)
    rw [varintBytes, if_neg hmore, List.cons_append, header?, if_neg (by omega), hb,
      if_neg (by omega), ih _ hnext hrest]
    simp only [Option.map_some, hpart, low, Nat.mod_eq_of_lt hbits, seven_or]

-- The pieces.

theorem size_foldl_push (bytes : Bytes) (out : Array UInt8) :
    (bytes.foldl Array.push out).size = out.size + bytes.length := by
  simp

-- A literal of sixty bytes at most is its length and then its bytes.
theorem piece?_literal (limit : Nat) (chunk rest : Bytes) (out : Array UInt8)
    (hsome : 0 < chunk.length) (hshort : chunk.length ≤ chunkSize)
    (hlimit : out.size + chunk.length ≤ limit) :
    piece? limit (UInt8.ofNat ((chunk.length - 1) * 4)) (chunk ++ rest) out =
      some (rest, chunk.foldl Array.push out) := by
  have hsixty : chunk.length ≤ 60 := hshort
  have hb : (UInt8.ofNat ((chunk.length - 1) * 4)).toNat = (chunk.length - 1) * 4 := by
    rw [UInt8.toNat_ofNat']; omega
  have hcode : (chunk.length - 1) * 4 / 4 = chunk.length - 1 := by omega
  have hcount : chunk.length - 1 + 1 = chunk.length := by omega
  rw [piece?]
  simp only [hb, hcode, hcount]
  rw [if_pos (by omega), if_pos (by omega)]
  simp only [Option.bind_some, List.take_left, List.drop_left]
  rw [if_neg (by omega)]

theorem pieces?_literals (limit fuel size : Nat) (bytes : Bytes) (out : Array UInt8)
    (hsize : bytes.length ≤ size) (hfuel : (literals size bytes).length ≤ fuel)
    (hlimit : out.size + bytes.length ≤ limit) :
    pieces? limit fuel (literals size bytes) out = some (bytes.foldl Array.push out) := by
  induction size generalizing fuel bytes out with
  | zero =>
    have hnil : bytes = [] := List.length_eq_zero_iff.mp (by omega)
    subst hnil
    cases fuel <;> rfl
  | succ size ih =>
    by_cases hnil : bytes = []
    · subst hnil
      cases fuel <;> rfl
    · have hpos : 0 < bytes.length := List.length_pos_iff.mpr hnil
      have hlength : (bytes.take chunkSize).length ≤ chunkSize := by
        rw [List.length_take]
        omega
      have hchunk : 0 < (bytes.take chunkSize).length := by
        rw [List.length_take, chunkSize]
        omega
      have hsplit : bytes.take chunkSize ++ bytes.drop chunkSize = bytes :=
        List.take_append_drop chunkSize bytes
      have hsum := congrArg List.length hsplit
      rw [List.length_append] at hsum
      have hne : (bytes.take chunkSize).isEmpty = false := by
        rw [← Bool.not_eq_true, List.isEmpty_iff]
        intro he
        rw [he] at hchunk
        exact Nat.lt_irrefl 0 hchunk
      have hliterals : literals (size + 1) bytes =
          UInt8.ofNat (((bytes.take chunkSize).length - 1) * 4) ::
            (bytes.take chunkSize ++ literals size (bytes.drop chunkSize)) := by
        rw [literals]
        simp only [hne, Bool.false_eq_true, if_false]
      rw [hliterals, List.length_cons, List.length_append] at hfuel
      obtain ⟨fuel, rfl⟩ : ∃ k, fuel = k + 1 := ⟨fuel - 1, by omega⟩
      have hrest := ih fuel (bytes.drop chunkSize) ((bytes.take chunkSize).foldl Array.push out)
        (by omega) (by omega) (by rw [size_foldl_push]; omega)
      rw [hliterals, pieces?, piece?_literal _ _ _ _ hchunk hlength (by omega), Option.bind_some]
      simp only [hrest]
      rw [← List.foldl_append, hsplit]

-- The whole block.

theorem decode?_encode (bytes : Bytes) (h : bytes.length ≤ maxLength) :
    decode? (encode bytes) = some bytes := by
  have hmax : maxLength < Nat.pow 2 64 := by decide
  have hheader := header?_varintBytes 0 bytes.length (literals bytes.length bytes) (by omega)
    (by rw [show Nat.pow 2 0 = 1 from rfl]; omega)
  have hpieces := pieces?_literals bytes.length _ bytes.length bytes #[] (Nat.le_refl _)
    (Nat.le_refl _) (by simp)
  have hone : bytes.length * Nat.pow 2 0 = bytes.length := Nat.mul_one _
  rw [hone] at hheader
  rw [decode?, encode, hheader]
  simp only [Option.bind_eq_bind, Option.bind_some]
  rw [if_neg (by omega), hpieces, Option.bind_some, if_pos (by simp)]
  simp

theorem length_le_of_decode? {body bytes : Bytes} (h : decode? body = some bytes) :
    bytes.length ≤ maxLength := by
  simp only [decode?, Option.bind_eq_bind, Option.bind_eq_some_iff] at h
  obtain ⟨⟨size, rest⟩, _, h⟩ := h
  split at h
  · cases h
  · rename_i hsize
    obtain ⟨out, _, h⟩ := Option.bind_eq_some_iff.mp h
    split at h
    · rename_i hout
      cases h
      rw [Array.length_toList]
      omega
    · cases h

end MetricRelay.Snappy

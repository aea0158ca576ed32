import FreeMqtt.Serializer.Decode
import Mathlib.Tactic.Ring

/-!
# The remaining length

The variable length encoding of MQTT: seven bits a byte, the lowest first, and a high bit on
every byte but the last. `processRemainingLength` reads what `encodeRemainingLength` writes
(`processRemainingLength_encode`), and accepts nothing else (`encode_of_processRemainingLength`).
-/

namespace FreeMqtt

/-! ## Bytes -/

/-- A property of all bytes, from the 256 numbers. -/
theorem forall_uint8 {p : UInt8 → Prop} (h : ∀ n : Fin 256, p (UInt8.ofNat n.val)) (b : UInt8) :
    p b := by
  have hb := h ⟨b.toNat, b.toNat_lt⟩
  rwa [UInt8.ofNat_toNat] at hb

/-- The value of a byte of a remaining length. -/
def lengthDigit (b : UInt8) : Nat := (b &&& 0x7F).toNat

theorem lengthDigit_lt (b : UInt8) : lengthDigit b < 128 :=
  forall_uint8 (p := fun b => lengthDigit b < 128) (by decide +kernel) b

theorem lengthDigit_ofNat {n : Nat} (h : n < 128) :
    lengthDigit (UInt8.ofNat n) = n ∧ UInt8.ofNat n &&& 0x80 = 0 := by
  have hall : ∀ n : Fin 128,
      lengthDigit (UInt8.ofNat n.val) = n.val ∧ UInt8.ofNat n.val &&& 0x80 = 0 := by decide +kernel
  exact hall ⟨n, h⟩

theorem lengthDigit_setBit {n : Nat} (h : n < 128) :
    lengthDigit (setBit (UInt8.ofNat n) 7) = n ∧ setBit (UInt8.ofNat n) 7 &&& 0x80 ≠ 0 := by
  have hall : ∀ n : Fin 128, lengthDigit (setBit (UInt8.ofNat n.val) 7) = n.val ∧
      setBit (UInt8.ofNat n.val) 7 &&& 0x80 ≠ 0 := by decide +kernel
  exact hall ⟨n, h⟩

/-- A byte is its digit, with or without the high bit. -/
theorem ofNat_lengthDigit (b : UInt8) : b = if b &&& 0x80 ≠ 0 then
    setBit (UInt8.ofNat (lengthDigit b)) 7 else UInt8.ofNat (lengthDigit b) :=
  forall_uint8 (p := fun b => b = if b &&& 0x80 ≠ 0 then
    setBit (UInt8.ofNat (lengthDigit b)) 7 else UInt8.ofNat (lengthDigit b)) (by decide +kernel) b

/-! ## Encoding -/

theorem encodeRemainingLengthLoop_eq {fuel n : Nat} (h : n < fuel) :
    encodeRemainingLengthLoop fuel n = encodeRemainingLength n := by
  induction n using Nat.strongRecOn generalizing fuel with
  | _ n ih =>
    obtain ⟨fuel, rfl⟩ : ∃ k, fuel = k + 1 := ⟨fuel - 1, by omega⟩
    unfold encodeRemainingLength encodeRemainingLengthLoop
    dsimp only
    split
    · rw [ih (n / 128) (by omega) (by omega), ih (n / 128) (by omega) (by omega)]
    · rfl

/-- The encoding, one byte at a time. -/
theorem encodeRemainingLength_eq (n : Nat) : encodeRemainingLength n =
    if n < 128 then [UInt8.ofNat n]
    else setBit (UInt8.ofNat (n % 128)) 7 :: encodeRemainingLength (n / 128) := by
  rw [encodeRemainingLength, encodeRemainingLengthLoop]
  by_cases h : n < 128
  · rw [if_neg (by omega), if_pos h, Nat.mod_eq_of_lt h]
  · rw [if_pos (by omega), if_neg h, encodeRemainingLengthLoop_eq (by omega)]

/-- The encoding has as many bytes as digits are needed. -/
theorem length_encodeRemainingLength_eq {m n : Nat} (hn : n < 128 ^ (m + 1))
    (hm : 128 ^ m ≤ n ∨ m = 0) : (encodeRemainingLength n).length = m + 1 := by
  induction m generalizing n with
  | zero =>
    rw [encodeRemainingLength_eq, if_pos (by omega)]
    rfl
  | succ m ih =>
    have hge : 128 ^ (m + 1) ≤ n := hm.resolve_right (by omega)
    have hpow : 128 ^ (m + 1) = 128 ^ m * 128 := Nat.pow_succ ..
    have hpos : 0 < 128 ^ m := Nat.pow_pos (by decide)
    rw [encodeRemainingLength_eq, if_neg (by omega), List.length_cons,
      ih ((Nat.div_lt_iff_lt_mul (by decide)).2 hn)
        (.inl ((Nat.le_div_iff_mul_le (by decide)).2 (by omega)))]

/-- The size of the encoding of a length that MQTT allows. -/
theorem length_encodeRemainingLength {n : Nat} (h : n ≤ maxRemainingLength) :
    (encodeRemainingLength n).length = remainingLengthEncodedSize n := by
  have hmax : maxRemainingLength = 268435455 := rfl
  unfold remainingLengthEncodedSize
  split
  · exact length_encodeRemainingLength_eq (m := 0) (by omega) (.inr rfl)
  split
  · exact length_encodeRemainingLength_eq (m := 1) (by omega) (.inl (by omega))
  split
  · exact length_encodeRemainingLength_eq (m := 2) (by omega) (.inl (by omega))
  · exact length_encodeRemainingLength_eq (m := 3) (by omega) (.inl (by omega))

/-! ## Decoding what was encoded -/

theorem processRemainingLengthLoop_cons {k : Nat} (hk : k < 4) (b : UInt8) (rest : List UInt8)
    (length : Nat) : processRemainingLengthLoop (b :: rest) length k =
      if b &&& 0x80 ≠ 0 then
        processRemainingLengthLoop rest (length + lengthDigit b * 128 ^ k) (k + 1)
      else (.success, length + lengthDigit b * 128 ^ k, k + 1) := by
  have hpow : ¬ 128 ^ k > 2097152 := Nat.not_lt.2 (Nat.pow_le_pow_right (by decide) (by omega : k ≤ 3))
  rw [processRemainingLengthLoop, if_neg hpow]
  rfl

theorem processRemainingLengthLoop_encode {j k n : Nat} (hk : k + j < 4) (hn : n < 128 ^ (j + 1))
    (rest : List UInt8) (length : Nat) :
    processRemainingLengthLoop (encodeRemainingLength n ++ rest) length k =
      (.success, length + n * 128 ^ k, k + (encodeRemainingLength n).length) := by
  induction j generalizing k n length with
  | zero =>
    have hlt : n < 128 := by simpa using hn
    have hdigit := lengthDigit_ofNat hlt
    rw [encodeRemainingLength_eq, if_pos hlt, List.cons_append,
      processRemainingLengthLoop_cons (by omega),
      if_neg (not_not_intro hdigit.2), hdigit.1]
    rfl
  | succ j ih =>
    rw [encodeRemainingLength_eq]
    by_cases hlt : n < 128
    · have hdigit := lengthDigit_ofNat hlt
      rw [if_pos hlt, List.cons_append, processRemainingLengthLoop_cons (by omega),
        if_neg (not_not_intro hdigit.2), hdigit.1]
      rfl
    · have hdigit := lengthDigit_setBit (Nat.mod_lt n (by decide : 0 < 128))
      have hvalue : n % 128 * 128 ^ k + n / 128 * 128 ^ (k + 1) = n * 128 ^ k := by
        rw [Nat.pow_succ, ← Nat.mul_assoc, Nat.mul_right_comm, ← Nat.add_mul]
        congr 1
        omega
      rw [if_neg hlt, List.cons_append, processRemainingLengthLoop_cons (by omega),
        if_pos hdigit.2, hdigit.1,
        ih (by omega) ((Nat.div_lt_iff_lt_mul (by decide)).2 hn), Nat.add_assoc, hvalue,
        List.length_cons]
      congr 2
      omega

/-- A remaining length at the front of the available bytes is read as it was written. -/
theorem processRemainingLength_of_append {n : Nat} (h : n ≤ maxRemainingLength)
    {buffer rest : List UInt8} {index : Nat}
    (hbytes : (buffer.take index).drop 1 = encodeRemainingLength n ++ rest) :
    processRemainingLength buffer index = (.success, n, 1 + remainingLengthEncodedSize n) := by
  unfold processRemainingLength
  dsimp only
  rw [hbytes, processRemainingLengthLoop_encode (j := 3) (by omega) (Nat.lt_of_le_of_lt h (by decide)),
    if_pos rfl, length_encodeRemainingLength h]
  simp [Nat.add_comm]

/-- The same behind the type byte. -/
theorem processRemainingLength_encode {n : Nat} (h : n ≤ maxRemainingLength) (type : UInt8)
    (rest : List UInt8) {index : Nat} (hindex : 1 + remainingLengthEncodedSize n ≤ index) :
    processRemainingLength (type :: (encodeRemainingLength n ++ rest)) index =
      (.success, n, 1 + remainingLengthEncodedSize n) := by
  have hlen := length_encodeRemainingLength h
  refine @processRemainingLength_of_append n h _
    (rest.take (index - 1 - remainingLengthEncodedSize n)) index ?_
  obtain ⟨index, rfl⟩ : ∃ i, index = i + 1 := ⟨index - 1, by omega⟩
  rw [List.take_succ_cons, List.drop_succ_cons, List.drop_zero, List.take_append, hlen,
    List.take_of_length_le (by omega), Nat.add_sub_cancel]

/-! ## Encoding what was decoded -/

/-- A successful run of the loop has read the digits of a number; when none of them is a leading
zero, the bytes are its encoding. -/
theorem processRemainingLengthLoop_success {bytes : List UInt8} {length k total decoded : Nat}
    (h : processRemainingLengthLoop bytes length k = (.success, total, decoded)) :
    ∃ n m read rest, bytes = read ++ rest ∧ read.length = m + 1 ∧ total = length + n * 128 ^ k ∧
      decoded = k + (m + 1) ∧ k + m < 4 ∧ n < 128 ^ (m + 1) ∧
      (128 ^ m ≤ n ∨ m = 0 → read = encodeRemainingLength n) := by
  induction bytes generalizing length k with
  | nil =>
    rw [processRemainingLengthLoop] at h
    split at h <;> simp at h
  | cons b bytes ih =>
    have hk : k < 4 := by
      by_contra hk
      have hpow : 128 ^ k > 2097152 :=
        Nat.lt_of_lt_of_le (by decide) (Nat.pow_le_pow_right (by decide) (Nat.not_lt.1 hk))
      rw [processRemainingLengthLoop, if_pos hpow] at h
      simp at h
    have hdigit := lengthDigit_lt b
    have hb := ofNat_lengthDigit b
    rw [processRemainingLengthLoop_cons hk] at h
    split at h
    · rename_i hhigh
      rw [if_pos hhigh] at hb
      obtain ⟨n, m, read, rest, rfl, hlen, rfl, rfl, hm, hn, hread⟩ := ih h
      have hpow : 128 ^ (m + 1) = 128 ^ m * 128 := Nat.pow_succ ..
      have hpow' : 128 ^ (m + 1 + 1) = 128 ^ (m + 1) * 128 := Nat.pow_succ ..
      have hpos : 0 < 128 ^ m := Nat.pow_pos (by decide)
      refine ⟨lengthDigit b + 128 * n, m + 1, b :: read, rest, rfl, by simp [hlen], ?_, by omega,
        by omega, by omega, fun hbig => ?_⟩
      · rw [Nat.pow_succ]
        ring
      · have hge : 128 ^ (m + 1) ≤ lengthDigit b + 128 * n := hbig.resolve_right (by omega)
        rw [encodeRemainingLength_eq, if_neg (by omega), hread (.inl (by omega)),
          show (lengthDigit b + 128 * n) % 128 = lengthDigit b by omega,
          show (lengthDigit b + 128 * n) / 128 = n by omega, ← hb]
    · rename_i hhigh
      rw [if_neg hhigh] at hb
      cases h
      refine ⟨lengthDigit b, 0, [b], bytes, rfl, rfl, rfl, rfl, hk, hdigit, fun _ => ?_⟩
      rw [encodeRemainingLength_eq, if_pos hdigit, ← hb]

/-- The size of a number with so many digits, and no fewer. -/
theorem le_of_remainingLengthEncodedSize {n m : Nat} (h : m + 1 = remainingLengthEncodedSize n) :
    128 ^ m ≤ n ∨ m = 0 := by
  unfold remainingLengthEncodedSize at h
  split_ifs at h
  · exact .inr (by omega)
  · obtain rfl : m = 1 := by omega
    exact .inl (by omega)
  · obtain rfl : m = 2 := by omega
    exact .inl (by omega)
  · obtain rfl : m = 3 := by omega
    exact .inl (by omega)

/-- What is accepted as a remaining length is its encoding. -/
theorem encode_of_processRemainingLength {buffer : List UInt8} {index n headerLength : Nat}
    (h : processRemainingLength buffer index = (.success, n, headerLength)) :
    n ≤ maxRemainingLength ∧ headerLength = 1 + remainingLengthEncodedSize n ∧
      headerLength ≤ index ∧ ∃ rest, (buffer.take index).drop 1 = encodeRemainingLength n ++ rest := by
  unfold processRemainingLength at h
  generalize hdecoded : processRemainingLengthLoop ((buffer.take index).drop 1) 0 0 = decoded at h
  obtain ⟨status, total, bytesDecoded⟩ := decoded
  dsimp only at h
  split at h
  · rename_i hok
    subst hok
    split at h
    · exact absurd h (by simp)
    · rename_i hsize
      rw [not_not] at hsize
      cases h
      obtain ⟨n, m, read, rest, hbytes, hlen, htotal, rfl, hm, hn, hread⟩ :=
        processRemainingLengthLoop_success hdecoded
      rw [Nat.pow_zero, Nat.mul_one, Nat.zero_add] at htotal
      subst htotal
      have hmax : n < 128 ^ 4 := Nat.lt_of_lt_of_le hn (Nat.pow_le_pow_right (by decide) (by omega))
      have hin : (read ++ rest).length ≤ index - 1 := by
        rw [← hbytes, List.length_drop, List.length_take]
        omega
      rw [List.length_append, hlen] at hin
      rw [hread (le_of_remainingLengthEncodedSize (by omega))] at hbytes
      refine ⟨?_, by omega, by omega, rest, hbytes⟩
      exact Nat.le_of_lt_succ hmax
  · exact absurd h (by simp_all)

end FreeMqtt

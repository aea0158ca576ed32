import FreeMqtt.Core.Api
import FreeMqtt.Serializer.LengthCodec

/-!
# Reading a remaining length from the transport

`getRemainingLength` asks the transport for one byte at a time, and runs the loop of
`processRemainingLength` on what it gets. Where the bytes that are there suffice for an answer, the
two answer the same, and no byte behind the encoding is read (`remainingLength_codec`).
-/

namespace FreeMqtt

/-- Each of the next calls of `recv` delivers bytes, as long as there are any. -/
def Sys.Delivers (s : Sys) (calls : Nat) : Prop := ∀ result ∈ s.recvs.take calls, 0 < result

instance (s : Sys) (calls : Nat) : Decidable (s.Delivers calls) :=
  inferInstanceAs (Decidable (∀ result ∈ s.recvs.take calls, 0 < result))

/-- A byte that is there is delivered. -/
theorem transportRecv_delivers {s : Sys} {calls : Nat} (h : s.Delivers (calls + 1)) {b : UInt8}
    {rest : List UInt8} (hin : s.inbound = b :: rest) :
    ∃ s', transportRecv s 1 = (1, [b], s') ∧ s'.inbound = rest ∧ s'.Delivers calls := by
  unfold transportRecv
  cases hrecvs : s.recvs with
  | nil =>
    refine ⟨_, by rw [hin]; rfl, rfl, fun result hresult => ?_⟩
    simp at hresult
  | cons result recvs =>
    rw [Sys.Delivers, hrecvs, List.take_succ_cons, List.forall_mem_cons] at h
    have hone : min result.toNat 1 = 1 := by omega
    refine ⟨{ s with recvs, inbound := rest }, ?_, rfl, h.2⟩
    dsimp only
    rw [if_neg (by omega), hone, hin]
    rfl

theorem continues_dropLast_cons {b : UInt8} {bytes : List UInt8} (hb : b &&& 0x80 ≠ 0)
    (h : Continues bytes.dropLast) : Continues (b :: bytes).dropLast := by
  cases bytes with
  | nil => exact continues_nil
  | cons b' bytes =>
    rw [List.dropLast_cons_of_ne_nil (by simp)]
    exact continues_cons.2 ⟨hb, h⟩

/-- An iteration that gets its byte, as in `processRemainingLengthLoop_cons`. -/
theorem getRemainingLengthLoop_cons {k : Nat} (hk : k < 4) {s s' : Sys} {b : UInt8}
    (hreceived : transportRecv s 1 = (1, [b], s')) (fuel length : Nat) :
    getRemainingLengthLoop (fuel + 1) length k s =
      if b &&& 0x80 ≠ 0 then
        getRemainingLengthLoop fuel (length + lengthDigit b * 128 ^ k) (k + 1) s'
      else (length + lengthDigit b * 128 ^ k, k + 1, s') := by
  have hpow : ¬ 128 ^ k > 2097152 :=
    Nat.not_lt.2 (Nat.pow_le_pow_right (by decide) (by omega : k ≤ 3))
  rw [getRemainingLengthLoop, if_neg hpow]
  dsimp only
  rw [hreceived, if_pos rfl]
  rfl

/-- Neither loop takes a fifth byte. -/
theorem remainingLengthLoops_four (bytes : List UInt8) (fuel length : Nat) (s : Sys) :
    processRemainingLengthLoop bytes length 4 = (.badResponse, length, 4) ∧
      getRemainingLengthLoop (fuel + 1) length 4 s = (remainingLengthInvalid, 4, s) := by
  constructor
  · unfold processRemainingLengthLoop
    rw [if_pos (by decide)]
  · rw [getRemainingLengthLoop, if_pos (by decide)]

/-- The answer of one loop to the answer of the other, when `decoded` bytes were decoded. -/
def SameAnswer (decoded : Nat) (processed : Status × Nat × Nat) (read : Nat × Nat × Sys) : Prop :=
  (processed.1 = .success ∧ read.1 = processed.2.1 ∧ read.2.1 = processed.2.2 ∧
      processed.2.2 = decoded) ∨
    (processed.1 = .badResponse ∧ read.1 = remainingLengthInvalid)

/-- The two loops, on bytes that suffice for an answer. -/
theorem getRemainingLengthLoop_process {fuel length k : Nat} (hk : k ≤ 4) (hfuel : 4 < fuel + k)
    {s : Sys} {available : List UInt8} (hin : available <+: s.inbound)
    (hdelivers : s.Delivers (4 - k))
    (henough : (processRemainingLengthLoop available length k).1 ≠ .needMoreBytes) :
    let read := getRemainingLengthLoop fuel length k s
    ∃ consumed, s.inbound = consumed ++ read.2.2.inbound ∧ consumed <+: available ∧
      k + consumed.length ≤ 4 ∧ Continues consumed.dropLast ∧
      SameAnswer (k + consumed.length) (processRemainingLengthLoop available length k) read := by
  induction fuel generalizing length k s available with
  | zero => omega
  | succ fuel ih =>
    dsimp only at ih ⊢
    rcases Nat.lt_or_eq_of_le hk with hlt | rfl
    swap
    · obtain ⟨hprocess, hread⟩ := remainingLengthLoops_four available fuel length s
      rw [hprocess, hread]
      exact ⟨[], rfl, List.nil_prefix, by simp, continues_nil, .inr ⟨rfl, rfl⟩⟩
    cases available with
    | nil =>
      have hshort := (@processRemainingLengthLoop_needMore [] length k hk).2 ⟨hlt, continues_nil⟩
      exact absurd hshort henough
    | cons b available =>
      obtain ⟨t, ht⟩ := hin
      obtain ⟨calls, hcalls⟩ : ∃ calls, 4 - k = calls + 1 := ⟨3 - k, by omega⟩
      rw [hcalls] at hdelivers
      obtain ⟨s', hreceived, hin', hdelivers'⟩ := transportRecv_delivers hdelivers ht.symm
      rw [processRemainingLengthLoop_cons hlt] at henough ⊢
      rw [getRemainingLengthLoop_cons hlt hreceived]
      by_cases hhigh : b &&& 0x80 ≠ 0
      · rw [if_pos hhigh] at henough ⊢
        rw [if_pos hhigh]
        rw [show calls = 4 - (k + 1) by omega] at hdelivers'
        obtain ⟨consumed, hsplit, hprefix, hfour, hcontinues, hanswer⟩ :=
          ih hlt (by omega) ⟨t, hin'.symm⟩ hdelivers' henough
        refine ⟨b :: consumed, ?_, (List.prefix_cons_inj b).2 hprefix, ?_,
          continues_dropLast_cons hhigh hcontinues, ?_⟩
        · rw [List.cons_append, ← hsplit, hin', ← ht]
          rfl
        · rw [List.length_cons]
          omega
        · rwa [List.length_cons, ← Nat.add_assoc, Nat.add_right_comm]
      · rw [if_neg hhigh, if_neg hhigh]
        refine ⟨[b], ?_, ⟨available, rfl⟩, hlt, continues_nil, .inl ⟨rfl, rfl, rfl, rfl⟩⟩
        rw [hin', ← ht]
        rfl

/-- A length that the loop decodes is not the sentinel. -/
theorem ne_invalid_of_success {bytes : List UInt8}
    (h : (processRemainingLengthLoop bytes 0 0).1 = .success) :
    (processRemainingLengthLoop bytes 0 0).2.1 ≠ remainingLengthInvalid := by
  obtain ⟨n, m, -, -, -, -, htotal, -, hm, hn, -⟩ :=
    @processRemainingLengthLoop_success bytes 0 0 _ _ (Prod.ext h rfl)
  have hpow : 128 ^ (m + 1) ≤ 128 ^ 4 := Nat.pow_le_pow_right (by decide) (by omega)
  have hinvalid : remainingLengthInvalid = 128 ^ 4 := rfl
  rw [Nat.pow_zero, Nat.mul_one, Nat.zero_add] at htotal
  rw [htotal]
  omega

/-- The two decoders, on bytes that suffice for an answer: the transport is asked for the bytes of
the encoding, or for those up to the one that spoils it. -/
theorem getRemainingLength_process {s : Sys} (hdelivers : s.Delivers 4) {buffer : List UInt8}
    {index : Nat} (hin : (buffer.take index).drop 1 <+: s.inbound)
    (henough : (processRemainingLength buffer index).1 ≠ .needMoreBytes) :
    ∃ consumed, s.inbound = consumed ++ (getRemainingLength s).2.inbound ∧
      consumed.length ≤ 4 ∧ Continues consumed.dropLast ∧
      (∀ n headerLength, processRemainingLength buffer index = (.success, n, headerLength) →
        (getRemainingLength s).1 = n ∧ consumed = encodeRemainingLength n) ∧
      ((getRemainingLength s).1 = remainingLengthInvalid ↔
        (processRemainingLength buffer index).1 = .badResponse) := by
  have hloop : (processRemainingLengthLoop ((buffer.take index).drop 1) 0 0).1 ≠
      .needMoreBytes := by
    intro h
    rw [processRemainingLength, h, if_neg (by decide)] at henough
    exact henough rfl
  obtain ⟨consumed, hsplit, hprefix, hfour, hcontinues, hanswer⟩ :=
    getRemainingLengthLoop_process (Nat.zero_le 4) (by decide : 4 < 5 + 0) hin hdelivers hloop
  rw [Nat.zero_add] at hfour hanswer
  refine ⟨consumed, hsplit, hfour, hcontinues, ?_⟩
  rcases hanswer with ⟨hstatus, hlength, hdecoded, hsize⟩ | ⟨hstatus, hinvalid⟩
  · have hne := ne_invalid_of_success hstatus
    generalize hdecode : processRemainingLengthLoop ((buffer.take index).drop 1) 0 0 = decoded
      at hstatus hlength hdecoded hsize hne
    by_cases hminimal : decoded.2.2 = remainingLengthEncodedSize decoded.2.1
    · have hread : (getRemainingLength s).1 = decoded.2.1 := by
        unfold getRemainingLength
        dsimp only
        rw [hdecoded, hlength, if_neg fun h => h.2 hminimal]
      have hprocess : processRemainingLength buffer index =
          (.success, decoded.2.1, decoded.2.2 + 1) := by
        rw [processRemainingLength, hdecode, hstatus, if_pos rfl, if_neg (not_not_intro hminimal)]
      rw [hread, hprocess]
      refine ⟨fun n headerLength h => ?_, iff_of_false hne (by simp)⟩
      obtain ⟨rfl, -⟩ : decoded.2.1 = n ∧ decoded.2.2 + 1 = headerLength := by
        simpa only [Prod.mk.injEq, true_and] using h
      obtain ⟨hmax, hencoding, -⟩ := processRemainingLength_success_iff.1 hprocess
      refine ⟨rfl, List.IsPrefix.eq_of_length
        (List.prefix_of_prefix_length_le hprefix hencoding ?_) ?_⟩
      · rw [length_encodeRemainingLength hmax]
        omega
      · rw [length_encodeRemainingLength hmax]
        omega
    · have hread : (getRemainingLength s).1 = remainingLengthInvalid := by
        unfold getRemainingLength
        dsimp only
        rw [hdecoded, hlength, if_pos ⟨hne, hminimal⟩]
      have hprocess : processRemainingLength buffer index = (.badResponse, 0, 0) := by
        rw [processRemainingLength, hdecode, hstatus, if_pos rfl, if_pos hminimal]
      rw [hread, hprocess]
      exact ⟨fun _ _ h => absurd h (by simp), iff_of_true rfl rfl⟩
  · unfold getRemainingLength
    dsimp only
    rw [processRemainingLength, hstatus, if_neg (by decide), hinvalid, if_neg (by simp)]
    exact ⟨fun _ _ h => absurd h (by simp), iff_of_true rfl rfl⟩

/-- The codec of a remaining length: what the encoder writes, what the decoder of a buffer answers,
and that the reader of a transport answers the same, from no byte behind the encoding. -/
theorem remainingLength_codec :
    (∀ n ≤ maxRemainingLength, (encodeRemainingLength n).length = remainingLengthEncodedSize n ∧
      1 ≤ remainingLengthEncodedSize n ∧ remainingLengthEncodedSize n ≤ 4) ∧
    (∀ buffer index,
      let available := (buffer.take index).drop 1
      let answer := processRemainingLength buffer index
      (∀ n headerLength, answer = (.success, n, headerLength) ↔
        n ≤ maxRemainingLength ∧ encodeRemainingLength n <+: available ∧
          headerLength = 1 + remainingLengthEncodedSize n) ∧
      (answer.1 = .needMoreBytes ↔
        ∃ encoding, IsLengthEncoding encoding ∧ available <+: encoding ∧ available ≠ encoding) ∧
      (answer.1 = .success ∨ answer.1 = .needMoreBytes ∨ answer.1 = .badResponse)) ∧
    ∀ s : Sys, s.Delivers 4 → ∀ buffer index,
      (buffer.take index).drop 1 <+: s.inbound →
      (processRemainingLength buffer index).1 ≠ .needMoreBytes →
      ∃ consumed, s.inbound = consumed ++ (getRemainingLength s).2.inbound ∧
        consumed.length ≤ 4 ∧ Continues consumed.dropLast ∧
        (∀ n headerLength, processRemainingLength buffer index = (.success, n, headerLength) →
          (getRemainingLength s).1 = n ∧ consumed = encodeRemainingLength n) ∧
        ((getRemainingLength s).1 = remainingLengthInvalid ↔
          (processRemainingLength buffer index).1 = .badResponse) := by
  refine ⟨fun n hmax => ?_, fun buffer index => ?_, fun s hdelivers buffer index => ?_⟩
  · exact ⟨length_encodeRemainingLength hmax, remainingLengthEncodedSize_pos n,
      remainingLengthEncodedSize_le n⟩
  · exact ⟨fun n headerLength => processRemainingLength_success_iff,
      processRemainingLength_needMore_iff, processRemainingLength_status buffer index⟩
  · exact getRemainingLength_process hdelivers

/-- The length 321, read from a transport that delivers one more byte than its encoding. -/
theorem remainingLength_codec_sample :
    let s : Sys := { Sys.initialized (.still [0xC1, 0x02, 0x07]) 16 0 with recvs := [1, 1] }
    (getRemainingLength s).1 = 321 ∧ s.inbound = [0xC1, 0x02] ++ (getRemainingLength s).2.inbound := by
  intro s
  obtain ⟨consumed, hsplit, -, -, hlength, -⟩ := remainingLength_codec.2.2 s (by decide)
    [0x30, 0xC1, 0x02] 3 ⟨[0x07], rfl⟩ (by decide)
  obtain ⟨hread, rfl⟩ := hlength 321 3 (by decide)
  exact ⟨hread, hsplit⟩

end FreeMqtt

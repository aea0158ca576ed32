import FreeMqtt.Core.SendSpec
import FreeMqtt.Lib.AnsweredLoop
import Mathlib.Data.List.GetD

/-!
# The send loops, iteration by iteration

`sendBuffer` and `sendMessageVector` with all their variables: `pIndex`, and the vector array
with the iterator and the count, which the loop changes in place. The transport is a stream of
results, so that a run need not end. `sendBuffer` and `sendMessageVector` are what these loops
return (`sendBuffer_returns`, `sendMessageVector_returns`).
-/

namespace FreeMqtt

open AnsweredLoop

/-! ## The transport -/

/-- A call of `send` or `writev` with this result: no more than what is offered is accepted. -/
def answerSend (s : Sys) (offered : List UInt8) (result : Int) : Int × Sys :=
  if result < 0 then (result, s)
  else
    let accepted := offered.take result.toNat
    (accepted.length, { s with wire := s.wire ++ accepted })

theorem answerSend_eq (s : Sys) (offered : List UInt8) (result : Int) (sends : List Int) :
    transportSend { s with sends := result :: sends } offered =
      ((answerSend s offered result).1,
        { (answerSend s offered result).2 with sends := sends }) := by
  unfold transportSend answerSend
  dsimp only
  split
  · rfl
  · rfl

/-- A call whose result covers all that is offered. -/
theorem answerSend_all (s : Sys) {offered : List UInt8} {all : Nat} (hall : offered.length ≤ all) :
    answerSend s offered all =
      ((offered.length : Int), { s with wire := s.wire ++ offered }) := by
  unfold answerSend
  dsimp only
  rw [if_neg (by omega), Int.toNat_natCast, List.take_of_length_le hall]

/-! ## `sendBuffer` -/

/-- The variables of `sendBuffer`. -/
structure BufferSend where
  /-- `pIndex - pBufferToSend` -/
  pIndex : Nat
  bytesSentOrError : Int
  context : Sys

/-- What a call of `send` in `sendBuffer` offers. -/
def BufferSend.offered (buffer : List UInt8) (x : BufferSend) : List UInt8 :=
  (buffer.drop x.pIndex).take (buffer.length - x.bytesSentOrError.toNat)

/-- The loop of `sendBuffer`. -/
def bufferLoop (c : Config) (startTime : UInt32) (buffer : List UInt8) : Loop Int BufferSend where
  more x := decide (x.bytesSentOrError < int32Cast buffer.length ∧ 0 ≤ x.bytesSentOrError)
  body x result :=
    let sent := answerSend x.context (x.offered buffer) result
    let after := afterSend x.bytesSentOrError sent.1 sent.2
    let now := getTime after.2
    let x := ⟨if sent.1 > 0 then x.pIndex + sent.1.toNat else x.pIndex, after.1, now.2⟩
    if c.sendTimeoutMs ≤ (calculateElapsedTime now.1 startTime).toNat then (true, x) else (false, x)

/-- The variables of `sendBuffer` before its loop. -/
def BufferSend.start (s : Sys) : BufferSend := ⟨0, 0, (getTime s).2⟩

/-! ## `sendMessageVector` -/

/-- The variables of `sendMessageVector`; a vector is the bytes from its `iov_base` on, as many
as its `iov_len` says. -/
structure VectorSend where
  pIoVec : List (List UInt8)
  /-- `pIoVectIterator - pIoVec` -/
  pIoVectIterator : Nat
  vectorsToBeSent : Nat
  bytesSentOrError : Int
  context : Sys

/-- The `vectorsToBeSent` vectors from the iterator on. -/
def VectorSend.unsent (x : VectorSend) : List (List UInt8) :=
  (x.pIoVec.drop x.pIoVectIterator).take x.vectorsToBeSent

/-- What a call of `writev` or `send` in `sendMessageVector` offers. -/
def VectorSend.offered (x : VectorSend) : List UInt8 :=
  if x.context.writev then x.unsent.flatten else x.pIoVec.getD x.pIoVectIterator []

/-- The inner loop of `sendMessageVector`, over whole vectors: `sendResult`, the iterator and
the count. -/
def skipVectors (pIoVec : List (List UInt8)) (sendResult : Int) (pIoVectIterator : Nat)
    (vectorsToBeSent : Nat) : Int × Nat × Nat :=
  if h : pIoVectIterator < pIoVec.length then
    if sendResult ≥ int32Cast pIoVec[pIoVectIterator].length then
      skipVectors pIoVec (sendResult - int32Cast pIoVec[pIoVectIterator].length)
        (pIoVectIterator + 1) (vectorsToBeSent - 1)
    else (sendResult, pIoVectIterator, vectorsToBeSent)
  else (sendResult, pIoVectIterator, vectorsToBeSent)
termination_by pIoVec.length - pIoVectIterator

/-- The update of the iterator, the count, and the vector that was sent in part. -/
def VectorSend.advance (x : VectorSend) (sendResult : Int) : VectorSend :=
  let skipped := skipVectors x.pIoVec sendResult x.pIoVectIterator x.vectorsToBeSent
  { x with
    pIoVectIterator := skipped.2.1
    vectorsToBeSent := skipped.2.2
    pIoVec :=
      if skipped.1 > 0 ∧ skipped.2.1 < x.pIoVec.length then
        x.pIoVec.modify skipped.2.1 (·.drop skipped.1.toNat)
      else x.pIoVec }

/-- The loop of `sendMessageVector`. -/
def vectorLoop (c : Config) (startTime : UInt32) (bytesToSend : Nat) : Loop Int VectorSend where
  more x := decide (x.bytesSentOrError < int32Cast bytesToSend ∧ 0 ≤ x.bytesSentOrError)
  body x result :=
    let sent := answerSend x.context x.offered result
    let after := afterSend x.bytesSentOrError sent.1 sent.2
    let now := getTime after.2
    let x := { x with bytesSentOrError := after.1, context := now.2 }
    if c.sendTimeoutMs < (calculateElapsedTime now.1 startTime).toNat then (true, x)
    else (false, x.advance sent.1)

/-- The variables of `sendMessageVector` before its loop. -/
def VectorSend.start (s : Sys) (pIoVec : List (List UInt8)) : VectorSend :=
  ⟨pIoVec, 0, pIoVec.length, 0, (getTime s).2⟩

/-! ## The update of the iterator -/

/-- The inner loop goes from whole vectors to the one that was sent in part. -/
theorem skipVectors_spec (pIoVec : List (List UInt8)) (sendResult : Int) (pIoVectIterator : Nat)
    (vectorsToBeSent : Nat) (h : pIoVectIterator + vectorsToBeSent = pIoVec.length) :
    let skipped := skipVectors pIoVec sendResult pIoVectIterator vectorsToBeSent
    skipped.2.1 + skipped.2.2 = pIoVec.length ∧
      advanceVectors sendResult (pIoVec.drop pIoVectIterator) =
        match pIoVec.drop skipped.2.1 with
        | [] => []
        | vector :: vectors => vector.drop skipped.1.toNat :: vectors := by
  induction sendResult, pIoVectIterator, vectorsToBeSent
    using skipVectors.induct pIoVec with
  | case1 sendResult i count hlt hge ih =>
    rw [skipVectors, dif_pos hlt, if_pos hge]
    obtain ⟨hcount, hadvance⟩ := ih (by omega)
    refine ⟨hcount, ?_⟩
    rw [List.drop_eq_getElem_cons hlt, advanceVectors, if_pos hge]
    exact hadvance
  | case2 sendResult i count hlt hge =>
    rw [skipVectors, dif_pos hlt, if_neg hge]
    refine ⟨h, ?_⟩
    rw [List.drop_eq_getElem_cons hlt, advanceVectors, if_neg hge]
  | case3 sendResult i count hge =>
    rw [skipVectors, dif_neg hge]
    refine ⟨h, ?_⟩
    rw [List.drop_eq_nil_of_le (Nat.not_lt.1 hge), advanceVectors]

/-- The iterator and the count say which vectors are left. -/
def VectorSend.Counted (x : VectorSend) : Prop :=
  x.pIoVectIterator + x.vectorsToBeSent = x.pIoVec.length

theorem VectorSend.Counted.unsent_eq {x : VectorSend} (h : x.Counted) :
    x.unsent = x.pIoVec.drop x.pIoVectIterator := by
  unfold VectorSend.Counted at h
  apply List.take_of_length_le
  rw [List.length_drop]
  omega

theorem VectorSend.length_advance (x : VectorSend) (sendResult : Int) :
    (x.advance sendResult).pIoVec.length = x.pIoVec.length := by
  unfold VectorSend.advance
  dsimp only
  split
  · rw [List.length_modify]
  · rfl

/-- The vectors left are changed as `advanceVectors` says. -/
theorem VectorSend.Counted.advance {x : VectorSend} (h : x.Counted) (sendResult : Int) :
    (x.advance sendResult).Counted ∧
      (x.advance sendResult).unsent = advanceVectors sendResult x.unsent := by
  obtain ⟨hcount, hadvance⟩ := skipVectors_spec x.pIoVec sendResult x.pIoVectIterator
    x.vectorsToBeSent h
  have hcounted : (x.advance sendResult).Counted :=
    hcount.trans (x.length_advance sendResult).symm
  refine ⟨hcounted, ?_⟩
  rw [hcounted.unsent_eq, h.unsent_eq, hadvance]
  unfold VectorSend.advance
  generalize skipVectors x.pIoVec sendResult x.pIoVectIterator x.vectorsToBeSent = skipped
  obtain ⟨left, i, count⟩ := skipped
  dsimp only
  by_cases hi : i < x.pIoVec.length
  · rw [List.drop_eq_getElem_cons hi]
    by_cases hpart : left > 0
    · rw [if_pos ⟨hpart, hi⟩, List.drop_eq_getElem_cons (by rwa [List.length_modify]),
        List.drop_modify_of_lt _ _ _ _ (Nat.lt_succ_self i), List.getElem_modify_eq]
    · rw [if_neg fun hboth => hpart hboth.1, List.drop_eq_getElem_cons hi,
        Int.toNat_of_nonpos (by omega)]
      rfl
  · rw [if_neg fun hboth => hi hboth.2, List.drop_eq_nil_of_le (Nat.not_lt.1 hi)]

/-! ## One iteration -/

/-- From `s₀` on the transport accepted the first `accepted` bytes of `packet`, and
`bytesSentOrError` counts them or is a negative result that came before the last one. -/
def Accepted (s₀ s : Sys) (packet : List UInt8) (bytesSentOrError : Int) (accepted : Nat) : Prop :=
  accepted ≤ packet.length ∧
    Handed s₀ s (packet.take accepted) (decide (bytesSentOrError < 0)) ∧
    (bytesSentOrError = accepted ∨ bytesSentOrError < 0 ∧ accepted < packet.length)

theorem accepted_start (s : Sys) (packet : List UInt8) : Accepted s (getTime s).2 packet 0 0 :=
  ⟨Nat.zero_le _, by simpa using handed_getTime s, .inl rfl⟩

theorem Accepted.wire_eq {s₀ s : Sys} {packet : List UInt8} {bytesSentOrError : Int}
    {accepted : Nat} (h : Accepted s₀ s packet bytesSentOrError accepted) :
    s.wire = s₀.wire ++ packet.take accepted := by
  obtain ⟨-, ⟨ticks, sends, lastTx, rfl⟩, -⟩ := h
  rfl

/-- While a loop goes on, all accepted bytes are counted, and some are left. -/
theorem Accepted.more {s₀ s : Sys} {packet : List UInt8} {bytesSentOrError : Int}
    {accepted : Nat} (h : Accepted s₀ s packet bytesSentOrError accepted)
    (hmore : bytesSentOrError < int32Cast packet.length ∧ 0 ≤ bytesSentOrError) :
    bytesSentOrError = accepted ∧ accepted < packet.length := by
  obtain ⟨-, -, heq | ⟨hneg, -⟩⟩ := h
  · have hle := int32Cast_le packet.length
    omega
  · omega

/-- A result of the transport and what the loops make of it. -/
theorem answerSend_spec (s : Sys) (offered : List UInt8) (bytesSent result : Int) :
    let sent := answerSend s offered result
    let after := afterSend bytesSent sent.1 sent.2
    (sent.1 < 0 ∧ after.1 < 0 ∧ Handed s after.2 [] true) ∨
      ∃ n ≤ offered.length, sent.1 = n ∧ after.1 = bytesSent + n ∧
        Handed s after.2 (offered.take n) false := by
  have hspec := afterSend_spec { s with sends := result :: s.sends } offered bytesSent
  rw [answerSend_eq] at hspec
  have hsends : { (answerSend s offered result).2 with sends := s.sends } =
      (answerSend s offered result).2 := by
    unfold answerSend
    split <;> rfl
  rw [hsends] at hspec
  exact hspec

/-- One call of the transport, which is offered bytes from the front of what is left. -/
theorem Accepted.step {s₀ s : Sys} {packet : List UInt8} {n : Nat} (h : Accepted s₀ s packet n n)
    (hn : n < packet.length) {offered rest : List UInt8}
    (hoffered : packet.drop n = offered ++ rest) (result : Int) :
    let sent := answerSend s offered result
    let after := afterSend n sent.1 sent.2
    sent.1.toNat ≤ offered.length ∧
      Accepted s₀ (getTime after.2).2 packet after.1 (n + sent.1.toNat) := by
  have hlen : packet.length - n = offered.length + rest.length := by
    rw [← List.length_drop, hoffered, List.length_append]
  obtain ⟨-, hhanded, -⟩ := h
  rw [decide_eq_false (by omega)] at hhanded
  dsimp only
  rcases answerSend_spec s offered n result with ⟨hsent, hneg, hfail⟩ | ⟨m, hm, hsent, hafter, hok⟩
  · rw [Int.toNat_of_nonpos (Int.le_of_lt hsent)]
    refine ⟨Nat.zero_le _, hn.le, ?_, .inr ⟨hneg, hn⟩⟩
    rw [decide_eq_true hneg]
    simpa using (hhanded.trans hfail).getTime
  · have htake : packet.take (n + m) = packet.take n ++ offered.take m := by
      rw [List.take_add, hoffered, List.take_append_of_le_length hm]
    have hcount : (answerSend s offered result).1.toNat = m := by omega
    rw [hafter, hcount]
    refine ⟨hm, by omega, ?_, .inl (by omega)⟩
    rw [decide_eq_false (by omega), htake]
    exact (hhanded.trans hok).getTime

/-! ## Runs of `sendBuffer` -/

/-- The invariant of `sendBuffer`, started in `s₀`: `pIndex` counts the accepted bytes. -/
def BufferSend.Follows (s₀ : Sys) (buffer : List UInt8) (x : BufferSend) : Prop :=
  Accepted s₀ x.context buffer x.bytesSentOrError x.pIndex

theorem BufferSend.Follows.offered_eq {s₀ : Sys} {buffer : List UInt8} {x : BufferSend}
    (h : x.Follows s₀ buffer) {c : Config} {startTime : UInt32}
    (hmore : (bufferLoop c startTime buffer).more x = true) :
    x.offered buffer = buffer.drop x.pIndex := by
  obtain ⟨hcount, hlt⟩ := h.more (of_decide_eq_true hmore)
  unfold BufferSend.offered
  apply List.take_of_length_le
  rw [List.length_drop]
  omega

/-- The body of the loop, whose `pIndex` moves on by the accepted bytes. -/
theorem bufferLoop_body_eq (c : Config) (startTime : UInt32) {buffer offered : List UInt8}
    {x : BufferSend} (hoffered : x.offered buffer = offered) (result : Int) :
    (bufferLoop c startTime buffer).body x result =
      let sent := answerSend x.context offered result
      let after := afterSend x.bytesSentOrError sent.1 sent.2
      let now := getTime after.2
      (decide (c.sendTimeoutMs ≤ (calculateElapsedTime now.1 startTime).toNat),
        ⟨x.pIndex + sent.1.toNat, after.1, now.2⟩) := by
  have hindex : ∀ sendResult : Int, (if sendResult > 0 then x.pIndex + sendResult.toNat
      else x.pIndex) = x.pIndex + sendResult.toNat := by
    intro sendResult
    split
    · rfl
    · omega
  unfold bufferLoop
  dsimp only
  rw [hoffered, hindex]
  split
  · rename_i htime
    rw [decide_eq_true htime]
  · rename_i htime
    rw [decide_eq_false htime]

theorem bufferLoop_body {c : Config} {startTime : UInt32} {s₀ : Sys} {buffer : List UInt8}
    {x : BufferSend} (h : x.Follows s₀ buffer)
    (hmore : (bufferLoop c startTime buffer).more x = true) (result : Int) :
    ((bufferLoop c startTime buffer).body x result).2.Follows s₀ buffer := by
  obtain ⟨hcount, hlt⟩ := h.more (of_decide_eq_true hmore)
  have hoffered := h.offered_eq hmore
  unfold BufferSend.Follows at h
  rw [hcount] at h
  have hall : buffer.drop x.pIndex = buffer.drop x.pIndex ++ [] := (List.append_nil _).symm
  obtain ⟨-, hstep⟩ := h.step hlt hall result
  rw [bufferLoop_body_eq c startTime hoffered, hcount]
  exact hstep

/-! ## Runs of `sendMessageVector` -/

/-- A negative result leaves the vectors as they are. -/
theorem advanceVectors_of_neg {sendResult : Int} (hneg : sendResult < 0)
    {vectors : List (List UInt8)} (hlen : ∀ v ∈ vectors, v.length < 2 ^ 31) :
    advanceVectors sendResult vectors = vectors := by
  cases vectors with
  | nil => rfl
  | cons v vectors =>
    rw [advanceVectors, int32Cast_eq (hlen v (by simp)), if_neg (by omega),
      Int.toNat_of_nonpos (Int.le_of_lt hneg), List.drop_zero]

/-- The update takes the accepted bytes from the front of the vectors left. -/
theorem VectorSend.Counted.advance_flatten {x : VectorSend} (h : x.Counted)
    (hlen : ∀ v ∈ x.unsent, v.length < 2 ^ 31) {sendResult : Int}
    (hle : sendResult.toNat ≤ x.unsent.flatten.length) :
    (x.advance sendResult).unsent.flatten = x.unsent.flatten.drop sendResult.toNat ∧
      ∀ v ∈ (x.advance sendResult).unsent, v.length < 2 ^ 31 := by
  rw [(h.advance sendResult).2]
  by_cases hneg : sendResult < 0
  · rw [advanceVectors_of_neg hneg hlen, Int.toNat_of_nonpos (Int.le_of_lt hneg)]
    exact ⟨rfl, hlen⟩
  · have hspec := advanceVectors_spec hle hlen
    rwa [Int.toNat_of_nonneg (Int.not_lt.1 hneg)] at hspec

/-- The invariant of `sendMessageVector`, started in `s₀`: the iterator and the count describe
the bytes of `packet` behind the first `accepted` ones. -/
structure VectorSend.Describes (s₀ : Sys) (packet : List UInt8) (x : VectorSend)
    (accepted : Nat) : Prop where
  sent : Accepted s₀ x.context packet x.bytesSentOrError accepted
  counted : x.Counted
  unsent : x.unsent.flatten = packet.drop accepted
  lengths : ∀ v ∈ x.unsent, v.length < 2 ^ 31

/-- Without `writev`, the first of the vectors left is offered. -/
theorem VectorSend.Counted.offered_eq {x : VectorSend} (h : x.Counted) :
    x.offered = if x.context.writev then x.unsent.flatten else x.unsent.headD [] := by
  have hhead : x.pIoVec.getD x.pIoVectIterator [] = x.unsent.headD [] := by
    rw [h.unsent_eq]
    by_cases hi : x.pIoVectIterator < x.pIoVec.length
    · rw [List.drop_eq_getElem_cons hi, List.getD_eq_getElem _ _ hi, List.headD_cons]
    · rw [List.drop_eq_nil_of_le (Nat.not_lt.1 hi), List.getD_eq_default _ _ (Nat.not_lt.1 hi)]
      rfl
  rw [VectorSend.offered, hhead]

/-- A call of the transport is offered bytes from the front of what is left. -/
theorem VectorSend.Describes.offered {s₀ : Sys} {packet : List UInt8} {x : VectorSend}
    {accepted : Nat} (h : x.Describes s₀ packet accepted) :
    ∃ rest, packet.drop accepted = x.offered ++ rest := by
  rw [← h.unsent, h.counted.offered_eq]
  split
  · exact ⟨[], (List.append_nil _).symm⟩
  · cases x.unsent with
    | nil => exact ⟨[], rfl⟩
    | cons v vectors => exact ⟨vectors.flatten, rfl⟩

/-- When the loop goes on, the vectors left are changed as `advanceVectors` says. -/
theorem vectorLoop_unsent {c : Config} {startTime : UInt32} {bytesToSend : Nat}
    {x y : VectorSend} (h : x.Counted) {result : Int}
    (hy : (vectorLoop c startTime bytesToSend).body x result = (false, y)) :
    y.unsent = advanceVectors (answerSend x.context x.offered result).1 x.unsent := by
  unfold vectorLoop at hy
  dsimp only at hy
  split at hy
  · exact absurd (congrArg Prod.fst hy) (by simp)
  · obtain ⟨-, rfl⟩ := Prod.ext_iff.1 hy
    exact (VectorSend.Counted.advance h _).2

/-- What the body of the loop does. When it breaks, the iterator stays behind. -/
theorem vectorLoop_body {c : Config} {startTime : UInt32} {s₀ : Sys} {packet : List UInt8}
    {x : VectorSend} {accepted : Nat} (h : x.Describes s₀ packet accepted)
    (hmore : (vectorLoop c startTime packet.length).more x = true) (result : Int) :
    let next := (vectorLoop c startTime packet.length).body x result
    let count := (answerSend x.context x.offered result).1.toNat
    Accepted s₀ next.2.context packet next.2.bytesSentOrError (accepted + count) ∧
      (next.1 = false → next.2.Describes s₀ packet (accepted + count)) := by
  obtain ⟨hcount, hlt⟩ := h.sent.more (of_decide_eq_true hmore)
  obtain ⟨rest, hoffered⟩ := h.offered
  have hsent := h.sent
  rw [hcount] at hsent
  obtain ⟨hle, hstep⟩ := hsent.step hlt hoffered result
  have hall : (answerSend x.context x.offered result).1.toNat ≤ x.unsent.flatten.length := by
    have hlen := congrArg List.length hoffered
    rw [← h.unsent, List.length_append] at hlen
    omega
  unfold vectorLoop
  dsimp only
  rw [hcount]
  generalize answerSend x.context x.offered result = answer at hstep hall ⊢
  by_cases htime : c.sendTimeoutMs <
      (calculateElapsedTime (getTime (afterSend accepted answer.1 answer.2).2).1 startTime).toNat
  · rw [if_pos htime]
    exact ⟨hstep, fun hbreak => absurd hbreak (by simp)⟩
  · rw [if_neg htime]
    refine ⟨hstep, fun _ => ?_⟩
    generalize hy : ({ x with
      bytesSentOrError := (afterSend accepted answer.1 answer.2).1
      context := (getTime (afterSend accepted answer.1 answer.2).2).2 } : VectorSend) = y
    have hcounted : y.Counted := by rw [← hy]; exact h.counted
    have hunsent : y.unsent = x.unsent := by rw [← hy]; rfl
    rw [← hunsent] at hall
    obtain ⟨hflat, hlens⟩ :=
      hcounted.advance_flatten (fun v hv => h.lengths v (hunsent ▸ hv)) hall
    refine ⟨by rw [← hy]; exact hstep, (hcounted.advance answer.1).1, ?_, hlens⟩
    rw [hflat, hunsent, h.unsent, List.drop_drop]

end FreeMqtt

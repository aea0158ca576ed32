import FreeMqtt.Core.SendIterations
import FreeMqtt.Core.Api

/-!
# Partial writes

Whatever the results of the transport are, full, partial, zero or negative, and whatever the
clock says, the bytes that it accepts from `sendBuffer` and `sendMessageVector` are a first part
of the packet, none lost and none repeated (`partial_writes`). `sendBuffer_returns` and
`sendMessageVector_returns` carry this over to the functions of the model.
-/

namespace FreeMqtt

open AnsweredLoop

/-! ## The invariants of the runs -/

theorem BufferSend.follows_start (s : Sys) (buffer : List UInt8) :
    (BufferSend.start s).Follows s buffer :=
  accepted_start s buffer

theorem VectorSend.describes_start (s : Sys) {pIoVec : List (List UInt8)}
    (hlen : ∀ v ∈ pIoVec, v.length < 2 ^ 31) :
    (VectorSend.start s pIoVec).Describes s pIoVec.flatten 0 := by
  have hcounted : (VectorSend.start s pIoVec).Counted := Nat.zero_add _
  have hunsent : (VectorSend.start s pIoVec).unsent = pIoVec := hcounted.unsent_eq
  refine ⟨accepted_start s pIoVec.flatten, hcounted, ?_, ?_⟩
  · rw [hunsent, List.drop_zero]
  · rwa [hunsent]

section

variable {c : Config} {startTime : UInt32} {s : Sys} {answers : Nat → Int} {n : Nat}

theorem bufferLoop_head {buffer : List UInt8} {x : BufferSend}
    (h : (bufferLoop c startTime buffer).head answers (.start s) n = some x) :
    x.Follows s buffer := by
  refine Loop.head_invariant (fun _ x => x.Follows s buffer)
    (BufferSend.follows_start s buffer) (fun m y z hy hmore hbody => ?_) h
  have hnext := bufferLoop_body hy hmore (answers m)
  rwa [hbody] at hnext

theorem bufferLoop_returns {buffer : List UInt8} {x : BufferSend}
    (h : (bufferLoop c startTime buffer).Returns answers (.start s) n x) : x.Follows s buffer := by
  obtain ⟨y, hy, ⟨-, rfl⟩ | ⟨hmore, hbody⟩⟩ := h
  · exact bufferLoop_head hy
  · have hnext := bufferLoop_body (bufferLoop_head hy) hmore (answers n)
    rwa [hbody] at hnext

theorem vectorLoop_head {pIoVec : List (List UInt8)} (hlen : ∀ v ∈ pIoVec, v.length < 2 ^ 31)
    {x : VectorSend}
    (h : (vectorLoop c startTime pIoVec.flatten.length).head answers (.start s pIoVec) n = some x) :
    ∃ accepted, x.Describes s pIoVec.flatten accepted := by
  refine Loop.head_invariant (fun _ x => ∃ k, x.Describes s pIoVec.flatten k)
    ⟨0, VectorSend.describes_start s hlen⟩ (fun m y z hy hmore hbody => ?_) h
  obtain ⟨k, hk⟩ := hy
  obtain ⟨-, hnext⟩ := vectorLoop_body hk hmore (answers m)
  rw [hbody] at hnext
  exact ⟨_, hnext rfl⟩

/-- The array keeps its length. -/
theorem vectorLoop_length {bytesToSend : Nat} {pIoVec : List (List UInt8)} {x : VectorSend}
    (h : (vectorLoop c startTime bytesToSend).head answers (.start s pIoVec) n = some x) :
    x.pIoVec.length = pIoVec.length := by
  refine Loop.head_invariant (fun _ x => x.pIoVec.length = pIoVec.length) rfl
    (fun m y z hy _ hbody => ?_) h
  unfold vectorLoop at hbody
  dsimp only at hbody
  split at hbody
  · exact absurd (congrArg Prod.fst hbody) (by simp)
  · obtain ⟨-, rfl⟩ := Prod.ext_iff.1 hbody
    exact (VectorSend.length_advance _ _).trans hy

theorem vectorLoop_returns {pIoVec : List (List UInt8)} (hlen : ∀ v ∈ pIoVec, v.length < 2 ^ 31)
    {x : VectorSend}
    (h : (vectorLoop c startTime pIoVec.flatten.length).Returns answers (.start s pIoVec) n x) :
    ∃ accepted, Accepted s x.context pIoVec.flatten x.bytesSentOrError accepted := by
  obtain ⟨y, hy, ⟨-, rfl⟩ | ⟨hmore, hbody⟩⟩ := h
  · obtain ⟨k, hk⟩ := vectorLoop_head hlen hy
    exact ⟨k, hk.sent⟩
  · obtain ⟨k, hk⟩ := vectorLoop_head hlen hy
    obtain ⟨hnext, -⟩ := vectorLoop_body hk hmore (answers n)
    rw [hbody] at hnext
    exact ⟨_, hnext⟩

end

/-! ## The functions of the model -/

/-- The results of a transport with this schedule, which at last accepts `all` that is offered. -/
def scheduled (sends : List Int) (all : Nat) (n : Nat) : Int := sends.getD n all

theorem transportSend_scheduled (s : Sys) (sends : List Int) {offered : List UInt8} {all : Nat}
    (hall : offered.length ≤ all) :
    transportSend { s with sends := sends } offered =
      ((answerSend s offered (scheduled sends all 0)).1,
        { (answerSend s offered (scheduled sends all 0)).2 with sends := sends.tail }) := by
  cases sends with
  | nil =>
    have hlast : answerSend s offered (scheduled [] all 0) = _ := answerSend_all s hall
    rw [hlast]
    rfl
  | cons result sends => exact answerSend_eq s offered result sends

theorem scheduled_tail (sends : List Int) (all n : Nat) :
    scheduled sends all (n + 1) = scheduled sends.tail all n := by
  cases sends <;> rfl

theorem afterSend_sends (bytesSentOrError sendResult : Int) (s : Sys) (sends : List Int) :
    afterSend bytesSentOrError sendResult { s with sends := sends } =
      ((afterSend bytesSentOrError sendResult s).1,
        { (afterSend bytesSentOrError sendResult s).2 with sends := sends }) := by
  unfold afterSend
  split
  · rfl
  split
  · rfl
  · rfl

/-- An iteration of `sendBuffer` is one of its loop. -/
theorem sendBufferLoop_succ {c : Config} {startTime : UInt32} {s₀ : Sys} {buffer : List UInt8}
    {x : BufferSend} (h : x.Follows s₀ buffer)
    (hmore : (bufferLoop c startTime buffer).more x = true) (sends : List Int) (fuel : Nat) :
    sendBufferLoop c startTime buffer.length (fuel + 1) (buffer.drop x.pIndex) x.bytesSentOrError
        { x.context with sends := sends } =
      match (bufferLoop c startTime buffer).body x (scheduled sends buffer.length 0) with
      | (true, y) => (y.bytesSentOrError, { y.context with sends := sends.tail })
      | (false, y) =>
          sendBufferLoop c startTime buffer.length fuel (buffer.drop y.pIndex)
            y.bytesSentOrError { y.context with sends := sends.tail } := by
  have hall : (buffer.drop x.pIndex).length ≤ buffer.length :=
    List.length_drop.trans_le (Nat.sub_le _ _)
  rw [sendBufferLoop, if_pos (of_decide_eq_true hmore), transportSend_scheduled _ _ hall,
    bufferLoop_body_eq c startTime (h.offered_eq hmore)]
  dsimp only
  rw [List.drop_drop, afterSend_sends]
  generalize answerSend x.context (buffer.drop x.pIndex) (scheduled sends buffer.length 0) = answer
  by_cases htime : c.sendTimeoutMs ≤ (calculateElapsedTime
      (getTime (afterSend x.bytesSentOrError answer.1 answer.2).2).1 startTime).toNat
  · rw [decide_eq_true htime]
    exact if_pos htime
  · rw [decide_eq_false htime]
    exact if_neg htime

/-- `sendBuffer` returns what its loop returns with the results of the schedule. -/
theorem sendBufferLoop_returns (c : Config) (startTime : UInt32) {s₀ : Sys} {buffer : List UInt8}
    {fuel : Nat} {x : BufferSend} (h : x.Follows s₀ buffer) {sends : List Int}
    (hfuel : (bufferLoop c startTime buffer).more x = true → sends.length < fuel) :
    ∃ n z sends', (bufferLoop c startTime buffer).Returns (scheduled sends buffer.length) x n z ∧
      sendBufferLoop c startTime buffer.length fuel (buffer.drop x.pIndex) x.bytesSentOrError
        { x.context with sends := sends } =
          (z.bytesSentOrError, { z.context with sends := sends' }) := by
  induction fuel generalizing x sends with
  | zero =>
    have hmore : (bufferLoop c startTime buffer).more x = false := by
      by_contra hmore
      exact absurd (hfuel (by simpa using hmore)) (Nat.not_lt_zero _)
    exact ⟨0, x, sends, ⟨x, rfl, .inl ⟨hmore, rfl⟩⟩, rfl⟩
  | succ fuel ih =>
    by_cases hmore : (bufferLoop c startTime buffer).more x = true
    · have hnext := bufferLoop_body h hmore (scheduled sends buffer.length 0)
      have hindex := congrArg (·.2.pIndex) (bufferLoop_body_eq c startTime (h.offered_eq hmore)
        (scheduled sends buffer.length 0))
      dsimp only at hindex
      rw [sendBufferLoop_succ h hmore]
      generalize hy : (bufferLoop c startTime buffer).body x (scheduled sends buffer.length 0) = y
        at hnext hindex
      obtain ⟨stopped, y⟩ := y
      cases stopped with
      | true => exact ⟨0, y, sends.tail, ⟨x, rfl, .inr ⟨hmore, hy⟩⟩, rfl⟩
      | false =>
        have hfuel' : (bufferLoop c startTime buffer).more y = true → sends.tail.length < fuel := by
          intro hmore'
          cases sends with
          | cons result sends => exact Nat.lt_of_succ_lt_succ (hfuel hmore)
          | nil =>
            -- a transport without a schedule has accepted all that was left
            obtain ⟨-, hlt⟩ := hnext.more (of_decide_eq_true hmore')
            have hlast : answerSend x.context (buffer.drop x.pIndex)
                (scheduled [] buffer.length 0) = _ :=
              answerSend_all x.context (List.length_drop.trans_le (Nat.sub_le _ _))
            rw [hlast, Int.toNat_natCast, List.length_drop] at hindex
            dsimp only at hindex hlt
            omega
        obtain ⟨n, z, sends', hreturns, heq⟩ := ih hnext hfuel'
        refine ⟨n + 1, z, sends', .of_next hmore hy ?_, heq⟩
        simp only [scheduled_tail]
        exact hreturns
    · exact ⟨0, x, sends, ⟨x, rfl, .inl ⟨by simpa using hmore, rfl⟩⟩,
        by rw [sendBufferLoop, if_neg (mt decide_eq_true hmore)]⟩

theorem sendBuffer_returns (c : Config) (s : Sys) (buffer : List UInt8) :
    ∃ n z sends', (bufferLoop c (getTime s).1 buffer).Returns
        (scheduled s.sends buffer.length) (.start s) n z ∧
      sendBuffer c s buffer = (z.bytesSentOrError, { z.context with sends := sends' }) :=
  sendBufferLoop_returns c _ (BufferSend.follows_start s buffer) fun _ => Nat.lt_succ_self _

/-- A call that accepts the first vector as a whole leaves fewer of them. -/
theorem length_advanceVectors_lt {v : List UInt8} {vectors : List (List UInt8)} {count : Nat}
    (h : v.length ≤ count) :
    (advanceVectors count (v :: vectors)).length < (v :: vectors).length := by
  have hle := int32Cast_le v.length
  rw [advanceVectors, if_pos (by omega)]
  exact Nat.lt_succ_of_le (length_advanceVectors_le _ vectors)

/-- An iteration of `sendMessageVector` is one of its loop. -/
theorem sendMessageVectorLoop_succ {c : Config} {startTime : UInt32} {s₀ : Sys}
    {packet : List UInt8} {x : VectorSend} {accepted : Nat} (h : x.Describes s₀ packet accepted)
    (hmore : (vectorLoop c startTime packet.length).more x = true) (sends : List Int)
    (fuel : Nat) :
    sendMessageVectorLoop c startTime packet.length (fuel + 1) x.unsent x.bytesSentOrError
        { x.context with sends := sends } =
      match (vectorLoop c startTime packet.length).body x (scheduled sends packet.length 0) with
      | (true, y) => (y.bytesSentOrError, { y.context with sends := sends.tail })
      | (false, y) =>
          sendMessageVectorLoop c startTime packet.length fuel y.unsent y.bytesSentOrError
            { y.context with sends := sends.tail } := by
  obtain ⟨rest, hoffered⟩ := h.offered
  have hall : x.offered.length ≤ packet.length := by
    have hlen := congrArg List.length hoffered
    rw [List.length_append, List.length_drop] at hlen
    omega
  have heq := h.counted.offered_eq
  rw [sendMessageVectorLoop, if_pos (of_decide_eq_true hmore)]
  dsimp only
  rw [← heq, transportSend_scheduled _ _ hall, afterSend_sends]
  unfold vectorLoop
  dsimp only
  generalize answerSend x.context x.offered (scheduled sends packet.length 0) = answer
  generalize hy : ({ x with
    bytesSentOrError := (afterSend x.bytesSentOrError answer.1 answer.2).1
    context := (getTime (afterSend x.bytesSentOrError answer.1 answer.2).2).2 } : VectorSend) = y
  have hcounted : y.Counted := by rw [← hy]; exact h.counted
  have hunsent : y.unsent = x.unsent := by rw [← hy]; rfl
  by_cases htime : c.sendTimeoutMs < (calculateElapsedTime
      (getTime (afterSend x.bytesSentOrError answer.1 answer.2).2).1 startTime).toNat
  · rw [if_pos htime]
    refine (if_pos htime).trans ?_
    rw [← hy]
    rfl
  · rw [if_neg htime]
    refine (if_neg htime).trans ?_
    dsimp only
    rw [(hcounted.advance answer.1).2, hunsent, ← hy]
    rfl

/-- After a call of a transport without a schedule there are fewer vectors left. -/
theorem VectorSend.Describes.length_unsent_lt {c : Config} {startTime : UInt32} {s₀ : Sys}
    {packet : List UInt8} {x y : VectorSend} {accepted : Nat}
    (h : x.Describes s₀ packet accepted)
    (hmore : (vectorLoop c startTime packet.length).more x = true)
    (hy : (vectorLoop c startTime packet.length).body x packet.length = (false, y)) :
    y.unsent.length < x.unsent.length := by
  obtain ⟨-, hlt⟩ := h.sent.more (of_decide_eq_true hmore)
  have hunsent := vectorLoop_unsent h.counted hy
  obtain ⟨rest, hoffered⟩ := h.offered
  have hall : x.offered.length ≤ packet.length := by
    have hlen := congrArg List.length hoffered
    rw [List.length_append, List.length_drop] at hlen
    omega
  rw [answerSend_all x.context hall, h.counted.offered_eq] at hunsent
  rw [hunsent]
  cases hleft : x.unsent with
  | nil =>
    have hnone := h.unsent
    rw [hleft, List.flatten_nil, eq_comm, List.drop_eq_nil_iff] at hnone
    omega
  | cons v vectors =>
    apply length_advanceVectors_lt
    split
    · rw [List.flatten_cons, List.length_append]
      omega
    · exact Nat.le_refl _

/-- `sendMessageVector` returns what its loop returns with the results of the schedule. -/
theorem sendMessageVectorLoop_returns (c : Config) (startTime : UInt32) {s₀ : Sys}
    {packet : List UInt8} {fuel : Nat} {x : VectorSend} {accepted : Nat}
    (h : x.Describes s₀ packet accepted) {sends : List Int}
    (hfuel : sends.length + x.unsent.length ≤ fuel) :
    ∃ n z sends', (vectorLoop c startTime packet.length).Returns
        (scheduled sends packet.length) x n z ∧
      sendMessageVectorLoop c startTime packet.length fuel x.unsent x.bytesSentOrError
        { x.context with sends := sends } =
          (z.bytesSentOrError, { z.context with sends := sends' }) := by
  induction fuel generalizing x sends accepted with
  | zero =>
    have hmore : (vectorLoop c startTime packet.length).more x = false := by
      by_contra hmore
      rw [Bool.not_eq_false] at hmore
      obtain ⟨-, hlt⟩ := h.sent.more (of_decide_eq_true hmore)
      have hnone := h.unsent
      rw [List.length_eq_zero_iff.1 (by omega : x.unsent.length = 0), List.flatten_nil, eq_comm,
        List.drop_eq_nil_iff] at hnone
      omega
    exact ⟨0, x, sends, ⟨x, rfl, .inl ⟨hmore, rfl⟩⟩, rfl⟩
  | succ fuel ih =>
    by_cases hmore : (vectorLoop c startTime packet.length).more x = true
    · obtain ⟨-, hnext⟩ := vectorLoop_body h hmore (scheduled sends packet.length 0)
      rw [sendMessageVectorLoop_succ h hmore]
      generalize hy : (vectorLoop c startTime packet.length).body x
        (scheduled sends packet.length 0) = y at hnext
      obtain ⟨stopped, y⟩ := y
      cases stopped with
      | true => exact ⟨0, y, sends.tail, ⟨x, rfl, .inr ⟨hmore, hy⟩⟩, rfl⟩
      | false =>
        have hfuel' : sends.tail.length + y.unsent.length ≤ fuel := by
          cases sends with
          | cons result sends =>
            have hle := length_advanceVectors_le (answerSend x.context x.offered
              (scheduled (result :: sends) packet.length 0)).1 x.unsent
            rw [← vectorLoop_unsent h.counted hy] at hle
            rw [List.length_cons] at hfuel
            rw [List.tail_cons]
            omega
          | nil =>
            have hlt := h.length_unsent_lt hmore hy
            rw [List.length_nil] at hfuel
            rw [List.tail_nil, List.length_nil]
            omega
        obtain ⟨n, z, sends', hreturns, heq⟩ := ih (hnext rfl) hfuel'
        refine ⟨n + 1, z, sends', .of_next hmore hy ?_, heq⟩
        simp only [scheduled_tail]
        exact hreturns
    · exact ⟨0, x, sends, ⟨x, rfl, .inl ⟨by simpa using hmore, rfl⟩⟩,
        by rw [sendMessageVectorLoop, if_neg (mt decide_eq_true hmore)]⟩

theorem sendMessageVector_returns (c : Config) (s : Sys) {pIoVec : List (List UInt8)}
    (hlen : ∀ v ∈ pIoVec, v.length < 2 ^ 31) :
    ∃ n z sends', (vectorLoop c (getTime s).1 pIoVec.flatten.length).Returns
        (scheduled s.sends pIoVec.flatten.length) (.start s pIoVec) n z ∧
      sendMessageVector c s pIoVec = (z.bytesSentOrError, { z.context with sends := sends' }) := by
  have h := VectorSend.describes_start s hlen
  have hunsent : (VectorSend.start s pIoVec).unsent = pIoVec := h.counted.unsent_eq
  have hfuel : s.sends.length + (VectorSend.start s pIoVec).unsent.length ≤
      s.sends.length + pIoVec.length + 1 := by
    rw [hunsent]
    omega
  obtain ⟨n, z, sends', hreturns, heq⟩ := sendMessageVectorLoop_returns c (getTime s).1 h hfuel
  rw [hunsent] at heq
  exact ⟨n, z, sends', hreturns, heq⟩

/-! ## Partial writes -/

theorem length_lt_of_mem {pIoVec : List (List UInt8)} {bound : Nat}
    (h : pIoVec.flatten.length < bound) : ∀ v ∈ pIoVec, v.length < bound := by
  intro v hv
  exact Nat.lt_of_le_of_lt (List.Sublist.length_le (List.sublist_flatten_of_mem hv)) h

/-- The bytes accepted from `s` to `s'` are the first `accepted` ones of `packet`; a result that
is not negative is their number. -/
def AcceptedPart (s s' : Sys) (packet : List UInt8) (result : Int) (accepted : Nat) : Prop :=
  accepted ≤ packet.length ∧ s'.wire = s.wire ++ packet.take accepted ∧
    (0 ≤ result → result = accepted) ∧ (result = packet.length ↔ accepted = packet.length)

theorem Accepted.part {s s' : Sys} {packet : List UInt8} {result : Int} {accepted : Nat}
    (h : Accepted s s' packet result accepted) : AcceptedPart s s' packet result accepted := by
  have hwire := h.wire_eq
  obtain ⟨hle, -, hcount⟩ := h
  refine ⟨hle, hwire, fun hge => ?_, ?_⟩
  · omega
  · constructor
    · intro hresult
      omega
    · intro hall
      omega

/-- In the run of `sendMessageVector` with these results of the transport, every loop test finds
the iterator and the count at the bytes that were not accepted yet. -/
def VectorWritesExact (c : Config) (s : Sys) (pIoVec : List (List UInt8)) (results : Nat → Int) :
    Prop :=
  let packet := pIoVec.flatten
  let loop := vectorLoop c (getTime s).1 packet.length
  (∀ n x, loop.head results (.start s pIoVec) n = some x → ∃ accepted,
    AcceptedPart s x.context packet x.bytesSentOrError accepted ∧
      x.pIoVectIterator + x.vectorsToBeSent = pIoVec.length ∧
      x.unsent.flatten = packet.drop accepted ∧ x.offered <+: packet.drop accepted) ∧
  ∀ n x, loop.Returns results (.start s pIoVec) n x → ∃ accepted,
    AcceptedPart s x.context packet x.bytesSentOrError accepted

/-- In the run of `sendBuffer` with these results of the transport, every loop test finds `pIndex`
at the bytes that were not accepted yet. -/
def BufferWritesExact (c : Config) (s : Sys) (buffer : List UInt8) (results : Nat → Int) : Prop :=
  let loop := bufferLoop c (getTime s).1 buffer
  (∀ n x, loop.head results (.start s) n = some x →
    AcceptedPart s x.context buffer x.bytesSentOrError x.pIndex) ∧
  ∀ n x, loop.Returns results (.start s) n x →
    AcceptedPart s x.context buffer x.bytesSentOrError x.pIndex

/-- Partial writes lose nothing and repeat nothing. -/
theorem partial_writes (c : Config) (s : Sys) (results : Nat → Int) :
    (∀ pIoVec : List (List UInt8), pIoVec.flatten.length < 2 ^ 31 →
      VectorWritesExact c s pIoVec results) ∧
    ∀ buffer : List UInt8, buffer.length < 2 ^ 31 → BufferWritesExact c s buffer results := by
  refine ⟨fun pIoVec hlen => ⟨?_, ?_⟩, fun buffer _ => ⟨?_, ?_⟩⟩
  · intro n x hx
    obtain ⟨accepted, h⟩ := vectorLoop_head (length_lt_of_mem hlen) hx
    have hcount : x.pIoVec.length = pIoVec.length := vectorLoop_length hx
    obtain ⟨rest, hoffered⟩ := h.offered
    exact ⟨accepted, h.sent.part, hcount ▸ h.counted, h.unsent, rest, hoffered.symm⟩
  · intro n x hx
    obtain ⟨accepted, h⟩ := vectorLoop_returns (length_lt_of_mem hlen) hx
    exact ⟨accepted, h.part⟩
  · intro n x hx
    exact (bufferLoop_head hx).part
  · intro n x hx
    exact (bufferLoop_returns hx).part

/-- Two bytes, an empty vector and one byte, of which the transport accepts one, none and the
rest in turn. -/
theorem partial_writes_sample :
    VectorWritesExact .default (Sys.initialized (.still []) 16 1) [[1, 2], [], [3]] (· % 3) ∧
      BufferWritesExact .default (Sys.initialized (.still []) 16 1) [1, 2, 3] (· % 3) :=
  have h := partial_writes .default (Sys.initialized (.still []) 16 1) (· % 3)
  ⟨h.1 [[1, 2], [], [3]] (by decide), h.2 [1, 2, 3] (by decide)⟩

end FreeMqtt

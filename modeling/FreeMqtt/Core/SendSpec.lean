import FreeMqtt.Core.Requests
import FreeMqtt.State.Compaction

/-!
# What sending does

`Handed` is the whole effect of the send loops: bytes on the wire, a clock and a transport
that moved on, and a connection status that a negative result of the transport took from
`MQTTConnected` to `MQTTDisconnectPending`. `sendBuffer_spec` and `sendMessageVector_spec`
say which bytes were handed over: a first part of the packet, and all of it unless the
transport failed or the time was up. `mqttPublish_cases` says how `MQTT_Publish` ends.
-/

namespace FreeMqtt

/-! ## Casts of lengths -/

theorem int32Cast_le (n : Nat) : int32Cast n ≤ n := by
  unfold int32Cast
  split <;> omega

theorem int32Cast_eq {n : Nat} (h : n < 2 ^ 31) : int32Cast n = n := by
  unfold int32Cast
  split <;> omega

/-! ## Effects -/

/-- The connection status after a last result of the transport. -/
def statusAfter (connectStatus : ConnectionStatus) (failed : Bool) : ConnectionStatus :=
  if failed = true ∧ connectStatus = .connected then .disconnectPending else connectStatus

@[simp] theorem statusAfter_false (connectStatus : ConnectionStatus) :
    statusAfter connectStatus false = connectStatus := by
  simp [statusAfter]

/-- `s'` is `s` after `bytes` were handed to the transport; `failed` says whether the last
result was negative. -/
def Handed (s s' : Sys) (bytes : List UInt8) (failed : Bool) : Prop :=
  ∃ ticks sends lastPacketTxTime, s' = { s with
    ticks, sends, lastPacketTxTime
    wire := s.wire ++ bytes
    connectStatus := statusAfter s.connectStatus failed }

theorem Handed.refl (s : Sys) : Handed s s [] false :=
  ⟨s.ticks, s.sends, s.lastPacketTxTime, by simp⟩

theorem Handed.trans {s s' s'' : Sys} {a b : List UInt8} {failed : Bool}
    (h : Handed s s' a false) (h' : Handed s' s'' b failed) : Handed s s'' (a ++ b) failed := by
  obtain ⟨ticks, sends, lastTx, rfl⟩ := h
  obtain ⟨ticks', sends', lastTx', rfl⟩ := h'
  exact ⟨ticks', sends', lastTx', by simp⟩

theorem handed_getTime (s : Sys) : Handed s (getTime s).2 [] false :=
  ⟨s.ticks + 1, s.sends, s.lastPacketTxTime, by simp [getTime]⟩

theorem Handed.getTime {s s' : Sys} {bytes : List UInt8} {failed : Bool}
    (h : Handed s s' bytes failed) : Handed s (getTime s').2 bytes failed := by
  obtain ⟨ticks, sends, lastTx, rfl⟩ := h
  exact ⟨ticks + 1, sends, lastTx, rfl⟩

/-! ## One result of the transport -/

theorem transportSend_spec (s : Sys) (offered : List UInt8) :
    (∃ (result : Int) (sends : List Int), result < 0 ∧
        transportSend s offered = (result, { s with sends })) ∨
      ∃ n ≤ offered.length, ∃ sends : List Int,
        transportSend s offered =
          ((n : Int), { s with sends, wire := s.wire ++ offered.take n }) := by
  unfold transportSend
  cases hs : s.sends with
  | nil => exact .inr ⟨offered.length, Nat.le_refl _, s.sends, by simp [hs]⟩
  | cons result sends =>
    dsimp only
    by_cases hneg : result < 0
    · exact .inl ⟨result, sends, hneg, by rw [if_pos hneg]⟩
    · refine .inr ⟨(offered.take result.toNat).length, List.length_take_le' .., sends, ?_⟩
      rw [if_neg hneg, List.length_take, ← List.take_eq_take_min]

/-- A result of the transport and what the loops make of it. -/
theorem afterSend_spec (s : Sys) (offered : List UInt8) (bytesSent : Int) :
    let sent := transportSend s offered
    let after := afterSend bytesSent sent.1 sent.2
    (sent.1 < 0 ∧ after.1 < 0 ∧ Handed s after.2 [] true) ∨
      ∃ n ≤ offered.length, sent.1 = n ∧ after.1 = bytesSent + n ∧
        Handed s after.2 (offered.take n) false := by
  dsimp only
  rcases transportSend_spec s offered with ⟨result, sends, hneg, heq⟩ | ⟨n, hn, sends, heq⟩
  · left
    rw [heq]
    have hafter : afterSend bytesSent result { s with sends } =
        (result, networkError { s with sends }) := by
      rw [afterSend, if_neg (by omega), if_pos hneg]
    rw [hafter]
    exact ⟨hneg, hneg, s.ticks, sends, s.lastPacketTxTime, by simp [networkError, statusAfter]⟩
  · refine .inr ⟨n, hn, by rw [heq], ?_⟩
    rw [heq]
    unfold afterSend
    by_cases hpos : (n : Int) > 0
    · simp only [if_pos hpos]
      exact ⟨trivial, s.ticks + 1, sends, s.clock s.ticks, by simp [getTime]⟩
    · have hzero : n = 0 := by omega
      subst hzero
      simp only [Int.natCast_zero, gt_iff_lt, Int.lt_irrefl, if_false, Int.add_zero]
      exact ⟨trivial, s.ticks, sends, s.lastPacketTxTime, by simp⟩

/-! ## The loops -/

/-- The invariant of the send loops, started in `s₀` with `packet`: the first bytes of the
packet are handed over, and `bytesSentOrError` counts them or is the negative result that
came before the last one. -/
def Progress (s₀ : Sys) (packet : List UInt8) (s : Sys) (bytesSentOrError : Int) : Prop :=
  ∃ n ≤ packet.length, Handed s₀ s (packet.take n) (decide (bytesSentOrError < 0)) ∧
    (bytesSentOrError = n ∨ bytesSentOrError < 0 ∧ n < packet.length)

theorem Progress.start {s₀ s : Sys} (packet : List UInt8) (h : Handed s₀ s [] false) :
    Progress s₀ packet s 0 :=
  ⟨0, Nat.zero_le _, by simpa using h, .inl rfl⟩

/-- One iteration, which offers bytes from the front of what is left. -/
theorem Progress.step {s₀ s : Sys} {packet : List UInt8} {n : Nat}
    (h : Handed s₀ s (packet.take n) false) (hn : n < packet.length) {offered rest : List UInt8}
    (hoffered : packet.drop n = offered ++ rest) :
    let sent := transportSend s offered
    let after := afterSend n sent.1 sent.2
    Progress s₀ packet (getTime after.2).2 after.1 ∧
      (0 ≤ after.1 → ∃ m ≤ offered.length, sent.1 = m ∧ after.1 = (n + m : Nat)) := by
  dsimp only
  have hlen : packet.length - n = offered.length + rest.length := by
    rw [← List.length_drop, hoffered, List.length_append]
  rcases afterSend_spec s offered n with ⟨-, hneg, hfail⟩ | ⟨m, hm, hsent, hafter, hok⟩
  · refine ⟨⟨n, hn.le, ?_, .inr ⟨hneg, hn⟩⟩, fun hge => absurd hneg (Int.not_lt.2 hge)⟩
    rw [decide_eq_true hneg]
    simpa using (h.trans hfail).getTime
  · have hge : ¬ (n : Int) + m < 0 := by omega
    refine ⟨⟨n + m, by omega, ?_, .inl hafter⟩, fun _ => ⟨m, hm, hsent, hafter⟩⟩
    have htake : packet.take (n + m) = packet.take n ++ offered.take m := by
      rw [List.take_add, hoffered, List.take_append_of_le_length hm]
    rw [hafter, decide_eq_false hge, htake]
    exact (h.trans hok).getTime

/-- While the loops go on, all counted bytes were handed over and some are left. -/
theorem Progress.more {s₀ s : Sys} {packet : List UInt8} {bytesSentOrError : Int}
    (h : Progress s₀ packet s bytesSentOrError)
    (hmore : bytesSentOrError < int32Cast packet.length ∧ 0 ≤ bytesSentOrError) :
    ∃ n : Nat, bytesSentOrError = n ∧ n < packet.length ∧
      Handed s₀ s (packet.take n) false := by
  obtain ⟨n, -, hhanded, heq | ⟨hneg, -⟩⟩ := h
  · have hle := int32Cast_le packet.length
    rw [decide_eq_false (Int.not_lt.2 hmore.2)] at hhanded
    exact ⟨n, heq, by omega, hhanded⟩
  · omega

theorem sendBufferLoop_spec (c : Config) (startTime : UInt32) {s₀ : Sys} {packet : List UInt8}
    {fuel : Nat} {rest : List UInt8} {bytesSentOrError : Int} {s : Sys}
    (h : Progress s₀ packet s bytesSentOrError)
    (hrest : 0 ≤ bytesSentOrError → rest = packet.drop bytesSentOrError.toNat) :
    let sent := sendBufferLoop c startTime packet.length fuel rest bytesSentOrError s
    Progress s₀ packet sent.2 sent.1 := by
  induction fuel generalizing rest bytesSentOrError s with
  | zero => exact h
  | succ fuel ih =>
    dsimp only
    unfold sendBufferLoop
    split
    · rename_i hmore
      obtain ⟨n, rfl, hn, hhanded⟩ := h.more hmore
      rw [Int.toNat_natCast] at hrest
      have hoffered : packet.drop n = rest ++ [] := by rw [hrest hmore.2, List.append_nil]
      obtain ⟨hstep, hnext⟩ := Progress.step hhanded hn hoffered
      dsimp only at hstep hnext ⊢
      split
      · exact hstep
      · refine ih hstep fun hge => ?_
        obtain ⟨m, -, hsent, hafter⟩ := hnext hge
        rw [hafter, hsent, hrest hmore.2, List.drop_drop]
        rfl
    · exact h

/-- `sendBuffer` hands over a first part of the buffer. -/
theorem sendBuffer_spec (c : Config) (s : Sys) (buffer : List UInt8) :
    Progress s buffer (sendBuffer c s buffer).2 (sendBuffer c s buffer).1 :=
  sendBufferLoop_spec c _ (Progress.start buffer (handed_getTime s)) fun _ => by simp

/-! ## `sendMessageVector` -/

theorem length_advanceVectors_le (n : Int) (vectors : List (List UInt8)) :
    (advanceVectors n vectors).length ≤ vectors.length := by
  induction vectors generalizing n with
  | nil => exact Nat.le_refl _
  | cons v vectors ih =>
    unfold advanceVectors
    split
    · exact Nat.le_succ_of_le (ih _)
    · exact Nat.le_refl _

/-- What the update of `pIoVectIterator` leaves of the vectors: the bytes not yet sent. -/
theorem advanceVectors_spec {vectors : List (List UInt8)} {n : Nat}
    (hn : n ≤ vectors.flatten.length) (hlen : ∀ v ∈ vectors, v.length < 2 ^ 31) :
    (advanceVectors n vectors).flatten = vectors.flatten.drop n ∧
      ∀ v ∈ advanceVectors n vectors, v.length < 2 ^ 31 := by
  induction vectors generalizing n with
  | nil => simp [advanceVectors]
  | cons v vectors ih =>
    have hv := hlen v (by simp)
    have hrest := fun w hw => hlen w (List.mem_cons_of_mem v hw)
    rw [List.flatten_cons, List.length_append] at hn
    rw [advanceVectors, int32Cast_eq hv, List.flatten_cons]
    by_cases hge : (n : Int) ≥ v.length
    · have hsub : (n : Int) - v.length = (n - v.length : Nat) := by omega
      obtain ⟨hflat, hlens⟩ := ih (n := n - v.length) (by omega) hrest
      rw [if_pos hge, hsub]
      refine ⟨?_, hlens⟩
      have hnil : v.drop n = [] := List.drop_eq_nil_of_le (by omega)
      rw [hflat, List.drop_append, hnil, List.nil_append]
    · rw [if_neg hge, Int.toNat_natCast]
      refine ⟨?_, fun w hw => ?_⟩
      · rw [List.flatten_cons, List.drop_append_of_le_length (by omega)]
      · rcases List.mem_cons.1 hw with rfl | hw
        · rw [List.length_drop]
          omega
        · exact hrest w hw

theorem sendMessageVectorLoop_spec (c : Config) (startTime : UInt32) {s₀ : Sys}
    {packet : List UInt8} {fuel : Nat} {vectors : List (List UInt8)} {bytesSentOrError : Int}
    {s : Sys} (h : Progress s₀ packet s bytesSentOrError)
    (hrest : 0 ≤ bytesSentOrError → vectors.flatten = packet.drop bytesSentOrError.toNat ∧
      ∀ v ∈ vectors, v.length < 2 ^ 31) :
    let sent := sendMessageVectorLoop c startTime packet.length fuel vectors bytesSentOrError s
    Progress s₀ packet sent.2 sent.1 := by
  induction fuel generalizing vectors bytesSentOrError s with
  | zero => exact h
  | succ fuel ih =>
    dsimp only
    unfold sendMessageVectorLoop
    split
    · rename_i hmore
      obtain ⟨n, rfl, hn, hhanded⟩ := h.more hmore
      rw [Int.toNat_natCast] at hrest
      obtain ⟨hflat, hlens⟩ := hrest hmore.2
      obtain ⟨rest, hoffered⟩ : ∃ rest, packet.drop n =
          (if s.writev then vectors.flatten else vectors.headD []) ++ rest := by
        rw [← hflat]
        cases s.writev
        · exact ⟨vectors.tail.flatten, by cases vectors <;> simp⟩
        · exact ⟨[], by simp⟩
      dsimp only
      generalize (if s.writev then vectors.flatten else vectors.headD []) = offered at hoffered
      obtain ⟨hstep, hnext⟩ := Progress.step hhanded hn hoffered
      split
      · exact hstep
      · refine ih hstep fun hge => ?_
        obtain ⟨m, hm, hsent, hafter⟩ := hnext hge
        have hle : m ≤ vectors.flatten.length := by
          have := congrArg List.length hoffered
          rw [← hflat, List.length_append] at this
          omega
        obtain ⟨hflat', hlens'⟩ := advanceVectors_spec hle hlens
        rw [hafter, hsent]
        refine ⟨?_, hlens'⟩
        rw [hflat', hflat, List.drop_drop]
        rfl
    · exact h

/-- `sendMessageVector` hands over a first part of its vectors. -/
theorem sendMessageVector_spec (c : Config) (s : Sys) {pIoVec : List (List UInt8)}
    (hlen : ∀ v ∈ pIoVec, v.length < 2 ^ 31) :
    Progress s pIoVec.flatten (sendMessageVector c s pIoVec).2
      (sendMessageVector c s pIoVec).1 :=
  sendMessageVectorLoop_spec c _ (Progress.start _ (handed_getTime s)) fun _ => by simpa using hlen

/-! ## Packets -/

/-- `s'` is `s` after `packet` was sent in the way that the new event of the log says. -/
def Sent (s s' : Sys) (kind : PacketKind) (packet : List UInt8) (n : Nat) (stop : Stop) : Prop :=
  n ≤ packet.length ∧ (stop = .complete ↔ n = packet.length) ∧
    ∃ ticks sends lastPacketTxTime, s' = { s with
      ticks, sends, lastPacketTxTime
      wire := s.wire ++ packet.take n
      connectStatus := statusAfter s.connectStatus (stop == .networkError)
      log := s.log ++ [.sent kind packet n stop] }

/-- What the result of a send loop says about its end. -/
def Returned (n : Nat) (stop : Stop) (result : Int) : Prop :=
  stop = .networkError ∧ result < 0 ∨ stop ≠ .networkError ∧ result = n

/-- A send loop over a packet, recorded as this packet. -/
theorem Handed.recordSent {s s' : Sys} {packet : List UInt8} {n : Nat} {result : Int}
    (h : Handed s s' (packet.take n) (decide (result < 0))) (hn : n ≤ packet.length)
    (hresult : 0 ≤ result ∨ n < packet.length) (kind : PacketKind) :
    let stop :=
      if result < 0 then .networkError else if n = packet.length then .complete else .abandoned
    Sent s (s'.recordSent s kind packet result) kind packet n stop ∧
      (stop = .networkError ↔ result < 0) := by
  obtain ⟨ticks, sends, lastTx, rfl⟩ := h
  have hacc : (s.wire ++ packet.take n).length - s.wire.length = n := by
    rw [List.length_append, List.length_take, Nat.min_eq_left hn]
    omega
  unfold Sys.recordSent Sys.record
  dsimp only
  rw [hacc]
  by_cases hneg : result < 0
  · have hlt : n < packet.length := by omega
    rw [if_pos hneg, decide_eq_true hneg]
    exact ⟨⟨hn, by simp [hlt.ne], ticks, sends, lastTx, rfl⟩, by simp [hneg]⟩
  · rw [if_neg hneg, decide_eq_false hneg]
    by_cases hall : n = packet.length
    · rw [if_pos hall]
      exact ⟨⟨hn, by simp [hall], ticks, sends, lastTx, rfl⟩, by simp [hneg]⟩
    · rw [if_neg hall]
      exact ⟨⟨hn, by simp [hall], ticks, sends, lastTx, rfl⟩, by simp [hneg]⟩

theorem Progress.recordSent {s s' : Sys} {packet : List UInt8} {result : Int}
    (h : Progress s packet s' result) (kind : PacketKind) :
    ∃ n stop, Sent s (s'.recordSent s kind packet result) kind packet n stop ∧
      Returned n stop result := by
  obtain ⟨n, hn, hhanded, hresult⟩ := h
  obtain ⟨hsent, hstop⟩ := hhanded.recordSent hn (by omega) kind
  refine ⟨n, _, hsent, ?_⟩
  unfold Returned
  rw [ne_eq, hstop]
  omega

theorem Sent.records {s s' : Sys} {kind : PacketKind} {packet : List UInt8} {n : Nat}
    {stop : Stop} (h : Sent s s' kind packet n stop) :
    s'.toPublishRecords = s.toPublishRecords := by
  obtain ⟨-, -, ticks, sends, lastTx, rfl⟩ := h
  rfl

theorem Sent.log_eq {s s' : Sys} {kind : PacketKind} {packet : List UInt8} {n : Nat}
    {stop : Stop} (h : Sent s s' kind packet n stop) :
    s'.log = s.log ++ [.sent kind packet n stop] := by
  obtain ⟨-, -, ticks, sends, lastTx, rfl⟩ := h
  rfl

theorem Sent.connectStatus_eq {s s' : Sys} {kind : PacketKind} {packet : List UInt8} {n : Nat}
    {stop : Stop} (h : Sent s s' kind packet n stop) :
    s'.connectStatus = statusAfter s.connectStatus (stop == .networkError) := by
  obtain ⟨-, -, ticks, sends, lastTx, rfl⟩ := h
  rfl

theorem statusAfter_complete {stop : Stop} (h : stop ≠ .networkError) (status : ConnectionStatus) :
    statusAfter status (stop == .networkError) = status := by
  cases stop with
  | networkError => exact absurd rfl h
  | complete => exact statusAfter_false status
  | abandoned => exact statusAfter_false status

/-- A send loop returns the length of its packet when it is complete. -/
theorem Sent.result_eq_length {s s' : Sys} {kind : PacketKind} {packet : List UInt8} {n : Nat}
    {stop : Stop} {result : Int} (h : Sent s s' kind packet n stop)
    (hr : Returned n stop result) : result = packet.length ↔ stop = .complete := by
  obtain ⟨-, hcomplete, -⟩ := h
  rcases hr with ⟨rfl, hneg⟩ | ⟨-, rfl⟩
  · exact ⟨fun heq => by omega, fun heq => absurd heq (by decide)⟩
  · rw [hcomplete, Int.natCast_inj]

/-- `sendBuffer` on a packet. -/
theorem sendPacket_spec (c : Config) (s : Sys) (kind : PacketKind) (packet : List UInt8) :
    ∃ n stop, Sent s (sendPacket c s kind packet).2 kind packet n stop ∧
      Returned n stop (sendPacket c s kind packet).1 :=
  (sendBuffer_spec c s packet).recordSent kind

/-! ## Acknowledgements -/

/-- The acknowledgement that a state calls for. -/
def ackToSend : PublishState → Option PubAckType
  | .pubAckSend => some .puback
  | .pubRecSend => some .pubrec
  | .pubRelSend => some .pubrel
  | .pubCompSend => some .pubcomp
  | _ => none

/-- The first byte of an acknowledgement. -/
def PubAckType.toByte : PubAckType → UInt8
  | .puback => packetTypePuback
  | .pubrec => packetTypePubrec
  | .pubrel => packetTypePubrel
  | .pubcomp => packetTypePubcomp

/-- The bytes of an acknowledgement. -/
def ackPacket (packetType : PubAckType) (packetId : UInt16) : List UInt8 :=
  [packetType.toByte, 2] ++ uint16Bytes packetId

theorem getAckTypeToSend_eq (state : PublishState) :
    getAckTypeToSend state = match ackToSend state with
      | some packetType => packetType.toByte
      | none => 0 := by
  cases state <;> rfl

theorem getAckFromPacketType_toByte (packetType : PubAckType) :
    getAckFromPacketType packetType.toByte = packetType := by
  cases packetType <;> rfl

theorem toByte_ne_zero (packetType : PubAckType) : packetType.toByte ≠ 0 := by
  cases packetType <;> decide

theorem mqttSerializeAck_toByte (packetType : PubAckType) {packetId : UInt16} (h : packetId ≠ 0) :
    mqttSerializeAck packetType.toByte packetId = (.success, ackPacket packetType packetId) := by
  cases packetType <;> simp [mqttSerializeAck, h, ackPacket, PubAckType.toByte]

theorem sendPublishAcks_none (c : Config) (s : Sys) (packetId : UInt16) {state : PublishState}
    (h : ackToSend state = none) : sendPublishAcks c s packetId state = (.success, s) := by
  rw [sendPublishAcks, getAckTypeToSend_eq, h]
  exact if_pos rfl

theorem sendPublishAcks_unsent (c : Config) {s : Sys} {packetId : UInt16} (state : PublishState)
    (h : packetId = 0 ∨ s.connectStatus ≠ .connected) :
    (sendPublishAcks c s packetId state).2 = s := by
  unfold sendPublishAcks
  dsimp only
  split
  · rfl
  split
  · rfl
  rename_i hack hserialize
  rcases h with rfl | hconn
  · rw [mqttSerializeAck, if_pos rfl] at hserialize
    exact absurd hserialize (by simp)
  · rw [if_pos hconn]

/-- An acknowledgement without a connection. -/
theorem sendPublishAcks_notConnected (c : Config) {s : Sys} {packetId : UInt16}
    {state : PublishState} {packetType : PubAckType} (hack : ackToSend state = some packetType)
    (hid : packetId ≠ 0) (hconn : s.connectStatus ≠ .connected) :
    sendPublishAcks c s packetId state = (notConnectedStatus s.connectStatus, s) := by
  unfold sendPublishAcks
  rw [getAckTypeToSend_eq, hack]
  dsimp only
  rw [if_neg (toByte_ne_zero packetType), mqttSerializeAck_toByte packetType hid]
  dsimp only
  rw [if_neg (not_not_intro rfl), if_pos hconn]

/-- An acknowledgement on a connection sends its packet. -/
theorem sendPublishAcks_sends (c : Config) {s : Sys} {packetId : UInt16} {state : PublishState}
    {packetType : PubAckType} (hack : ackToSend state = some packetType) (hid : packetId ≠ 0)
    (hconn : s.connectStatus = .connected) :
    sendPublishAcks c s packetId state =
      let sent := sendPacket c s (.ack packetType packetId) (ackPacket packetType packetId)
      if sent.1 < publishAckPacketSize then (.sendFailed, sent.2)
      else
        let s := { sent.2 with controlPacketSent := true }
        let updated := mqttUpdateStateAck s.toPublishRecords packetId packetType .send
        (updated.1, s.setRecords updated.2.2) := by
  unfold sendPublishAcks
  rw [getAckTypeToSend_eq, hack]
  dsimp only
  rw [if_neg (toByte_ne_zero packetType), mqttSerializeAck_toByte packetType hid,
    getAckFromPacketType_toByte]
  dsimp only
  rw [if_neg (not_not_intro rfl), if_neg (not_not_intro hconn)]

/-- When the packet is sent completely, the record is updated. -/
theorem sendPublishAcks_connected (c : Config) {s : Sys} {packetId : UInt16} {state : PublishState}
    {packetType : PubAckType} (hack : ackToSend state = some packetType) (hid : packetId ≠ 0)
    (hconn : s.connectStatus = .connected) :
    ∃ s₁ n stop, Sent s s₁ (.ack packetType packetId) (ackPacket packetType packetId) n stop ∧
      sendPublishAcks c s packetId state =
        if stop = .complete then
          let updated := mqttUpdateStateAck s.toPublishRecords packetId packetType .send
          (updated.1, { s₁ with controlPacketSent := true }.setRecords updated.2.2)
        else (.sendFailed, s₁) := by
  obtain ⟨n, stop, hsent, hreturned⟩ := sendPacket_spec c s (.ack packetType packetId)
    (ackPacket packetType packetId)
  refine ⟨_, n, stop, hsent, ?_⟩
  rw [sendPublishAcks_sends c hack hid hconn]
  dsimp only
  have hlen : (ackPacket packetType packetId).length = publishAckPacketSize := rfl
  have hresult := hsent.result_eq_length hreturned
  have hrecords := hsent.records
  rw [hlen] at hresult
  obtain ⟨hn, -⟩ := hsent
  rw [hlen] at hn
  by_cases hall : stop = .complete
  · rw [if_neg (by rw [hresult.2 hall]; exact Int.lt_irrefl _), if_pos hall, ← hrecords]
  · rw [if_neg hall, if_pos]
    have hne := mt hresult.1 hall
    rcases hreturned with ⟨-, hneg⟩ | ⟨-, heq⟩ <;> omega

/-! ## `MQTT_Publish` -/

/-- `MQTT_Publish` from the reserved record on. -/
def publishReserved (c : Config) (s : Sys) (info : PublishInfo) (packetId : UInt16) : Status × Sys :=
  let sent := sendPublishWithoutCopy c s info
    (mqttSerializePublishHeaderWithoutTopic info (mqttGetPublishPacketSize info).2.1).1 packetId
  if sent.1 = .success ∧ info.qos ≠ .qos0 then
    let updated := mqttUpdateStatePublish sent.2.toPublishRecords packetId .send info.qos
    (updated.1, sent.2.setRecords updated.2.2)
  else sent

theorem mqttPublish_connected (c : Config) {s : Sys} {info : PublishInfo} {packetId : UInt16}
    (hvalid : validatePublishParams s (some info) packetId = .success)
    (hsize : (mqttGetPublishPacketSize info).1 = .success) (hconn : s.connectStatus = .connected) :
    mqttPublish c s (some info) packetId =
      let reserved := mqttReserveState s.toPublishRecords packetId info.qos
      if reserved.1 = .success ∨ reserved.1 = .stateCollision ∧ info.dup = true then
        publishReserved c (s.setRecords reserved.2) info packetId
      else (reserved.1, s.setRecords reserved.2) := by
  have hreserve : (if info.qos ≠ .qos0 then mqttReserveState s.toPublishRecords packetId info.qos
      else (.success, s.toPublishRecords)) =
        mqttReserveState s.toPublishRecords packetId info.qos := by
    split
    · rfl
    · rename_i hqos
      unfold mqttReserveState
      rw [if_pos (not_not.1 hqos)]
  unfold mqttPublish
  dsimp only
  rw [if_neg (not_not_intro hvalid), if_neg (not_not_intro hsize), if_neg (not_not_intro hconn),
    hreserve]
  generalize mqttReserveState s.toPublishRecords packetId info.qos = reserved
  change (if (if reserved.1 = .stateCollision ∧ info.dup = true then .success else reserved.1) ≠
    .success then _ else publishReserved c (s.setRecords reserved.2) info packetId) = _
  by_cases hcollision : reserved.1 = .stateCollision ∧ info.dup = true
  · rw [if_pos hcollision, if_neg (not_not_intro rfl),
      if_pos (show reserved.1 = .success ∨ _ from .inr hcollision)]
  · rw [if_neg hcollision]
    by_cases hok : reserved.1 = .success
    · rw [if_neg (not_not_intro hok), if_pos (show reserved.1 = .success ∨ _ from .inl hok)]
    · rw [if_pos hok, if_neg (not_or.2 ⟨hok, hcollision⟩)]

/-- The checks of `MQTT_Publish`. -/
structure Publishing (s : Sys) (info : PublishInfo) (packetId : UInt16) : Prop where
  valid : validatePublishParams s (some info) packetId = .success
  size : (mqttGetPublishPacketSize info).1 = .success
  connected : s.connectStatus = .connected

/-- The record of a publish is reserved, or it is there already for a duplicate. -/
def Reserves (s : Sys) (info : PublishInfo) (packetId : UInt16) : Prop :=
  (mqttReserveState s.toPublishRecords packetId info.qos).1 = .success ∨
    (mqttReserveState s.toPublishRecords packetId info.qos).1 = .stateCollision ∧ info.dup = true

/-- How `MQTT_Publish` ends: with a check that fails, without a record, or behind the reserved
record. -/
inductive PublishOutcome (c : Config) (s : Sys) (info : PublishInfo) (packetId : UInt16) :
    Status × Sys → Prop
  | rejected {status : Status} (hchecks : ¬ Publishing s info packetId)
      (hfail : status ≠ .success) : PublishOutcome c s info packetId (status, s)
  | unreserved (hchecks : Publishing s info packetId) (hfail : ¬ Reserves s info packetId) :
      PublishOutcome c s info packetId
        ((mqttReserveState s.toPublishRecords packetId info.qos).1,
          s.setRecords (mqttReserveState s.toPublishRecords packetId info.qos).2)
  | reserved (hchecks : Publishing s info packetId) (hok : Reserves s info packetId) :
      PublishOutcome c s info packetId (publishReserved c
        (s.setRecords (mqttReserveState s.toPublishRecords packetId info.qos).2) info packetId)

/-- The status of the first check that fails. -/
def publishCheck (s : Sys) (info : PublishInfo) (packetId : UInt16) : Status :=
  if validatePublishParams s (some info) packetId ≠ .success then
    validatePublishParams s (some info) packetId
  else if (mqttGetPublishPacketSize info).1 ≠ .success then (mqttGetPublishPacketSize info).1
  else if s.connectStatus ≠ .connected then notConnectedStatus s.connectStatus
  else .success

theorem publishing_of_publishCheck {s : Sys} {info : PublishInfo} {packetId : UInt16}
    (h : publishCheck s info packetId = .success) : Publishing s info packetId := by
  unfold publishCheck at h
  split_ifs at h with hvalid hsize hconn
  · exact absurd h hvalid
  · exact absurd h hsize
  · unfold notConnectedStatus at h
    split at h <;> cases h
  · exact ⟨not_not.1 hvalid, not_not.1 hsize, not_not.1 hconn⟩

/-- A publish with a check that fails does nothing. -/
theorem mqttPublish_unchecked (c : Config) {s : Sys} {info : PublishInfo} {packetId : UInt16}
    (h : ¬ Publishing s info packetId) :
    mqttPublish c s (some info) packetId = (publishCheck s info packetId, s) := by
  unfold mqttPublish publishCheck
  dsimp only
  split_ifs with hvalid hsize hconn
  · rfl
  · rfl
  · rfl
  all_goals exact absurd ⟨not_not.1 hvalid, not_not.1 hsize, not_not.1 hconn⟩ h

theorem mqttPublish_cases (c : Config) (s : Sys) (info : PublishInfo) (packetId : UInt16) :
    PublishOutcome c s info packetId (mqttPublish c s (some info) packetId) := by
  by_cases hchecks : Publishing s info packetId
  swap
  · rw [mqttPublish_unchecked c hchecks]
    exact .rejected hchecks fun hok => hchecks (publishing_of_publishCheck hok)
  rw [mqttPublish_connected c hchecks.valid hchecks.size hchecks.connected]
  dsimp only
  split
  · rename_i hok
    exact .reserved hchecks hok
  · rename_i hfail
    exact .unreserved hchecks hfail

end FreeMqtt

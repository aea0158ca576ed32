import FreeMqtt.Core.Failures
import FreeMqtt.Core.KeepAlive

/-!
# A connection that the broker has closed

`recv()` returns `0` on a connection that the peer has closed, `transportRecv` of the port passes the
`0` on, and `receiveSingleIteration` takes it for a read without data. `MQTT_ProcessLoop` then fails,
and leaves a context that is not connected, for other reasons only (`mqttProcessLoop_reportsLoss_iff`):
its keep-alive check, or the bytes that it still has in its buffer.
-/

namespace FreeMqtt

/-! ## What is expected of a call -/

/-- A failed call that leaves the context without a connection. -/
def Lost (result : Status × Sys) : Prop :=
  result.1 ≠ .success ∧ result.2.connectStatus ≠ .connected

/-- `MQTT_ProcessLoop` reports that the connection is lost. -/
def ReportsLoss (result : Status × Sys) : Prop := Lost result ∧ result.1 ≠ .needMoreBytes

/-- The broker has closed the connection and all of its bytes are read: `recv()` returns `0` as long
as `MQTT_ProcessLoop` calls it. -/
structure Closed (c : Config) (s : Sys) : Prop where
  inbound : s.inbound = []
  zero : ∀ result ∈ s.recvs, 0 ≤ result
  lasts : (mqttProcessLoop c s).2.recvs ≠ []

instance (c : Config) (s : Sys) : Decidable (Closed c s) :=
  decidable_of_iff (s.inbound = [] ∧ (∀ result ∈ s.recvs, 0 ≤ result) ∧
    (mqttProcessLoop c s).2.recvs ≠ [])
    ⟨fun ⟨hinbound, hzero, hlasts⟩ => ⟨hinbound, hzero, hlasts⟩,
      fun h => ⟨h.inbound, h.zero, h.lasts⟩⟩

/-! ## What makes a call fail -/

/-- The transport returns a negative result while `packet` is sent. -/
def TransportFails (c : Config) (s : Sys) (packet : List UInt8) : Prop := (sendBuffer c s packet).1 < 0

/-- The transport returns a negative result while the vectors of a packet are sent. -/
def VectorsFail (c : Config) (s : Sys) (vectors : List (List UInt8)) : Prop :=
  (sendMessageVector c s vectors).1 < 0

/-- The transport returns a negative result while the batches of a packet with topics are sent. -/
def TopicsFail (c : Config) (s : Sys) (type : SubscriptionType)
    (list : Option (List SubscribeInfo)) (packetId : UInt16) : Prop :=
  (sendTopics c type.perTopic (topicVectors · type) ((list.getD []).length + 1) (list.getD [])
    [serializeTopicHeader (getTopicPacketSize c.sizeBits list type).2.1 packetId type] s 0).2.2 < 0

/-- A call that the application makes on a connection ends it: `MQTT_Disconnect`, or a call on whose
packet the transport fails. -/
def SendCall.LosesConnection (c : Config) (s : Sys) : SendCall → Prop
  | .publish info packetId => ∃ i ∈ info, FreeMqtt.HandsOver s i packetId ∧
      VectorsFail c (publishContext s i packetId)
        (publishMessage i (mqttGetPublishPacketSize i).2.1 packetId)
  | .subscribe list packetId =>
      SendsTopics c s .subscribe list packetId ∧ TopicsFail c s .subscribe list packetId
  | .unsubscribe list packetId =>
      SendsTopics c s .unsubscribe list packetId ∧ TopicsFail c s .unsubscribe list packetId
  | .ping => TransportFails c s mqttSerializePingreq
  | .disconnect => True
  | .cancelCallback _ | .getPacketId => False

/-- The connection does not last from the first of these calls, which are made one after the other,
to the acknowledgement that is sent behind them: one of the calls ends it, or the transport fails on
the acknowledgement. -/
def AnswerLost (c : Config) (packetType : PubAckType) (packetId : UInt16) :
    Sys → List SendCall → Prop
  | s, [] => packetId ≠ 0 ∧ TransportFails c s (ackPacket packetType packetId)
  | s, call :: calls =>
      call.LosesConnection c s ∨ AnswerLost c packetType packetId (call.run c s) calls

/-- The PINGRESP is overdue. -/
def Overdue (c : Config) (s : Sys) : Prop :=
  s.waitingForPingResp = true ∧
    c.pingrespTimeoutMs < (calculateElapsedTime (s.clock s.ticks) s.pingReqSendTimeMs).toNat

/-- The time since the last packet was received. -/
def sinceReceive (now : UInt32) (s : Sys) : Nat :=
  (calculateElapsedTime now s.lastPacketRxTime).toNat

/-- A PINGREQ is due. -/
def PingDue (c : Config) (s : Sys) : Prop :=
  s.waitingForPingResp = false ∧
    (transmitTimeout c s ≠ 0 ∧ transmitTimeout c s ≤ sinceTransmit (s.clock s.ticks) s ∨
      sinceReceive (s.clock s.ticks) s ≠ 0 ∧
        c.packetRxTimeoutMs ≤ sinceReceive (s.clock s.ticks) s)

/-- The packet in front of the buffer is malformed. -/
def Malformed (s : Sys) : Prop :=
  s.index ≠ 0 ∧
    (mqttProcessIncomingPacketTypeAndLength s.networkBuffer s.index).1 = .badResponse

/-- The packet in front of the buffer is longer than the buffer, and not all of it is there. -/
def TooLong (c : Config) (s : Sys) : Prop :=
  let packet := mqttProcessIncomingPacketTypeAndLength s.networkBuffer s.index
  s.index ≠ 0 ∧ packet.1 = .success ∧ s.networkBuffer.length < packet.2.totalLength ∧
    c.sizeSub packet.2.totalLength s.index ≠ 0

/-- An acknowledgement cannot be sent: the connection is gone, or the transport fails on it. -/
def ReplyLost (c : Config) (s : Sys) (reply : UInt16 × PublishState) : Prop :=
  ∃ packetType, ackToSend reply.2 = some packetType ∧
    (s.connectStatus ≠ .connected ∨
      reply.1 ≠ 0 ∧ TransportFails c s (ackPacket packetType reply.1))

/-- The acknowledgement of a publish whose record is there already, and the context in which it is
sent. -/
def duplicateReply (s : Sys) (packet : PacketInfo) : Option (Sys × UInt16 × PublishState) :=
  let decoded := mqttDeserializePublish packet
  let packetId := decoded.2.1.getD 0
  let qos := decoded.2.2.qos
  let updated := mqttUpdateStatePublish s.toPublishRecords packetId .receive qos
  if packet.type &&& 0xF0 = packetTypePublish ∧ decoded.1 = .success ∧
      ¬ (s.incomingPublishRecords = [] ∧ qos ≠ .qos0) ∧ updated.1 = .stateCollision then
    some (s.setRecords updated.2.2, packetId, mqttCalculateStatePublish .receive qos)
  else none

/-- A PINGRESP. -/
def IsPingresp (packet : PacketInfo) : Prop :=
  packet.type = packetTypePingresp ∧ (mqttDeserializeAck packet true false).1 = .success

/-- The handler of a packet ends without a connection: it cannot send its acknowledgement, behind the
calls of the callback or for a duplicate, or it fails on a packet that arrives without a
connection. -/
def HandlerLost (c : Config) (s : Sys) (packet : PacketInfo) : Prop :=
  match callbackFrame (s.dispatching packet) packet true with
  | some frame =>
      ∃ reply ∈ frame.reply, ∃ packetType ∈ ackToSend reply.2, s.connectStatus ≠ .connected ∨
        AnswerLost c packetType reply.1 (frame.calling packet) (s.callbacks.headD [])
  | none =>
      match duplicateReply (s.dispatching packet) packet with
      | some (s', reply) => ReplyLost c s' reply
      | none => s.connectStatus ≠ .connected ∧ ¬ IsPingresp packet

/-- The context behind a read of `MQTT_ProcessLoop` that finds nothing. -/
def Sys.emptyRead (s : Sys) : Sys := { s with controlPacketSent := false, recvs := s.recvs.tail }

/-- What makes a call of `MQTT_ProcessLoop` report that the connection is lost, when nothing more can
be read: the connection was given up before, and there is something to fail on; or the PINGREQ that
is due does not leave; or a complete packet in the buffer cannot be answered. -/
def NoticesLoss (c : Config) (s : Sys) : Prop :=
  s.connectStatus ≠ .connected ∧ (Overdue c s ∨ PingDue c s ∨ Malformed s ∨ TooLong c s) ∨
    s.connectStatus = .connected ∧ PingDue c s ∧
      TransportFails c (getTime s.emptyRead).2 mqttSerializePingreq ∨
    ∃ next ∈ dispatched c { s with controlPacketSent := false } true, HandlerLost c next.2 next.1

/-! ## Sending -/

theorem Returned.networkError_iff {n : Nat} {stop : Stop} {result : Int}
    (h : Returned n stop result) : stop = .networkError ↔ result < 0 := by
  rcases h with ⟨hstop, hneg⟩ | ⟨hstop, heq⟩
  · exact iff_of_true hstop hneg
  · rw [heq]
    exact iff_of_false hstop (by omega)

/-- A packet that is sent ends the connection exactly when the transport fails on it. -/
theorem Sent.gone_iff {s s' : Sys} {kind : PacketKind} {packet : List UInt8} {n : Nat} {stop : Stop}
    {result : Int} (h : Sent s s' kind packet n stop) (hstop : stop = .networkError ↔ result < 0) :
    s'.connectStatus ≠ .connected ↔ s.connectStatus ≠ .connected ∨ result < 0 := by
  rw [h.connectStatus_eq, ← hstop]
  by_cases hstop : stop = .networkError
  · subst hstop
    refine iff_of_true ?_ (.inr rfl)
    cases s.connectStatus with
    | connected => decide
    | disconnectPending => decide
    | notConnected => decide
  · rw [statusAfter_complete hstop, or_iff_left hstop]

theorem sendPacket_gone_iff (c : Config) (s : Sys) (kind : PacketKind) (packet : List UInt8) :
    (sendPacket c s kind packet).2.connectStatus ≠ .connected ↔
      s.connectStatus ≠ .connected ∨ TransportFails c s packet := by
  obtain ⟨n, stop, hsent, hreturned⟩ := sendPacket_spec c s kind packet
  exact hsent.gone_iff hreturned.networkError_iff

theorem sendVectors_gone_iff (c : Config) (s : Sys) {info : PublishInfo}
    (hsize : (mqttGetPublishPacketSize info).1 = .success) (packetId : UInt16) :
    let message := publishMessage info (mqttGetPublishPacketSize info).2.1 packetId
    (sendVectors c s info packetId message).2.connectStatus ≠ .connected ↔
      s.connectStatus ≠ .connected ∨ VectorsFail c s message := by
  obtain ⟨n, stop, hsent, hreturned⟩ := (sendMessageVector_spec c s fun v hv => Nat.lt_trans
    (length_publishVectors_lt hsize packetId v hv) (by decide)).recordSent
      (.publish packetId info.qos)
  exact hsent.gone_iff hreturned.networkError_iff

theorem topicsCall_gone_iff {c : Config} {s : Sys} {type : SubscriptionType}
    {list : Option (List SubscribeInfo)} {packetId : UInt16}
    (h : SendsTopics c s type list packetId) :
    ((topicsCall list packetId type).run c s).connectStatus ≠ .connected ↔
      s.connectStatus ≠ .connected ∨ TopicsFail c s type list packetId := by
  have hmax := c.three_le_subUnsubMaxVectors
  rw [topicsCall_run h]
  generalize hheader :
    serializeTopicHeader (getTopicPacketSize c.sizeBits list type).2.1 packetId type = header
  have hrest : (header ++ ((list.getD []).flatMap (topicVectors · type)).flatten).drop 0 =
      [header].flatten ++ ((list.getD []).flatMap (topicVectors · type)).flatten := by simp
  have hshort : ∀ v ∈ [header], v.length ≤ 65535 := by
    rw [← hheader]
    simpa using h.header.2
  obtain ⟨m, hm, hhanded, hresult⟩ := @sendTopics_spec c type.perTopic (topicVectors · type)
    (topicVectors_type c type) s s _ ((list.getD []).length + 1) 0 (list.getD []) [header] 0
    (Nat.zero_le _) (by simpa using Handed.refl s) hrest (by rw [List.length_singleton]; omega) hshort
    (Int.le_refl 0)
  obtain ⟨hsent, hstop⟩ := hhanded.recordSent hm hresult type.kind
  unfold TopicsFail
  rw [hheader]
  exact hsent.gone_iff hstop

theorem mqttPing_gone_iff (c : Config) (s : Sys) : (mqttPing c s).2.connectStatus ≠ .connected ↔
    s.connectStatus ≠ .connected ∨ TransportFails c s mqttSerializePingreq := by
  have hgone := sendPacket_gone_iff c s .pingreq mqttSerializePingreq
  unfold mqttPing
  dsimp only
  split
  · rename_i hconn
    exact iff_of_true hconn (.inl hconn)
  split
  · exact hgone
  · exact hgone

/-- A call on a connection ends it exactly when it says so. -/
theorem SendCall.run_gone_iff (c : Config) {s : Sys} (hconn : s.connectStatus = .connected)
    (call : SendCall) : (call.run c s).connectStatus ≠ .connected ↔ call.LosesConnection c s := by
  have hkept : ¬ call.HandsOver c s → (call.run c s).connectStatus = .connected := by
    intro hunsent
    obtain ⟨t, nextPacketId, store, storeResults, heq⟩ := call.run_unsent c hunsent
    rw [heq]
    exact hconn
  cases call with
  | publish info packetId =>
    by_cases hover : SendCall.HandsOver c s (.publish info packetId)
    swap
    · refine iff_of_false (not_not_intro (hkept hover)) ?_
      rintro ⟨i, hi, hpublish, -⟩
      exact hover ⟨i, hi, hpublish⟩
    obtain ⟨info, rfl, hpublish⟩ := hover
    obtain ⟨t, heq⟩ := mqttPublish_handsOver c hpublish
    obtain ⟨t₀, store, storeResults, hcontext⟩ := publishContext_kept s info packetId
    have hgone := sendVectors_gone_iff c (publishContext s info packetId) hpublish.checks.size packetId
    have hstill : (publishContext s info packetId).connectStatus = .connected := by
      rw [hcontext]
      exact hconn
    dsimp only at hgone
    rw [or_iff_right (not_not_intro hstill)] at hgone
    show (mqttPublish c s (some info) packetId).2.connectStatus ≠ .connected ↔ _
    rw [heq]
    refine Iff.trans hgone ⟨fun hfails => ⟨info, rfl, hpublish, hfails⟩, ?_⟩
    rintro ⟨i, hi, -, hfails⟩
    cases hi
    exact hfails
  | subscribe list packetId =>
    by_cases hover : SendsTopics c s .subscribe list packetId
    · exact (topicsCall_gone_iff hover).trans
        ((or_iff_right (not_not_intro hconn)).trans (and_iff_right hover).symm)
    · exact iff_of_false (not_not_intro (hkept hover)) fun h => hover h.1
  | unsubscribe list packetId =>
    by_cases hover : SendsTopics c s .unsubscribe list packetId
    · exact (topicsCall_gone_iff hover).trans
        ((or_iff_right (not_not_intro hconn)).trans (and_iff_right hover).symm)
    · exact iff_of_false (not_not_intro (hkept hover)) fun h => hover h.1
  | ping => exact (mqttPing_gone_iff c s).trans (or_iff_right (not_not_intro hconn))
  | disconnect =>
    refine iff_of_true ?_ trivial
    rcases mqttDisconnect_outcome c s with ⟨hnone, -⟩ | ⟨-, n, stop, hsent⟩
    · rw [hconn] at hnone
      cases hnone
    · show (mqttDisconnect c s).2.connectStatus ≠ .connected
      rw [hsent.connectStatus_eq]
      show statusAfter .notConnected _ ≠ .connected
      cases (stop == Stop.networkError) <;> decide
  | cancelCallback packetId => exact iff_of_false (not_not_intro (hkept id)) id
  | getPacketId => exact iff_of_false (not_not_intro (hkept id)) id

theorem mqttPing_lost_iff (c : Config) (s : Sys) :
    Lost (mqttPing c s) ↔ s.connectStatus ≠ .connected ∨ TransportFails c s mqttSerializePingreq := by
  have hgone := sendPacket_gone_iff c s .pingreq mqttSerializePingreq
  unfold Lost mqttPing
  dsimp only
  by_cases hconn : s.connectStatus = .connected
  swap
  · rw [if_pos hconn]
    refine iff_of_true ⟨?_, hconn⟩ (.inl hconn)
    unfold notConnectedStatus
    split <;> simp
  rw [if_neg (not_not_intro hconn), or_iff_right (not_not_intro hconn)]
  rw [or_iff_right (not_not_intro hconn)] at hgone
  split
  · rw [← hgone]
    simp
  · rename_i hlong
    refine iff_of_false (by simp) fun hfails => hlong (Int.lt_of_lt_of_le hfails (by simp))

/-- Without a connection an acknowledgement fails. -/
theorem sendPublishAcks_disconnected (c : Config) {s : Sys} (packetId : UInt16)
    {state : PublishState} {packetType : PubAckType} (hack : ackToSend state = some packetType)
    (hconn : s.connectStatus ≠ .connected) : Lost (sendPublishAcks c s packetId state) := by
  by_cases hid : packetId = 0
  · constructor
    · unfold sendPublishAcks
      rw [getAckTypeToSend_eq, hack, hid]
      dsimp only
      rw [if_neg (toByte_ne_zero packetType), mqttSerializeAck, if_pos rfl]
      simp
    · rw [sendPublishAcks_unsent c state (.inl hid)]
      exact hconn
  · rw [sendPublishAcks_notConnected c hack hid hconn]
    refine ⟨?_, hconn⟩
    unfold notConnectedStatus
    split <;> simp

theorem sendPublishAcks_lost_iff (c : Config) (s : Sys) (packetId : UInt16) (state : PublishState) :
    Lost (sendPublishAcks c s packetId state) ↔ ReplyLost c s (packetId, state) := by
  unfold ReplyLost
  dsimp only
  cases hack : ackToSend state with
  | none =>
    rw [sendPublishAcks_none c s packetId hack]
    simp [Lost]
  | some packetType =>
    simp only [Option.some.injEq, exists_eq_left']
    by_cases hconn : s.connectStatus = .connected
    swap
    · exact iff_of_true (sendPublishAcks_disconnected c packetId hack hconn) (.inl hconn)
    rw [or_iff_right (not_not_intro hconn)]
    by_cases hid : packetId = 0
    · refine iff_of_false (fun hlost => hlost.2 ?_) fun h => h.1 hid
      rw [sendPublishAcks_unsent c state (.inl hid)]
      exact hconn
    have hgone := sendPacket_gone_iff c s (.ack packetType packetId) (ackPacket packetType packetId)
    rw [or_iff_right (not_not_intro hconn)] at hgone
    rw [sendPublishAcks_sends c hack hid hconn, and_iff_right hid, ← hgone]
    dsimp only
    split
    · simp [Lost]
    · -- the packet was sent, so the connection is still there
      rename_i hlong
      have hkept : ¬ (sendPacket c s (.ack packetType packetId)
          (ackPacket packetType packetId)).2.connectStatus ≠ .connected :=
        fun h => hlong (Int.lt_of_lt_of_le (hgone.1 h) (by decide))
      exact iff_of_false (fun hlost => hkept hlost.2) hkept

/-- The acknowledgement behind the calls of a callback is lost with the connection, or by itself. -/
theorem replyLost_foldl_iff (c : Config) {reply : UInt16 × PublishState} {packetType : PubAckType}
    (hack : ackToSend reply.2 = some packetType) (calls : List SendCall) (s : Sys) :
    ReplyLost c (calls.foldl (SendCall.run c) s) reply ↔
      s.connectStatus ≠ .connected ∨ AnswerLost c packetType reply.1 s calls := by
  induction calls generalizing s with
  | nil =>
    unfold ReplyLost AnswerLost
    rw [hack]
    simp only [Option.some.injEq, exists_eq_left', List.foldl_nil]
  | cons call calls ih =>
    refine (ih (call.run c s)).trans ?_
    by_cases hconn : s.connectStatus = .connected
    · rw [call.run_gone_iff c hconn, or_iff_right (not_not_intro hconn)]
      rfl
    · obtain ⟨-, -, -, -, -, hlevel⟩ := call.consumes c s
      exact iff_of_true (.inl (ne_connected_of_level_le hlevel hconn)) (.inl hconn)

/-! ## Handlers -/

section Handler

variable (c : Config) {s : Sys} {packet : PacketInfo}

theorem handlePublishAcks_silent_kept (h : publishAckFrame s packet = none) :
    (handlePublishAcks c s packet).2.connectStatus = s.connectStatus := by
  unfold publishAckFrame at h
  unfold handlePublishAcks
  dsimp only at h ⊢
  split
  · rfl
  rename_i hdecoded
  split
  · rfl
  · rename_i hupdated
    rw [if_pos ⟨not_not.1 hdecoded, not_not.1 hupdated⟩] at h
    cases h

theorem handleIncomingAck_silent_kept (h : ackFrame s packet true = none) :
    (handleIncomingAck c s packet true).2.connectStatus = s.connectStatus := by
  unfold ackFrame isPublishAck at h
  unfold handleIncomingAck
  dsimp only at h ⊢
  simp only [decide_eq_true_eq] at h
  split
  · rename_i hack
    rw [if_pos hack] at h
    exact handlePublishAcks_silent_kept c h
  rename_i hack
  rw [if_neg hack] at h
  split
  · split
    · rfl
    · rfl
  rename_i hping
  rw [if_neg hping] at h
  split
  · rename_i hsub
    rw [if_pos hsub] at h
    split
    · rename_i hdecoded
      rw [if_pos hdecoded] at h
      cases h
    · rfl
  · rfl

theorem handlePacket_incomingAck (htype : packet.type &&& 0xF0 ≠ packetTypePublish) :
    handlePacket c true packet s = handleIncomingAck c (s.dispatching packet) packet true :=
  if_neg htype

theorem handlePacket_incomingPublish (htype : packet.type &&& 0xF0 = packetTypePublish) :
    handlePacket c true packet s = handleIncomingPublish c (s.dispatching packet) packet :=
  if_pos htype

/-- A packet other than a PUBLISH that is handled without the callback is a PINGRESP, or fails. -/
theorem handleIncomingAck_lost_iff (htype : packet.type &&& 0xF0 ≠ packetTypePublish)
    (h : ackFrame (s.dispatching packet) packet true = none) :
    Lost (handlePacket c true packet s) ↔ s.connectStatus ≠ .connected ∧ ¬ IsPingresp packet := by
  have hstatus : (handlePacket c true packet s).2.connectStatus = s.connectStatus := by
    rw [handlePacket_incomingAck c htype]
    exact handleIncomingAck_silent_kept c h
  have hsuccess : (handlePacket c true packet s).1 = .success ↔ IsPingresp packet := by
    constructor
    · intro hok
      rw [handlePacket_incomingAck c htype] at hok
      exact handleIncomingAck_silent_success c h hok
    · rintro ⟨hping, hdecoded⟩
      rw [handlePacket_pingresp c hping hdecoded]
  unfold Lost
  rw [hstatus, ne_eq, hsuccess, and_comm]

/-- A PUBLISH that is handled without the callback is a duplicate, or fails. -/
theorem handleIncomingPublish_lost_iff (htype : packet.type &&& 0xF0 = packetTypePublish)
    (h : publishFrame (s.dispatching packet) packet = none) :
    Lost (handlePacket c true packet s) ↔
      match duplicateReply (s.dispatching packet) packet with
      | some (s', reply) => ReplyLost c s' reply
      | none => s.connectStatus ≠ .connected := by
  rw [handlePacket_incomingPublish c htype]
  have hconn : (s.dispatching packet).connectStatus = s.connectStatus := rfl
  rw [← hconn]
  generalize s.dispatching packet = s at h ⊢
  unfold publishFrame at h
  unfold duplicateReply handleIncomingPublish
  dsimp only at h ⊢
  by_cases hdecoded : (mqttDeserializePublish packet).1 = .success
  swap
  · rw [if_pos hdecoded, if_neg fun hdup => hdecoded hdup.2.1]
    exact and_iff_right hdecoded
  rw [if_neg (not_not_intro hdecoded)]
  by_cases hrecords : s.incomingPublishRecords = [] ∧ (mqttDeserializePublish packet).2.2.qos ≠ .qos0
  · rw [if_pos hrecords, if_neg fun hdup => hdup.2.2.1 hrecords]
    exact and_iff_right (by simp)
  rw [if_neg hrecords]
  generalize mqttUpdateStatePublish s.toPublishRecords
    ((mqttDeserializePublish packet).2.1.getD 0) .receive
    (mqttDeserializePublish packet).2.2.qos = updated at h ⊢
  have hfail : updated.1 ≠ .success := by
    intro hok
    rw [if_pos ⟨hdecoded, hrecords, hok⟩] at h
    cases h
  rw [if_neg hfail]
  by_cases hcollision : updated.1 = .stateCollision
  · rw [if_pos hcollision, if_pos ⟨htype, hdecoded, hrecords, hcollision⟩]
    exact sendPublishAcks_lost_iff c _ _ _
  · rw [if_neg hcollision, if_neg fun hdup => hcollision hdup.2.2.2]
    exact and_iff_right hfail

theorem duplicateReply_ack (s : Sys) (htype : packet.type &&& 0xF0 ≠ packetTypePublish) :
    duplicateReply s packet = none := if_neg fun h => htype h.1

theorem handlePacket_lost_iff : Lost (handlePacket c true packet s) ↔ HandlerLost c s packet := by
  unfold HandlerLost
  cases hframe : callbackFrame (s.dispatching packet) packet true with
  | some frame =>
    have happ : appCallback c frame.before packet frame.info =
        (s.callbacks.headD []).foldl (SendCall.run c) (frame.calling packet) := by
      rw [← (callbackFrame_kept hframe).1]
      rfl
    have hconn : (frame.calling packet).connectStatus = s.connectStatus := by
      obtain ⟨t, store, hbefore⟩ := callbackFrame_before hframe
      show frame.before.connectStatus = _
      rw [hbefore]
      rfl
    rw [handlePacket_callback c hframe, happ, ← hconn]
    dsimp only
    cases hreply : frame.reply with
    | none => simp [sendReply, Lost]
    | some reply =>
      simp only [Option.mem_def, Option.some.injEq, exists_eq_left']
      refine (sendPublishAcks_lost_iff c _ reply.1 reply.2).trans ?_
      cases hack : ackToSend reply.2 with
      | none => simp [ReplyLost, hack]
      | some packetType =>
        simp only [Option.some.injEq, exists_eq_left']
        exact replyLost_foldl_iff c hack (s.callbacks.headD []) (frame.calling packet)
  | none =>
    unfold callbackFrame at hframe
    dsimp only
    by_cases htype : packet.type &&& 0xF0 = packetTypePublish
    · rw [if_pos htype] at hframe
      rw [handleIncomingPublish_lost_iff c htype hframe]
      split
      · rfl
      · have hping : ¬ IsPingresp packet := by
          rintro ⟨hping, -⟩
          rw [hping] at htype
          exact absurd htype (by decide)
        exact (and_iff_left hping).symm
    · rw [if_neg htype] at hframe
      rw [handleIncomingAck_lost_iff c htype hframe, duplicateReply_ack _ htype]

end Handler

/-! ## Reading -/

/-- Nothing is left to read, and `recv()` has no error to report. -/
structure Drained (s : Sys) : Prop where
  inbound : s.inbound = []
  zero : ∀ result ∈ s.recvs, 0 ≤ result

theorem transportRecv_drained {s : Sys} (h : Drained s) (hrecvs : s.recvs ≠ []) (bytesToRecv : Nat) :
    transportRecv s bytesToRecv = (0, [], { s with recvs := s.recvs.tail }) := by
  obtain ⟨result, rest, heq⟩ := List.exists_cons_of_ne_nil hrecvs
  have hpos : ¬ result < 0 := Int.not_lt.2 (h.zero result (by simp [heq]))
  have htake : ∀ n, s.inbound.take n = [] := fun n => by rw [h.inbound, List.take_nil]
  have hdrop : ∀ n, s.inbound.drop n = s.inbound := fun n => by rw [h.inbound, List.drop_nil]
  unfold transportRecv
  rw [heq]
  dsimp only
  rw [if_neg hpos, htake, hdrop]
  rfl

/-- A transport that is used up fails. -/
theorem transportRecv_usedUp {s : Sys} (h : Drained s) (hrecvs : s.recvs = []) {bytesToRecv : Nat}
    (hmore : 0 < bytesToRecv) :
    (transportRecv s bytesToRecv).1 = -1 ∧ (transportRecv s bytesToRecv).2.2.recvs = [] := by
  unfold transportRecv
  split
  · dsimp only
    rw [h.inbound, List.take_nil, if_pos ⟨rfl, hmore⟩]
    exact ⟨rfl, hrecvs⟩
  · rename_i hcons
    rw [hrecvs] at hcons
    cases hcons

/-- A schedule that is used up stays so. -/
theorem usedUp_preorder : ReadPreorder fun s s' => s.recvs = [] → s'.recvs = [] where
  refl _ := id
  trans h h' := h' ∘ h
  clock _ := id
  error _ := id
  recv s bytesToRecv := by
    intro hrecvs
    unfold transportRecv
    split
    · exact hrecvs
    · rename_i hcons
      rw [hrecvs] at hcons
      cases hcons
  write _ _ _ := id

theorem writeAt_nil (buffer : List UInt8) (offset : Nat) : writeAt buffer offset [] = buffer := by
  unfold writeAt
  rw [List.append_nil, List.length_nil, Nat.add_zero, List.take_append_drop, List.take_length]

theorem readIntoBuffer_drained (c : Config) {s : Sys} (h : Drained s) (hrecvs : s.recvs ≠ []) :
    let packet := mqttProcessIncomingPacketTypeAndLength s.networkBuffer s.index
    readIntoBuffer c s =
      (0, if s.index = 0 then .noDataAvailable else packet.1,
        if s.index = 0 then ⟨0, none, 0, 0⟩ else packet.2, { s with recvs := s.recvs.tail }) := by
  unfold readIntoBuffer
  rw [transportRecv_drained h hrecvs]
  dsimp only
  rw [writeAt_nil, if_neg (by decide)]
  by_cases hindex : s.index = 0
  · rw [if_pos ⟨rfl, hindex⟩, if_pos hindex, if_pos hindex]
  · rw [if_neg fun hempty => hindex hempty.2, if_neg hindex, if_neg hindex]
    rfl

/-- Without data `recvExact` gives up at its timeout. -/
theorem recvExactLoop_drained (c : Config) {fuel offset bytesRemaining : Nat} {total : Int}
    {last : UInt32} {s : Sys} (h : Drained s)
    (hlasts : (recvExactLoop c fuel offset bytesRemaining total last s).2.recvs ≠ []) :
    ∃ ticks recvs, recvExactLoop c fuel offset bytesRemaining total last s =
      (total, { s with ticks, recvs }) ∧ ∀ result ∈ recvs, 0 ≤ result := by
  induction fuel generalizing s with
  | zero => exact ⟨s.ticks, s.recvs, rfl, h.zero⟩
  | succ fuel ih =>
    unfold recvExactLoop at hlasts ⊢
    dsimp only at hlasts ⊢
    by_cases hmore : 0 < bytesRemaining
    swap
    · rw [if_neg hmore]
      exact ⟨s.ticks, s.recvs, rfl, h.zero⟩
    rw [if_pos hmore] at hlasts ⊢
    by_cases hrecvs : s.recvs = []
    · obtain ⟨hresult, hused⟩ := transportRecv_usedUp h hrecvs hmore
      rw [hresult, if_pos (by decide)] at hlasts
      exact absurd hused hlasts
    have htail : ∀ result ∈ s.recvs.tail, 0 ≤ result :=
      fun result hresult => h.zero result (List.mem_of_mem_tail hresult)
    rw [transportRecv_drained h hrecvs] at hlasts ⊢
    dsimp only at hlasts ⊢
    rw [writeAt_nil, if_neg (by decide), if_neg (by decide)] at hlasts ⊢
    split at hlasts
    · rename_i hover
      rw [if_pos hover]
      exact ⟨s.ticks + 1, s.recvs.tail, rfl, htail⟩
    · rename_i hover
      rw [if_neg hover]
      have hdrained : Drained (getTime { s with recvs := s.recvs.tail }).2 := ⟨h.inbound, htail⟩
      obtain ⟨ticks, recvs, heq, hzero⟩ := ih hdrained hlasts
      exact ⟨ticks, recvs, heq, hzero⟩

/-- A packet that is too long for the buffer cannot be drained. -/
theorem discardStoredLoop_drained (c : Config) {remainingLength fuel bytesToReceive total : Nat}
    {s : Sys} (h : Drained s)
    (hlasts : (discardStoredLoop c remainingLength fuel bytesToReceive total s).2.recvs ≠ []) :
    ∃ ticks recvs, discardStoredLoop c remainingLength fuel bytesToReceive total s =
      (total, { s with ticks, recvs }) := by
  induction fuel generalizing bytesToReceive s with
  | zero => exact ⟨s.ticks, s.recvs, rfl⟩
  | succ fuel ih =>
    unfold discardStoredLoop at hlasts ⊢
    dsimp only at hlasts ⊢
    by_cases hmore : total < remainingLength
    swap
    · rw [if_neg hmore]
      exact ⟨s.ticks, s.recvs, rfl⟩
    rw [if_pos hmore] at hlasts ⊢
    generalize hbytes : min bytesToReceive (remainingLength - total) = bytes at hlasts ⊢
    have hrest : (recvExact c s bytes).2.recvs ≠ [] := by
      intro hused
      split at hlasts
      · exact hlasts hused
      · exact hlasts (usedUp_preorder.discardStoredLoop c _ _ _ _ _ hused)
    obtain ⟨ticks, recvs, heq, hzero⟩ := recvExactLoop_drained c (s := (getTime s).2)
      ⟨h.inbound, h.zero⟩ hrest
    have hexact : recvExact c s bytes = (0, { s with ticks, recvs }) := heq
    rw [hexact] at hlasts ⊢
    dsimp only at hlasts ⊢
    split at hlasts
    · rename_i hstop
      rw [if_pos hstop]
      exact ⟨ticks, recvs, rfl⟩
    · rename_i hstop
      rw [if_neg hstop]
      exact ih ⟨h.inbound, hzero⟩ hlasts

theorem discardStoredPacket_drained (c : Config) {s : Sys} (h : Drained s) (packet : PacketInfo)
    (hlasts : (discardStoredPacket c s packet).2.recvs ≠ []) :
    (discardStoredPacket c s packet).2.connectStatus = s.connectStatus ∧
      ((discardStoredPacket c s packet).1 = .noDataAvailable ↔
        c.sizeSub packet.totalLength s.index = 0) := by
  unfold discardStoredPacket at hlasts ⊢
  dsimp only at hlasts ⊢
  obtain ⟨ticks, recvs, heq⟩ := discardStoredLoop_drained c h hlasts
  rw [heq]
  refine ⟨rfl, ?_⟩
  dsimp only
  split
  · rename_i hnone
    exact iff_of_true rfl hnone.symm
  · rename_i hsome
    exact iff_of_false (by simp) (Ne.symm hsome)

/-! ## The keep-alive check -/

/-- From `s` to `s'` neither the buffer nor the connection nor what is to be read changes. -/
structure Waits (s s' : Sys) : Prop where
  connectStatus : s'.connectStatus = s.connectStatus
  networkBuffer : s'.networkBuffer = s.networkBuffer
  index : s'.index = s.index
  inbound : s'.inbound = s.inbound
  recvs : s'.recvs = s.recvs

/-- How the keep-alive check ends after a read without data, which left `status`. -/
inductive KeepAliveOutcome (c : Config) (s : Sys) (status : Status) : Status × Sys → Prop
  | overdue (h : Overdue c s) : KeepAliveOutcome c s status (.keepAliveTimeout, (getTime s).2)
  | failed {result : Status × Sys} (h : PingDue c s) (hstatus : result.1 ∈ handlerStatuses)
      (hfail : result.1 ≠ .success)
      (hgone : result.2.connectStatus ≠ .connected ↔
        s.connectStatus ≠ .connected ∨ TransportFails c (getTime s).2 mqttSerializePingreq) :
      KeepAliveOutcome c s status result
  | passed {s' : Sys} (hover : ¬ Overdue c s)
      (hping : PingDue c s → s.connectStatus = .connected ∧
        ¬ TransportFails c (getTime s).2 mqttSerializePingreq) (h : Waits s s') :
      KeepAliveOutcome c s status (status, s')

theorem Waits.drained {s s' : Sys} (h : Waits s.emptyRead s') (hdrained : Drained s) :
    Drained s' := by
  refine ⟨h.inbound.trans hdrained.inbound, ?_⟩
  rw [h.recvs]
  exact fun result hresult => hdrained.zero result (List.mem_of_mem_tail hresult)

theorem mqttPing_waits (c : Config) {s : Sys} (h : (mqttPing c s).1 = .success) :
    Waits s (mqttPing c s).2 := by
  obtain ⟨n, stop, hsent, hreturned⟩ := sendPacket_spec c s .pingreq mqttSerializePingreq
  unfold mqttPing at h ⊢
  dsimp only at h ⊢
  split at h
  · unfold notConnectedStatus at h
    split at h
    · exact absurd h (by simp)
    · exact absurd h (by simp)
  rename_i hconn
  rw [if_neg hconn]
  split at h
  · exact absurd h (by simp)
  rename_i hlong
  rw [if_neg hlong]
  have hstop : stop ≠ .networkError := by
    rintro rfl
    rcases hreturned with ⟨-, hneg⟩ | ⟨hne, -⟩
    · exact hlong (Int.lt_of_lt_of_le hneg (by simp))
    · exact hne rfl
  have hstatus := hsent.connectStatus_eq
  rw [statusAfter_complete hstop] at hstatus
  obtain ⟨-, -, ticks, sends, lastTx, heq⟩ := hsent
  refine ⟨hstatus, ?_, ?_, ?_, ?_⟩
  · rw [heq]
  · rw [heq]
  · rw [heq]
  · rw [heq]

theorem Overdue.not_pingDue {c : Config} {s : Sys} (h : Overdue c s) : ¬ PingDue c s := by
  intro hping
  have hwaiting := h.1
  rw [hping.1] at hwaiting
  cases hwaiting

theorem handleKeepAlive_cases (c : Config) (s : Sys) :
    Overdue c s ∧ handleKeepAlive c s = (.keepAliveTimeout, (getTime s).2) ∨
      PingDue c s ∧ handleKeepAlive c s = mqttPing c (getTime s).2 ∨
      ¬ Overdue c s ∧ ¬ PingDue c s ∧ handleKeepAlive c s = (.success, (getTime s).2) := by
  unfold handleKeepAlive
  dsimp only
  by_cases hwaiting : s.waitingForPingResp = true
  · have hwaits : (getTime s).2.waitingForPingResp = true := hwaiting
    have hping : ¬ PingDue c s := by
      intro h
      have hnot := h.1
      rw [hwaiting] at hnot
      cases hnot
    rw [if_pos hwaits]
    split
    · rename_i htime
      exact .inl ⟨⟨hwaiting, htime⟩, rfl⟩
    · rename_i htime
      exact .inr (.inr ⟨fun h => htime h.2, hping, rfl⟩)
  · have hwaits : ¬ (getTime s).2.waitingForPingResp = true := hwaiting
    have hnot : s.waitingForPingResp = false := Bool.eq_false_of_not_eq_true hwaiting
    rw [if_neg hwaits]
    split
    · rename_i htransmit
      exact .inr (.inl ⟨⟨hnot, .inl htransmit⟩, rfl⟩)
    rename_i htransmit
    split
    · rename_i hreceive
      exact .inr (.inl ⟨⟨hnot, .inr hreceive⟩, rfl⟩)
    · rename_i hreceive
      refine .inr (.inr ⟨fun h => hwaiting h.1, ?_, rfl⟩)
      rintro ⟨-, h | h⟩
      · exact htransmit h
      · exact hreceive h

theorem checkKeepAlive_outcome (c : Config) (s : Sys) (status : Status) :
    KeepAliveOutcome c s status (checkKeepAlive c 0 true status s) := by
  have hlost := mqttPing_lost_iff c (getTime s).2
  unfold checkKeepAlive
  rw [if_pos ⟨rfl, rfl⟩]
  dsimp only
  rcases handleKeepAlive_cases c s with ⟨hover, heq⟩ | ⟨hping, heq⟩ | ⟨hover, hping, heq⟩
  · rw [heq, if_neg (by simp)]
    exact .overdue hover
  · rw [heq]
    split
    · rename_i hok
      have hkept : ¬ Lost (mqttPing c (getTime s).2) := fun h => h.1 hok
      rw [hlost, not_or, not_not] at hkept
      obtain ⟨hstatus, hbuffer, hindex, hinbound, hrecvs⟩ := mqttPing_waits c hok
      exact .passed (fun hover => hover.not_pingDue hping) (fun _ => hkept)
        ⟨hstatus, hbuffer, hindex, hinbound, hrecvs⟩
    · rename_i hfail
      refine .failed hping (mqttPing_status c _) hfail ?_
      constructor
      · exact fun hgone => hlost.1 ⟨hfail, hgone⟩
      · exact fun h => (hlost.2 h).2
  · rw [heq, if_pos rfl]
    exact .passed hover (fun h => absurd h hping) ⟨rfl, rfl, rfl, rfl, rfl⟩

/-! ## A call -/

section Loop

variable (c : Config) {s : Sys}

theorem Closed.drained (h : Closed c s) : Drained s := ⟨h.inbound, h.zero⟩

/-- Sending does not read. -/
theorem usedUp_sendPreorder : SendPreorder fun s s' => s.recvs = [] → s'.recvs = [] where
  refl _ := id
  trans h h' := h' ∘ h
  clock _ := id
  error _ := id
  send s offered := by
    obtain ⟨sends, wire, heq⟩ := transportSend_kept s offered
    rw [heq]
    exact id
  stamp _ := id
  record _ _ _ _ _ := id
  context _ _ _ _ _ _ := id

theorem mqttPing_usedUp (s : Sys) (h : s.recvs = []) : (mqttPing c s).2.recvs = [] :=
  (mqttPing_streamKept c s).recvs.trans h

theorem sendCall_usedUp (s : Sys) (call : SendCall) (h : s.recvs = []) :
    (call.run c s).recvs = [] := by
  by_cases hcall : call = .disconnect
  · subst hcall
    exact usedUp_sendPreorder.mqttDisconnect c (fun _ => id) s h
  · exact usedUp_sendPreorder.request c (mqttPing_usedUp c) s hcall h

theorem readIntoBuffer_usedUp (s : Sys) (h : s.recvs = []) :
    (readIntoBuffer c s).2.2.2.recvs = [] := by
  have hread := usedUp_preorder.recv s (c.sizeSub s.networkBuffer.length s.index) h
  unfold readIntoBuffer
  dsimp only
  split
  · exact hread
  split
  · exact hread
  · exact hread

theorem mqttProcessLoop_usedUp (h : s.recvs = []) : (mqttProcessLoop c s).2.recvs = [] := by
  unfold mqttProcessLoop
  refine usedUp_sendPreorder.receiveSingleIteration c true (mqttPing_usedUp c)
    (readIntoBuffer_usedUp c) ?_ ?_ (fun _ _ _ _ _ => id) { s with controlPacketSent := false } h
  · intro s packet
    exact usedUp_preorder.discardStoredLoop c _ _ _ _ s
  · exact usedUp_sendPreorder.handlePacket c (sendCall_usedUp c) (fun _ _ _ _ => id) (fun _ _ => id)
      (fun _ => id) true

/-- The schedule is not used up before the call either. -/
theorem Closed.recvs_ne (h : Closed c s) : s.recvs ≠ [] :=
  fun hrecvs => h.lasts (mqttProcessLoop_usedUp c hrecvs)

/-- The status with which an empty read leaves the buffer, and the packet in front of it. -/
def bufferStatus (s : Sys) : Status :=
  if s.index = 0 then .noDataAvailable
  else (mqttProcessIncomingPacketTypeAndLength s.networkBuffer s.index).1

def bufferPacket (s : Sys) : PacketInfo :=
  if s.index = 0 then ⟨0, none, 0, 0⟩
  else (mqttProcessIncomingPacketTypeAndLength s.networkBuffer s.index).2

theorem malformed_iff (s : Sys) : Malformed s ↔ bufferStatus s = .badResponse := by
  unfold Malformed bufferStatus
  split
  · rename_i hindex
    exact iff_of_false (fun h => h.1 hindex) (by simp)
  · rename_i hindex
    exact and_iff_right hindex

theorem tooLong_iff (s : Sys) : TooLong c s ↔ bufferStatus s = .success ∧
    s.networkBuffer.length < (bufferPacket s).totalLength ∧
    c.sizeSub (bufferPacket s).totalLength s.index ≠ 0 := by
  unfold TooLong bufferStatus bufferPacket
  dsimp only
  split
  · rename_i hindex
    exact iff_of_false (fun h => h.1 hindex) (by simp)
  · rename_i hindex
    exact and_iff_right hindex

theorem bufferStatus_mem (s : Sys) :
    bufferStatus s ∈ [Status.success, .badResponse, .needMoreBytes, .noDataAvailable] := by
  unfold bufferStatus
  split
  · simp
  · exact typeAndLength_status _ _

/-- A call on a closed connection: the keep-alive check behind a read that found nothing. -/
theorem Closed.outcome (h : Closed c s) :
    let kept := checkKeepAlive c 0 true (bufferStatus s) s.emptyRead
    IterationOutcome c true kept (dispatched c { s with controlPacketSent := false } true)
      (if kept.1 = .success ∧ s.networkBuffer.length < (bufferPacket s).totalLength then
        some (bufferPacket s, kept.2) else none) (mqttProcessLoop c s) := by
  have houtcome := receiveSingleIteration_outcome c { s with controlPacketSent := false } true
  have hread : readIntoBuffer c { s with controlPacketSent := false } =
      (0, bufferStatus s, bufferPacket s, s.emptyRead) :=
    readIntoBuffer_drained c ⟨h.inbound, h.zero⟩ h.recvs_ne
  have hlength := (checkKeepAlive_streamKept c 0 true (bufferStatus s) s.emptyRead).networkBuffer
  unfold draining at houtcome
  dsimp only at houtcome ⊢
  rw [hread] at houtcome
  dsimp only at houtcome
  simp only [hlength] at houtcome
  exact houtcome

theorem not_reportsLoss_of_status {result : Status × Sys} (h : result.1 = .success ∨
    result.1 = .needMoreBytes) : ¬ ReportsLoss result := by
  rintro ⟨⟨hfail, -⟩, hmore⟩
  exact h.elim hfail hmore

/-- A call whose keep-alive check fails ends with its status. -/
theorem IterationOutcome.failed {manageKeepAlive : Bool} {kept result : Status × Sys}
    {next drain : Option (PacketInfo × Sys)}
    (h : IterationOutcome c manageKeepAlive kept next drain result) (hfail : kept.1 ≠ .success)
    (hdata : kept.1 ≠ .noDataAvailable) : result = kept ∧ next = none := by
  cases h with
  | stopped => exact ⟨Prod.ext (if_neg hdata) rfl, rfl⟩
  | drained hkept => exact absurd hkept hfail
  | incomplete hkept => exact absurd hkept hfail
  | handled hkept => exact absurd hkept hfail

/-- A call that stops at the buffer fails on a malformed packet. -/
theorem reportsLoss_stopped {s' : Sys} (hfail : bufferStatus s ≠ .success) :
    ReportsLoss (if bufferStatus s = .noDataAvailable then .success else bufferStatus s, s') ↔
      s'.connectStatus ≠ .connected ∧ bufferStatus s = .badResponse := by
  have hstatus := bufferStatus_mem s
  simp only [List.mem_cons, List.not_mem_nil, or_false] at hstatus
  unfold ReportsLoss Lost
  rcases hstatus with hstatus | hstatus | hstatus | hstatus
  · exact absurd hstatus hfail
  · simp [hstatus]
  · simp [hstatus]
  · simp [hstatus]

/-- A call that drains a packet fails unless all of it is there. -/
theorem reportsLoss_drained (hdrained : Drained s) {packet : PacketInfo} {discarded : Status × Sys}
    (hdiscarded : discardStoredPacket c s packet = discarded) (hlasts : discarded.2.recvs ≠ []) :
    ReportsLoss (if discarded.1 = .noDataAvailable then .success else discarded.1, discarded.2) ↔
      s.connectStatus ≠ .connected ∧ c.sizeSub packet.totalLength s.index ≠ 0 := by
  subst hdiscarded
  obtain ⟨hkept, hnone⟩ := discardStoredPacket_drained c hdrained packet hlasts
  unfold ReportsLoss Lost
  dsimp only
  rw [hkept, ne_eq (c.sizeSub _ _), ← hnone]
  rcases discardStoredPacket_status c s packet with hstatus | hstatus
  · simp [hstatus]
  · simp [hstatus]

/-- A call whose keep-alive check passes fails on the buffer, or in the handler of its packet. -/
theorem IterationOutcome.reportsLoss_iff {s' : Sys} {next : Option (PacketInfo × Sys)}
    {result : Status × Sys} (hwaits : Waits s.emptyRead s') (hdrained : Drained s')
    (h : IterationOutcome c true (bufferStatus s, s') next
      (if bufferStatus s = .success ∧ s.networkBuffer.length < (bufferPacket s).totalLength then
        some (bufferPacket s, s') else none) result) (hlasts : result.2.recvs ≠ []) :
    ReportsLoss result ↔ s.connectStatus ≠ .connected ∧ (Malformed s ∨ TooLong c s) ∨
      ∃ next' ∈ next, HandlerLost c next'.2 next'.1 := by
  rw [malformed_iff, tooLong_iff]
  have hconn : s'.connectStatus = s.connectStatus := hwaits.connectStatus
  have hindex : s'.index = s.index := hwaits.index
  rw [← hconn, ← hindex]
  generalize hdrain : (if bufferStatus s = .success ∧
    s.networkBuffer.length < (bufferPacket s).totalLength then
      some (bufferPacket s, s') else none) = drain at h
  -- a packet that is not drained has room in the buffer
  have hfits : bufferStatus s = .success → drain = none →
      ¬ (s'.connectStatus ≠ .connected ∧ (bufferStatus s = .badResponse ∨ bufferStatus s = .success ∧
        s.networkBuffer.length < (bufferPacket s).totalLength ∧
        c.sizeSub (bufferPacket s).totalLength s'.index ≠ 0)) := by
    rintro hok hnone ⟨-, hmalformed | ⟨-, hlong, -⟩⟩
    · rw [hok] at hmalformed
      cases hmalformed
    · rw [if_pos ⟨hok, hlong⟩, hnone] at hdrain
      cases hdrain
  generalize hkept : (bufferStatus s, s') = kept at h
  cases h with
  | stopped hfail =>
    subst hkept
    have hfail : bufferStatus s ≠ .success := hfail
    rw [reportsLoss_stopped hfail]
    simp [hfail]
  | @drained packet discarded hok hdiscarded =>
    subst hkept
    split at hdrain
    swap
    · cases hdrain
    rename_i hlong
    cases hdrain
    rw [reportsLoss_drained c hdrained hdiscarded hlasts]
    simp [hlong.1, hlong.2]
  | incomplete hok =>
    subst hkept
    refine iff_of_false (not_reportsLoss_of_status (.inr rfl)) ?_
    rintro (hlost | ⟨next', hnext, -⟩)
    · exact hfits hok rfl hlost
    · cases hnext
  | @handled packet handled hok hhandled ticks index networkBuffer lastPacketRxTime =>
    subst hkept
    have hlost : Lost (handlePacket c true packet s') ↔ HandlerLost c s' packet :=
      handlePacket_lost_iff c
    have hmem := handlePacket_status c true packet s'
    rw [hhandled] at hlost hmem
    have hmore : handled.1 ≠ .needMoreBytes := ne_of_mem_of_not_mem hmem (by decide)
    rw [or_iff_right (hfits hok rfl)]
    simp only [Option.mem_def, Option.some.injEq, exists_eq_left']
    rw [← hlost]
    exact and_iff_left hmore

/-- On a closed connection `MQTT_ProcessLoop` reports the loss exactly when it notices it otherwise. -/
theorem mqttProcessLoop_reportsLoss_iff (h : Closed c s) :
    ReportsLoss (mqttProcessLoop c s) ↔ NoticesLoss c s := by
  have houtcome := h.outcome
  have hkept := checkKeepAlive_outcome c s.emptyRead (bufferStatus s)
  have hlasts := h.lasts
  unfold NoticesLoss
  generalize checkKeepAlive c 0 true (bufferStatus s) s.emptyRead = kept at houtcome hkept
  cases hkept with
  | overdue hover =>
    obtain ⟨hresult, hnext⟩ := houtcome.failed c (by simp) (by simp)
    have hping : ¬ PingDue c s := hover.not_pingDue
    have hover : Overdue c s := hover
    rw [hresult, hnext]
    have hreports : ReportsLoss (.keepAliveTimeout, (getTime s.emptyRead).2) ↔
        s.connectStatus ≠ .connected := by
      constructor
      · exact fun hloss => hloss.1.2
      · exact fun hconn => ⟨⟨by simp, hconn⟩, by simp⟩
    rw [hreports]
    simp [hping, hover]
  | failed hping hstatus hfail hgone =>
    have hdata : kept.1 ≠ .noDataAvailable := ne_of_mem_of_not_mem hstatus (by decide)
    have hmore : kept.1 ≠ .needMoreBytes := ne_of_mem_of_not_mem hstatus (by decide)
    have hping : PingDue c s := hping
    have hconn : s.emptyRead.connectStatus = s.connectStatus := rfl
    obtain ⟨hresult, hnext⟩ := houtcome.failed c hfail hdata
    rw [hresult, hnext]
    unfold ReportsLoss Lost
    rw [and_iff_left hmore, and_iff_right hfail, hgone, hconn]
    by_cases hconn : s.connectStatus = .connected
    · simp [hconn, hping]
    · simp [hconn, hping]
  | @passed s' hover hping hwaits =>
    have hover : ¬ Overdue c s := hover
    have hping : PingDue c s → s.connectStatus = .connected ∧
      ¬ TransportFails c (getTime s.emptyRead).2 mqttSerializePingreq := hping
    rw [houtcome.reportsLoss_iff c hwaits (hwaits.drained h.drained) hlasts]
    apply or_congr
    · apply and_congr_right
      intro hconn
      have hping : ¬ PingDue c s := fun h => hconn (hping h).1
      simp [hover, hping]
    · refine (or_iff_right ?_).symm
      rintro ⟨-, hdue, hfails⟩
      exact (hping hdue).2 hfails

end Loop

end FreeMqtt

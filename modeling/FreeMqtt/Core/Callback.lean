import FreeMqtt.Core.LibrarySteps
import FreeMqtt.State.AnyRecords

/-!
# Handlers around the callback

A handler of an incoming packet checks the packet and updates the records, invokes the application
callback, and sends an acknowledgement. `callbackFrame` is its first part, from the packet and the
context alone: it says whether the callback is invoked, and with what. `handlePacket_callback` and
`handlePacket_silent` are the rest.
-/

namespace FreeMqtt

/-- A callback about to be invoked: the context, its second argument, and the acknowledgement that
is sent after it. -/
structure CallbackFrame where
  before : Sys
  info : DeserializedInfo
  reply : Option (UInt16 × PublishState)

/-- The first part of `handleIncomingPublish`, `none` when it does not invoke the callback. -/
def publishFrame (s : Sys) (packet : PacketInfo) : Option CallbackFrame :=
  let decoded := mqttDeserializePublish packet
  let packetId := decoded.2.1.getD 0
  let qos := decoded.2.2.qos
  let updated := mqttUpdateStatePublish s.toPublishRecords packetId .receive qos
  if decoded.1 = .success ∧ ¬ (s.incomingPublishRecords = [] ∧ qos ≠ .qos0) ∧
      updated.1 = .success then
    some ⟨s.setRecords updated.2.2, ⟨packetId, some decoded.2.2, .success⟩,
      some (packetId, updated.2.1.getD .null)⟩
  else none

/-- The copy of a publish is cleared when its acknowledgement arrives. -/
def clearAcked (s : Sys) (packetId : UInt16) (ackType : PubAckType) : Sys :=
  if (ackType = .puback ∨ ackType = .pubrec) ∧ s.clearFunction then callClear s packetId else s

/-- The first part of `handlePublishAcks`. -/
def publishAckFrame (s : Sys) (packet : PacketInfo) : Option CallbackFrame :=
  let ackType := getAckFromPacketType packet.type
  let decoded := mqttDeserializeAck packet true false
  let packetId := decoded.2.1.getD 0
  let updated := mqttUpdateStateAck s.toPublishRecords packetId ackType .receive
  if decoded.1 = .success ∧ updated.1 = .success then
    some ⟨clearAcked (s.setRecords updated.2.2) packetId ackType, ⟨packetId, none, .success⟩,
      some (packetId, updated.2.1.getD .null)⟩
  else none

/-- An acknowledgement of a publish, by its type byte. -/
def isPublishAck (type : UInt8) : Bool :=
  type = packetTypePuback ∨ type = packetTypePubrec ∨ type = packetTypePubrel ∨
    type = packetTypePubcomp

/-- The first part of `handleIncomingAck`. -/
def ackFrame (s : Sys) (packet : PacketInfo) (manageKeepAlive : Bool) : Option CallbackFrame :=
  let decoded := mqttDeserializeAck packet true false
  let info : DeserializedInfo := ⟨decoded.2.1.getD packetIdInvalid, none, decoded.1⟩
  if isPublishAck packet.type then publishAckFrame s packet
  else if packet.type = packetTypePingresp then
    if decoded.1 = .success ∧ manageKeepAlive = false then some ⟨s, info, none⟩ else none
  else if packet.type = packetTypeSuback ∨ packet.type = packetTypeUnsuback then
    if decoded.1 = .success ∨ decoded.1 = .serverRefused then some ⟨s, info, none⟩ else none
  else none

/-- The first part of the handler of a packet. -/
def callbackFrame (s : Sys) (packet : PacketInfo) (manageKeepAlive : Bool) : Option CallbackFrame :=
  if packet.type &&& 0xF0 = packetTypePublish then publishFrame s packet
  else ackFrame s packet manageKeepAlive

/-- The acknowledgement after the callback. -/
def sendReply (c : Config) (s : Sys) : Option (UInt16 × PublishState) → Status × Sys
  | none => (.success, s)
  | some (packetId, state) => sendPublishAcks c s packetId state

/-- The context in which the handler of a packet starts. -/
def Sys.dispatching (s : Sys) (packet : PacketInfo) : Sys :=
  s.record (.dispatched packet.type (readBytes packet.pRemainingData packet.remainingLength))

/-! ## With the callback -/

theorem handleIncomingPublish_callback (c : Config) {s : Sys} {packet : PacketInfo}
    {frame : CallbackFrame} (h : publishFrame s packet = some frame) :
    handleIncomingPublish c s packet =
      sendReply c (appCallback c frame.before packet frame.info) frame.reply := by
  unfold publishFrame at h
  dsimp only at h
  split at h
  · rename_i hcond
    obtain ⟨hdecoded, hrecords, hupdated⟩ := hcond
    cases h
    unfold handleIncomingPublish
    dsimp only
    rw [if_neg (not_not_intro hdecoded), if_neg hrecords, if_pos hupdated]
    rfl
  · cases h

theorem handlePublishAcks_callback (c : Config) {s : Sys} {packet : PacketInfo}
    {frame : CallbackFrame} (h : publishAckFrame s packet = some frame) :
    handlePublishAcks c s packet =
      sendReply c (appCallback c frame.before packet frame.info) frame.reply := by
  unfold publishAckFrame at h
  dsimp only at h
  split at h
  · rename_i hcond
    obtain ⟨hdecoded, hupdated⟩ := hcond
    cases h
    unfold handlePublishAcks
    dsimp only
    rw [if_neg (not_not_intro hdecoded), if_neg (not_not_intro hupdated)]
    rfl
  · cases h

theorem handleIncomingAck_callback (c : Config) {s : Sys} {packet : PacketInfo}
    {manageKeepAlive : Bool} {frame : CallbackFrame}
    (h : ackFrame s packet manageKeepAlive = some frame) :
    handleIncomingAck c s packet manageKeepAlive =
      sendReply c (appCallback c frame.before packet frame.info) frame.reply := by
  unfold ackFrame at h
  unfold handleIncomingAck
  dsimp only at h ⊢
  by_cases hack : isPublishAck packet.type = true
  · rw [if_pos hack] at h
    rw [if_pos (of_decide_eq_true hack)]
    exact handlePublishAcks_callback c h
  rw [if_neg hack] at h
  rw [if_neg fun hor => hack (decide_eq_true hor)]
  by_cases hping : packet.type = packetTypePingresp
  · rw [if_pos hping] at h
    rw [if_pos hping]
    split at h
    · rename_i hcond
      cases h
      rw [if_neg (not_not_intro hcond.1), hcond.2]
      rfl
    · cases h
  rw [if_neg hping] at h
  rw [if_neg hping]
  by_cases hsub : packet.type = packetTypeSuback ∨ packet.type = packetTypeUnsuback
  · rw [if_pos hsub] at h
    rw [if_pos hsub]
    split at h
    · rename_i hcond
      cases h
      rw [if_pos hcond]
      rfl
    · cases h
  · rw [if_neg hsub] at h
    cases h

/-- A handler that invokes the callback: the callback, and an acknowledgement. -/
theorem handlePacket_callback (c : Config) {s : Sys} {packet : PacketInfo} {manageKeepAlive : Bool}
    {frame : CallbackFrame}
    (h : callbackFrame (s.dispatching packet) packet manageKeepAlive = some frame) :
    handlePacket c manageKeepAlive packet s =
      sendReply c (appCallback c frame.before packet frame.info) frame.reply := by
  unfold callbackFrame at h
  unfold handlePacket
  dsimp only
  change (if packet.type &&& 0xF0 = packetTypePublish then
    handleIncomingPublish c (s.dispatching packet) packet
    else handleIncomingAck c (s.dispatching packet) packet manageKeepAlive) = _
  split at h
  · rename_i hpublish
    rw [if_pos hpublish]
    exact handleIncomingPublish_callback c h
  · rename_i hpublish
    rw [if_neg hpublish]
    exact handleIncomingAck_callback c h

/-! ## Without the callback -/

/-- What a handler does when it does not invoke the callback: it leaves the context alone but for
the records and the wait for a PINGRESP, or acknowledges a duplicate. -/
inductive SilentOutcome (c : Config) (s : Sys) (packet : PacketInfo) : Status × Sys → Prop
  | refused {status : Status} (h : status ≠ .success) : SilentOutcome c s packet (status, s)
  | pingresp : SilentOutcome c s packet (.success, { s with waitingForPingResp := false })
  | publish {status : Status} {newState : Option PublishState} {t : PublishRecords} (qos : QoS)
      (packetId : UInt16)
      (h : mqttUpdateStatePublish s.toPublishRecords packetId .receive qos = (status, newState, t))
      (hstatus : status ≠ .success ∧ status ≠ .stateCollision) :
      SilentOutcome c s packet (status, s.setRecords t)
  | duplicate {newState : Option PublishState} {t : PublishRecords} (qos : QoS) (packetId : UInt16)
      (h : mqttUpdateStatePublish s.toPublishRecords packetId .receive qos =
        (.stateCollision, newState, t)) :
      SilentOutcome c s packet
        (sendPublishAcks c (s.setRecords t) packetId (mqttCalculateStatePublish .receive qos))
  | ack {status : Status} {newState : Option PublishState} {t : PublishRecords} (packetId : UInt16)
      (h : mqttUpdateStateAck s.toPublishRecords packetId (getAckFromPacketType packet.type)
        .receive = (status, newState, t)) (hstatus : status ≠ .success) :
      SilentOutcome c s packet (status, s.setRecords t)

theorem handleIncomingPublish_silent (c : Config) {s : Sys} {packet : PacketInfo}
    (h : publishFrame s packet = none) :
    SilentOutcome c s packet (handleIncomingPublish c s packet) := by
  unfold publishFrame at h
  unfold handleIncomingPublish
  dsimp only at h ⊢
  by_cases hdecoded : (mqttDeserializePublish packet).1 = .success
  swap
  · rw [if_pos hdecoded]
    exact .refused hdecoded
  rw [if_neg (not_not_intro hdecoded)]
  by_cases hrecords : s.incomingPublishRecords = [] ∧ (mqttDeserializePublish packet).2.2.qos ≠ .qos0
  · rw [if_pos hrecords]
    exact .refused (by simp)
  rw [if_neg hrecords]
  rcases hupdated : mqttUpdateStatePublish s.toPublishRecords
    ((mqttDeserializePublish packet).2.1.getD 0) .receive
    (mqttDeserializePublish packet).2.2.qos with ⟨status, newState, t⟩
  rw [hupdated] at h
  dsimp only at h ⊢
  have hfail : status ≠ .success := by
    rintro rfl
    rw [if_pos ⟨hdecoded, hrecords, rfl⟩] at h
    cases h
  rw [if_neg hfail]
  by_cases hcollision : status = .stateCollision
  · rw [if_pos hcollision]
    subst hcollision
    exact .duplicate _ _ hupdated
  · rw [if_neg hcollision]
    exact .publish _ _ hupdated ⟨hfail, hcollision⟩

theorem handlePublishAcks_silent (c : Config) {s : Sys} {packet : PacketInfo}
    (h : publishAckFrame s packet = none) :
    SilentOutcome c s packet (handlePublishAcks c s packet) := by
  unfold publishAckFrame at h
  unfold handlePublishAcks
  dsimp only at h ⊢
  by_cases hdecoded : (mqttDeserializeAck packet true false).1 = .success
  swap
  · rw [if_pos hdecoded]
    exact .refused hdecoded
  rw [if_neg (not_not_intro hdecoded)]
  rcases hupdated : mqttUpdateStateAck s.toPublishRecords
    ((mqttDeserializeAck packet true false).2.1.getD 0) (getAckFromPacketType packet.type)
    .receive with ⟨status, newState, t⟩
  rw [hupdated] at h
  dsimp only at h ⊢
  have hfail : status ≠ .success := by
    rintro rfl
    rw [if_pos ⟨hdecoded, rfl⟩] at h
    cases h
  rw [if_pos hfail]
  exact .ack _ hupdated hfail

theorem handleIncomingAck_silent (c : Config) {s : Sys} {packet : PacketInfo}
    {manageKeepAlive : Bool} (h : ackFrame s packet manageKeepAlive = none) :
    SilentOutcome c s packet (handleIncomingAck c s packet manageKeepAlive) := by
  unfold ackFrame at h
  unfold handleIncomingAck
  dsimp only at h ⊢
  by_cases hack : isPublishAck packet.type = true
  · rw [if_pos hack] at h
    rw [if_pos (of_decide_eq_true hack)]
    exact handlePublishAcks_silent c h
  rw [if_neg hack] at h
  rw [if_neg fun hor => hack (decide_eq_true hor)]
  by_cases hping : packet.type = packetTypePingresp
  · rw [if_pos hping] at h
    rw [if_pos hping]
    by_cases hdecoded : (mqttDeserializeAck packet true false).1 = .success
    swap
    · rw [if_pos hdecoded]
      exact .refused hdecoded
    rw [if_neg (not_not_intro hdecoded)]
    cases manageKeepAlive with
    | false => rw [if_pos ⟨hdecoded, rfl⟩] at h; cases h
    | true => exact .pingresp
  rw [if_neg hping] at h
  rw [if_neg hping]
  by_cases hsub : packet.type = packetTypeSuback ∨ packet.type = packetTypeUnsuback
  · rw [if_pos hsub] at h
    rw [if_pos hsub]
    split at h
    · cases h
    · rename_i hcond
      rw [if_neg hcond]
      exact .refused fun hdecoded => hcond (.inl hdecoded)
  · rw [if_neg hsub]
    exact .refused (by simp)

theorem handlePacket_silent (c : Config) {s : Sys} {packet : PacketInfo} {manageKeepAlive : Bool}
    (h : callbackFrame (s.dispatching packet) packet manageKeepAlive = none) :
    SilentOutcome c (s.dispatching packet) packet (handlePacket c manageKeepAlive packet s) := by
  unfold callbackFrame at h
  unfold handlePacket
  dsimp only
  change SilentOutcome c _ packet (if packet.type &&& 0xF0 = packetTypePublish then
    handleIncomingPublish c (s.dispatching packet) packet
    else handleIncomingAck c (s.dispatching packet) packet manageKeepAlive)
  split at h
  · rename_i hpublish
    rw [if_pos hpublish]
    exact handleIncomingPublish_silent c h
  · rename_i hpublish
    rw [if_neg hpublish]
    exact handleIncomingAck_silent c h

/-- The context of a callback is the one before the packet but for the records and the copies. -/
theorem callbackFrame_before {s : Sys} {packet : PacketInfo} {manageKeepAlive : Bool}
    {frame : CallbackFrame} (h : callbackFrame s packet manageKeepAlive = some frame) :
    ∃ t store, frame.before = { s.setRecords t with store } := by
  have hack : ∀ (t : PublishRecords) packetId ackType, ∃ store,
      clearAcked (s.setRecords t) packetId ackType = { s.setRecords t with store } := by
    intro t packetId ackType
    unfold clearAcked
    split
    · exact ⟨_, rfl⟩
    · exact ⟨s.store, rfl⟩
  unfold callbackFrame publishFrame ackFrame publishAckFrame at h
  dsimp only at h
  split_ifs at h
  all_goals
    cases h
  · exact ⟨_, s.store, rfl⟩
  · exact ⟨_, hack _ _ _⟩
  · exact ⟨s.toPublishRecords, s.store, rfl⟩
  · exact ⟨s.toPublishRecords, s.store, rfl⟩

/-! ## What a handler returns -/

/-- The statuses of the handlers. -/
def handlerStatuses : List Status :=
  engineStatuses ++
    [.recvFailed, .sendFailed, .serverRefused, .statusNotConnected, .statusDisconnectPending]

theorem engineStatuses_subset : engineStatuses ⊆ handlerStatuses := List.subset_append_left _ _

theorem sendPublishAcks_status (c : Config) (s : Sys) (packetId : UInt16) (state : PublishState) :
    (sendPublishAcks c s packetId state).1 ∈ handlerStatuses := by
  have hserialize : ∀ packetType, (mqttSerializeAck packetType packetId).1 ∈ handlerStatuses := by
    intro packetType
    unfold mqttSerializeAck
    split_ifs <;> simp [handlerStatuses, engineStatuses]
  unfold sendPublishAcks
  dsimp only
  split
  · exact List.mem_cons_self
  split
  · exact hserialize _
  split
  · unfold notConnectedStatus
    split <;> simp [handlerStatuses]
  split
  · simp [handlerStatuses]
  · exact engineStatuses_subset (mqttUpdateStateAck_status ..)

theorem mqttDeserializePublish_status (packet : PacketInfo) :
    (mqttDeserializePublish packet).1 ∈ handlerStatuses := by
  unfold mqttDeserializePublish deserializePublish
  dsimp only
  split
  · simp [handlerStatuses, engineStatuses]
  split
  · simp [handlerStatuses, engineStatuses]
  split
  · simp [handlerStatuses, engineStatuses]
  · split_ifs <;> simp [handlerStatuses, engineStatuses]

theorem mqttDeserializeAck_status (packet : PacketInfo) (pPacketId pSessionPresent : Bool) :
    (mqttDeserializeAck packet pPacketId pSessionPresent).1 ∈ handlerStatuses := by
  have hsuback : ∀ bytes, ∀ status ∈ handlerStatuses,
      readSubackStatus bytes status ∈ handlerStatuses := by
    intro bytes
    induction bytes with
    | nil => exact fun status h => h
    | cons b bytes ih =>
      intro status h
      unfold readSubackStatus
      split
      · exact ih status h
      split
      · exact ih _ (by simp [handlerStatuses])
      · simp [handlerStatuses, engineStatuses]
  have hack : (deserializeSuback packet).1 ∈ handlerStatuses := by
    unfold deserializeSuback
    dsimp only
    split
    · simp [handlerStatuses, engineStatuses]
    split
    · simp [handlerStatuses, engineStatuses]
    · exact hsuback _ _ List.mem_cons_self
  have hconnack : (deserializeConnack packet).1 ∈ handlerStatuses := by
    unfold deserializeConnack
    dsimp only
    split_ifs <;> simp [handlerStatuses, engineStatuses]
  have hsimple : (deserializeSimpleAck packet).1 ∈ handlerStatuses := by
    unfold deserializeSimpleAck
    dsimp only
    split_ifs <;> simp [handlerStatuses, engineStatuses]
  have hpingresp : deserializePingresp packet ∈ handlerStatuses := by
    unfold deserializePingresp
    split_ifs <;> simp [handlerStatuses, engineStatuses]
  have hbad : .badParameter ∈ handlerStatuses := by simp [handlerStatuses, engineStatuses]
  unfold mqttDeserializeAck
  dsimp only
  split_ifs
  · exact hbad
  · exact hbad
  · exact hbad
  · exact hconnack
  · exact hack
  · exact hpingresp
  · exact hsimple
  · simp [handlerStatuses, engineStatuses]

theorem handleIncomingPublish_status (c : Config) (s : Sys) (packet : PacketInfo) :
    (handleIncomingPublish c s packet).1 ∈ handlerStatuses := by
  unfold handleIncomingPublish
  dsimp only
  split
  · exact mqttDeserializePublish_status packet
  split
  · simp [handlerStatuses]
  split
  · exact sendPublishAcks_status ..
  split
  · exact sendPublishAcks_status ..
  · exact engineStatuses_subset (mqttUpdateStatePublish_status ..)

theorem handleIncomingAck_status (c : Config) (s : Sys) (packet : PacketInfo)
    (manageKeepAlive : Bool) :
    (handleIncomingAck c s packet manageKeepAlive).1 ∈ handlerStatuses := by
  have hdecoded := mqttDeserializeAck_status packet true false
  unfold handleIncomingAck handlePublishAcks
  dsimp only
  split
  · split
    · exact hdecoded
    split
    · exact engineStatuses_subset (mqttUpdateStateAck_status ..)
    · exact sendPublishAcks_status ..
  split
  · split
    · exact hdecoded
    split <;> exact List.mem_cons_self
  split
  · split
    · exact List.mem_cons_self
    · exact hdecoded
  · simp [handlerStatuses, engineStatuses]

/-- A handler does not return a status of the receive loop itself. -/
theorem handlePacket_status (c : Config) (manageKeepAlive : Bool) (packet : PacketInfo) (s : Sys) :
    (handlePacket c manageKeepAlive packet s).1 ∈ handlerStatuses := by
  unfold handlePacket
  dsimp only
  split
  · exact handleIncomingPublish_status ..
  · exact handleIncomingAck_status ..

/-! ## The packet of an iteration -/

/-- The packet that `receiveSingleIteration` hands to its handler, and the context in which it
does. -/
def dispatched (c : Config) (s : Sys) (manageKeepAlive : Bool) : Option (PacketInfo × Sys) :=
  let read := readIntoBuffer c s
  let kept := checkKeepAlive c read.1 manageKeepAlive read.2.1 read.2.2.2
  let complete := checkComplete c kept.1 read.2.2.1 kept.2
  if complete.1 = .success then
    some ({ read.2.2.1 with
      pRemainingData := some (complete.2.networkBuffer.drop read.2.2.1.headerLength) }, complete.2)
  else none

/-- `totalMQTTPacketLength`. -/
def PacketInfo.totalLength (packet : PacketInfo) : Nat :=
  packet.remainingLength + packet.headerLength

end FreeMqtt

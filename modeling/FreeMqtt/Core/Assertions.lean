import FreeMqtt.Core.ConnectSpec
import FreeMqtt.State.Assertions

/-!
# The assertions of the state engine under the public functions

The callers of the state engine, audited: every function on the way from a public function to the
engine with the assertions that the engine checks on the way. On a context whose arrays
`MQTT_InitStatefulQoS` has set, with any arguments and any traffic, the assertions of a run hold if
and only if the application names a packet in every call of `MQTT_CancelCallback`
(`stateAssertions_iff`).
-/

namespace FreeMqtt

open Audit

/-! ## Requests, audited -/

/-- `sendPublishAcks`, audited. -/
def auditedSendPublishAcks (c : Config) (s : Sys) (packetId : UInt16)
    (publishState : PublishState) : Audit StateEvent (Status × Sys) :=
  let packetTypeByte := getAckTypeToSend publishState
  if packetTypeByte = 0 then pure (.success, s)
  else
    let packetType := getAckFromPacketType packetTypeByte
    let packet := mqttSerializeAck packetTypeByte packetId
    if packet.1 ≠ .success then pure (packet.1, s)
    else if s.connectStatus ≠ .connected then pure (notConnectedStatus s.connectStatus, s)
    else
      let sent := sendPacket c s (.ack packetType packetId) packet.2
      if sent.1 < publishAckPacketSize then pure (.sendFailed, sent.2)
      else do
        let s := { sent.2 with controlPacketSent := true }
        let updated ← auditedMqttUpdateStateAck s.toPublishRecords packetId packetType .send
        pure (updated.1, s.setRecords updated.2.2)

/-- `MQTT_Publish`, audited. -/
def auditedMqttPublish (c : Config) (s : Sys) (pPublishInfo : Option PublishInfo)
    (packetId : UInt16) : Audit StateEvent (Status × Sys) :=
  match pPublishInfo with
  | none => pure (validatePublishParams s none packetId, s)
  | some info =>
      let valid := validatePublishParams s pPublishInfo packetId
      let sizes := mqttGetPublishPacketSize info
      let mqttHeader := mqttSerializePublishHeaderWithoutTopic info sizes.2.1
      if valid ≠ .success then pure (valid, s)
      else if sizes.1 ≠ .success then pure (sizes.1, s)
      else if s.connectStatus ≠ .connected then pure (notConnectedStatus s.connectStatus, s)
      else do
        let reserved ←
          (if info.qos ≠ .qos0 then auditedMqttReserveState s.toPublishRecords packetId info.qos
          else pure (.success, s.toPublishRecords))
        let status :=
          if reserved.1 = .stateCollision ∧ info.dup then .success else reserved.1
        let s := s.setRecords reserved.2
        if status ≠ .success then pure (status, s)
        else
          let sent := sendPublishWithoutCopy c s info mqttHeader.1 packetId
          if sent.1 = .success ∧ info.qos ≠ .qos0 then do
            let updated ←
              auditedMqttUpdateStatePublish sent.2.toPublishRecords packetId .send info.qos
            pure (updated.1, sent.2.setRecords updated.2.2)
          else pure sent

/-- `MQTT_CancelCallback`, audited. -/
def auditedMqttCancelCallback (s : Sys) (packetId : UInt16) : Audit StateEvent (Status × Sys) := do
  report (.cancelCallback packetId)
  if s.outgoingPublishRecords = [] then pure (.badParameter, s)
  else do
    let removed ← auditedMqttRemoveStateRecord s.toPublishRecords packetId
    pure (removed.1, s.setRecords removed.2)

/-- A request, audited. The others do not call the state engine. -/
def auditedSendCall (c : Config) (s : Sys) : SendCall → Audit StateEvent Sys
  | .publish pPublishInfo packetId => do
      let published ← auditedMqttPublish c s pPublishInfo packetId
      pure published.2
  | .cancelCallback packetId => do
      let cancelled ← auditedMqttCancelCallback s packetId
      pure cancelled.2
  | call => pure (call.run c s)

/-- `appCallback`, audited. -/
def auditedAppCallback (c : Config) (s : Sys) (packet : PacketInfo) (info : DeserializedInfo) :
    Audit StateEvent Sys :=
  let s := s.record (.callback packet info)
  (s.callbacks.headD []).foldlM (auditedSendCall c) { s with callbacks := s.callbacks.tail }

/-! ## Receiving, audited -/

/-- `handleIncomingPublish`, audited. -/
def auditedHandleIncomingPublish (c : Config) (s : Sys) (pIncomingPacket : PacketInfo) :
    Audit StateEvent (Status × Sys) :=
  let packet := mqttDeserializePublish pIncomingPacket
  let packetIdentifier := packet.2.1.getD 0
  let publishInfo := packet.2.2
  if packet.1 ≠ .success then pure (packet.1, s)
  else if s.incomingPublishRecords = [] ∧ publishInfo.qos ≠ .qos0 then pure (.recvFailed, s)
  else do
    let updated ←
      auditedMqttUpdateStatePublish s.toPublishRecords packetIdentifier .receive publishInfo.qos
    let s := s.setRecords updated.2.2
    if updated.1 = .success then do
      let s ← auditedAppCallback c s pIncomingPacket ⟨packetIdentifier, some publishInfo, .success⟩
      auditedSendPublishAcks c s packetIdentifier (updated.2.1.getD .null)
    else if updated.1 = .stateCollision then
      auditedSendPublishAcks c s packetIdentifier
        (mqttCalculateStatePublish .receive publishInfo.qos)
    else pure (updated.1, s)

/-- `handlePublishAcks`, audited. -/
def auditedHandlePublishAcks (c : Config) (s : Sys) (pIncomingPacket : PacketInfo) :
    Audit StateEvent (Status × Sys) :=
  let ackType := getAckFromPacketType pIncomingPacket.type
  let packet := mqttDeserializeAck pIncomingPacket true false
  let packetIdentifier := packet.2.1.getD 0
  if packet.1 ≠ .success then pure (packet.1, s)
  else do
    let updated ← auditedMqttUpdateStateAck s.toPublishRecords packetIdentifier ackType .receive
    let s := s.setRecords updated.2.2
    if updated.1 ≠ .success then pure (updated.1, s)
    else do
      let s :=
        if (ackType = .puback ∨ ackType = .pubrec) ∧ s.clearFunction then
          callClear s packetIdentifier
        else s
      let s ← auditedAppCallback c s pIncomingPacket ⟨packetIdentifier, none, .success⟩
      auditedSendPublishAcks c s packetIdentifier (updated.2.1.getD .null)

/-- `handleIncomingAck`, audited. -/
def auditedHandleIncomingAck (c : Config) (s : Sys) (pIncomingPacket : PacketInfo)
    (manageKeepAlive : Bool) : Audit StateEvent (Status × Sys) :=
  let type := pIncomingPacket.type
  let packet := mqttDeserializeAck pIncomingPacket true false
  let packetIdentifier := packet.2.1.getD packetIdInvalid
  if type = packetTypePuback ∨ type = packetTypePubrec ∨ type = packetTypePubrel ∨
      type = packetTypePubcomp then
    auditedHandlePublishAcks c s pIncomingPacket
  else if type = packetTypePingresp then
    if packet.1 ≠ .success then pure (packet.1, s)
    else if manageKeepAlive then pure (.success, { s with waitingForPingResp := false })
    else do
      let s ← auditedAppCallback c s pIncomingPacket ⟨packetIdentifier, none, packet.1⟩
      pure (.success, s)
  else if type = packetTypeSuback ∨ type = packetTypeUnsuback then
    if packet.1 = .success ∨ packet.1 = .serverRefused then do
      let s ← auditedAppCallback c s pIncomingPacket ⟨packetIdentifier, none, packet.1⟩
      pure (.success, s)
    else pure (packet.1, s)
  else pure (.badResponse, s)

/-- The handler of a packet, audited. -/
def auditedHandlePacket (c : Config) (manageKeepAlive : Bool) (packet : PacketInfo) (s : Sys) :
    Audit StateEvent (Status × Sys) :=
  let s := s.record (.dispatched packet.type
    (readBytes packet.pRemainingData packet.remainingLength))
  if packet.type &&& 0xF0 = packetTypePublish then auditedHandleIncomingPublish c s packet
  else auditedHandleIncomingAck c s packet manageKeepAlive

/-- `dispatchPacket`, audited. -/
def auditedDispatchPacket (c : Config) (manageKeepAlive : Bool) (packet : PacketInfo) (s : Sys) :
    Audit StateEvent (Status × Sys) := do
  let totalMQTTPacketLength := packet.remainingLength + packet.headerLength
  let handled ← auditedHandlePacket c manageKeepAlive
    { packet with pRemainingData := some (s.networkBuffer.drop packet.headerLength) } s
  let index := c.sizeSub handled.2.index totalMQTTPacketLength
  let s := { handled.2 with
    index
    networkBuffer := moveToFront handled.2.networkBuffer totalMQTTPacketLength index }
  if handled.1 = .success then
    let now := getTime s
    pure (.success, { now.2 with lastPacketRxTime := now.1 })
  else pure (handled.1, s)

/-- `receiveSingleIteration`, audited. -/
def auditedReceiveSingleIteration (c : Config) (s : Sys) (manageKeepAlive : Bool) :
    Audit StateEvent (Status × Sys) := do
  let read := readIntoBuffer c s
  let kept := checkKeepAlive c read.1 manageKeepAlive read.2.1 read.2.2.2
  let complete := checkComplete c kept.1 read.2.2.1 kept.2
  let handled ←
    (if complete.1 = .success then auditedDispatchPacket c manageKeepAlive read.2.2.1 complete.2
    else pure complete)
  pure (if handled.1 = .noDataAvailable then .success else handled.1, handled.2)

/-! ## Connecting, audited -/

/-- The loop of `handleUncleanSessionResumption` over the PUBRELs, audited. -/
def auditedResendPubrels (c : Config) : (fuel : Nat) → (packetId : UInt16) → (cursor : Nat) →
    Sys → Audit StateEvent (Status × Sys)
  | 0, _, _, s => pure (.success, s)
  | fuel + 1, packetId, cursor, s =>
      if packetId = packetIdInvalid then pure (.success, s)
      else do
        let sent ← auditedSendPublishAcks c s packetId .pubRelSend
        let next ← auditedMqttPubrelToResend sent.2.toPublishRecords cursor
        if sent.1 = .success then auditedResendPubrels c fuel next.1 next.2.1 sent.2
        else pure sent

/-- The loop of `handleUncleanSessionResumption` over the publishes, audited. -/
def auditedResendPublishes (c : Config) : (fuel : Nat) → (cursor : Nat) → Sys →
    Audit StateEvent (Status × Sys)
  | 0, _, s => pure (.success, s)
  | fuel + 1, cursor, s => do
      let next ← auditedMqttPublishToResend s.toPublishRecords cursor
      if next.1 = packetIdInvalid then pure (.success, s)
      else
        let retrieved := callRetrieve s next.1
        match retrieved.1 with
        | none => pure (.publishRetrieveFailed, retrieved.2)
        | some packet =>
            let sent := sendPacket c retrieved.2 (.resend next.1) packet
            if sent.1 ≠ int32Cast packet.length then pure (.sendFailed, sent.2)
            else auditedResendPublishes c fuel next.2 sent.2

/-- `handleUncleanSessionResumption`, audited. -/
def auditedHandleUncleanSessionResumption (c : Config) (s : Sys) :
    Audit StateEvent (Status × Sys) := do
  let fuel := s.outgoingPublishRecords.length + 1
  let first ← auditedMqttPubrelToResend s.toPublishRecords 0
  let pubrels ← auditedResendPubrels c fuel first.1 first.2.1 s
  if pubrels.1 = .success ∧ pubrels.2.retrieveFunction then
    auditedResendPublishes c fuel 0 pubrels.2
  else pure pubrels

/-- The loop of `handleCleanSession`, audited. -/
def auditedClearPublishes : (fuel : Nat) → (cursor : Nat) → Sys → Audit StateEvent Sys
  | 0, _, s => pure s
  | fuel + 1, cursor, s => do
      let next ← auditedMqttPublishToResend s.toPublishRecords cursor
      if next.1 = packetIdInvalid then pure s
      else auditedClearPublishes fuel next.2 (callClear s next.1)

/-- `handleCleanSession`, audited. -/
def auditedHandleCleanSession (s : Sys) : Audit StateEvent Sys := do
  let s := s.clearBuffer
  let s ←
    (if s.clearFunction then auditedClearPublishes (s.outgoingPublishRecords.length + 1) 0 s
    else pure s)
  pure (s.setRecords (.zeroed s.outgoingPublishRecords.length s.incomingPublishRecords.length))

/-- `MQTT_Connect` up to the resumption of a session, audited. -/
def auditedEstablish (c : Config) (s : Sys) (pConnectInfo : ConnectInfo)
    (pWillInfo : Option PublishInfo) (remainingLength : Nat) (timeoutMs : UInt32) :
    Audit StateEvent (Status × Option Bool × Sys) :=
  let sent := sendConnectWithoutCopy c s pConnectInfo pWillInfo remainingLength
  if sent.1 ≠ .success then pure (sent.1, none, sent.2)
  else
    let connack := receiveConnack c sent.2 timeoutMs pConnectInfo.cleanSession
    if connack.1 ≠ .success then pure connack
    else do
      let s ←
        (if connack.2.1 ≠ some true then auditedHandleCleanSession connack.2.2
        else pure connack.2.2)
      pure (.success, connack.2.1, { s with
        connectStatus := .connected
        keepAliveIntervalSec := pConnectInfo.keepAliveSeconds
        waitingForPingResp := false
        pingReqSendTimeMs := 0 })

/-- `MQTT_Connect`, audited. -/
def auditedMqttConnect (c : Config) (s : Sys) (pConnectInfo : Option ConnectInfo)
    (pWillInfo : Option PublishInfo) (timeoutMs : UInt32) :
    Audit StateEvent (Status × Option Bool × Sys) :=
  let sizes := mqttGetConnectPacketSize pConnectInfo pWillInfo
  let failed (status : Status) (sessionPresent : Option Bool) (s : Sys) :
      Status × Option Bool × Sys :=
    (status, sessionPresent,
      { s with
        connectStatus :=
          if s.connectStatus = .connected then .disconnectPending else s.connectStatus })
  match pConnectInfo with
  | none => pure (failed .badParameter none s)
  | some info =>
      if sizes.1 ≠ .success then pure (failed sizes.1 none s)
      else if s.connectStatus ≠ .notConnected then
        pure (if s.connectStatus = .connected then .statusConnected else .statusDisconnectPending,
          none, s)
      else do
        let established ← auditedEstablish c s info pWillInfo sizes.2.1 timeoutMs
        if established.1 ≠ .success then
          pure (failed established.1 established.2.1 established.2.2)
        else if established.2.1 = some true then do
          let resumed ← auditedHandleUncleanSessionResumption c established.2.2
          pure (if resumed.1 = .success then (.success, some true, resumed.2)
            else failed resumed.1 (some true) resumed.2)
        else pure established

/-! ## Runs, audited -/

/-- A call of the application on a context. -/
inductive ContextCall
  | connect (pConnectInfo : Option ConnectInfo) (pWillInfo : Option PublishInfo)
      (timeoutMs : UInt32)
  | request (call : SendCall)
  | processLoop
  | receiveLoop
  | initRetransmits (storeFunction retrieveFunction clearFunction : Bool)
  | publishToResend (cursor : Nat)

def ContextCall.run (c : Config) (s : Sys) : ContextCall → Sys
  | .connect pConnectInfo pWillInfo timeoutMs =>
      (mqttConnect c s pConnectInfo pWillInfo timeoutMs).2.2
  | .request call => call.run c s
  | .processLoop => (mqttProcessLoop c s).2
  | .receiveLoop => (mqttReceiveLoop c s).2
  | .initRetransmits storeFunction retrieveFunction clearFunction =>
      (mqttInitRetransmits s storeFunction retrieveFunction clearFunction).2
  | .publishToResend _ => s

/-- A call of the application, audited. -/
def auditedContextCall (c : Config) (s : Sys) : ContextCall → Audit StateEvent Sys
  | .connect pConnectInfo pWillInfo timeoutMs => do
      let connected ← auditedMqttConnect c s pConnectInfo pWillInfo timeoutMs
      pure connected.2.2
  | .request call => auditedSendCall c s call
  | .processLoop => do
      let looped ← auditedReceiveSingleIteration c { s with controlPacketSent := false } true
      pure looped.2
  | .receiveLoop => do
      let looped ← auditedReceiveSingleIteration c s false
      pure looped.2
  | .initRetransmits storeFunction retrieveFunction clearFunction =>
      pure (mqttInitRetransmits s storeFunction retrieveFunction clearFunction).2
  | .publishToResend cursor => do
      let _ ← auditedMqttPublishToResend s.toPublishRecords cursor
      pure s

/-- The context after `calls`, and all that is reported on the way. -/
def auditedRun (c : Config) (s : Sys) (calls : List ContextCall) : Audit StateEvent Sys :=
  calls.foldlM (auditedContextCall c) s

/-- A context after `MQTT_InitStatefulQoS` with zeroed arrays. -/
def initializedRecords (s : Sys) (outgoingCount incomingCount : Nat) : Sys :=
  (mqttInitStatefulQoS s (some (List.replicate outgoingCount .zero)) outgoingCount
    (some (List.replicate incomingCount .zero)) incomingCount).2

/-! ## Sending leaves the records alone -/

theorem records_transportSend (s : Sys) (offered : List UInt8) :
    (transportSend s offered).2.toPublishRecords = s.toPublishRecords := by
  unfold transportSend
  split
  · rfl
  · dsimp only
    split <;> rfl

theorem records_afterSend (bytesSentOrError sendResult : Int) (s : Sys) :
    (afterSend bytesSentOrError sendResult s).2.toPublishRecords = s.toPublishRecords := by
  unfold afterSend
  split
  · rfl
  · split <;> rfl

theorem records_sendMessageVector (c : Config) (s : Sys) (pIoVec : List (List UInt8)) :
    (sendMessageVector c s pIoVec).2.toPublishRecords = s.toPublishRecords := by
  have hloop : ∀ (startTime : UInt32) (bytesToSend fuel : Nat) (vectors : List (List UInt8))
      (bytesSentOrError : Int) (s : Sys),
      (sendMessageVectorLoop c startTime bytesToSend fuel vectors
        bytesSentOrError s).2.toPublishRecords = s.toPublishRecords := by
    intro startTime bytesToSend fuel
    induction fuel with
    | zero => exact fun _ _ _ => rfl
    | succ fuel ih =>
      intro vectors bytesSentOrError s
      have hsent := fun offered => (records_afterSend bytesSentOrError (transportSend s offered).1
        (transportSend s offered).2).trans (records_transportSend s offered)
      unfold sendMessageVectorLoop
      dsimp only
      generalize (if s.writev then vectors.flatten else vectors.headD []) = offered
      split
      · split
        · exact hsent offered
        · exact (ih ..).trans (hsent offered)
      · rfl
  exact hloop ..

theorem records_sendTopicPacket (c : Config) (s : Sys) (kind : PacketKind) (header : List UInt8)
    (perTopic : Nat) (topicVectors : SubscribeInfo → List (List UInt8))
    (subscriptions : List SubscribeInfo) :
    (sendTopicPacket c s kind header perTopic topicVectors subscriptions).2.toPublishRecords =
      s.toPublishRecords := by
  have hloop : ∀ (fuel : Nat) (subscriptions : List SubscribeInfo) (pIoVector : List (List UInt8))
      (s : Sys) (result : Int),
      (sendTopics c perTopic topicVectors fuel subscriptions pIoVector
        s result).2.1.toPublishRecords = s.toPublishRecords := by
    intro fuel
    induction fuel with
    | zero => exact fun _ _ _ _ => rfl
    | succ fuel ih =>
      intro subscriptions pIoVector s result
      unfold sendTopics
      dsimp only
      split
      · rfl
      split
      · exact records_sendMessageVector ..
      · exact (ih ..).trans (records_sendMessageVector ..)
  exact hloop ..

theorem records_sendPublishWithoutCopy (c : Config) (s : Sys) (info : PublishInfo)
    (header : List UInt8) (packetId : UInt16) :
    (sendPublishWithoutCopy c s info header packetId).2.toPublishRecords = s.toPublishRecords := by
  have hstored : (if info.qos ≠ .qos0 ∧ s.storeFunction then
      storePublish s info header (publishVectors info packetId) packetId
      else (.success, header, s)).2.2.toPublishRecords = s.toPublishRecords := by
    split
    · obtain ⟨-, store, storeResults, heq⟩ :=
        storePublish_spec s info header (publishVectors info packetId) packetId
      rw [heq]
    · rfl
  unfold sendPublishWithoutCopy
  dsimp only
  generalize (if info.qos ≠ .qos0 ∧ s.storeFunction then
    storePublish s info header (publishVectors info packetId) packetId
    else (.success, header, s)) = stored at hstored ⊢
  split
  · exact hstored
  · exact (records_sendMessageVector ..).trans hstored

/-! ## The assertions checked -/

/-- The arrays of the context are set. -/
def Sys.Stateful (s : Sys) : Prop := s.toPublishRecords.Stateful

theorem Sys.Stateful.of_eq {s s' : Sys} (h : s.Stateful)
    (heq : s'.toPublishRecords = s.toPublishRecords) : s'.Stateful := by
  unfold Sys.Stateful
  rw [heq]
  exact h

theorem stateful_setRecords (s : Sys) {t : PublishRecords} (h : t.Stateful) :
    (s.setRecords t).Stateful := h

theorem stateful_sendPacket (c : Config) {s : Sys} (h : s.Stateful) (kind : PacketKind)
    (packet : List UInt8) : (sendPacket c s kind packet).2.Stateful := by
  obtain ⟨n, stop, hsent, -⟩ := sendPacket_spec c s kind packet
  exact h.of_eq hsent.records

theorem sendPublishAcks_checks (c : Config) {s : Sys} (h : s.Stateful) (packetId : UInt16)
    (publishState : PublishState) :
    Checks (fun sent => sent.2.Stateful) (auditedSendPublishAcks c s packetId publishState)
      (sendPublishAcks c s packetId publishState) := by
  unfold auditedSendPublishAcks sendPublishAcks
  dsimp only
  refine .ite (fun _ => .pure h) fun _ => .ite (fun _ => .pure h) fun _ => ?_
  refine .ite (fun _ => .pure h) fun _ => ?_
  refine .ite (fun _ => .pure (stateful_sendPacket c h ..)) fun _ => ?_
  apply Agrees.bind (mqttUpdateStateAck_checks (stateful_sendPacket c h ..) ..)
  intro hupdated
  exact .pure hupdated

theorem mqttPublish_checks (c : Config) {s : Sys} (h : s.Stateful)
    (pPublishInfo : Option PublishInfo) (packetId : UInt16) :
    Checks (fun published => published.2.Stateful) (auditedMqttPublish c s pPublishInfo packetId)
      (mqttPublish c s pPublishInfo packetId) := by
  cases pPublishInfo with
  | none => exact .pure h
  | some info =>
    unfold auditedMqttPublish mqttPublish
    dsimp only
    refine .ite (fun _ => .pure h) fun _ => .ite (fun _ => .pure h) fun _ => ?_
    refine .ite (fun _ => .pure h) fun _ => ?_
    have hreserve : Checks (fun reserved => reserved.2.Stateful)
        (if info.qos ≠ .qos0 then auditedMqttReserveState s.toPublishRecords packetId info.qos
        else pure (.success, s.toPublishRecords))
        (if info.qos ≠ .qos0 then mqttReserveState s.toPublishRecords packetId info.qos
        else (.success, s.toPublishRecords)) :=
      .ite (fun _ => mqttReserveState_checks h ..) fun _ => .pure h
    apply Agrees.bind hreserve
    intro hreserved
    generalize (if info.qos ≠ .qos0 then mqttReserveState s.toPublishRecords packetId info.qos
      else (.success, s.toPublishRecords)) = reserved at hreserved
    refine .ite (fun _ => .pure hreserved) fun _ => ?_
    have hset := stateful_setRecords s hreserved
    have hsent : (sendPublishWithoutCopy c (s.setRecords reserved.2) info
        (mqttSerializePublishHeaderWithoutTopic info (mqttGetPublishPacketSize info).2.1).1
        packetId).2.Stateful :=
      hset.of_eq (records_sendPublishWithoutCopy ..)
    refine .ite (fun _ => ?_) fun _ => .pure hsent
    apply Agrees.bind (mqttUpdateStatePublish_checks hsent ..)
    intro hupdated
    exact .pure hupdated

/-- The assertions of a call hold if and only if it names a packet. -/
theorem mqttCancelCallback_checks {s : Sys} (h : s.Stateful) (packetId : UInt16) :
    Checks (fun cancelled => cancelled.2.Stateful) (auditedMqttCancelCallback s packetId)
      (mqttCancelCallback s packetId) := by
  unfold auditedMqttCancelCallback mqttCancelCallback
  by_cases hid : packetId ≠ packetIdInvalid
  · have hcall : Checks (fun _ => True) (report (.cancelCallback packetId)) () :=
      .report trivial hid
    apply Agrees.bind hcall
    intro _
    refine .ite (fun _ => .pure h) fun _ => ?_
    apply Agrees.bind (mqttRemoveStateRecord_checks h hid)
    intro hremoved
    exact .pure hremoved
  · obtain rfl := not_not.1 hid
    rw [if_neg h.outgoing, if_neg h.outgoing]
    refine ⟨?_, mqttRemoveStateRecord_stateful h _, iff_of_false ?_ ?_⟩
    · rw [value_bind, value_bind, mqttRemoveStateRecord_value, value_pure]
    · rw [all_bind, all_bind]
      intro hall
      exact mqttRemoveStateRecord_fails h hall.2.1
    · rw [all_bind, all_report]
      intro hall
      exact hall.1 rfl

theorem stateful_mqttPing (c : Config) {s : Sys} (h : s.Stateful) : (mqttPing c s).2.Stateful := by
  unfold mqttPing
  dsimp only
  split
  · exact h
  split
  · exact stateful_sendPacket c h ..
  · exact stateful_sendPacket c h ..

theorem stateful_handleKeepAlive (c : Config) {s : Sys} (h : s.Stateful) :
    (handleKeepAlive c s).2.Stateful := by
  have htime : (getTime s).2.Stateful := h
  unfold handleKeepAlive
  dsimp only
  split
  · exact htime
  split
  · exact stateful_mqttPing c htime
  split
  · exact stateful_mqttPing c htime
  · exact htime

theorem sendCall_checks (c : Config) {s : Sys} (h : s.Stateful) (call : SendCall) :
    Checks Sys.Stateful (auditedSendCall c s call) (call.run c s) := by
  cases call with
  | publish info packetId =>
    apply Agrees.bind (mqttPublish_checks c h ..)
    intro hpublished
    exact .pure hpublished
  | cancelCallback packetId =>
    apply Agrees.bind (mqttCancelCallback_checks h ..)
    intro hcancelled
    exact .pure hcancelled
  | subscribe list packetId =>
    refine .pure (h.of_eq ?_)
    unfold SendCall.run mqttSubscribe sendSubscribeWithoutCopy
    dsimp only
    split_ifs
    · rfl
    · rfl
    · rfl
    · exact records_sendTopicPacket ..
  | unsubscribe list packetId =>
    refine .pure (h.of_eq ?_)
    unfold SendCall.run mqttUnsubscribe sendUnsubscribeWithoutCopy
    dsimp only
    split_ifs
    · rfl
    · rfl
    · rfl
    · exact records_sendTopicPacket ..
  | ping => exact .pure (stateful_mqttPing c h)
  | disconnect =>
    refine .pure ?_
    unfold SendCall.run mqttDisconnect
    dsimp only
    split
    · exact h
    · have hclosed : Sys.Stateful { s with connectStatus := .notConnected }.clearBuffer := h
      exact stateful_sendPacket c hclosed ..
  | getPacketId => exact .pure h

theorem appCallback_checks (c : Config) {s : Sys} (h : s.Stateful) (packet : PacketInfo)
    (info : DeserializedInfo) :
    Checks Sys.Stateful (auditedAppCallback c s packet info) (appCallback c s packet info) := by
  apply Agrees.foldlM
  · intro s call hs
    exact sendCall_checks c hs call
  · exact h

/-! ## Receiving -/

theorem handleIncomingPublish_checks (c : Config) {s : Sys} (h : s.Stateful) (packet : PacketInfo) :
    Checks (fun handled => handled.2.Stateful) (auditedHandleIncomingPublish c s packet)
      (handleIncomingPublish c s packet) := by
  unfold auditedHandleIncomingPublish handleIncomingPublish
  dsimp only
  refine .ite (fun _ => .pure h) fun _ => .ite (fun _ => .pure h) fun _ => ?_
  apply Agrees.bind (mqttUpdateStatePublish_checks h ..)
  intro hupdated
  have hset := stateful_setRecords s hupdated
  refine .ite (fun _ => ?_) fun _ => .ite (fun _ => ?_) fun _ => .pure hset
  · apply Agrees.bind (appCallback_checks c hset ..)
    intro hcalled
    exact sendPublishAcks_checks c hcalled ..
  · exact sendPublishAcks_checks c hset ..

theorem handlePublishAcks_checks (c : Config) {s : Sys} (h : s.Stateful) (packet : PacketInfo) :
    Checks (fun handled => handled.2.Stateful) (auditedHandlePublishAcks c s packet)
      (handlePublishAcks c s packet) := by
  unfold auditedHandlePublishAcks handlePublishAcks
  dsimp only
  refine .ite (fun _ => .pure h) fun _ => ?_
  apply Agrees.bind (mqttUpdateStateAck_checks h ..)
  intro hupdated
  refine .ite (fun _ => .pure hupdated) fun _ => ?_
  apply Agrees.bind (appCallback_checks c ?_ ..)
  · intro hcalled
    exact sendPublishAcks_checks c hcalled ..
  · split
    · exact hupdated
    · exact hupdated

theorem handleIncomingAck_checks (c : Config) {s : Sys} (h : s.Stateful) (packet : PacketInfo)
    (manageKeepAlive : Bool) :
    Checks (fun handled => handled.2.Stateful)
      (auditedHandleIncomingAck c s packet manageKeepAlive)
      (handleIncomingAck c s packet manageKeepAlive) := by
  have hcalled : ∀ info, Checks (fun handled => handled.2.Stateful)
      (do let s ← auditedAppCallback c s packet info; pure (Status.success, s))
      (.success, appCallback c s packet info) := by
    intro info
    apply Agrees.bind (appCallback_checks c h packet info)
    intro hcalled
    exact .pure hcalled
  unfold auditedHandleIncomingAck handleIncomingAck
  dsimp only
  refine .ite (fun _ => handlePublishAcks_checks c h packet) fun _ => ?_
  refine .ite (fun _ => ?_) fun _ => .ite (fun _ => ?_) fun _ => .pure h
  · exact .ite (fun _ => .pure h) fun _ => .ite (fun _ => .pure h) fun _ => hcalled _
  · exact .ite (fun _ => hcalled _) fun _ => .pure h

theorem dispatchPacket_checks (c : Config) {s : Sys} (h : s.Stateful) (manageKeepAlive : Bool)
    (packet : PacketInfo) :
    Checks (fun handled => handled.2.Stateful) (auditedDispatchPacket c manageKeepAlive packet s)
      (dispatchPacket c manageKeepAlive packet s) := by
  have hhandled : ∀ packet, Checks (fun handled => handled.2.Stateful)
      (auditedHandlePacket c manageKeepAlive packet s) (handlePacket c manageKeepAlive packet s) := by
    intro packet
    have hrecorded : (s.record (.dispatched packet.type
      (readBytes packet.pRemainingData packet.remainingLength))).Stateful := h
    refine .ite (fun _ => ?_) fun _ => ?_
    · exact handleIncomingPublish_checks c hrecorded packet
    · exact handleIncomingAck_checks c hrecorded packet manageKeepAlive
  apply Agrees.bind (hhandled _)
  intro hstateful
  exact .ite (fun _ => .pure hstateful) fun _ => .pure hstateful

theorem receiveSingleIteration_checks (c : Config) {s : Sys} (h : s.Stateful)
    (manageKeepAlive : Bool) :
    Checks (fun handled => handled.2.Stateful) (auditedReceiveSingleIteration c s manageKeepAlive)
      (receiveSingleIteration c s manageKeepAlive) := by
  have hread : (readIntoBuffer c s).2.2.2.Stateful := h.of_eq (received_readIntoBuffer c s).records
  have hkept : (checkKeepAlive c (readIntoBuffer c s).1 manageKeepAlive (readIntoBuffer c s).2.1
      (readIntoBuffer c s).2.2.2).2.Stateful := by
    unfold checkKeepAlive
    split
    · exact stateful_handleKeepAlive c hread
    · exact hread
  unfold auditedReceiveSingleIteration receiveSingleIteration
  dsimp only
  generalize checkKeepAlive c (readIntoBuffer c s).1 manageKeepAlive (readIntoBuffer c s).2.1
    (readIntoBuffer c s).2.2.2 = kept at hkept ⊢
  have hcomplete : (checkComplete c kept.1 (readIntoBuffer c s).2.2.1 kept.2).2.Stateful :=
    hkept.of_eq (checkComplete_received ..).records
  apply Agrees.bind (.ite (fun _ => dispatchPacket_checks c hcomplete ..) fun _ => .pure hcomplete)
  intro hhandled
  exact .pure hhandled

/-! ## Connecting -/

theorem resendPubrels_checks (c : Config) (fuel : Nat) (packetId : UInt16) (cursor : Nat) {s : Sys}
    (h : s.Stateful) :
    Checks (fun resent => resent.2.Stateful) (auditedResendPubrels c fuel packetId cursor s)
      (resendPubrels c fuel packetId cursor s) := by
  induction fuel generalizing packetId cursor s with
  | zero => exact .pure h
  | succ fuel ih =>
    refine .ite (fun _ => .pure h) fun _ => ?_
    apply Agrees.bind (sendPublishAcks_checks c h ..)
    intro hsent
    apply Agrees.bind (mqttPubrelToResend_checks ..)
    intro _
    exact .ite (fun _ => ih _ _ hsent) fun _ => .pure hsent

theorem resendPublishes_checks (c : Config) (fuel cursor : Nat) {s : Sys} (h : s.Stateful) :
    Checks (fun resent => resent.2.Stateful) (auditedResendPublishes c fuel cursor s)
      (resendPublishes c fuel cursor s) := by
  induction fuel generalizing cursor s with
  | zero => exact .pure h
  | succ fuel ih =>
    unfold auditedResendPublishes resendPublishes
    dsimp only
    apply Agrees.bind (mqttPublishToResend_checks ..)
    intro _
    generalize mqttPublishToResend s.toPublishRecords cursor = next
    refine .ite (fun _ => .pure h) fun _ => ?_
    obtain ⟨-, retrieveResults, heq⟩ := callRetrieve_spec s next.1
    have hretrieved : (callRetrieve s next.1).2.Stateful := h.of_eq (by rw [heq])
    cases (callRetrieve s next.1).1 with
    | none => exact .pure hretrieved
    | some packet =>
      have hsent := stateful_sendPacket c hretrieved (.resend next.1) packet
      exact .ite (fun _ => .pure hsent) fun _ => ih _ hsent

theorem handleUncleanSessionResumption_checks (c : Config) {s : Sys} (h : s.Stateful) :
    Checks (fun resumed => resumed.2.Stateful) (auditedHandleUncleanSessionResumption c s)
      (handleUncleanSessionResumption c s) := by
  apply Agrees.bind (mqttPubrelToResend_checks ..)
  intro _
  apply Agrees.bind (resendPubrels_checks c _ _ _ h)
  intro hpubrels
  exact .ite (fun _ => resendPublishes_checks c _ _ hpubrels) fun _ => .pure hpubrels

theorem clearPublishes_checks (fuel cursor : Nat) {s : Sys} (h : s.Stateful) :
    Checks Sys.Stateful (auditedClearPublishes fuel cursor s) (clearPublishes fuel cursor s) := by
  induction fuel generalizing cursor s with
  | zero => exact .pure h
  | succ fuel ih =>
    apply Agrees.bind (mqttPublishToResend_checks ..)
    intro _
    exact .ite (fun _ => .pure h) fun _ => ih _ h

theorem handleCleanSession_checks {s : Sys} (h : s.Stateful) :
    Checks Sys.Stateful (auditedHandleCleanSession s) (handleCleanSession s) := by
  have hcleared : s.clearBuffer.Stateful := h
  apply Agrees.bind (.ite (fun _ => clearPublishes_checks _ _ hcleared) fun _ => .pure hcleared)
  intro hstateful
  exact .pure (stateful_zeroed (List.length_pos_iff.2 hstateful.outgoing)
    (List.length_pos_iff.2 hstateful.incoming))

theorem establish_checks (c : Config) {s : Sys} (h : s.Stateful) (info : ConnectInfo)
    (will : Option PublishInfo) (remainingLength : Nat) (timeoutMs : UInt32) :
    Checks (fun established => established.2.2.Stateful)
      (auditedEstablish c s info will remainingLength timeoutMs)
      (establish c s info will remainingLength timeoutMs) := by
  have hsent : (sendConnectWithoutCopy c s info will remainingLength).2.Stateful := by
    unfold sendConnectWithoutCopy
    split
    · exact h
    · exact h.of_eq (records_sendMessageVector c s (connectVectors info will remainingLength))
  unfold auditedEstablish establish
  dsimp only
  refine .ite (fun _ => .pure hsent) fun _ => ?_
  have hreceived := hsent.of_eq (received_receiveConnack c _ timeoutMs info.cleanSession).records
  generalize receiveConnack c _ timeoutMs info.cleanSession = connack at hreceived ⊢
  refine .ite (fun _ => .pure hreceived) fun _ => ?_
  apply Agrees.bind (.ite (fun _ => handleCleanSession_checks hreceived) fun _ => .pure hreceived)
  intro hsession
  exact .pure hsession

theorem mqttConnect_checks (c : Config) {s : Sys} (h : s.Stateful)
    (pConnectInfo : Option ConnectInfo) (pWillInfo : Option PublishInfo) (timeoutMs : UInt32) :
    Checks (fun connected => connected.2.2.Stateful)
      (auditedMqttConnect c s pConnectInfo pWillInfo timeoutMs)
      (mqttConnect c s pConnectInfo pWillInfo timeoutMs) := by
  unfold auditedMqttConnect mqttConnect
  cases pConnectInfo with
  | none => exact .pure h
  | some info =>
    dsimp only
    refine .ite (fun _ => .pure h) fun _ => .ite (fun _ => .pure h) fun _ => ?_
    apply Agrees.bind (establish_checks c h ..)
    intro hestablished
    generalize establish c s info pWillInfo (mqttGetConnectPacketSize (some info) pWillInfo).2.1
      timeoutMs = established at hestablished ⊢
    refine .ite (fun _ => .pure hestablished) fun _ => .ite (fun _ => ?_) fun _ => .pure hestablished
    apply Agrees.bind (handleUncleanSessionResumption_checks c hestablished)
    intro hresumed
    generalize handleUncleanSessionResumption c established.2.2 = resumed at hresumed ⊢
    refine .pure ?_
    split
    · exact hresumed
    · exact hresumed

/-! ## Runs -/

theorem contextCall_checks (c : Config) {s : Sys} (h : s.Stateful) (call : ContextCall) :
    Checks Sys.Stateful (auditedContextCall c s call) (call.run c s) := by
  cases call with
  | connect info will timeoutMs =>
    apply Agrees.bind (mqttConnect_checks c h ..)
    intro hconnected
    exact .pure hconnected
  | request call => exact sendCall_checks c h call
  | processLoop =>
    have hreset : Sys.Stateful { s with controlPacketSent := false } := h
    apply Agrees.bind (receiveSingleIteration_checks c hreset true)
    intro hlooped
    exact .pure hlooped
  | receiveLoop =>
    apply Agrees.bind (receiveSingleIteration_checks c h false)
    intro hlooped
    exact .pure hlooped
  | initRetransmits store retrieve clear =>
    refine .pure ?_
    unfold mqttInitRetransmits
    split_ifs
    · exact h
    · exact h
    · exact h
    · exact h
  | publishToResend cursor =>
    apply Agrees.bind (mqttPublishToResend_checks ..)
    intro _
    exact .pure h

theorem run_checks (c : Config) {s : Sys} (h : s.Stateful) (calls : List ContextCall) :
    Checks Sys.Stateful (auditedRun c s calls) (calls.foldl (ContextCall.run c) s) := by
  apply Agrees.foldlM
  · intro s call hs
    exact contextCall_checks c hs call
  · exact h

theorem stateful_initializedRecords (s : Sys) {n m : Nat} (hn : 0 < n) (hm : 0 < m) :
    (initializedRecords s n m).Stateful := by
  have hset : ∀ {count : Nat}, 0 < count →
      (((some (List.replicate count PubAckInfo.zero)).getD []).take count) ≠ [] := by
    intro count hcount
    rw [Option.getD_some, List.take_replicate, Nat.min_self]
    exact List.ne_nil_of_length_pos (by rwa [List.length_replicate])
  have hcount : ∀ {count : Nat}, 0 < count → ∀ records : List PubAckInfo,
      ¬ decide (count = 0) ≠ (some records).isNone := by
    intro count hcount records
    simp
    omega
  unfold initializedRecords mqttInitStatefulQoS
  rw [if_neg (hcount hn _), if_neg (hcount hm _)]
  exact ⟨hset hn, hset hm⟩

/-- Whatever an application calls on a context with zeroed arrays, and whatever the broker sends,
the assertions of the state engine hold if and only if each call of `MQTT_CancelCallback`, in a
callback or not, names a packet. -/
theorem stateAssertions_iff (c : Config) (s : Sys) {outgoingCount incomingCount : Nat}
    (hout : 0 < outgoingCount) (hin : 0 < incomingCount) (calls : List ContextCall) :
    let s := initializedRecords s outgoingCount incomingCount
    (auditedRun c s calls).value = calls.foldl (ContextCall.run c) s ∧
      ((∀ assertion, .asserted assertion ∈ (auditedRun c s calls).events → assertion.Holds) ↔
        ∀ packetId, .cancelCallback packetId ∈ (auditedRun c s calls).events →
          packetId ≠ packetIdInvalid) := by
  have hchecks := run_checks c (stateful_initializedRecords s hout hin) calls
  refine ⟨hchecks.value_eq, ?_, ?_⟩
  · intro hholds packetId hmem
    refine (hchecks.all_iff.1 ?_) _ hmem
    intro event hevent
    cases event with
    | asserted assertion => exact hholds assertion hevent
    | cancelCallback packetId => trivial
  · intro hnamed assertion hmem
    refine (hchecks.all_iff.2 ?_) _ hmem
    intro event hevent
    cases event with
    | asserted assertion => trivial
    | cancelCallback packetId => exact hnamed packetId hevent

/-- A connected application publishes with QoS 1, cancels that, and receives the acknowledgement. -/
theorem stateAssertions_iff_sample :
    let s := initializedRecords { Sys.initialized (.still [0x40, 2, 0, 1]) 8 1 with
      connectStatus := .connected } 1 1
    ∀ assertion, .asserted assertion ∈ (auditedRun .default s
      [.request (.publish (some ⟨.qos1, false, false, some [116], 1, none, 0⟩) 1),
        .request (.cancelCallback 1), .processLoop]).events → assertion.Holds := by
  intro s
  apply (stateAssertions_iff .default _ (by decide) (by decide) _).2.2
  have hnamed : ∀ event ∈ (auditedRun .default s
      [.request (.publish (some ⟨.qos1, false, false, some [116], 1, none, 0⟩) 1),
        .request (.cancelCallback 1), .processLoop]).events,
      event ≠ .cancelCallback packetIdInvalid := by decide
  rintro packetId hmem rfl
  exact hnamed _ hmem rfl

/-- `MQTT_CancelCallback` without a packet id fails an assertion. -/
theorem not_stateAssertions :
    ¬ ∀ assertion, .asserted assertion ∈ (auditedRun .default (initializedRecords
      (Sys.initialized (.still []) 8 1) 1 1) [.request (.cancelCallback 0)]).events →
        assertion.Holds := by
  intro h
  exact h (.packetIdValid 0) (by decide) rfl

end FreeMqtt

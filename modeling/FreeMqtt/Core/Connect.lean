import FreeMqtt.Core.Receive

/-!
# Connecting

`MQTT_Connect`: the CONNECT packet, the CONNACK, and what follows it, the reset of a new
session or the retransmissions of a resumed one.
-/

namespace FreeMqtt

/-! ## CONNECT -/

/-- The vectors of `sendConnectWithoutCopy`. -/
def connectVectors (pConnectInfo : ConnectInfo) (pWillInfo : Option PublishInfo)
    (remainingLength : Nat) : List (List UInt8) :=
  [mqttSerializeConnectFixedHeader pConnectInfo pWillInfo remainingLength] ++
    addEncodedStringToVector pConnectInfo.pClientIdentifier
      pConnectInfo.clientIdentifierLength ++
    (match pWillInfo with
    | none => []
    | some will =>
        addEncodedStringToVector will.pTopicName will.topicNameLength ++
          addEncodedStringToVector will.pPayload (UInt16.ofNat will.payloadLength)) ++
    (if pConnectInfo.pUserName ≠ none then
      addEncodedStringToVector pConnectInfo.pUserName pConnectInfo.userNameLength
    else []) ++
    if pConnectInfo.pPassword ≠ none then
      addEncodedStringToVector pConnectInfo.pPassword pConnectInfo.passwordLength
    else []

/-- `sendConnectWithoutCopy`. -/
def sendConnectWithoutCopy (c : Config) (s : Sys) (pConnectInfo : ConnectInfo)
    (pWillInfo : Option PublishInfo) (remainingLength : Nat) : Status × Sys :=
  if pWillInfo.any fun will => will.pTopicName = none then (.badParameter, s)
  else
    let pIoVector := connectVectors pConnectInfo pWillInfo remainingLength
    let sent := sendMessageVector c s pIoVector
    (if sent.1 ≠ int32Cast pIoVector.flatten.length then .sendFailed else .success,
      sent.2.recordSent s .connect pIoVector.flatten sent.1)

/-! ## CONNACK -/

/-- `MQTT_REMAINING_LENGTH_INVALID`. -/
def remainingLengthInvalid : Nat := 268435456

/-- The loop of `getRemainingLength`: `remainingLength` and `bytesDecoded`. -/
def getRemainingLengthLoop : (fuel : Nat) → (remainingLength bytesDecoded : Nat) → Sys →
    Nat × Nat × Sys
  | 0, _, bytesDecoded, s => (remainingLengthInvalid, bytesDecoded, s)
  | fuel + 1, remainingLength, bytesDecoded, s =>
      if 128 ^ bytesDecoded > 2097152 then (remainingLengthInvalid, bytesDecoded, s)
      else
        let received := transportRecv s 1
        if received.1 = 1 then
          let encodedByte := received.2.1.headD 0
          let remainingLength :=
            remainingLength + (encodedByte &&& 0x7F).toNat * 128 ^ bytesDecoded
          if encodedByte &&& 0x80 ≠ 0 then
            getRemainingLengthLoop fuel remainingLength (bytesDecoded + 1) received.2.2
          else (remainingLength, bytesDecoded + 1, received.2.2)
        else (remainingLengthInvalid, bytesDecoded, received.2.2)

/-- `getRemainingLength`; its loop ends by the fifth byte. -/
def getRemainingLength (s : Sys) : Nat × Sys :=
  let decoded := getRemainingLengthLoop 5 0 0 s
  (if decoded.1 ≠ remainingLengthInvalid ∧
      decoded.2.1 ≠ remainingLengthEncodedSize decoded.1 then
    remainingLengthInvalid
  else decoded.1, decoded.2.2)

/-- `MQTT_GetIncomingPacketTypeAndLength`, with the packet info before the call. -/
def mqttGetIncomingPacketTypeAndLength (s : Sys) (pIncomingPacket : PacketInfo) :
    Status × PacketInfo × Sys :=
  let received := transportRecv s 1
  if received.1 = 1 then
    let packet := { pIncomingPacket with type := received.2.1.headD 0 }
    if incomingPacketValid packet.type then
      let remaining := getRemainingLength received.2.2
      (if remaining.1 = remainingLengthInvalid then .badResponse else .success,
        { packet with remainingLength := remaining.1 }, remaining.2)
    else (.badResponse, packet, received.2.2)
  else if received.1 = 0 then (.noDataAvailable, pIncomingPacket, received.2.2)
  else (.recvFailed, pIncomingPacket, received.2.2)

/-- The loop of `receiveConnack`. A transport that is used up fails, which ends it. -/
def receiveConnackLoop (c : Config) (timeoutMs entryTimeMs : UInt32) :
    (fuel : Nat) → (loopCount : Nat) → PacketInfo → Sys → Status × PacketInfo × Sys
  | 0, _, packet, s => (.noDataAvailable, packet, s)
  | fuel + 1, loopCount, packet, s =>
      let received := mqttGetIncomingPacketTypeAndLength s packet
      let now := if timeoutMs > 0 then getTime received.2.2 else (0, received.2.2)
      let breakFromLoop : Bool :=
        if timeoutMs > 0 then decide (timeoutMs ≤ calculateElapsedTime now.1 entryTimeMs)
        else decide (c.maxConnackReceiveRetryCount ≤ loopCount)
      if received.1 = .noDataAvailable ∧ breakFromLoop = false then
        receiveConnackLoop c timeoutMs entryTimeMs fuel
          (if timeoutMs > 0 then loopCount else (loopCount + 1) % 65536) received.2.1 now.2
      else (received.1, received.2.1, now.2)

/-- `receiveConnack`: the status, `*pSessionPresent` when it is written, and the context. -/
def receiveConnack (c : Config) (s : Sys) (timeoutMs : UInt32) (cleanSession : Bool) :
    Status × Option Bool × Sys :=
  let entry := getTime s
  let received := receiveConnackLoop c timeoutMs entry.1 (entry.2.recvs.length + 1) 0
    ⟨0, none, 0, 0⟩ entry.2
  if received.1 ≠ .success then (received.1, none, received.2.2)
  else
    let now := getTime received.2.2
    let timeTakenMs := calculateElapsedTime now.1 entry.1
    let remainingTimeMs := if timeTakenMs < timeoutMs then timeoutMs - timeTakenMs else 0
    if received.2.1.type ≠ packetTypeConnack then (.badResponse, none, now.2)
    else
      let packet := receivePacket c now.2 received.2.1 remainingTimeMs
      if packet.1 ≠ .success then (packet.1, none, packet.2)
      else
        let connack := mqttDeserializeAck
          { received.2.1 with pRemainingData := some packet.2.networkBuffer } false true
        if connack.1 ≠ .success then (connack.1, connack.2.2, packet.2)
        else if cleanSession ∧ connack.2.2 = some true then
          (.badResponse, connack.2.2, packet.2)
        else (.success, connack.2.2, packet.2)

/-! ## Sessions -/

/-- The loop of `handleUncleanSessionResumption` over the PUBRELs, entered with the packet
id and the state found. Every iteration moves the cursor on, which bounds them. -/
def resendPubrels (c : Config) : (fuel : Nat) → (packetId : UInt16) → (cursor : Nat) → Sys →
    Status × Sys
  | 0, _, _, s => (.success, s)
  | fuel + 1, packetId, cursor, s =>
      if packetId = packetIdInvalid then (.success, s)
      else
        let sent := sendPublishAcks c s packetId .pubRelSend
        let next := mqttPubrelToResend sent.2.toPublishRecords cursor
        if sent.1 = .success then resendPubrels c fuel next.1 next.2.1 sent.2
        else sent

/-- The loop of `handleUncleanSessionResumption` over the publishes. -/
def resendPublishes (c : Config) : (fuel : Nat) → (cursor : Nat) → Sys → Status × Sys
  | 0, _, s => (.success, s)
  | fuel + 1, cursor, s =>
      let next := mqttPublishToResend s.toPublishRecords cursor
      if next.1 = packetIdInvalid then (.success, s)
      else
        let retrieved := callRetrieve s next.1
        match retrieved.1 with
        | none => (.publishRetrieveFailed, retrieved.2)
        | some packet =>
            let sent := sendPacket c retrieved.2 (.resend next.1) packet
            if sent.1 ≠ int32Cast packet.length then (.sendFailed, sent.2)
            else resendPublishes c fuel next.2 sent.2

/-- `handleUncleanSessionResumption`. -/
def handleUncleanSessionResumption (c : Config) (s : Sys) : Status × Sys :=
  let fuel := s.outgoingPublishRecords.length + 1
  let first := mqttPubrelToResend s.toPublishRecords 0
  let pubrels := resendPubrels c fuel first.1 first.2.1 s
  if pubrels.1 = .success ∧ pubrels.2.retrieveFunction then resendPublishes c fuel 0 pubrels.2
  else pubrels

/-- The loop of `handleCleanSession` over the publishes to clear. -/
def clearPublishes : (fuel : Nat) → (cursor : Nat) → Sys → Sys
  | 0, _, s => s
  | fuel + 1, cursor, s =>
      let next := mqttPublishToResend s.toPublishRecords cursor
      if next.1 = packetIdInvalid then s else clearPublishes fuel next.2 (callClear s next.1)

/-- `handleCleanSession`. -/
def handleCleanSession (s : Sys) : Sys :=
  let s := s.clearBuffer
  let s :=
    if s.clearFunction then clearPublishes (s.outgoingPublishRecords.length + 1) 0 s else s
  s.setRecords (.zeroed s.outgoingPublishRecords.length s.incomingPublishRecords.length)

/-! ## `MQTT_Connect` -/

/-- The part of `MQTT_Connect` between the check of the connection status and the
resumption of a session: the status, `*pSessionPresent`, and the context. -/
def establish (c : Config) (s : Sys) (pConnectInfo : ConnectInfo)
    (pWillInfo : Option PublishInfo) (remainingLength : Nat) (timeoutMs : UInt32) :
    Status × Option Bool × Sys :=
  let sent := sendConnectWithoutCopy c s pConnectInfo pWillInfo remainingLength
  if sent.1 ≠ .success then (sent.1, none, sent.2)
  else
    let connack := receiveConnack c sent.2 timeoutMs pConnectInfo.cleanSession
    if connack.1 ≠ .success then connack
    else
      let s := if connack.2.1 ≠ some true then handleCleanSession connack.2.2 else connack.2.2
      (.success, connack.2.1, { s with
        connectStatus := .connected
        keepAliveIntervalSec := pConnectInfo.keepAliveSeconds
        waitingForPingResp := false
        pingReqSendTimeMs := 0 })

/-- `MQTT_Connect`: the status, `*pSessionPresent` when it is written, and the context. -/
def mqttConnect (c : Config) (s : Sys) (pConnectInfo : Option ConnectInfo)
    (pWillInfo : Option PublishInfo) (timeoutMs : UInt32) : Status × Option Bool × Sys :=
  let sizes := mqttGetConnectPacketSize pConnectInfo pWillInfo
  let failed (status : Status) (sessionPresent : Option Bool) (s : Sys) :
      Status × Option Bool × Sys :=
    -- the retransmissions failed: the application has to disconnect first
    (status, sessionPresent,
      { s with
        connectStatus :=
          if s.connectStatus = .connected then .disconnectPending else s.connectStatus })
  match pConnectInfo with
  | none => failed .badParameter none s
  | some info =>
      if sizes.1 ≠ .success then failed sizes.1 none s
      else if s.connectStatus ≠ .notConnected then
        (if s.connectStatus = .connected then .statusConnected else .statusDisconnectPending,
          none, s)
      else
        let established := establish c s info pWillInfo sizes.2.1 timeoutMs
        if established.1 ≠ .success then failed established.1 established.2.1 established.2.2
        else if established.2.1 = some true then
          let resumed := handleUncleanSessionResumption c established.2.2
          if resumed.1 = .success then (.success, some true, resumed.2)
          else failed resumed.1 (some true) resumed.2
        else established

end FreeMqtt

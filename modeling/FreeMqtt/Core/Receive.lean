import FreeMqtt.Core.Requests

/-!
# Receiving packets

`recvExact` and the functions that discard or read a packet with it, the handlers of
incoming packets, and `receiveSingleIteration` with its two callers.
-/

namespace FreeMqtt

/-! ## The network buffer -/

/-- `bytes` written into the buffer at an offset. Nothing is written past its end. -/
def writeAt (buffer : List UInt8) (offset : Nat) (bytes : List UInt8) : List UInt8 :=
  (buffer.take offset ++ bytes ++ buffer.drop (offset + bytes.length)).take buffer.length

/-- `memmove` of `length` bytes from an offset of the buffer to its front. -/
def moveToFront (buffer : List UInt8) (offset length : Nat) : List UInt8 :=
  writeAt buffer 0 ((buffer.drop offset).take length)

/-! ## `recvExact` -/

/-- The loop of `recvExact`, which writes from `offset` on. -/
def recvExactLoop (c : Config) : (fuel : Nat) → (offset bytesRemaining : Nat) →
    (totalBytesRecvd : Int) → (lastDataRecvTimeMs : UInt32) → Sys → Int × Sys
  | 0, _, _, totalBytesRecvd, _, s => (totalBytesRecvd, s)
  | fuel + 1, offset, bytesRemaining, totalBytesRecvd, lastDataRecvTimeMs, s =>
      if 0 < bytesRemaining then
        let received := transportRecv s bytesRemaining
        let s := { received.2.2 with
          networkBuffer := writeAt received.2.2.networkBuffer offset received.2.1 }
        if received.1 < 0 then (received.1, networkError s)
        else if received.1 > 0 then
          let now := getTime s
          recvExactLoop c fuel (offset + received.1.toNat)
            (bytesRemaining - received.1.toNat) (totalBytesRecvd + received.1) now.1 now.2
        else
          let now := getTime s
          if c.recvPollingTimeoutMs ≤ (calculateElapsedTime now.1 lastDataRecvTimeMs).toNat then
            (totalBytesRecvd, now.2)
          else
            recvExactLoop c fuel offset bytesRemaining totalBytesRecvd lastDataRecvTimeMs now.2
      else (totalBytesRecvd, s)

/-- `recvExact`. -/
def recvExact (c : Config) (s : Sys) (bytesToRecv : Nat) : Int × Sys :=
  let now := getTime s
  recvExactLoop c (s.recvs.length + bytesToRecv + 1) 0 bytesToRecv 0 now.1 now.2

/-! ## Discarding and reading packets -/

/-- The loop of `discardStoredPacket`: `totalBytesReceived`. -/
def discardStoredLoop (c : Config) (remainingLength : Nat) :
    (fuel : Nat) → (bytesToReceive totalBytesReceived : Nat) → Sys → Nat × Sys
  | 0, _, totalBytesReceived, s => (totalBytesReceived, s)
  | fuel + 1, bytesToReceive, totalBytesReceived, s =>
      if totalBytesReceived < remainingLength then
        let bytesToReceive := min bytesToReceive (remainingLength - totalBytesReceived)
        let received := recvExact c s bytesToReceive
        if received.1 ≠ int32Cast bytesToReceive then (totalBytesReceived, received.2)
        else
          discardStoredLoop c remainingLength fuel bytesToReceive
            (totalBytesReceived + received.1.toNat) received.2
      else (totalBytesReceived, s)

/-- `discardStoredPacket`. -/
def discardStoredPacket (c : Config) (s : Sys) (pPacketInfo : PacketInfo) : Status × Sys :=
  let mqttPacketSize := pPacketInfo.remainingLength + pPacketInfo.headerLength
  let remainingLength := c.sizeSub mqttPacketSize s.index
  let discarded := discardStoredLoop c remainingLength (remainingLength + 1)
    s.networkBuffer.length 0 s
  (if discarded.1 = remainingLength then .noDataAvailable else .recvFailed,
    discarded.2.clearBuffer)

/-- The loop of `discardPacket`. -/
def discardLoop (c : Config) (remainingLength : Nat) (timeoutMs entryTimeMs : UInt32) :
    (fuel : Nat) → (bytesToReceive totalBytesReceived : Nat) → Sys → Nat × Sys
  | 0, _, totalBytesReceived, s => (totalBytesReceived, s)
  | fuel + 1, bytesToReceive, totalBytesReceived, s =>
      if totalBytesReceived < remainingLength then
        let bytesToReceive := min bytesToReceive (remainingLength - totalBytesReceived)
        let received := recvExact c s bytesToReceive
        if received.1 ≠ int32Cast bytesToReceive then (totalBytesReceived, received.2)
        else
          let now := getTime received.2
          let totalBytesReceived := totalBytesReceived + received.1.toNat
          if timeoutMs ≤ calculateElapsedTime now.1 entryTimeMs then (totalBytesReceived, now.2)
          else
            discardLoop c remainingLength timeoutMs entryTimeMs fuel bytesToReceive
              totalBytesReceived now.2
      else (totalBytesReceived, s)

/-- `discardPacket`. -/
def discardPacket (c : Config) (s : Sys) (remainingLength : Nat) (timeoutMs : UInt32) :
    Status × Sys :=
  let entry := getTime s
  let discarded := discardLoop c remainingLength timeoutMs entry.1 (remainingLength + 1)
    s.networkBuffer.length 0 entry.2
  (if discarded.1 = remainingLength then .noDataAvailable else .recvFailed, discarded.2)

/-- `receivePacket`. -/
def receivePacket (c : Config) (s : Sys) (incomingPacket : PacketInfo)
    (remainingTimeMs : UInt32) : Status × Sys :=
  if s.networkBuffer.length < incomingPacket.remainingLength then
    discardPacket c s incomingPacket.remainingLength remainingTimeMs
  else
    let received := recvExact c s incomingPacket.remainingLength
    (if received.1 = int32Cast incomingPacket.remainingLength then .success else .recvFailed,
      received.2)

/-! ## Handlers -/

/-- `handleKeepAlive`. -/
def handleKeepAlive (c : Config) (s : Sys) : Status × Sys :=
  let now := getTime s
  let s := now.2
  let packetTxTimeoutMs := min c.packetTxTimeoutMs (1000 * s.keepAliveIntervalSec.toNat)
  if s.waitingForPingResp then
    (if c.pingrespTimeoutMs < (calculateElapsedTime now.1 s.pingReqSendTimeMs).toNat then
      .keepAliveTimeout
    else .success, s)
  else if packetTxTimeoutMs ≠ 0 ∧
      packetTxTimeoutMs ≤ (calculateElapsedTime now.1 s.lastPacketTxTime).toNat then
    mqttPing c s
  else
    let timeElapsed := (calculateElapsedTime now.1 s.lastPacketRxTime).toNat
    if timeElapsed ≠ 0 ∧ c.packetRxTimeoutMs ≤ timeElapsed then mqttPing c s
    else (.success, s)

/-- `handleIncomingPublish`. -/
def handleIncomingPublish (c : Config) (s : Sys) (pIncomingPacket : PacketInfo) : Status × Sys :=
  let packet := mqttDeserializePublish pIncomingPacket
  let packetIdentifier := packet.2.1.getD 0
  let publishInfo := packet.2.2
  if packet.1 ≠ .success then (packet.1, s)
  else if s.incomingPublishRecords = [] ∧ publishInfo.qos ≠ .qos0 then (.recvFailed, s)
  else
    let updated :=
      mqttUpdateStatePublish s.toPublishRecords packetIdentifier .receive publishInfo.qos
    let s := s.setRecords updated.2.2
    if updated.1 = .success then
      let s := appCallback c s pIncomingPacket ⟨packetIdentifier, some publishInfo, .success⟩
      sendPublishAcks c s packetIdentifier (updated.2.1.getD .null)
    else if updated.1 = .stateCollision then
      -- a duplicate is acknowledged, but not given to the application
      sendPublishAcks c s packetIdentifier (mqttCalculateStatePublish .receive publishInfo.qos)
    else (updated.1, s)

/-- `handlePublishAcks`. -/
def handlePublishAcks (c : Config) (s : Sys) (pIncomingPacket : PacketInfo) : Status × Sys :=
  let ackType := getAckFromPacketType pIncomingPacket.type
  let packet := mqttDeserializeAck pIncomingPacket true false
  let packetIdentifier := packet.2.1.getD 0
  if packet.1 ≠ .success then (packet.1, s)
  else
    let updated := mqttUpdateStateAck s.toPublishRecords packetIdentifier ackType .receive
    let s := s.setRecords updated.2.2
    if updated.1 ≠ .success then (updated.1, s)
    else
      let s :=
        if (ackType = .puback ∨ ackType = .pubrec) ∧ s.clearFunction then
          callClear s packetIdentifier
        else s
      let s := appCallback c s pIncomingPacket ⟨packetIdentifier, none, .success⟩
      sendPublishAcks c s packetIdentifier (updated.2.1.getD .null)

/-- `handleIncomingAck`. -/
def handleIncomingAck (c : Config) (s : Sys) (pIncomingPacket : PacketInfo)
    (manageKeepAlive : Bool) : Status × Sys :=
  let type := pIncomingPacket.type
  let packet := mqttDeserializeAck pIncomingPacket true false
  let packetIdentifier := packet.2.1.getD packetIdInvalid
  if type = packetTypePuback ∨ type = packetTypePubrec ∨ type = packetTypePubrel ∨
      type = packetTypePubcomp then
    handlePublishAcks c s pIncomingPacket
  else if type = packetTypePingresp then
    if packet.1 ≠ .success then (packet.1, s)
    else if manageKeepAlive then (.success, { s with waitingForPingResp := false })
    else (.success, appCallback c s pIncomingPacket ⟨packetIdentifier, none, packet.1⟩)
  else if type = packetTypeSuback ∨ type = packetTypeUnsuback then
    if packet.1 = .success ∨ packet.1 = .serverRefused then
      (.success, appCallback c s pIncomingPacket ⟨packetIdentifier, none, packet.1⟩)
    else (packet.1, s)
  else (.badResponse, s)

/-! ## `receiveSingleIteration` -/

/-- The read of `receiveSingleIteration`, up to the type and the length of the packet in
front of the buffer: `recvBytes`, the status, the packet, and the context. -/
def readIntoBuffer (c : Config) (s : Sys) : Int × Status × PacketInfo × Sys :=
  let received := transportRecv s (c.sizeSub s.networkBuffer.length s.index)
  let s := { received.2.2 with
    networkBuffer := writeAt received.2.2.networkBuffer s.index received.2.1 }
  if received.1 < 0 then (received.1, .recvFailed, ⟨0, none, 0, 0⟩, networkError s)
  else if received.1 = 0 ∧ s.index = 0 then
    (received.1, .noDataAvailable, ⟨0, none, 0, 0⟩, s)
  else
    let s := { s with index := s.index + received.1.toNat }
    let packet := mqttProcessIncomingPacketTypeAndLength s.networkBuffer s.index
    (received.1, packet.1, packet.2, s)

/-- The keep-alive check of `receiveSingleIteration` after a read of `recvBytes` bytes. -/
def checkKeepAlive (c : Config) (recvBytes : Int) (manageKeepAlive : Bool) (status : Status)
    (s : Sys) : Status × Sys :=
  if recvBytes = 0 ∧ manageKeepAlive then
    let kept := handleKeepAlive c s
    (if kept.1 = .success then status else kept.1, kept.2)
  else (status, s)

/-- The check that the packet in front of the buffer is complete. -/
def checkComplete (c : Config) (status : Status) (packet : PacketInfo) (s : Sys) : Status × Sys :=
  let totalMQTTPacketLength := packet.remainingLength + packet.headerLength
  if status ≠ .success then (status, s)
  else if s.networkBuffer.length < totalMQTTPacketLength then discardStoredPacket c s packet
  else if s.index < totalMQTTPacketLength then (.needMoreBytes, s)
  else (.success, s)

/-- The call of the handler for the type of a packet. -/
def handlePacket (c : Config) (manageKeepAlive : Bool) (packet : PacketInfo) (s : Sys) :
    Status × Sys :=
  let s := s.record (.dispatched packet.type
    (readBytes packet.pRemainingData packet.remainingLength))
  if packet.type &&& 0xF0 = packetTypePublish then handleIncomingPublish c s packet
  else handleIncomingAck c s packet manageKeepAlive

/-- The complete packet in front of the buffer handed to its handler and taken out. -/
def dispatchPacket (c : Config) (manageKeepAlive : Bool) (packet : PacketInfo) (s : Sys) :
    Status × Sys :=
  let totalMQTTPacketLength := packet.remainingLength + packet.headerLength
  let handled := handlePacket c manageKeepAlive
    { packet with pRemainingData := some (s.networkBuffer.drop packet.headerLength) } s
  let index := c.sizeSub handled.2.index totalMQTTPacketLength
  let s := { handled.2 with
    index
    networkBuffer := moveToFront handled.2.networkBuffer totalMQTTPacketLength index }
  if handled.1 = .success then
    let now := getTime s
    (.success, { now.2 with lastPacketRxTime := now.1 })
  else (handled.1, s)

/-- `receiveSingleIteration`. -/
def receiveSingleIteration (c : Config) (s : Sys) (manageKeepAlive : Bool) : Status × Sys :=
  let read := readIntoBuffer c s
  let kept := checkKeepAlive c read.1 manageKeepAlive read.2.1 read.2.2.2
  let complete := checkComplete c kept.1 read.2.2.1 kept.2
  let handled :=
    if complete.1 = .success then dispatchPacket c manageKeepAlive read.2.2.1 complete.2
    else complete
  (if handled.1 = .noDataAvailable then .success else handled.1, handled.2)

/-- `MQTT_ProcessLoop`. -/
def mqttProcessLoop (c : Config) (s : Sys) : Status × Sys :=
  receiveSingleIteration c { s with controlPacketSent := false } true

/-- `MQTT_ReceiveLoop`. -/
def mqttReceiveLoop (c : Config) (s : Sys) : Status × Sys :=
  receiveSingleIteration c s false

end FreeMqtt

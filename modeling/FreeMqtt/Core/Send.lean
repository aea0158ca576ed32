import FreeMqtt.Core.System

/-!
# Sending bytes

`sendBuffer`, `sendMessageVector` and `sendPublishAcks`. The loops run on fuel: an
iteration uses up one result of the transport, or, when the schedule is used up, sends all
that is offered.
-/

namespace FreeMqtt

/-! ## `sendBuffer` -/

/-- What a negative result of the transport does to the connection status. -/
def networkError (s : Sys) : Sys :=
  { s with
    connectStatus :=
      if s.connectStatus = .connected then .disconnectPending else s.connectStatus }

/-- What a loop of `sendBuffer` or `sendMessageVector` does with a result of the transport:
`bytesSentOrError`, and the context. -/
def afterSend (bytesSentOrError sendResult : Int) (s : Sys) : Int × Sys :=
  if sendResult > 0 then
    let now := getTime s
    (bytesSentOrError + sendResult, { now.2 with lastPacketTxTime := now.1 })
  else if sendResult < 0 then (sendResult, networkError s)
  else (bytesSentOrError, s)

/-- The loop of `sendBuffer`; `rest` is what `pIndex` points to. -/
def sendBufferLoop (c : Config) (startTime : UInt32) (bytesToSend : Nat) :
    (fuel : Nat) → (rest : List UInt8) → (bytesSentOrError : Int) → Sys → Int × Sys
  | 0, _, bytesSentOrError, s => (bytesSentOrError, s)
  | fuel + 1, rest, bytesSentOrError, s =>
      if bytesSentOrError < int32Cast bytesToSend ∧ 0 ≤ bytesSentOrError then
        let sent := transportSend s rest
        let after := afterSend bytesSentOrError sent.1 sent.2
        let now := getTime after.2
        if c.sendTimeoutMs ≤ (calculateElapsedTime now.1 startTime).toNat then (after.1, now.2)
        else
          sendBufferLoop c startTime bytesToSend fuel (rest.drop sent.1.toNat) after.1 now.2
      else (bytesSentOrError, s)

/-- `sendBuffer`. -/
def sendBuffer (c : Config) (s : Sys) (buffer : List UInt8) : Int × Sys :=
  let start := getTime s
  sendBufferLoop c start.1 buffer.length (s.sends.length + 1) buffer 0 start.2

/-! ## `sendMessageVector` -/

/-- The update of `pIoVectIterator` after a result of the transport. -/
def advanceVectors : (sendResult : Int) → List (List UInt8) → List (List UInt8)
  | _, [] => []
  | sendResult, vector :: vectors =>
      if sendResult ≥ int32Cast vector.length then
        advanceVectors (sendResult - int32Cast vector.length) vectors
      else vector.drop sendResult.toNat :: vectors

/-- The loop of `sendMessageVector`; `vectors` are those from `pIoVectIterator` on. -/
def sendMessageVectorLoop (c : Config) (startTime : UInt32) (bytesToSend : Nat) :
    (fuel : Nat) → (vectors : List (List UInt8)) → (bytesSentOrError : Int) → Sys → Int × Sys
  | 0, _, bytesSentOrError, s => (bytesSentOrError, s)
  | fuel + 1, vectors, bytesSentOrError, s =>
      if bytesSentOrError < int32Cast bytesToSend ∧ 0 ≤ bytesSentOrError then
        let sent := transportSend s (if s.writev then vectors.flatten else vectors.headD [])
        let after := afterSend bytesSentOrError sent.1 sent.2
        let now := getTime after.2
        if c.sendTimeoutMs < (calculateElapsedTime now.1 startTime).toNat then (after.1, now.2)
        else
          sendMessageVectorLoop c startTime bytesToSend fuel (advanceVectors sent.1 vectors)
            after.1 now.2
      else (bytesSentOrError, s)

/-- `sendMessageVector`. -/
def sendMessageVector (c : Config) (s : Sys) (pIoVec : List (List UInt8)) : Int × Sys :=
  let start := getTime s
  sendMessageVectorLoop c start.1 pIoVec.flatten.length
    (s.sends.length + pIoVec.length + 1) pIoVec 0 start.2

/-! ## Ghost log of a packet -/

/-- The packet `bytes` in the log, after it was sent from state `s` with this last result
of `sendBuffer` or `sendMessageVector`. -/
def Sys.recordSent (after s : Sys) (kind : PacketKind) (bytes : List UInt8) (result : Int) :
    Sys :=
  let accepted := after.wire.length - s.wire.length
  after.record (.sent kind bytes accepted
    (if result < 0 then .networkError
    else if accepted = bytes.length then .complete
    else .abandoned))

/-- `sendBuffer` on a packet of its own. -/
def sendPacket (c : Config) (s : Sys) (kind : PacketKind) (packet : List UInt8) : Int × Sys :=
  let sent := sendBuffer c s packet
  (sent.1, sent.2.recordSent s kind packet sent.1)

/-! ## Acknowledgements -/

/-- The status of a call that needs a connection and has none. -/
def notConnectedStatus (connectStatus : ConnectionStatus) : Status :=
  if connectStatus = .notConnected then .statusNotConnected else .statusDisconnectPending

/-- `getAckFromPacketType`. -/
def getAckFromPacketType (packetType : UInt8) : PubAckType :=
  if packetType = packetTypePuback then .puback
  else if packetType = packetTypePubrec then .pubrec
  else if packetType = packetTypePubrel then .pubrel
  else .pubcomp

/-- `getAckTypeToSend`. -/
def getAckTypeToSend (state : PublishState) : UInt8 :=
  match state with
  | .pubAckSend => packetTypePuback
  | .pubRecSend => packetTypePubrec
  | .pubRelSend => packetTypePubrel
  | .pubCompSend => packetTypePubcomp
  | _ => 0

/-- `sendPublishAcks`. -/
def sendPublishAcks (c : Config) (s : Sys) (packetId : UInt16) (publishState : PublishState) :
    Status × Sys :=
  let packetTypeByte := getAckTypeToSend publishState
  if packetTypeByte = 0 then (.success, s)
  else
    let packetType := getAckFromPacketType packetTypeByte
    let packet := mqttSerializeAck packetTypeByte packetId
    if packet.1 ≠ .success then (packet.1, s)
    else if s.connectStatus ≠ .connected then (notConnectedStatus s.connectStatus, s)
    else
      let sent := sendPacket c s (.ack packetType packetId) packet.2
      if sent.1 < publishAckPacketSize then (.sendFailed, sent.2)
      else
        let s := { sent.2 with controlPacketSent := true }
        let updated := mqttUpdateStateAck s.toPublishRecords packetId packetType .send
        (updated.1, s.setRecords updated.2.2)

end FreeMqtt

import FreeMqtt.Serializer.Encode

/-!
# Incoming packets

The decoding half of `core_mqtt_serializer.c`. Output parameters are components of the
result. The data of a packet is read through the pointer of its `PacketInfo`, one byte at
a time (`byteAt`).
-/

namespace FreeMqtt

/-- The byte at an offset of a pointer. -/
def byteAt (base : Pointer) (offset : Nat) : UInt8 := (base.getD []).getD offset 0

/-- The pointer advanced by an offset. -/
def Pointer.advance (base : Pointer) (offset : Nat) : Pointer := base.map (·.drop offset)

/-- `UINT16_DECODE` at an offset of a pointer. -/
def uint16Decode (base : Pointer) (offset : Nat) : UInt16 :=
  ((byteAt base offset).toUInt16 <<< 8) ||| (byteAt base (offset + 1)).toUInt16

theorem uint16Decode_uint16Bytes (x : UInt16) : uint16Decode (some (uint16Bytes x)) 0 = x := by
  have h : uint16Decode (some (uint16Bytes x)) 0 =
    ((x >>> 8).toUInt8.toUInt16 <<< 8) ||| (x &&& 0x00ff).toUInt8.toUInt16 := rfl
  have hlt := x.toNat_lt
  have hmask : (x &&& 0x00ff).toNat = x.toNat % 2 ^ 8 := by
    rw [UInt16.toNat_and]
    exact Nat.and_two_pow_sub_one_eq_mod x.toNat 8
  have height : UInt16.toNat 8 % 16 = 8 := rfl
  have hhigh : x.toNat / 2 ^ 8 % 2 ^ 8 * 2 ^ 8 % 2 ^ 16 = 2 ^ 8 * (x.toNat / 2 ^ 8) := by omega
  rw [h, ← UInt16.toNat_inj]
  simp only [UInt16.toNat_or, UInt16.toNat_shiftLeft, UInt8.toNat_toUInt16, UInt16.toNat_toUInt8,
    UInt16.toNat_shiftRight, hmask, height, Nat.shiftRight_eq_div_pow, Nat.shiftLeft_eq,
    Nat.mod_mod, hhigh]
  rw [← Nat.two_pow_add_eq_or_of_lt (Nat.mod_lt _ (by decide)), Nat.div_add_mod]

/-! ## Type and length -/

/-- `incomingPacketValid`. -/
def incomingPacketValid (packetType : UInt8) : Bool :=
  let high := packetType &&& 0xF0
  if high = packetTypeConnack ∨ high = packetTypePublish ∨ high = packetTypePuback ∨
      high = packetTypePubrec ∨ high = packetTypePubcomp ∨ high = packetTypeSuback ∨
      high = packetTypeUnsuback ∨ high = packetTypePingresp then true
  -- the second bit of a PUBREL must be set
  else if high = packetTypePubrel &&& 0xF0 then decide (packetType &&& 0x02 > 0)
  else false

/-- The loop of `processRemainingLength`, on the bytes behind the first one: the status,
`remainingLength` and `bytesDecoded`. The multiplier of the iteration is
`128 ^ bytesDecoded`. -/
def processRemainingLengthLoop : (bytes : List UInt8) → (remainingLength : Nat) →
    (bytesDecoded : Nat) → Status × Nat × Nat
  | bytes, remainingLength, bytesDecoded =>
      if 128 ^ bytesDecoded > 2097152 then (.badResponse, remainingLength, bytesDecoded)
      else
        match bytes with
        | [] => (.needMoreBytes, remainingLength, bytesDecoded)
        | encodedByte :: rest =>
            let remainingLength :=
              remainingLength + (encodedByte &&& 0x7F).toNat * 128 ^ bytesDecoded
            if encodedByte &&& 0x80 ≠ 0 then
              processRemainingLengthLoop rest remainingLength (bytesDecoded + 1)
            else (.success, remainingLength, bytesDecoded + 1)

/-- `processRemainingLength` on the first `index` bytes of the buffer: the status, the
remaining length and the header length. -/
def processRemainingLength (pBuffer : List UInt8) (index : Nat) : Status × Nat × Nat :=
  let decoded := processRemainingLengthLoop ((pBuffer.take index).drop 1) 0 0
  if decoded.1 = .success then
    if decoded.2.2 ≠ remainingLengthEncodedSize decoded.2.1 then (.badResponse, 0, 0)
    else (.success, decoded.2.1, decoded.2.2 + 1)
  else (decoded.1, 0, 0)

/-- `MQTT_ProcessIncomingPacketTypeAndLength`, with a packet info that was zero before. -/
def mqttProcessIncomingPacketTypeAndLength (pBuffer : List UInt8) (index : Nat) :
    Status × PacketInfo :=
  if index < 1 then (.noDataAvailable, ⟨0, none, 0, 0⟩)
  else
    let type := pBuffer.getD 0 0
    if incomingPacketValid type then
      let decoded := processRemainingLength pBuffer index
      (decoded.1, ⟨type, none, decoded.2.1, decoded.2.2⟩)
    else (.badResponse, ⟨type, none, 0, 0⟩)

/-! ## PUBLISH -/

/-- `checkPublishRemainingLength`. -/
def checkPublishRemainingLength (remainingLength : Nat) (qos : QoS) (qos0Minimum : Nat) :
    Status :=
  if qos = .qos0 then if remainingLength < qos0Minimum then .badResponse else .success
  else if remainingLength < qos0Minimum + 2 then .badResponse else .success

/-- The QoS that `processPublishFlags` reads, `none` for its failure. -/
def publishFlagsQoS (publishFlags : UInt8) : Option QoS :=
  if checkBit publishFlags 2 then if checkBit publishFlags 1 then none else some .qos2
  else if checkBit publishFlags 1 then some .qos1
  else some .qos0

/-- `deserializePublish`: the status, `*pPacketId` when it is written, and the publish
information. -/
def deserializePublish (pIncomingPacket : PacketInfo) : Status × Option UInt16 × PublishInfo :=
  let flags := pIncomingPacket.type &&& 0x0F
  let data := pIncomingPacket.pRemainingData
  let empty : PublishInfo := ⟨.qos0, false, false, none, 0, none, 0⟩
  match publishFlagsQoS flags with
  | none => (.badResponse, none, empty)
  | some qos =>
      let info := { empty with qos, retain := checkBit flags 0, dup := checkBit flags 3 }
      if checkPublishRemainingLength pIncomingPacket.remainingLength qos 3 ≠ .success then
        (.badResponse, none, info)
      else
        let info := { info with topicNameLength := uint16Decode data 0 }
        let topicNameLength := info.topicNameLength.toNat
        if checkPublishRemainingLength pIncomingPacket.remainingLength qos
            (topicNameLength + 2) ≠ .success then
          (.badResponse, none, info)
        else
          let info := { info with pTopicName := data.advance 2 }
          let packetId := if qos = .qos0 then none else some (uint16Decode data (topicNameLength + 2))
          let payload := topicNameLength + 2 + if qos = .qos0 then 0 else 2
          if packetId = some 0 then (.badResponse, packetId, info)
          else
            let payloadLength := pIncomingPacket.remainingLength - payload
            (.success, packetId,
              { info with
                payloadLength
                pPayload := if payloadLength ≠ 0 then data.advance payload else none })

/-- `MQTT_DeserializePublish`. -/
def mqttDeserializePublish (pIncomingPacket : PacketInfo) :
    Status × Option UInt16 × PublishInfo :=
  let empty : PublishInfo := ⟨.qos0, false, false, none, 0, none, 0⟩
  if pIncomingPacket.type &&& 0xF0 ≠ packetTypePublish then (.badParameter, none, empty)
  else if pIncomingPacket.pRemainingData = none then (.badParameter, none, empty)
  else deserializePublish pIncomingPacket

/-! ## Acknowledgements -/

/-- `deserializeConnack`: the status, and `*pSessionPresent` when it is written. -/
def deserializeConnack (pConnack : PacketInfo) : Status × Option Bool :=
  let first := byteAt pConnack.pRemainingData 0
  let second := byteAt pConnack.pRemainingData 1
  if pConnack.remainingLength ≠ 2 then (.badResponse, none)
  else if first ||| 0x01 ≠ 0x01 then (.badResponse, none)
  else
    let sessionPresent := first &&& 0x01 == 0x01
    if sessionPresent ∧ second ≠ 0 then (.badResponse, some sessionPresent)
    else if second > 5 then (.badResponse, some sessionPresent)
    else if second > 0 then (.serverRefused, some sessionPresent)
    else (.success, some sessionPresent)

/-- `readSubackStatus` on the status bytes. -/
def readSubackStatus : List UInt8 → (status : Status) → Status
  | [], status => status
  | subscriptionStatus :: rest, status =>
      if subscriptionStatus = 0x00 ∨ subscriptionStatus = 0x01 ∨ subscriptionStatus = 0x02 then
        readSubackStatus rest status
      else if subscriptionStatus = 0x80 then readSubackStatus rest .serverRefused
      else .badResponse

/-- `deserializeSuback`: the status, and `*pPacketIdentifier` when it is written. -/
def deserializeSuback (pSuback : PacketInfo) : Status × Option UInt16 :=
  if pSuback.remainingLength < 3 then (.badResponse, none)
  else
    let packetId := uint16Decode pSuback.pRemainingData 0
    if packetId = 0 then (.badResponse, some packetId)
    else
      (readSubackStatus (readBytes (pSuback.pRemainingData.advance 2)
        (pSuback.remainingLength - 2)) .success, some packetId)

/-- `deserializeSimpleAck`. -/
def deserializeSimpleAck (pAck : PacketInfo) : Status × Option UInt16 :=
  if pAck.remainingLength ≠ 2 then (.badResponse, none)
  else
    let packetId := uint16Decode pAck.pRemainingData 0
    if packetId = 0 then (.badResponse, some packetId) else (.success, some packetId)

/-- `deserializePingresp`. -/
def deserializePingresp (pPingresp : PacketInfo) : Status :=
  if pPingresp.remainingLength ≠ 0 then .badResponse else .success

/-- `MQTT_DeserializeAck`: the status, `*pPacketId` and `*pSessionPresent` when they are
written. The flags say which of the two output pointers are not `NULL`. -/
def mqttDeserializeAck (pIncomingPacket : PacketInfo) (pPacketId pSessionPresent : Bool) :
    Status × Option UInt16 × Option Bool :=
  let type := pIncomingPacket.type
  if pPacketId = false ∧ type ≠ packetTypeConnack ∧ type ≠ packetTypePingresp then
    (.badParameter, none, none)
  else if pSessionPresent = false ∧ type = packetTypeConnack then (.badParameter, none, none)
  else if pIncomingPacket.pRemainingData = none ∧ type ≠ packetTypePingresp then
    (.badParameter, none, none)
  else if type = packetTypeConnack then
    let ack := deserializeConnack pIncomingPacket
    (ack.1, none, ack.2)
  else if type = packetTypeSuback then
    let ack := deserializeSuback pIncomingPacket
    (ack.1, ack.2, none)
  else if type = packetTypePingresp then (deserializePingresp pIncomingPacket, none, none)
  else if type = packetTypeUnsuback ∨ type = packetTypePuback ∨ type = packetTypePubrec ∨
      type = packetTypePubrel ∨ type = packetTypePubcomp then
    let ack := deserializeSimpleAck pIncomingPacket
    (ack.1, ack.2, none)
  else (.badResponse, none, none)

end FreeMqtt

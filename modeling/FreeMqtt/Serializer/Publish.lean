import FreeMqtt.Serializer.Length

/-!
# Serialized PUBLISH packets

`MQTT_SerializePublish` and `MQTT_SerializePublishHeader`, which write into a buffer that the
caller provides, and the sizes that `MQTT_GetPublishPacketSize` computes for them.
-/

namespace FreeMqtt

/-! ## Writing into a buffer -/

/-- `serializePublishCommon`: the bytes written. -/
def serializePublishCommon (pPublishInfo : PublishInfo) (remainingLength : Nat)
    (packetIdentifier : UInt16) (serializePayload : Bool) : List UInt8 :=
  [publishFlags pPublishInfo] ++ encodeRemainingLength remainingLength ++
    encodeString pPublishInfo.pTopicName pPublishInfo.topicNameLength ++
    (if pPublishInfo.qos ≠ .qos0 then uint16Bytes packetIdentifier else []) ++
    if 0 < pPublishInfo.payloadLength ∧ serializePayload then
      readBytes pPublishInfo.pPayload pPublishInfo.payloadLength
    else []

/-- Bytes written at the front of a buffer. -/
def writeFront (buffer bytes : List UInt8) : List UInt8 := bytes ++ buffer.drop bytes.length

/-- The checks that `MQTT_SerializePublish` and `MQTT_SerializePublishHeader` share, with the
packet size and the bytes to write. No pointer to the information or to the buffer is `NULL`. -/
def serializeInto (pPublishInfo : PublishInfo) (packetId : UInt16) (packetSize : Nat)
    (bytes buffer : List UInt8) : Status × List UInt8 :=
  if pPublishInfo.pTopicName = none ∨ pPublishInfo.topicNameLength = 0 then
    (.badParameter, buffer)
  else if pPublishInfo.qos ≠ .qos0 ∧ packetId = 0 then (.badParameter, buffer)
  else if pPublishInfo.dup ∧ pPublishInfo.qos = .qos0 then (.badParameter, buffer)
  else if packetSize > buffer.length then (.noMemory, buffer)
  else (.success, writeFront buffer bytes)

/-- `MQTT_SerializePublish`: the status, and the buffer. -/
def mqttSerializePublish (sizeBits : Nat) (pPublishInfo : PublishInfo) (packetId : UInt16)
    (remainingLength : Nat) (buffer : List UInt8) : Status × List UInt8 :=
  if 0 < pPublishInfo.payloadLength ∧ pPublishInfo.pPayload = none then (.badParameter, buffer)
  else
    serializeInto pPublishInfo packetId
      ((1 + remainingLengthEncodedSize remainingLength + remainingLength) % 2 ^ sizeBits)
      (serializePublishCommon pPublishInfo remainingLength packetId true) buffer

/-- `MQTT_SerializePublishHeader`: the status, the buffer, and `*pHeaderSize` when it is
written. -/
def mqttSerializePublishHeader (sizeBits : Nat) (pPublishInfo : PublishInfo) (packetId : UInt16)
    (remainingLength : Nat) (buffer : List UInt8) : Status × List UInt8 × Option Nat :=
  let packetSize := (1 + remainingLengthEncodedSize remainingLength + remainingLength +
    (2 ^ sizeBits - pPublishInfo.payloadLength)) % 2 ^ sizeBits
  let serialized := serializeInto pPublishInfo packetId packetSize
    (serializePublishCommon pPublishInfo remainingLength packetId false) buffer
  (serialized.1, serialized.2, if serialized.1 = .success then some packetSize else none)

/-! ## Sizes -/

/-- The remaining length of a PUBLISH. -/
def publishRemainingLength (info : PublishInfo) : Nat :=
  info.topicNameLength.toNat + 2 + (if info.qos ≠ .qos0 then 2 else 0) + info.payloadLength

/-- The size of a PUBLISH, with its first byte and the remaining length. -/
def publishPacketSize (info : PublishInfo) : Nat :=
  1 + remainingLengthEncodedSize (publishRemainingLength info) + publishRemainingLength info

theorem remainingLengthEncodedSize_pos (n : Nat) : 0 < remainingLengthEncodedSize n := by
  unfold remainingLengthEncodedSize
  split_ifs <;> omega

theorem remainingLengthEncodedSize_le (n : Nat) : remainingLengthEncodedSize n ≤ 4 := by
  unfold remainingLengthEncodedSize
  split_ifs <;> omega

/-- The two checks of the payload length bound the size of the packet. -/
theorem calculatePublishPacketSize_eq (info : PublishInfo) : calculatePublishPacketSize info =
    if publishPacketSize info ≤ maxRemainingLength then
      some (publishRemainingLength info, publishPacketSize info)
    else none := by
  have htopic := info.topicNameLength.toNat_lt
  have hmax : maxRemainingLength = 268435455 := rfl
  have hsize := remainingLengthEncodedSize_le (publishRemainingLength info)
  have hremaining : (if info.qos ≠ .qos0 then info.topicNameLength.toNat + 2 + 2
      else info.topicNameLength.toNat + 2) + info.payloadLength = publishRemainingLength info := by
    unfold publishRemainingLength
    split <;> rfl
  have hshort : (if info.qos ≠ .qos0 then info.topicNameLength.toNat + 2 + 2
      else info.topicNameLength.toNat + 2) ≤ 65540 := by
    split <;> omega
  unfold calculatePublishPacketSize publishPacketSize
  dsimp only
  rw [hremaining]
  generalize (if info.qos ≠ .qos0 then info.topicNameLength.toNat + 2 + 2
    else info.topicNameLength.toNat + 2) = header at hremaining hshort
  generalize publishRemainingLength info = remaining at hremaining hsize ⊢
  generalize remainingLengthEncodedSize remaining = encoded at hsize ⊢
  by_cases hfits : 1 + encoded + remaining ≤ maxRemainingLength
  · rw [if_neg (by omega), if_neg (by omega), if_pos hfits]
    congr 2
    omega
  · rw [if_neg hfits]
    split
    · rfl
    · rw [if_pos (by omega)]

/-- The sizes that `MQTT_GetPublishPacketSize` returns. -/
theorem mqttGetPublishPacketSize_success_iff {info : PublishInfo} {remainingLength packetSize : Nat} :
    mqttGetPublishPacketSize info = (.success, remainingLength, packetSize) ↔
      (info.pTopicName ≠ none ∧ info.topicNameLength ≠ 0) ∧
        publishPacketSize info ≤ maxRemainingLength ∧
        remainingLength = publishRemainingLength info ∧ packetSize = publishPacketSize info := by
  unfold mqttGetPublishPacketSize
  rw [calculatePublishPacketSize_eq, ← not_or]
  split_ifs with htopic hsize
  · simp [htopic]
  · simp only [Prod.mk.injEq, true_and, htopic, hsize, not_false_eq_true]
    exact ⟨fun h => ⟨h.1.symm, h.2.symm⟩, fun h => ⟨h.1.symm, h.2.symm⟩⟩
  · simp [hsize]

/-! ## Contents -/

theorem length_encodeString (pSource : Pointer) (sourceLength : UInt16) :
    (encodeString pSource sourceLength).length = sourceLength.toNat + 2 := by
  rw [encodeString, List.length_append, length_readBytes, Nat.add_comm]
  rfl

/-- With the payload, the bytes are those of the header and the payload behind them. -/
theorem serializePublishCommon_payload (info : PublishInfo) (remainingLength : Nat)
    (packetId : UInt16) : serializePublishCommon info remainingLength packetId true =
      serializePublishCommon info remainingLength packetId false ++
        readBytes info.pPayload info.payloadLength := by
  unfold serializePublishCommon
  simp only [and_true, Bool.false_eq_true, and_false, if_false, List.append_nil]
  congr 1
  split
  · rfl
  · rename_i h
    rw [Nat.eq_zero_of_not_pos h]
    rfl

theorem length_serializePublishCommon {info : PublishInfo}
    (h : publishPacketSize info ≤ maxRemainingLength) (packetId : UInt16) :
    (serializePublishCommon info (publishRemainingLength info) packetId true).length =
        publishPacketSize info ∧
      (serializePublishCommon info (publishRemainingLength info) packetId false).length =
        publishPacketSize info - info.payloadLength := by
  have hlength := length_encodeRemainingLength
    (Nat.le_trans (Nat.le_add_left ..) h : publishRemainingLength info ≤ maxRemainingLength)
  have hid : (if info.qos ≠ .qos0 then uint16Bytes packetId else []).length =
      if info.qos ≠ .qos0 then 2 else 0 := by
    split <;> rfl
  have hheader : (serializePublishCommon info (publishRemainingLength info) packetId false).length =
      publishPacketSize info - info.payloadLength := by
    simp only [serializePublishCommon, Bool.false_eq_true, and_false, if_false, List.length_append,
      List.length_nil, List.length_singleton, hlength, length_encodeString, hid]
    unfold publishPacketSize
    generalize remainingLengthEncodedSize (publishRemainingLength info) = encoded
    unfold publishRemainingLength
    omega
  refine ⟨?_, hheader⟩
  have hpayload : info.payloadLength ≤ publishPacketSize info := by
    unfold publishPacketSize publishRemainingLength
    omega
  rw [serializePublishCommon_payload, List.length_append, hheader, length_readBytes]
  omega

end FreeMqtt

import FreeMqtt.Serializer.RoundTrip
import FreeMqtt.Lib.Audit

/-!
# Reading a PUBLISH in bounds

`MQTT_DeserializePublish` with the offsets that it reads and the exact results of its arithmetic.
Whatever the bytes are, it reads only inside the remaining data and nothing wraps around, and what
it accepts is cut into the topic, the packet identifier and the payload
(`mqttDeserializePublish_inBounds`).
-/

namespace FreeMqtt

open Audit

/-- What the parser does: it reads the byte at an offset of `pRemainingData`, or computes a
`size_t`. -/
inductive Access
  | read (offset : Nat)
  | size (exact : Int)
  deriving DecidableEq, Repr

/-- A read below `remainingLength`, or arithmetic that does not wrap around. -/
def Access.InBounds (sizeBits remainingLength : Nat) : Access → Prop
  | .read offset => offset < remainingLength
  | .size exact => Fits sizeBits exact

/-! ## The audited parser -/

/-- `UINT16_DECODE`, audited. -/
def auditedUint16Decode (base : Pointer) (offset : Nat) : Audit Access UInt16 := do
  report (.read offset)
  report (.read (offset + 1))
  pure (uint16Decode base offset)

/-- `checkPublishRemainingLength`, audited. -/
def auditedCheckPublishRemainingLength (sizeBits remainingLength : Nat) (qos : QoS)
    (qos0Minimum : Nat) : Audit Access Status :=
  if qos = .qos0 then pure (if remainingLength < qos0Minimum then .badResponse else .success)
  else do
    let minimum ← addWord .size sizeBits qos0Minimum 2
    pure (if remainingLength < minimum then .badResponse else .success)

/-- The packet identifier, for a QoS that has one. -/
def auditedPacketId (data : Pointer) (offset : Nat) (qos : QoS) : Audit Access (Option UInt16) :=
  if qos = .qos0 then pure none
  else do
    let packetId ← auditedUint16Decode data offset
    pure (some packetId)

/-- What the topic and the packet identifier leave of the remaining length. -/
def auditedPayloadLength (sizeBits remainingLength topicNameLength : Nat) (qos : QoS) :
    Audit Access Nat := do
  let payloadLength ← subWord .size sizeBits remainingLength topicNameLength
  let payloadLength ← subWord .size sizeBits payloadLength 2
  if qos ≠ .qos0 then subWord .size sizeBits payloadLength 2 else pure payloadLength

/-- `deserializePublish`, audited. -/
def auditedDeserializePublish (sizeBits : Nat) (pIncomingPacket : PacketInfo) :
    Audit Access (Status × Option UInt16 × PublishInfo) :=
  let flags := pIncomingPacket.type &&& 0x0F
  let data := pIncomingPacket.pRemainingData
  let empty : PublishInfo := ⟨.qos0, false, false, none, 0, none, 0⟩
  match publishFlagsQoS flags with
  | none => pure (.badResponse, none, empty)
  | some qos => do
      let info := { empty with qos, retain := checkBit flags 0, dup := checkBit flags 3 }
      let status ← auditedCheckPublishRemainingLength sizeBits pIncomingPacket.remainingLength qos 3
      if status ≠ .success then pure (.badResponse, none, info)
      else do
        let topicNameLength ← auditedUint16Decode data 0
        let info := { info with topicNameLength }
        let minimum ← addWord .size sizeBits topicNameLength.toNat 2
        let status ←
          auditedCheckPublishRemainingLength sizeBits pIncomingPacket.remainingLength qos minimum
        if status ≠ .success then pure (.badResponse, none, info)
        else do
          let info := { info with pTopicName := data.advance 2 }
          let packetId ← auditedPacketId data (topicNameLength.toNat + 2) qos
          if packetId = some 0 then pure (.badResponse, packetId, info)
          else do
            let payloadLength ←
              auditedPayloadLength sizeBits pIncomingPacket.remainingLength topicNameLength.toNat qos
            let payload := topicNameLength.toNat + 2 + if qos = .qos0 then 0 else 2
            pure (.success, packetId,
              { info with
                payloadLength
                pPayload := if payloadLength ≠ 0 then data.advance payload else none })

/-- `MQTT_DeserializePublish`, audited. -/
def auditedMqttDeserializePublish (sizeBits : Nat) (pIncomingPacket : PacketInfo) :
    Audit Access (Status × Option UInt16 × PublishInfo) :=
  let empty : PublishInfo := ⟨.qos0, false, false, none, 0, none, 0⟩
  if pIncomingPacket.type &&& 0xF0 ≠ packetTypePublish then pure (.badParameter, none, empty)
  else if pIncomingPacket.pRemainingData = none then pure (.badParameter, none, empty)
  else auditedDeserializePublish sizeBits pIncomingPacket

/-! ## Bounds -/

section

variable {sizeBits remainingLength : Nat}

theorem auditedUint16Decode_spec {base : Pointer} {offset : Nat}
    (h : offset + 1 < remainingLength) :
    (auditedUint16Decode base offset).All (Access.InBounds sizeBits remainingLength) ∧
      (auditedUint16Decode base offset).value = uint16Decode base offset := by
  refine ⟨?_, rfl⟩
  unfold auditedUint16Decode
  rw [all_bind, all_bind, all_report, all_report]
  exact ⟨Nat.lt_of_succ_lt h, h, all_pure _⟩

theorem auditedCheckPublishRemainingLength_spec (qos : QoS) {qos0Minimum : Nat}
    (h : qos0Minimum + 2 < 2 ^ sizeBits) :
    let checked := auditedCheckPublishRemainingLength sizeBits remainingLength qos qos0Minimum
    checked.All (Access.InBounds sizeBits remainingLength) ∧
      checked.value = checkPublishRemainingLength remainingLength qos qos0Minimum := by
  unfold auditedCheckPublishRemainingLength checkPublishRemainingLength
  dsimp only
  by_cases hqos : qos = .qos0
  · rw [if_pos hqos, if_pos hqos]
    exact ⟨all_pure _, rfl⟩
  · rw [if_neg hqos, if_neg hqos, all_bind, value_bind, value_addWord h]
    exact ⟨⟨all_addWord.2 (fits_add h), all_pure _⟩, rfl⟩

theorem auditedPacketId_spec {data : Pointer} {offset : Nat} {qos : QoS}
    (h : offset + publishIdSize qos ≤ remainingLength) :
    (auditedPacketId data offset qos).All (Access.InBounds sizeBits remainingLength) ∧
      (auditedPacketId data offset qos).value =
        if qos = .qos0 then none else some (uint16Decode data offset) := by
  unfold auditedPacketId
  by_cases hqos : qos = .qos0
  · rw [if_pos hqos, if_pos hqos]
    exact ⟨all_pure _, rfl⟩
  · rw [publishIdSize, if_neg hqos] at h
    rw [if_neg hqos, if_neg hqos, all_bind]
    exact ⟨⟨(auditedUint16Decode_spec h).1, all_pure _⟩, rfl⟩

theorem auditedPayloadLength_spec {topicNameLength : Nat} {qos : QoS}
    (h : topicNameLength + 2 + publishIdSize qos ≤ remainingLength)
    (hsize : remainingLength < 2 ^ sizeBits) :
    let left := auditedPayloadLength sizeBits remainingLength topicNameLength qos
    left.All (Access.InBounds sizeBits remainingLength) ∧
      left.value = remainingLength - (topicNameLength + 2 + publishIdSize qos) := by
  unfold auditedPayloadLength
  dsimp only
  rw [all_bind, value_bind, value_subWord (by omega) hsize, all_bind, value_bind,
    value_subWord (by omega) (by omega), all_subWord, all_subWord]
  have htopic : Fits sizeBits ((remainingLength : Int) - topicNameLength) :=
    fits_sub (by omega) hsize
  have hfield : Fits sizeBits (((remainingLength - topicNameLength : Nat) : Int) - (2 : Nat)) :=
    fits_sub (by omega) (by omega)
  by_cases hqos : qos = .qos0
  · rw [if_neg (not_not_intro hqos), publishIdSize, if_pos hqos, ← Nat.sub_sub, ← Nat.sub_sub]
    exact ⟨⟨htopic, hfield, all_pure _⟩, rfl⟩
  · rw [publishIdSize, if_neg hqos] at h
    rw [if_pos hqos, publishIdSize, if_neg hqos, ← Nat.sub_sub, ← Nat.sub_sub,
      value_subWord (by omega) (by omega), all_subWord]
    exact ⟨⟨htopic, hfield, fits_sub (by omega) (by omega)⟩, rfl⟩

end

/-- The parser stays in bounds, and computes what `deserializePublish` does. -/
theorem deserializePublish_inBounds {sizeBits : Nat} (hbits : 32 ≤ sizeBits) {packet : PacketInfo}
    (hsize : packet.remainingLength < 2 ^ sizeBits) :
    (auditedDeserializePublish sizeBits packet).All
        (Access.InBounds sizeBits packet.remainingLength) ∧
      (auditedDeserializePublish sizeBits packet).value = deserializePublish packet := by
  have hpow : 2 ^ 32 ≤ 2 ^ sizeBits := Nat.pow_le_pow_right (by decide) hbits
  unfold auditedDeserializePublish deserializePublish
  dsimp only
  cases publishFlagsQoS (packet.type &&& 0x0F) with
  | none => exact ⟨all_pure _, rfl⟩
  | some qos =>
    dsimp only
    obtain ⟨hfirst, hfirstValue⟩ :=
      @auditedCheckPublishRemainingLength_spec sizeBits packet.remainingLength qos 3 (by omega)
    rw [all_bind, value_bind, hfirstValue]
    have hminimum := @checkPublishRemainingLength_success packet.remainingLength 3 qos
    by_cases hshort : checkPublishRemainingLength packet.remainingLength qos 3 ≠ .success
    · rw [if_pos hshort, if_pos hshort]
      exact ⟨⟨hfirst, all_pure _⟩, rfl⟩
    rw [if_neg hshort, if_neg hshort]
    have hlong := hminimum.1 (not_not.1 hshort)
    set topic := uint16Decode packet.pRemainingData 0 with htopicDef
    have htopic : topic.toNat < 2 ^ 16 := topic.toNat_lt
    obtain ⟨hdecode, hdecodeValue⟩ := @auditedUint16Decode_spec sizeBits packet.remainingLength
      packet.pRemainingData 0 (by omega)
    obtain ⟨hname, hnameValue⟩ := @auditedCheckPublishRemainingLength_spec sizeBits
      packet.remainingLength qos (topic.toNat + 2) (by omega)
    rw [all_bind, value_bind, hdecodeValue, ← htopicDef, all_bind, value_bind, all_addWord,
      value_addWord (by omega), all_bind, value_bind, hnameValue]
    have hsum : Fits sizeBits ((topic.toNat : Int) + (2 : Nat)) := fits_add (by omega)
    have htail := @checkPublishRemainingLength_success packet.remainingLength (topic.toNat + 2) qos
    by_cases hbeyond :
        checkPublishRemainingLength packet.remainingLength qos (topic.toNat + 2) ≠ .success
    · rw [if_pos hbeyond, if_pos hbeyond]
      exact ⟨⟨hfirst, hdecode, hsum, hname, all_pure _⟩, rfl⟩
    rw [if_neg hbeyond, if_neg hbeyond]
    have hfits := htail.1 (not_not.1 hbeyond)
    obtain ⟨hid, hidValue⟩ := @auditedPacketId_spec sizeBits packet.remainingLength
      packet.pRemainingData (topic.toNat + 2) qos hfits
    obtain ⟨hpayload, hpayloadValue⟩ := @auditedPayloadLength_spec sizeBits packet.remainingLength
      topic.toNat qos hfits hsize
    rw [all_bind, value_bind, hidValue]
    by_cases hzero :
        (if qos = .qos0 then none else some (uint16Decode packet.pRemainingData (topic.toNat + 2))) =
          some 0
    · rw [if_pos hzero, if_pos hzero]
      exact ⟨⟨hfirst, hdecode, hsum, hname, hid, all_pure _⟩, rfl⟩
    rw [if_neg hzero, if_neg hzero, all_bind, value_bind, hpayloadValue]
    exact ⟨⟨hfirst, hdecode, hsum, hname, hid, hpayload, all_pure _⟩, rfl⟩

/-! ## The slices of an accepted packet -/

/-- A decoded PUBLISH is cut out of its remaining data: the length of the topic, the topic, the
packet identifier and the payload follow one another, and the pointers point to where they are. -/
structure PublishSlices (data : List UInt8) (packetId : Option UInt16) (info : PublishInfo) :
    Prop where
  total :
    2 + info.topicNameLength.toNat + publishIdSize info.qos + info.payloadLength = data.length
  consecutive :
    uint16Bytes info.topicNameLength ++ readBytes info.pTopicName info.topicNameLength.toNat ++
      packetId.elim [] uint16Bytes ++ readBytes info.pPayload info.payloadLength = data
  topicName : info.pTopicName = some (data.drop 2)
  packetId_none : packetId = none ↔ info.qos = .qos0
  packetId_ne_zero : packetId ≠ some 0
  payload_none : info.pPayload = none ↔ info.payloadLength = 0
  payload : ∀ bytes, info.pPayload = some bytes →
    bytes = data.drop (2 + info.topicNameLength.toNat + publishIdSize info.qos)

theorem deserializePublish_slices {type : UInt8} {data : List UInt8} {headerLength : Nat}
    {packetId : Option UInt16} {info : PublishInfo}
    (h : deserializePublish ⟨type, some data, data.length, headerLength⟩ =
      (.success, packetId, info)) : PublishSlices data packetId info := by
  have hdata := (publishData_of_deserializePublish h 0).1
  obtain ⟨qos, -, -, hname, hid, hzero, rfl⟩ := deserializePublish_success_iff.1 h
  dsimp only at hname hid
  have hnone : packetId = none ↔ qos = .qos0 := by
    rw [hid, decodedId]
    split <;> simp_all
  constructor
  case total =>
    dsimp only [decodedInfo]
    omega
  case consecutive =>
    have hbytes : publishId (decodedInfo type (some data) data.length qos) (packetId.getD 0) =
        packetId.elim [] uint16Bytes := by
      show (if qos ≠ .qos0 then _ else _) = _
      rw [hid, decodedId]
      split <;> simp_all
    rw [publishData, hbytes] at hdata
    rw [List.append_assoc, List.append_assoc]
    exact hdata
  case topicName => rfl
  case packetId_none => exact hnone
  case packetId_ne_zero => exact hzero
  case payload_none =>
    dsimp only [decodedInfo]
    split <;> simp_all [Pointer.advance]
  case payload =>
    intro bytes hbytes
    dsimp only [decodedInfo] at hbytes ⊢
    split at hbytes
    · obtain rfl : data.drop _ = bytes := Option.some.inj hbytes
      rw [Nat.add_comm 2]
    · cases hbytes

/-- Whatever the bytes of a PUBLISH are, it is parsed inside the remaining data and without
wrapping around, and what is accepted is cut into consecutive slices. -/
theorem mqttDeserializePublish_inBounds {sizeBits : Nat} (hbits : 32 ≤ sizeBits) {type : UInt8}
    (htype : type &&& 0xF0 = packetTypePublish) {data : List UInt8}
    (hsize : data.length < 2 ^ sizeBits) (headerLength : Nat) :
    let packet : PacketInfo := ⟨type, some data, data.length, headerLength⟩
    let parsed := auditedMqttDeserializePublish sizeBits packet
    parsed.All (Access.InBounds sizeBits data.length) ∧
      parsed.value = mqttDeserializePublish packet ∧
      ∀ packetId info, mqttDeserializePublish packet = (.success, packetId, info) →
        PublishSlices data packetId info := by
  dsimp only
  unfold auditedMqttDeserializePublish mqttDeserializePublish
  rw [if_neg (not_not_intro htype), if_neg (not_not_intro htype), if_neg (by simp),
    if_neg (by simp)]
  obtain ⟨hall, hvalue⟩ := @deserializePublish_inBounds sizeBits hbits
    ⟨type, some data, data.length, headerLength⟩ hsize
  exact ⟨hall, hvalue, fun _ _ => deserializePublish_slices⟩

theorem mqttDeserializePublish_inBounds_sample :
    PublishSlices [0, 1, 0x61, 0, 7, 1] (some 7)
      ⟨.qos1, false, false, some [0x61, 0, 7, 1], 1, some [1], 1⟩ :=
  (@mqttDeserializePublish_inBounds 32 (by decide) 0x32 (by decide) [0, 1, 0x61, 0, 7, 1]
    (by decide) 2).2.2 _ _ (by decide +kernel)

end FreeMqtt

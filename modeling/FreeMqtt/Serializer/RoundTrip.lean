import FreeMqtt.Serializer.Publish

/-!
# PUBLISH round trips

What `MQTT_SerializePublish` writes is decoded to the same publish (`publish_decoded`). What is
decoded is encoded to the same bytes, unless the decoder accepted a packet that the encoder
refuses (`publish_encoded_iff`).
-/

namespace FreeMqtt

/-! ## Bytes behind a pointer -/

theorem byteAt_append (front rest : List UInt8) (i : Nat) :
    byteAt (some (front ++ rest)) (front.length + i) = byteAt (some rest) i := by
  simp [byteAt, List.getD_eq_getElem?_getD, List.getElem?_append_right]

theorem byteAt_eq {bytes : List UInt8} {i : Nat} (h : i < bytes.length) :
    byteAt (some bytes) i = bytes[i] := by
  simp [byteAt, List.getD_eq_getElem?_getD, List.getElem?_eq_getElem h]

theorem uint16Decode_append (front : List UInt8) (x : UInt16) (rest : List UInt8) :
    uint16Decode (some (front ++ (uint16Bytes x ++ rest))) front.length = x := by
  have hfirst := byteAt_append front (uint16Bytes x ++ rest) 0
  have hsecond := byteAt_append front (uint16Bytes x ++ rest) 1
  rw [Nat.add_zero] at hfirst
  have hbytes := uint16Decode_uint16Bytes x
  unfold uint16Decode at hbytes ⊢
  rw [hfirst, hsecond]
  exact hbytes

theorem readBytes_take {bytes : List UInt8} {n : Nat} (h : n ≤ bytes.length) :
    readBytes (some bytes) n = bytes.take n := by
  apply List.ext_getElem
  · simp [h]
  · intro i h₁ h₂
    simp only [length_readBytes] at h₁
    simp [readBytes, List.getElem?_eq_getElem (Nat.lt_of_lt_of_le h₁ h)]

theorem readBytes_append (front rest : List UInt8) :
    readBytes (some (front ++ rest)) front.length = front := by
  rw [readBytes_take (by simp), List.take_left]

/-- Two bytes are those of the number that is read from them. -/
theorem uint16Bytes_decode (a b : UInt8) :
    uint16Bytes ((a.toUInt16 <<< 8) ||| b.toUInt16) = [a, b] := by
  have ha := a.toNat_lt
  have hb := b.toNat_lt
  have height : UInt16.toNat 8 % 16 = 8 := rfl
  have hnat : ((a.toUInt16 <<< 8) ||| b.toUInt16).toNat = a.toNat * 2 ^ 8 + b.toNat := by
    have hshift : a.toNat * 2 ^ 8 % 2 ^ 16 = 2 ^ 8 * a.toNat := by omega
    simp only [UInt16.toNat_or, UInt16.toNat_shiftLeft, UInt8.toNat_toUInt16, height,
      Nat.shiftLeft_eq, hshift]
    rw [← Nat.two_pow_add_eq_or_of_lt hb, Nat.mul_comm]
  have hmask : ((a.toUInt16 <<< 8 ||| b.toUInt16) &&& 0x00ff).toNat = b.toNat := by
    rw [UInt16.toNat_and, hnat]
    refine (Nat.and_two_pow_sub_one_eq_mod _ 8).trans ?_
    omega
  have hlow : ((a.toUInt16 <<< 8 ||| b.toUInt16) &&& 0x00ff).toUInt8 = b := by
    rw [← UInt8.toNat_inj, UInt16.toNat_toUInt8, hmask]
    omega
  have hhigh : ((a.toUInt16 <<< 8 ||| b.toUInt16) >>> 8).toUInt8 = a := by
    rw [← UInt8.toNat_inj, UInt16.toNat_toUInt8, UInt16.toNat_shiftRight, hnat, height,
      Nat.shiftRight_eq_div_pow]
    omega
  rw [uint16Bytes, hlow, hhigh]

theorem uint16Bytes_uint16Decode {bytes : List UInt8} {offset : Nat}
    (h : offset + 2 ≤ bytes.length) :
    uint16Bytes (uint16Decode (some bytes) offset) = (bytes.drop offset).take 2 := by
  have hfirst : offset < bytes.length := by omega
  have hsecond : offset + 1 < bytes.length := by omega
  rw [uint16Decode, uint16Bytes_decode, byteAt_eq hfirst, byteAt_eq hsecond,
    List.drop_eq_getElem_cons hfirst, List.drop_eq_getElem_cons hsecond, List.take_succ_cons,
    List.take_succ_cons, List.take_zero]

/-! ## The first byte -/

/-- The first byte of a PUBLISH is read as it was written. -/
theorem publishFlags_spec (info : PublishInfo) :
    publishFlags info &&& 0xF0 = packetTypePublish ∧
      publishFlagsQoS (publishFlags info &&& 0x0F) = some info.qos ∧
      checkBit (publishFlags info &&& 0x0F) 0 = info.retain ∧
      checkBit (publishFlags info &&& 0x0F) 3 = info.dup := by
  unfold publishFlags
  cases info.qos <;> cases info.retain <;> cases info.dup <;> decide

/-- A byte that is accepted as the first one of a PUBLISH is the one that is written for it. -/
theorem publishFlags_eq {b : UInt8} (hb : b &&& 0xF0 = packetTypePublish) {info : PublishInfo}
    (hqos : publishFlagsQoS (b &&& 0x0F) = some info.qos)
    (hretain : info.retain = checkBit (b &&& 0x0F) 0) (hdup : info.dup = checkBit (b &&& 0x0F) 3) :
    publishFlags info = b := by
  have hall : ∀ b : UInt8, b &&& 0xF0 = packetTypePublish → ∀ qos : QoS,
      publishFlagsQoS (b &&& 0x0F) = some qos →
        publishFlags ⟨qos, checkBit (b &&& 0x0F) 0, checkBit (b &&& 0x0F) 3, none, 0, none, 0⟩ = b := by
    refine forall_uint8 ?_
    intro n hn qos
    revert n
    cases qos <;> decide +kernel
  rw [← hall b hb info.qos hqos]
  unfold publishFlags
  rw [hretain, hdup]

/-! ## Decoding what was encoded -/

/-- The same publish: the strings are the same bytes, wherever they are in memory. -/
structure PublishInfo.Same (info info' : PublishInfo) : Prop where
  qos : info.qos = info'.qos
  retain : info.retain = info'.retain
  dup : info.dup = info'.dup
  topicNameLength : info.topicNameLength = info'.topicNameLength
  topicName : readBytes info.pTopicName info.topicNameLength.toNat =
    readBytes info'.pTopicName info'.topicNameLength.toNat
  payloadLength : info.payloadLength = info'.payloadLength
  payload : readBytes info.pPayload info.payloadLength =
    readBytes info'.pPayload info'.payloadLength

/-- The packet identifier of a PUBLISH. -/
def publishId (info : PublishInfo) (packetId : UInt16) : List UInt8 :=
  if info.qos ≠ .qos0 then uint16Bytes packetId else []

/-- What follows the remaining length in a PUBLISH. -/
def publishData (info : PublishInfo) (packetId : UInt16) : List UInt8 :=
  uint16Bytes info.topicNameLength ++
    (readBytes info.pTopicName info.topicNameLength.toNat ++
      (publishId info packetId ++ readBytes info.pPayload info.payloadLength))

theorem serializePublishCommon_eq (info : PublishInfo) (remainingLength : Nat) (packetId : UInt16) :
    serializePublishCommon info remainingLength packetId true =
      publishFlags info :: (encodeRemainingLength remainingLength ++ publishData info packetId) := by
  rw [serializePublishCommon_payload]
  unfold serializePublishCommon publishData publishId encodeString
  simp

theorem length_publishId (info : PublishInfo) (packetId : UInt16) :
    (publishId info packetId).length = if info.qos = .qos0 then 0 else 2 := by
  unfold publishId
  by_cases h : info.qos = .qos0
  · rw [if_neg (not_not_intro h), if_pos h]
    rfl
  · rw [if_pos h, if_neg h]
    rfl

theorem checkPublishRemainingLength_success {remainingLength qos0Minimum : Nat} {qos : QoS} :
    checkPublishRemainingLength remainingLength qos qos0Minimum = .success ↔
      qos0Minimum + (if qos = .qos0 then 0 else 2) ≤ remainingLength := by
  unfold checkPublishRemainingLength
  by_cases h : qos = .qos0
  · rw [if_pos h, if_pos h]
    split
    · simp only [reduceCtorEq, false_iff]
      omega
    · simp only [true_iff]
      omega
  · rw [if_neg h, if_neg h]
    split
    · simp only [reduceCtorEq, false_iff]
      omega
    · simp only [true_iff]
      omega

/-- The size of the packet identifier in a PUBLISH. -/
def publishIdSize (qos : QoS) : Nat := if qos = .qos0 then 0 else 2

/-- The packet identifier behind a topic of that length. -/
def decodedId (data : Pointer) (qos : QoS) (topicNameLength : UInt16) : Option UInt16 :=
  if qos = .qos0 then none else some (uint16Decode data (topicNameLength.toNat + 2))

/-- The publish information of a PUBLISH whose first byte and remaining data are these. -/
def decodedInfo (type : UInt8) (data : Pointer) (remainingLength : Nat) (qos : QoS) : PublishInfo :=
  let payload := (uint16Decode data 0).toNat + 2 + publishIdSize qos
  { qos
    retain := checkBit (type &&& 0x0F) 0
    dup := checkBit (type &&& 0x0F) 3
    pTopicName := data.advance 2
    topicNameLength := uint16Decode data 0
    payloadLength := remainingLength - payload
    pPayload := if remainingLength - payload ≠ 0 then data.advance payload else none }

/-- What `deserializePublish` accepts, and what it returns then. -/
theorem deserializePublish_success_iff {packet : PacketInfo} {packetId : Option UInt16}
    {info : PublishInfo} :
    deserializePublish packet = (.success, packetId, info) ↔
      ∃ qos, publishFlagsQoS (packet.type &&& 0x0F) = some qos ∧
        3 + publishIdSize qos ≤ packet.remainingLength ∧
        (uint16Decode packet.pRemainingData 0).toNat + 2 + publishIdSize qos ≤
          packet.remainingLength ∧
        packetId = decodedId packet.pRemainingData qos (uint16Decode packet.pRemainingData 0) ∧
        packetId ≠ some 0 ∧
        info = decodedInfo packet.type packet.pRemainingData packet.remainingLength qos := by
  unfold deserializePublish
  dsimp only
  cases hqos : publishFlagsQoS (packet.type &&& 0x0F) with
  | none => simp
  | some qos =>
    simp only [Option.some.injEq, exists_eq_left']
    have hminimum := @checkPublishRemainingLength_success packet.remainingLength 3 qos
    have hname := @checkPublishRemainingLength_success packet.remainingLength
      ((uint16Decode packet.pRemainingData 0).toNat + 2) qos
    change _ ↔ 3 + publishIdSize qos ≤ _ at hminimum
    change _ ↔ _ + publishIdSize qos ≤ _ at hname
    rw [← hminimum, ← hname]
    by_cases h₁ : checkPublishRemainingLength packet.remainingLength qos 3 = .success
    swap
    · rw [if_pos h₁]
      simp [h₁]
    rw [if_neg (not_not_intro h₁)]
    by_cases h₂ : checkPublishRemainingLength packet.remainingLength qos
        ((uint16Decode packet.pRemainingData 0).toNat + 2) = .success
    swap
    · rw [if_pos h₂]
      simp [h₂]
    rw [if_neg (not_not_intro h₂)]
    change ((if decodedId packet.pRemainingData qos (uint16Decode packet.pRemainingData 0) = some 0
      then _ else (Status.success, decodedId packet.pRemainingData qos _,
        decodedInfo packet.type packet.pRemainingData packet.remainingLength qos)) = _) ↔ _
    by_cases h₃ : decodedId packet.pRemainingData qos (uint16Decode packet.pRemainingData 0) = some 0
    · rw [if_pos h₃]
      simp only [Prod.mk.injEq, reduceCtorEq, false_and, false_iff]
      rintro ⟨-, -, rfl, hid, -⟩
      exact hid h₃
    · rw [if_neg h₃]
      simp only [Prod.mk.injEq, true_and, h₁, h₂]
      constructor
      · rintro ⟨rfl, rfl⟩
        exact ⟨rfl, h₃, rfl⟩
      · rintro ⟨rfl, -, rfl⟩
        exact ⟨rfl, rfl⟩

/-- The fields of a PUBLISH, in the data that was written for it. -/
theorem publishData_fields (info : PublishInfo) (packetId : UInt16) (suffix : List UInt8) :
    let data : Pointer := some (publishData info packetId ++ suffix)
    let topic := info.topicNameLength.toNat
    uint16Decode data 0 = info.topicNameLength ∧
      readBytes (data.advance 2) topic = readBytes info.pTopicName topic ∧
      decodedId data info.qos info.topicNameLength =
        (if info.qos = .qos0 then none else some packetId) ∧
      readBytes (data.advance (topic + 2 + publishIdSize info.qos)) info.payloadLength =
        readBytes info.pPayload info.payloadLength := by
  have htwo : (uint16Bytes info.topicNameLength).length = 2 := rfl
  have hlen : (publishId info packetId).length = publishIdSize info.qos := length_publishId ..
  have hname : (publishData info packetId ++ suffix).drop 2 =
      readBytes info.pTopicName info.topicNameLength.toNat ++
        (publishId info packetId ++ (readBytes info.pPayload info.payloadLength ++ suffix)) := by
    rw [publishData, List.append_assoc, List.drop_left' htwo]
    simp
  intro data topic
  refine ⟨?_, ?_, ?_, ?_⟩
  · show uint16Decode (some (publishData info packetId ++ suffix)) 0 = _
    rw [publishData, List.append_assoc]
    exact uint16Decode_append [] info.topicNameLength _
  · have h := readBytes_append (readBytes info.pTopicName topic)
      (publishId info packetId ++ (readBytes info.pPayload info.payloadLength ++ suffix))
    rwa [length_readBytes, ← hname] at h
  · unfold decodedId
    by_cases hqos : info.qos = .qos0
    · rw [if_pos hqos, if_pos hqos]
    · have h := uint16Decode_append
        (uint16Bytes info.topicNameLength ++ readBytes info.pTopicName topic) packetId
        (readBytes info.pPayload info.payloadLength ++ suffix)
      rw [if_neg hqos, if_neg hqos, ← h, List.length_append, length_readBytes, htwo,
        Nat.add_comm 2]
      show some (uint16Decode (some (publishData info packetId ++ suffix)) _) = _
      rw [publishData, publishId, if_pos hqos]
      simp only [List.append_assoc]
      rfl
  · have h := readBytes_append (readBytes info.pPayload info.payloadLength) suffix
    rw [length_readBytes] at h
    rw [← h]
    show readBytes (some ((publishData info packetId ++ suffix).drop _)) _ = _
    rw [Nat.add_comm topic 2, Nat.add_assoc, ← List.drop_drop, hname, ← List.drop_drop,
      List.drop_left' (length_readBytes ..), List.drop_left' hlen]

/-- The data that was written for a publish is decoded to it. -/
theorem deserializePublish_data {info : PublishInfo} {packetId : UInt16}
    (hid : info.qos ≠ .qos0 → packetId ≠ 0) (htopic : info.topicNameLength ≠ 0)
    (headerLength : Nat) (suffix : List UInt8) :
    ∃ decoded, deserializePublish ⟨publishFlags info,
        some (publishData info packetId ++ suffix), publishRemainingLength info, headerLength⟩ =
          (.success, if info.qos = .qos0 then none else some packetId, decoded) ∧
      decoded.Same info := by
  obtain ⟨-, hqos, hretain, hdup⟩ := publishFlags_spec info
  obtain ⟨hlength, hname, hidentifier, hpayload⟩ := publishData_fields info packetId suffix
  have hpos : 0 < info.topicNameLength.toNat := by
    rw [Nat.pos_iff_ne_zero]
    exact fun h => htopic (UInt16.toNat_inj.1 h)
  have hremaining : publishRemainingLength info =
      info.topicNameLength.toNat + 2 + publishIdSize info.qos + info.payloadLength := by
    rw [publishRemainingLength, publishIdSize, ite_not]
  refine ⟨_, deserializePublish_success_iff.2 ⟨info.qos, hqos, ?_, ?_, ?_, ?_, rfl⟩, ?_⟩
  · show _ ≤ publishRemainingLength info
    omega
  · dsimp only
    rw [hlength]
    omega
  · dsimp only
    rw [hlength, hidentifier]
  · intro h
    split at h
    · cases h
    · rename_i hqos0
      exact hid hqos0 (Option.some.inj h)
  · have hlen : publishRemainingLength info - (info.topicNameLength.toNat + 2 +
        publishIdSize info.qos) = info.payloadLength := by
      omega
    unfold decodedInfo
    dsimp only
    rw [hlength, hlen]
    refine ⟨rfl, hretain, hdup, rfl, hname, rfl, ?_⟩
    by_cases hzero : info.payloadLength = 0
    · show readBytes _ info.payloadLength = _
      rw [hzero]
      rfl
    · show readBytes (if info.payloadLength ≠ 0 then _ else _) info.payloadLength = _
      rw [if_pos hzero, hpayload]

/-- What `MQTT_ProcessIncomingPacketTypeAndLength` returns for a PUBLISH that was written. -/
theorem processTypeAndLength_publish {info : PublishInfo}
    (hsize : publishPacketSize info ≤ maxRemainingLength) (packetId : UInt16)
    (suffix : List UInt8) {index : Nat} (hindex : publishPacketSize info ≤ index) :
    mqttProcessIncomingPacketTypeAndLength
        (serializePublishCommon info (publishRemainingLength info) packetId true ++ suffix) index =
      (.success, ⟨publishFlags info, none, publishRemainingLength info,
        1 + remainingLengthEncodedSize (publishRemainingLength info)⟩) := by
  have hpacket : publishPacketSize info =
    1 + remainingLengthEncodedSize (publishRemainingLength info) + publishRemainingLength info := rfl
  have hvalid : incomingPacketValid (publishFlags info) = true := by
    unfold incomingPacketValid
    simp [(publishFlags_spec info).1]
  have hlength := processRemainingLength_encode (by omega : publishRemainingLength info ≤ _)
    (publishFlags info) (publishData info packetId ++ suffix) (by omega : _ ≤ index)
  unfold mqttProcessIncomingPacketTypeAndLength
  rw [if_neg (by omega), serializePublishCommon_eq, List.cons_append, List.append_assoc]
  simp only [List.getD_cons_zero, hvalid, hlength, if_true]

/-- A PUBLISH of the size that was computed for it is written into the buffer. -/
theorem mqttSerializePublish_success {info : PublishInfo} {packetId : UInt16}
    (hsize : publishPacketSize info ≤ maxRemainingLength)
    (htopic : info.pTopicName ≠ none ∧ info.topicNameLength ≠ 0)
    (hpayload : 0 < info.payloadLength → info.pPayload ≠ none)
    (hdup : info.dup → info.qos ≠ .qos0) (hid : info.qos ≠ .qos0 → packetId ≠ 0)
    {buffer : List UInt8} {sizeBits : Nat} (hbits : buffer.length < 2 ^ sizeBits)
    (hbuffer : publishPacketSize info ≤ buffer.length) :
    mqttSerializePublish sizeBits info packetId (publishRemainingLength info) buffer =
      (.success, serializePublishCommon info (publishRemainingLength info) packetId true ++
        buffer.drop (publishPacketSize info)) := by
  have hmod : publishPacketSize info % 2 ^ sizeBits = publishPacketSize info :=
    Nat.mod_eq_of_lt (by omega)
  unfold mqttSerializePublish serializeInto
  rw [if_neg (fun h => hpayload h.1 h.2), if_neg (not_or_intro htopic.1 htopic.2),
    if_neg (fun h => hid h.1 h.2), if_neg (fun h => hdup h.1 h.2)]
  change (if publishPacketSize info % 2 ^ sizeBits > buffer.length then _ else _) = _
  rw [hmod, if_neg (by omega), writeFront, (length_serializePublishCommon hsize packetId).1]

/-- The header of a PUBLISH is written into the buffer, and its size is reported. -/
theorem mqttSerializePublishHeader_success {info : PublishInfo} {packetId : UInt16}
    (hsize : publishPacketSize info ≤ maxRemainingLength)
    (htopic : info.pTopicName ≠ none ∧ info.topicNameLength ≠ 0)
    (hdup : info.dup → info.qos ≠ .qos0) (hid : info.qos ≠ .qos0 → packetId ≠ 0)
    {sizeBits : Nat} (hbits : publishPacketSize info < 2 ^ sizeBits) {buffer : List UInt8}
    (hbuffer : (serializePublishCommon info (publishRemainingLength info) packetId false).length ≤
      buffer.length) :
    mqttSerializePublishHeader sizeBits info packetId (publishRemainingLength info) buffer =
      let header := serializePublishCommon info (publishRemainingLength info) packetId false
      (.success, header ++ buffer.drop header.length, some header.length) := by
  have hlength := (length_serializePublishCommon hsize packetId).2
  dsimp only
  unfold mqttSerializePublishHeader serializeInto
  generalize serializePublishCommon info (publishRemainingLength info) packetId false = header
    at hbuffer hlength
  have hpayload : info.payloadLength ≤ publishPacketSize info := by
    unfold publishPacketSize publishRemainingLength
    omega
  have hmod : (1 + remainingLengthEncodedSize (publishRemainingLength info) +
      publishRemainingLength info + (2 ^ sizeBits - info.payloadLength)) % 2 ^ sizeBits =
        header.length := by
    change (publishPacketSize info + (2 ^ sizeBits - info.payloadLength)) % 2 ^ sizeBits = _
    rw [show publishPacketSize info + (2 ^ sizeBits - info.payloadLength) =
      header.length + 2 ^ sizeBits by omega, Nat.add_mod_right, Nat.mod_eq_of_lt (by omega)]
  simp only [hmod]
  rw [if_neg (not_or_intro htopic.1 htopic.2), if_neg (fun h => hid h.1 h.2),
    if_neg (fun h => hdup h.1 h.2), if_neg (by omega)]
  rfl

/-- The bytes that are written for a publish are decoded to it, whatever follows them. -/
theorem serializePublishCommon_decoded {info : PublishInfo} {packetId : UInt16}
    (hmax : publishPacketSize info ≤ maxRemainingLength) (htopic : info.topicNameLength ≠ 0)
    (hid : info.qos ≠ .qos0 → packetId ≠ 0) (suffix : List UInt8) :
    let bytes := serializePublishCommon info (publishRemainingLength info) packetId true ++ suffix
    ∃ packet, mqttProcessIncomingPacketTypeAndLength bytes bytes.length = (.success, packet) ∧
      packet.headerLength + packet.remainingLength = publishPacketSize info ∧
      ∃ decoded, mqttDeserializePublish
          { packet with pRemainingData := some (bytes.drop packet.headerLength) } =
            (.success, if info.qos = .qos0 then none else some packetId, decoded) ∧
        decoded.Same info := by
  have hlength := (length_serializePublishCommon hmax packetId).1
  refine ⟨_, processTypeAndLength_publish hmax packetId suffix (by simp [hlength]), rfl, ?_⟩
  have hencoded := length_encodeRemainingLength
    (Nat.le_trans (Nat.le_add_left ..) hmax : publishRemainingLength info ≤ maxRemainingLength)
  have hdata : (serializePublishCommon info (publishRemainingLength info) packetId true ++
      suffix).drop (1 + remainingLengthEncodedSize (publishRemainingLength info)) =
        publishData info packetId ++ suffix := by
    rw [serializePublishCommon_eq, List.cons_append, List.append_assoc, Nat.add_comm,
      List.drop_succ_cons, List.drop_left' hencoded]
  dsimp only
  rw [hdata, mqttDeserializePublish, if_neg (not_not_intro (publishFlags_spec info).1),
    if_neg (by simp)]
  exact deserializePublish_data hid htopic _ suffix

/-- A publish is decoded as it was encoded, whatever follows it in the buffer. -/
theorem publish_decoded {info : PublishInfo} {packetId : UInt16}
    {remainingLength packetSize : Nat}
    (hdup : info.dup → info.qos ≠ .qos0)
    (hpayload : 0 < info.payloadLength → info.pPayload ≠ none)
    (hsizes : mqttGetPublishPacketSize info = (.success, remainingLength, packetSize))
    (hid : packetId ≠ 0) {buffer : List UInt8} {sizeBits : Nat}
    (hbits : buffer.length < 2 ^ sizeBits) (hbuffer : packetSize ≤ buffer.length)
    (suffix : List UInt8) :
    ∃ bytes, bytes.length = packetSize ∧
      mqttSerializePublish sizeBits info packetId remainingLength buffer =
        (.success, bytes ++ buffer.drop packetSize) ∧
      ∃ packet, mqttProcessIncomingPacketTypeAndLength (bytes ++ suffix)
          (bytes ++ suffix).length = (.success, packet) ∧
        packet.headerLength + packet.remainingLength = packetSize ∧
        ∃ decoded, mqttDeserializePublish
            { packet with pRemainingData := some ((bytes ++ suffix).drop packet.headerLength) } =
              (.success, if info.qos = .qos0 then none else some packetId, decoded) ∧
          decoded.Same info := by
  obtain ⟨htopic, hmax, rfl, rfl⟩ := mqttGetPublishPacketSize_success_iff.1 hsizes
  have hlength := (length_serializePublishCommon hmax packetId).1
  exact ⟨serializePublishCommon info (publishRemainingLength info) packetId true, hlength,
    mqttSerializePublish_success hmax htopic hpayload hdup (fun _ => hid) hbits hbuffer,
    serializePublishCommon_decoded hmax htopic.2 (fun _ => hid) suffix⟩

/-- A QoS 1 publish with a topic of one byte and a payload of two. -/
def samplePublish : PublishInfo := ⟨.qos1, false, true, some [0x61], 1, some [7, 8], 2⟩

theorem publish_decoded_sample :
    let buffer := List.replicate 10 (0 : UInt8)
    let bytes : List UInt8 := [0x3A, 7, 0, 1, 0x61, 0, 5, 7, 8]
    mqttGetPublishPacketSize samplePublish = (.success, 7, 9) ∧
      mqttSerializePublish 32 samplePublish 5 7 buffer = (.success, bytes ++ [0]) ∧
      ∃ packet, mqttProcessIncomingPacketTypeAndLength (bytes ++ [0x30]) 10 = (.success, packet) ∧
        ∃ decoded, mqttDeserializePublish
            { packet with pRemainingData := some ((bytes ++ [0x30]).drop packet.headerLength) } =
              (.success, some 5, decoded) ∧ decoded.Same samplePublish := by
  have hsizes : mqttGetPublishPacketSize samplePublish = (.success, 7, 9) := by decide
  have hbuffer : (List.replicate 10 (0 : UInt8)).length = 10 := rfl
  obtain ⟨bytes, hlength, hbytes, packet, hpacket, -, decoded, hdecoded, hsame⟩ :=
    @publish_decoded samplePublish 5 7 9 (fun _ => by decide) (fun _ => by decide) hsizes
      (by decide) (List.replicate 10 0) 32 (by rw [hbuffer]; decide) (by rw [hbuffer]; decide) [0x30]
  have hwritten : mqttSerializePublish 32 samplePublish 5 7 (List.replicate 10 0) =
      (.success, [0x3A, 7, 0, 1, 0x61, 0, 5, 7, 8] ++ [0]) := by
    decide
  have hsplit : bytes ++ [0] = [0x3A, 7, 0, 1, 0x61, 0, 5, 7, 8] ++ [0] := by
    rw [hwritten] at hbytes
    exact (congrArg Prod.snd hbytes).symm
  obtain rfl : bytes = [0x3A, 7, 0, 1, 0x61, 0, 5, 7, 8] := List.append_cancel_right hsplit
  exact ⟨hsizes, hwritten, packet, hpacket, decoded, hdecoded, hsame⟩

/-! ## Encoding what was decoded -/

/-- What `MQTT_ProcessIncomingPacketTypeAndLength` followed by `MQTT_DeserializePublish` returns
for bytes that are one whole PUBLISH. -/
structure PublishAccepted (bytes : List UInt8) (packetId : Option UInt16) (info : PublishInfo) :
    Prop where
  accepted : ∃ packet, mqttProcessIncomingPacketTypeAndLength bytes bytes.length =
      (.success, packet) ∧ packet.headerLength + packet.remainingLength = bytes.length ∧
    mqttDeserializePublish { packet with pRemainingData := some (bytes.drop packet.headerLength) } =
      (.success, packetId, info)
  size : bytes.length ≤ maxRemainingLength

/-- `MQTT_GetPublishPacketSize` and `MQTT_SerializePublish` succeed for the publish, and write
these bytes. -/
def PublishReproduced (bytes : List UInt8) (packetId : UInt16) (info : PublishInfo) : Prop :=
  ∃ remainingLength, mqttGetPublishPacketSize info = (.success, remainingLength, bytes.length) ∧
    ∀ (buffer : List UInt8) (sizeBits : Nat), buffer.length < 2 ^ sizeBits →
      bytes.length ≤ buffer.length →
        mqttSerializePublish sizeBits info packetId remainingLength buffer =
          (.success, bytes ++ buffer.drop bytes.length)

/-- The bytes behind the remaining length. -/
def behindRemainingLength (bytes : List UInt8) : List UInt8 :=
  ((bytes.drop 1).dropWhile fun b => b &&& 0x80 ≠ 0).drop 1

/-- A PUBLISH with a topic, whose DUP bit is set with QoS 1 or 2 only. -/
def publishEncodable (bytes : List UInt8) : Prop :=
  (behindRemainingLength bytes).take 2 ≠ [0, 0] ∧ bytes.getD 0 0 &&& 0x0E ≠ 0x08

instance (bytes : List UInt8) : Decidable (publishEncodable bytes) :=
  inferInstanceAs (Decidable (_ ∧ _))

theorem dropWhile_encodeRemainingLength (n : Nat) (rest : List UInt8) :
    ((encodeRemainingLength n ++ rest).dropWhile fun b => b &&& 0x80 ≠ 0).drop 1 = rest := by
  induction n using Nat.strongRecOn with
  | _ n ih =>
    rw [encodeRemainingLength_eq]
    by_cases hlt : n < 128
    · have hdigit := (lengthDigit_ofNat hlt).2
      rw [if_pos hlt, List.cons_append, List.dropWhile_cons_of_neg (by simp [hdigit])]
      rfl
    · have hdigit := (lengthDigit_setBit (Nat.mod_lt n (by decide : 0 < 128))).2
      rw [if_neg hlt, List.cons_append, List.dropWhile_cons_of_pos (by simp [hdigit])]
      exact ih (n / 128) (by omega)

/-- An accepted packet: its first byte, its remaining length and its data. -/
theorem PublishAccepted.split {bytes : List UInt8} {packetId : Option UInt16} {info : PublishInfo}
    (h : PublishAccepted bytes packetId info) :
    ∃ type data, bytes = type :: (encodeRemainingLength data.length ++ data) ∧
      type &&& 0xF0 = packetTypePublish ∧
      1 + remainingLengthEncodedSize data.length + data.length ≤ maxRemainingLength ∧
      bytes.length = 1 + remainingLengthEncodedSize data.length + data.length ∧
      deserializePublish ⟨type, some data, data.length,
        1 + remainingLengthEncodedSize data.length⟩ = (.success, packetId, info) := by
  obtain ⟨⟨packet, hpacket, hwhole, hpublish⟩, hsize⟩ := h
  cases bytes with
  | nil => cases hpacket
  | cons type tail =>
    unfold mqttProcessIncomingPacketTypeAndLength at hpacket
    rw [if_neg (by simp)] at hpacket
    simp only [List.getD_cons_zero] at hpacket
    split at hpacket
    swap
    · cases hpacket
    rcases hlength : processRemainingLength (type :: tail) (type :: tail).length with
      ⟨status, n, headerLength⟩
    obtain ⟨rfl, rfl⟩ : status = .success ∧ (⟨type, none, n, headerLength⟩ : PacketInfo) = packet := by
      rw [hlength] at hpacket
      exact Prod.mk.inj hpacket
    obtain ⟨hmax, rfl, -, data, hdata⟩ := encode_of_processRemainingLength hlength
    rw [List.take_length, List.drop_succ_cons, List.drop_zero] at hdata
    subst hdata
    have hencoded := length_encodeRemainingLength hmax
    simp only [List.length_cons, List.length_append, hencoded] at hwhole hsize ⊢
    obtain rfl : n = data.length := by omega
    have hdrop : (type :: (encodeRemainingLength data.length ++ data)).drop
        (1 + remainingLengthEncodedSize data.length) = data := by
      rw [Nat.add_comm, List.drop_succ_cons, List.drop_left' hencoded]
    simp only [hdrop] at hpublish
    unfold mqttDeserializePublish at hpublish
    split_ifs at hpublish with htype hnull
    · cases hpublish
    · cases hpublish
    · exact ⟨type, data, rfl, not_not.1 htype, by omega, by omega, hpublish⟩

/-- Data that is decoded to a publish is what is written for it. -/
theorem publishData_of_deserializePublish {type : UInt8} {data : List UInt8} {headerLength : Nat}
    {packetId : Option UInt16} {info : PublishInfo}
    (h : deserializePublish ⟨type, some data, data.length, headerLength⟩ =
      (.success, packetId, info)) (unwritten : UInt16) :
    publishData info (packetId.getD unwritten) = data ∧ publishRemainingLength info = data.length := by
  obtain ⟨qos, -, hminimum, hname, rfl, -, rfl⟩ := deserializePublish_success_iff.1 h
  dsimp only at hminimum hname
  generalize htopic : (uint16Decode (some data) 0).toNat = topic at hname
  have hlength : uint16Bytes (uint16Decode (some data) 0) = data.take 2 :=
    uint16Bytes_uint16Decode (by omega)
  have hstring : readBytes (some (data.drop 2)) topic = (data.drop 2).take topic :=
    readBytes_take (by rw [List.length_drop]; omega)
  have hid : publishId (decodedInfo type (some data) data.length qos)
      ((decodedId (some data) qos (uint16Decode (some data) 0)).getD unwritten) =
        (data.drop (topic + 2)).take (publishIdSize qos) := by
    show (if qos ≠ .qos0 then _ else _) = _
    unfold decodedId publishIdSize
    by_cases hqos : qos = .qos0
    · rw [if_neg (not_not_intro hqos), if_pos hqos, List.take_zero]
    · rw [publishIdSize, if_neg hqos] at hname
      rw [if_pos hqos, if_neg hqos, if_neg hqos, Option.getD_some, htopic]
      exact uint16Bytes_uint16Decode (by omega)
  have hpayload : readBytes (decodedInfo type (some data) data.length qos).pPayload
      (data.length - (topic + 2 + publishIdSize qos)) =
        data.drop (topic + 2 + publishIdSize qos) := by
    simp only [decodedInfo, htopic]
    by_cases hzero : data.length - (topic + 2 + publishIdSize qos) = 0
    · rw [hzero, List.drop_eq_nil_of_le (by omega)]
      rfl
    · rw [if_pos hzero]
      have hdrop := readBytes_some (data.drop (topic + 2 + publishIdSize qos))
      rwa [List.length_drop] at hdrop
  constructor
  · unfold publishData
    rw [hid]
    simp only [decodedInfo, htopic] at hpayload ⊢
    rw [hpayload, hlength, show Pointer.advance (some data) 2 = some (data.drop 2) from rfl, hstring]
    have hrest : (data.drop (topic + 2)).take (publishIdSize qos) ++
        data.drop (topic + 2 + publishIdSize qos) = (data.drop 2).drop topic := by
      rw [← List.drop_drop (i := publishIdSize qos), List.take_append_drop, List.drop_drop,
        Nat.add_comm]
    rw [hrest, List.take_append_drop, List.take_append_drop]
  · simp only [publishRemainingLength, decodedInfo, htopic, ite_not]
    rw [show (if qos = .qos0 then 0 else 2) = publishIdSize qos from rfl]
    omega

theorem uint16Bytes_eq_zero {x : UInt16} : uint16Bytes x = [0, 0] ↔ x = 0 := by
  constructor
  · intro h
    rw [← uint16Decode_uint16Bytes x, h]
    rfl
  · rintro rfl
    rfl

/-- The DUP bit without a QoS bit. -/
theorem dup_flag_iff {b : UInt8} {qos : QoS} (hqos : publishFlagsQoS (b &&& 0x0F) = some qos) :
    b &&& 0x0E ≠ 0x08 ↔ (checkBit (b &&& 0x0F) 3 → qos ≠ .qos0) := by
  have hall : ∀ b : UInt8, ∀ qos : QoS, publishFlagsQoS (b &&& 0x0F) = some qos →
      (b &&& 0x0E ≠ 0x08 ↔ (checkBit (b &&& 0x0F) 3 → qos ≠ .qos0)) := by
    refine forall_uint8 ?_
    intro n qos
    revert n
    cases qos <;> decide +kernel
  exact hall b qos hqos

/-- The condition on the bytes of an accepted packet is one on the decoded publish. -/
theorem PublishAccepted.encodable_iff {bytes : List UInt8} {packetId : Option UInt16}
    {info : PublishInfo} (h : PublishAccepted bytes packetId info) :
    publishEncodable bytes ↔ info.topicNameLength ≠ 0 ∧ (info.dup → info.qos ≠ .qos0) := by
  obtain ⟨type, data, rfl, -, -, -, hpublish⟩ := h.split
  obtain ⟨qos, hqos, hminimum, -, -, -, rfl⟩ := deserializePublish_success_iff.1 hpublish
  dsimp only at hqos hminimum
  have htopic : data.take 2 = uint16Bytes (uint16Decode (some data) 0) :=
    (uint16Bytes_uint16Decode (show 0 + 2 ≤ data.length by omega)).symm
  unfold publishEncodable behindRemainingLength
  rw [List.drop_succ_cons, List.drop_zero, dropWhile_encodeRemainingLength, htopic, ne_eq,
    uint16Bytes_eq_zero, List.getD_cons_zero, dup_flag_iff hqos]
  rfl

/-- `MQTT_SerializePublish` refuses a duplicate with QoS 0. -/
theorem mqttSerializePublish_dup {sizeBits : Nat} {info : PublishInfo} {packetId : UInt16}
    {remainingLength : Nat} {buffer buffer' : List UInt8}
    (h : mqttSerializePublish sizeBits info packetId remainingLength buffer = (.success, buffer')) :
    info.dup → info.qos ≠ .qos0 := by
  intro hdup hqos
  unfold mqttSerializePublish serializeInto at h
  simp only [hdup, hqos, and_self, if_true] at h
  split_ifs at h <;> cases h

/-- What is decoded from a whole PUBLISH is encoded to the same bytes if and only if the packet has
a topic, and its DUP bit is not set with QoS 0. -/
theorem publish_encoded_iff {bytes : List UInt8} {packetId : Option UInt16} {info : PublishInfo}
    (h : PublishAccepted bytes packetId info) (unwritten : UInt16) :
    PublishReproduced bytes (packetId.getD unwritten) info ↔ publishEncodable bytes := by
  rw [h.encodable_iff]
  constructor
  · rintro ⟨remainingLength, hsizes, hserialized⟩
    exact ⟨(mqttGetPublishPacketSize_success_iff.1 hsizes).1.2,
      mqttSerializePublish_dup (hserialized bytes bytes.length Nat.lt_two_pow_self le_rfl)⟩
  · rintro ⟨htopic, hdup⟩
    obtain ⟨type, data, hbytes, htype, hmax, hlength, hpublish⟩ := h.split
    obtain ⟨hdata, hremaining⟩ := publishData_of_deserializePublish hpublish unwritten
    obtain ⟨qos, hqos, -, -, hid, hzero, hinfo⟩ := deserializePublish_success_iff.1 hpublish
    dsimp only at hqos hid hinfo
    have hsize : publishPacketSize info = bytes.length := by
      rw [publishPacketSize, hremaining, hlength]
    have hwritten : serializePublishCommon info (publishRemainingLength info)
        (packetId.getD unwritten) true = bytes := by
      rw [serializePublishCommon_eq, hremaining, hdata, hbytes,
        publishFlags_eq htype (by rw [hinfo]; exact hqos) (by rw [hinfo]; rfl) (by rw [hinfo]; rfl)]
    have hname : info.pTopicName ≠ none := by
      rw [hinfo]
      exact nofun
    have hpayload : 0 < info.payloadLength → info.pPayload ≠ none := by
      intro hpos
      rw [hinfo] at hpos ⊢
      simp only [decodedInfo] at hpos ⊢
      rw [if_pos (by omega)]
      exact nofun
    have hpacketId : info.qos ≠ .qos0 → packetId.getD unwritten ≠ 0 := by
      intro hqos0 heq
      rw [hinfo] at hqos0
      change qos ≠ .qos0 at hqos0
      apply hzero
      rw [hid, decodedId, if_neg hqos0, Option.getD_some] at heq
      rw [hid, decodedId, if_neg hqos0, heq]
    rw [hlength.symm] at hmax
    refine ⟨publishRemainingLength info, mqttGetPublishPacketSize_success_iff.2
      ⟨⟨hname, htopic⟩, hsize ▸ hmax, rfl, hsize.symm⟩, fun buffer sizeBits hbits hbuffer => ?_⟩
    rw [mqttSerializePublish_success (hsize ▸ hmax) ⟨hname, htopic⟩ hpayload hdup hpacketId hbits
      (hsize ▸ hbuffer), hwritten, hsize]

/-- A QoS 0 PUBLISH with the DUP bit, topic `a` and no payload. -/
def dupQos0Packet : List UInt8 := [0x38, 3, 0, 1, 0x61]

theorem dupQos0Packet_accepted : PublishAccepted dupQos0Packet none
    ⟨.qos0, false, true, some [0x61], 1, none, 0⟩ where
  accepted := ⟨⟨0x38, none, 3, 2⟩, by decide, rfl, by decide⟩
  size := by decide

/-- A QoS 1 PUBLISH with an empty topic. -/
def emptyTopicPacket : List UInt8 := [0x32, 5, 0, 0, 0, 9, 7]

theorem emptyTopicPacket_accepted : PublishAccepted emptyTopicPacket (some 9)
    ⟨.qos1, false, false, some [0, 9, 7], 0, some [7], 1⟩ where
  accepted := ⟨⟨0x32, none, 5, 2⟩, by decide, rfl, by decide⟩
  size := by decide

theorem publish_encoded_iff_samples :
    (∃ packetId info, PublishAccepted dupQos0Packet packetId info ∧
      (PublishReproduced dupQos0Packet (packetId.getD 1) info ↔ publishEncodable dupQos0Packet)) ∧
    ∃ packetId info, PublishAccepted emptyTopicPacket packetId info ∧
      (PublishReproduced emptyTopicPacket (packetId.getD 1) info ↔
        publishEncodable emptyTopicPacket) :=
  ⟨⟨_, _, dupQos0Packet_accepted, publish_encoded_iff dupQos0Packet_accepted 1⟩,
    ⟨_, _, emptyTopicPacket_accepted, publish_encoded_iff emptyTopicPacket_accepted 1⟩⟩

/-- Two packets that are accepted, and not reproduced. -/
theorem not_publish_encoded :
    (∃ packetId info, PublishAccepted dupQos0Packet packetId info ∧
      ∀ unwritten : UInt16, ¬ PublishReproduced dupQos0Packet (packetId.getD unwritten) info) ∧
    ∃ packetId info, PublishAccepted emptyTopicPacket packetId info ∧
      ∀ unwritten : UInt16, ¬ PublishReproduced emptyTopicPacket (packetId.getD unwritten) info := by
  refine ⟨⟨_, _, dupQos0Packet_accepted, ?_⟩, ⟨_, _, emptyTopicPacket_accepted, ?_⟩⟩
  · rintro unwritten ⟨remainingLength, -, hserialized⟩
    exact mqttSerializePublish_dup (hserialized dupQos0Packet 8 (by decide) le_rfl) rfl rfl
  · rintro unwritten ⟨remainingLength, hsizes, -⟩
    exact (mqttGetPublishPacketSize_success_iff.1 hsizes).1.2 rfl

end FreeMqtt

import FreeMqtt.Core.PublishTrace
import FreeMqtt.Serializer.Connect

/-!
# The stored copy of a publish

`sendPublishWithoutCopy` gives the store function a vector whose header has the DUP bit, and puts
the header back before it sends the packet. What `MQTT_SerializeMQTTVec` writes for that vector is
the packet that is sent but for this bit, and is decoded to the same publish with the dup flag set
(`storedCopy_of_mqttPublish`).
-/

namespace FreeMqtt

/-! ## Vectors for the store function -/

/-- `MQTT_GetBytesInMQTTVec`. -/
def mqttGetBytesInMQTTVec (sizeBits : Nat) (pVec : List (List UInt8)) : Nat :=
  pVec.foldl (fun memoryRequired v => (memoryRequired + v.length) % 2 ^ sizeBits) 0

/-- `MQTT_SerializeMQTTVec`: the memory after it. -/
def mqttSerializeMQTTVec (pAllocatedMem : List UInt8) (pVec : List (List UInt8)) : List UInt8 :=
  (pVec.foldl writeBytes (pAllocatedMem, 0)).1

theorem foldl_length {sizeBits : Nat} (pVec : List (List UInt8)) {n : Nat} (h : n < 2 ^ sizeBits) :
    pVec.foldl (fun memoryRequired v => (memoryRequired + v.length) % 2 ^ sizeBits) n =
      (n + pVec.flatten.length) % 2 ^ sizeBits := by
  induction pVec generalizing n with
  | nil => exact (Nat.mod_eq_of_lt h).symm
  | cons v pVec ih =>
    rw [List.foldl_cons, ih (Nat.mod_lt _ (Nat.two_pow_pos sizeBits)), Nat.mod_add_mod,
      List.flatten_cons, List.length_append, Nat.add_assoc]

theorem mqttGetBytesInMQTTVec_eq {sizeBits : Nat} {pVec : List (List UInt8)}
    (h : pVec.flatten.length < 2 ^ sizeBits) :
    mqttGetBytesInMQTTVec sizeBits pVec = pVec.flatten.length := by
  rw [mqttGetBytesInMQTTVec, foldl_length pVec (Nat.two_pow_pos sizeBits), Nat.zero_add,
    Nat.mod_eq_of_lt h]

theorem foldl_writeBytes (memory bytes : List UInt8) (pVec : List (List UInt8)) :
    pVec.foldl writeBytes (written memory bytes) = written memory (bytes ++ pVec.flatten) := by
  induction pVec generalizing bytes with
  | nil => rw [List.flatten_nil, List.append_nil, List.foldl_nil]
  | cons v pVec ih =>
    rw [List.foldl_cons, writeBytes_written, ih, List.flatten_cons, List.append_assoc]

/-- The vectors are written one behind the other, and nothing else is. -/
theorem mqttSerializeMQTTVec_eq (memory : List UInt8) (pVec : List (List UInt8)) :
    mqttSerializeMQTTVec memory pVec = pVec.flatten ++ memory.drop pVec.flatten.length :=
  congrArg Prod.fst (foldl_writeBytes memory [] pVec)

/-! ## The vector that is stored -/

/-- The `mqttVec` of `sendPublishWithoutCopy`: the header has the DUP bit by then. -/
def storedVector (info : PublishInfo) (pMqttHeader : List UInt8) (packetId : UInt16) :
    List (List UInt8) :=
  (if info.dup then pMqttHeader else (mqttUpdateDuplicatePublishFlag pMqttHeader true).2) ::
    publishVectors info packetId

/-- It is the vector of the publish with its dup flag set. -/
theorem storedVector_eq (info : PublishInfo) (remainingLength : Nat) (packetId : UInt16) :
    storedVector info (mqttSerializePublishHeaderWithoutTopic info remainingLength).1 packetId =
      publishMessage { info with dup := true } remainingLength packetId := by
  unfold storedVector publishMessage
  cases hdup : info.dup with
  | false =>
    rw [if_neg (by decide)]
    simp [mqttSerializePublishHeaderWithoutTopic, mqttUpdateDuplicatePublishFlag,
      (publishFlags_spec info).1, setBit_publishFlags info, publishVectors]
  | true =>
    rw [if_pos rfl, show ({ info with dup := true } : PublishInfo) = info by rw [← hdup]]

theorem callStore_log (s : Sys) (packetId : UInt16) (packet : List UInt8) :
    (callStore s packetId packet).2.log = s.log := by
  unfold callStore
  split <;> rfl

theorem callStore_stored {s : Sys} {packetId : UInt16} {packet : List UInt8}
    (h : (callStore s packetId packet).1 ≠ false) : (callStore s packetId packet).2.store =
      fun id => if id = packetId then some packet else s.store id := by
  unfold callStore at h ⊢
  split at h
  · exact absurd rfl h
  · rfl

/-! ## The publish -/

/-- A call of `MQTT_Publish` that succeeds, or at least hands a packet to the transport. -/
def HandsPublish (c : Config) (s : Sys) (info : PublishInfo) (packetId : UInt16) : Prop :=
  (mqttPublish c s (some info) packetId).1 = .success ∨
    (mqttPublish c s (some info) packetId).2.log ≠ s.log

/-- `sendPublishWithoutCopy` with a store function: the copy is stored, or nothing is sent. -/
theorem sendPublishWithoutCopy_copy (c : Config) {s : Sys} {info : PublishInfo}
    (hqos : info.qos ≠ .qos0) (hstore : s.storeFunction = true) (remainingLength : Nat)
    (packetId : UInt16) :
    sendPublishWithoutCopy c s info (mqttSerializePublishHeaderWithoutTopic info remainingLength).1
        packetId =
      let stored := callStore s packetId (publishCopy info remainingLength packetId)
      if stored.1 = false then (.publishStoreFailed, stored.2)
      else sendVectors c stored.2 info packetId (publishMessage info remainingLength packetId) := by
  have hcopy := storeCopy_eq s info remainingLength packetId
  dsimp only at hcopy
  rw [if_pos ⟨hqos, hstore⟩] at hcopy
  rw [sendPublishWithoutCopy_vectors]
  dsimp only
  rw [hcopy]
  by_cases hfail : (callStore s packetId (publishCopy info remainingLength packetId)).1 = false
  · rw [if_pos hfail, if_pos hfail, if_pos (by simp)]
  · rw [if_neg hfail, if_neg hfail, if_neg (by simp)]

/-- From the reserved record on: the copy is stored, and then the packet is sent. -/
theorem publishReserved_copy (c : Config) {s : Sys} {info : PublishInfo} {packetId : UInt16}
    (hqos : info.qos ≠ .qos0) (hstore : s.storeFunction = true)
    (hsize : (mqttGetPublishPacketSize info).1 = .success)
    (h : (publishReserved c s info packetId).1 = .success ∨
      (publishReserved c s info packetId).2.log ≠ s.log) :
    let s' := (publishReserved c s info packetId).2
    s'.store = (fun id => if id = packetId then
      some (publishCopy info (mqttGetPublishPacketSize info).2.1 packetId) else s.store id) ∧
    ∃ n stop, s'.log = s.log ++ [.sent (.publish packetId info.qos)
      (publishMessage info (mqttGetPublishPacketSize info).2.1 packetId).flatten n stop] := by
  unfold publishReserved at h ⊢
  dsimp only at h ⊢
  rw [sendPublishWithoutCopy_copy c hqos hstore] at h ⊢
  dsimp only at h ⊢
  have hlog := callStore_log s packetId (publishCopy info (mqttGetPublishPacketSize info).2.1 packetId)
  by_cases hfail : (callStore s packetId
      (publishCopy info (mqttGetPublishPacketSize info).2.1 packetId)).1 = false
  · rw [if_pos hfail] at h
    simp [hlog] at h
  rw [if_neg hfail]
  have hcopy := callStore_stored hfail
  generalize (callStore s packetId
    (publishCopy info (mqttGetPublishPacketSize info).2.1 packetId)).2 = s₁ at hlog hcopy
  obtain ⟨n, stop, hsent, -⟩ := sendVectors_spec c s₁ hsize packetId
  have hstored : (sendVectors c s₁ info packetId
      (publishMessage info (mqttGetPublishPacketSize info).2.1 packetId)).2.store = s₁.store := by
    obtain ⟨-, -, ticks, sends, lastTx, heq⟩ := hsent
    rw [heq]
  have hsentLog := hsent.log_eq
  rw [hlog] at hsentLog
  rw [hcopy] at hstored
  split
  · exact ⟨hstored, n, stop, hsentLog⟩
  · exact ⟨hstored, n, stop, hsentLog⟩

/-- What `HandsPublish` says about the call: it was accepted, and it went through the record. -/
theorem HandsPublish.reserved {c : Config} {s : Sys} {info : PublishInfo} {packetId : UInt16}
    (h : HandsPublish c s info packetId) :
    validatePublishParams s (some info) packetId = .success ∧
      (mqttGetPublishPacketSize info).1 = .success ∧
      ∃ records, mqttPublish c s (some info) packetId =
        publishReserved c (s.setRecords records) info packetId := by
  have houtcome := mqttPublish_cases c s info packetId
  unfold HandsPublish at h
  generalize mqttPublish c s (some info) packetId = published at h houtcome
  cases houtcome with
  | rejected _ hfail => exact absurd (h.resolve_right fun hne => hne rfl) hfail
  | unreserved _ hfail => exact absurd (.inl (h.resolve_right fun hne => hne rfl)) hfail
  | reserved hchecks => exact ⟨hchecks.valid, hchecks.size, _, rfl⟩

/-- The DUP bit of the first byte of a PUBLISH. -/
theorem checkBit_publishFlags (info : PublishInfo) : checkBit (publishFlags info) 3 = info.dup := by
  unfold publishFlags
  cases info.qos <;> cases info.retain <;> cases info.dup <;> decide

/-- The packet and its copy differ in this bit. -/
theorem publishCopy_dupBit (info : PublishInfo) (remainingLength : Nat) (packetId : UInt16) :
    ∃ first rest, (publishMessage info remainingLength packetId).flatten = first :: rest ∧
      publishCopy info remainingLength packetId = setBit first 3 :: rest ∧
      checkBit first 3 = info.dup := by
  refine ⟨publishFlags info, _, rfl, ?_, checkBit_publishFlags info⟩
  rw [setBit_publishFlags]
  rfl

/-- The vector that the store function is given, beside the packet that is sent behind it. -/
theorem storedCopy_of_mqttPublish (c : Config) {s : Sys} {info : PublishInfo} {packetId : UInt16}
    (hqos : info.qos ≠ .qos0) (hstore : s.storeFunction = true)
    (h : HandsPublish c s info packetId) :
    let header :=
      (mqttSerializePublishHeaderWithoutTopic info (mqttGetPublishPacketSize info).2.1).1
    let mqttVec := storedVector info header packetId
    let pIoVector := header :: publishVectors info packetId
    let s' := (mqttPublish c s (some info) packetId).2
    -- the store function keeps the bytes of `mqttVec`, and `pIoVector` is sent
    s'.store = (fun id => if id = packetId then some mqttVec.flatten else s.store id) ∧
    (∃ n stop,
      s'.log = s.log ++ [.sent (.publish packetId info.qos) pIoVector.flatten n stop]) ∧
    (∀ sizeBits, 32 ≤ sizeBits → mqttGetBytesInMQTTVec sizeBits mqttVec = mqttVec.flatten.length) ∧
    (∀ memory, mqttSerializeMQTTVec memory mqttVec =
      mqttVec.flatten ++ memory.drop mqttVec.flatten.length) ∧
    (∃ first rest, pIoVector.flatten = first :: rest ∧ mqttVec.flatten = setBit first 3 :: rest ∧
      checkBit first 3 = info.dup) ∧
    ∃ packet, mqttProcessIncomingPacketTypeAndLength mqttVec.flatten mqttVec.flatten.length =
        (.success, packet) ∧
      packet.headerLength + packet.remainingLength = mqttVec.flatten.length ∧
      ∃ decoded, mqttDeserializePublish
          { packet with pRemainingData := some (mqttVec.flatten.drop packet.headerLength) } =
            (.success, some packetId, decoded) ∧
        decoded.Same { info with dup := true } := by
  intro header mqttVec pIoVector s'
  obtain ⟨hvalid, hsize, records, hpublish⟩ := h.reserved
  obtain ⟨htopic, hmax, hremaining, -⟩ := mqttGetPublishPacketSize_success_iff.1
    (Prod.ext hsize rfl : mqttGetPublishPacketSize info = (.success, _, _))
  have hid : packetId ≠ 0 := by
    rintro rfl
    unfold validatePublishParams at hvalid
    dsimp only at hvalid
    rw [if_pos ⟨hqos, rfl⟩] at hvalid
    cases hvalid
  have hvec : mqttVec = publishMessage { info with dup := true }
      (mqttGetPublishPacketSize info).2.1 packetId := storedVector_eq info _ packetId
  have hbytes : mqttVec.flatten = serializePublishCommon { info with dup := true }
      (publishRemainingLength { info with dup := true }) packetId true := by
    rw [hvec, publishMessage_flatten, hremaining]
    rfl
  have hlength : mqttVec.flatten.length = publishPacketSize { info with dup := true } := by
    rw [hbytes]
    exact (length_serializePublishCommon hmax packetId).1
  have hsmall : mqttVec.flatten.length ≤ maxRemainingLength := hlength.trans_le hmax
  obtain ⟨hcopied, hlogged⟩ : s'.store = (fun id => if id = packetId then some mqttVec.flatten
      else s.store id) ∧ ∃ n stop, s'.log = s.log ++
        [.sent (.publish packetId info.qos) pIoVector.flatten n stop] := by
    unfold HandsPublish at h
    show (mqttPublish c s (some info) packetId).2.store = _ ∧ ∃ n stop,
      (mqttPublish c s (some info) packetId).2.log = _
    rw [hpublish] at h ⊢
    rw [hvec]
    exact publishReserved_copy c hqos hstore hsize h
  refine ⟨hcopied, hlogged, fun sizeBits hbits => mqttGetBytesInMQTTVec_eq ?_,
    fun memory => mqttSerializeMQTTVec_eq memory mqttVec, ?_, ?_⟩
  · exact Nat.lt_of_lt_of_le (Nat.lt_of_le_of_lt hsmall (by decide : maxRemainingLength < 2 ^ 32))
      (Nat.pow_le_pow_right (by decide) hbits)
  · rw [hvec]
    exact publishCopy_dupBit info _ packetId
  · obtain ⟨packet, hpacket, htotal, decoded, hdecoded, hsame⟩ :=
      @serializePublishCommon_decoded { info with dup := true } packetId hmax htopic.2
        (fun _ => hid) []
    rw [List.append_nil, ← hbytes] at hpacket hdecoded
    refine ⟨packet, hpacket, htotal.trans hlength.symm, decoded, ?_, hsame⟩
    rwa [if_neg hqos] at hdecoded

theorem storedCopy_of_mqttPublish_sample :
    let s' := (mqttPublish .default (publishedClient [] []) (some publishInfoOne) 1).2
    s'.store 1 = some [0x3A, 5, 0, 1, 0x74, 0, 1] ∧
      ∃ first rest, [0x32, 5, 0, 1, 0x74, 0, 1] = first :: rest ∧
        [0x3A, 5, 0, 1, 0x74, 0, 1] = setBit first 3 :: rest ∧ checkBit first 3 = false := by
  have h := @storedCopy_of_mqttPublish .default (publishedClient [] []) publishInfoOne 1 (by decide)
    (by decide +kernel) (.inl (by decide +kernel))
  exact ⟨congrFun h.1 1, h.2.2.2.2.1⟩

end FreeMqtt

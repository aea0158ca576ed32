import FreeMqtt.Core.Api
import FreeMqtt.Core.Steps
import FreeMqtt.Serializer.RoundTrip

/-!
# The three ways to a PUBLISH

`MQTT_SerializePublish`, `MQTT_SerializePublishHeader` with the payload behind it, and the vectors
that `MQTT_Publish` hands to the transport are the same bytes (`publish_paths_agree`). The copy
that is stored before they are sent differs in the DUP bit only.
-/

namespace FreeMqtt

/-! ## The stored copy -/

/-- The vectors of a PUBLISH, from `MQTT_SerializePublishHeaderWithoutTopic` on. -/
def publishMessage (info : PublishInfo) (remainingLength : Nat) (packetId : UInt16) :
    List (List UInt8) :=
  (mqttSerializePublishHeaderWithoutTopic info remainingLength).1 :: publishVectors info packetId

/-- The bytes that are stored for a publish. -/
def publishCopy (info : PublishInfo) (remainingLength : Nat) (packetId : UInt16) : List UInt8 :=
  (publishMessage { info with dup := true } remainingLength packetId).flatten

/-- The part of `sendPublishWithoutCopy` before the packet is sent. -/
def storeCopy (s : Sys) (info : PublishInfo) (header : List UInt8) (packetId : UInt16) :
    Status × List UInt8 × Sys :=
  if info.qos ≠ .qos0 ∧ s.storeFunction then
    storePublish s info header (publishVectors info packetId) packetId
  else (.success, header, s)

/-- The part of `sendPublishWithoutCopy` that sends the packet. -/
def sendVectors (c : Config) (s : Sys) (info : PublishInfo) (packetId : UInt16)
    (pIoVector : List (List UInt8)) : Status × Sys :=
  let sent := sendMessageVector c s pIoVector
  (if sent.1 ≠ int32Cast pIoVector.flatten.length then .sendFailed else .success,
    sent.2.recordSent s (.publish packetId info.qos) pIoVector.flatten sent.1)

theorem sendPublishWithoutCopy_eq (c : Config) (s : Sys) (info : PublishInfo) (header : List UInt8)
    (packetId : UInt16) : sendPublishWithoutCopy c s info header packetId =
      let stored := storeCopy s info header packetId
      if stored.1 ≠ .success then (stored.1, stored.2.2)
      else sendVectors c stored.2.2 info packetId (stored.2.1 :: publishVectors info packetId) :=
  rfl

/-- The DUP bit is set in the copy. -/
theorem setBit_publishFlags (info : PublishInfo) :
    setBit (publishFlags info) 3 = publishFlags { info with dup := true } := by
  simp only [publishFlags, if_true]
  cases info.qos <;> cases info.retain <;> cases info.dup <;> decide

/-- It is cleared again in the packet that is sent. -/
theorem clearBit_publishFlags {info : PublishInfo} (hdup : info.dup = false) :
    clearBit (publishFlags { info with dup := true }) 3 = publishFlags info := by
  simp only [publishFlags, hdup, Bool.false_eq_true, if_false, if_true]
  cases info.qos <;> cases info.retain <;> decide

/-- What is stored. A header that was changed for that is the one from before again. -/
theorem storeCopy_eq (s : Sys) (info : PublishInfo) (remainingLength : Nat) (packetId : UInt16) :
    let header := (mqttSerializePublishHeaderWithoutTopic info remainingLength).1
    storeCopy s info header packetId =
      if info.qos ≠ .qos0 ∧ s.storeFunction then
        let stored := callStore s packetId (publishCopy info remainingLength packetId)
        if stored.1 = false then
          (.publishStoreFailed, (mqttSerializePublishHeaderWithoutTopic { info with dup := true }
            remainingLength).1, stored.2)
        else (.success, header, stored.2)
      else (.success, header, s) := by
  intro header
  unfold storeCopy
  split
  swap
  · rfl
  unfold storePublish
  cases hdup : info.dup
  · have hset := setBit_publishFlags info
    have hclear := clearBit_publishFlags hdup
    have hfront : mqttUpdateDuplicatePublishFlag header true = (.success,
        (mqttSerializePublishHeaderWithoutTopic { info with dup := true } remainingLength).1) := by
      simp [header, mqttSerializePublishHeaderWithoutTopic, mqttUpdateDuplicatePublishFlag,
        (publishFlags_spec info).1, hset]
    have hback : mqttUpdateDuplicatePublishFlag (mqttSerializePublishHeaderWithoutTopic
        { info with dup := true } remainingLength).1 false = (.success, header) := by
      simp [header, mqttSerializePublishHeaderWithoutTopic, mqttUpdateDuplicatePublishFlag,
        (publishFlags_spec { info with dup := true }).1, hclear]
    simp only [Bool.false_eq_true, if_false, hfront, hback, ne_eq, not_true_eq_false]
    rfl
  · have hsame : { info with dup := true } = info := by
      rw [← hdup]
    simp only [if_true, ne_eq, not_true_eq_false, if_false, publishCopy, publishMessage, hsame]
    rfl

/-- The application refuses to store the next publish. -/
def StoreFails (s : Sys) : Prop := s.storeFunction = true ∧ s.storeResults.head? = some false

instance (s : Sys) : Decidable (StoreFails s) := inferInstanceAs (Decidable (_ ∧ _))

theorem storeCopy_status (s : Sys) {info : PublishInfo} (hqos : info.qos ≠ .qos0)
    (remainingLength : Nat) (packetId : UInt16) :
    (storeCopy s info (mqttSerializePublishHeaderWithoutTopic info remainingLength).1 packetId).1 =
      if StoreFails s then .publishStoreFailed else .success := by
  rw [storeCopy_eq s info remainingLength packetId]
  by_cases hfunction : s.storeFunction = true
  swap
  · rw [if_neg fun h => hfunction h.2, if_neg fun h : StoreFails s => hfunction h.1]
  rw [if_pos ⟨hqos, hfunction⟩]
  unfold callStore
  rcases hresults : s.storeResults with _ | ⟨_ | _, storeResults⟩ <;>
    simp [StoreFails, hfunction, hresults]

/-! ## What is sent -/

/-- The call of `sendMessageVector` in `sendPublishWithoutCopy`: it is made unless the publish
could not be stored, and its vectors are those of the message. -/
theorem sendPublishWithoutCopy_vectors (c : Config) (s : Sys) (info : PublishInfo)
    (remainingLength : Nat) (packetId : UInt16) :
    let header := (mqttSerializePublishHeaderWithoutTopic info remainingLength).1
    let stored := storeCopy s info header packetId
    sendPublishWithoutCopy c s info header packetId =
      if stored.1 ≠ .success then (stored.1, stored.2.2)
      else sendVectors c stored.2.2 info packetId (publishMessage info remainingLength packetId) := by
  intro header stored
  have hheader : stored.1 = .success → stored.2.1 = header := by
    have heq : stored = _ := storeCopy_eq s info remainingLength packetId
    intro h
    rw [heq] at h ⊢
    by_cases hstore : info.qos ≠ .qos0 ∧ s.storeFunction = true
    · rw [if_pos hstore] at h ⊢
      dsimp only at h ⊢
      by_cases hfail : (callStore s packetId (publishCopy info remainingLength packetId)).1 = false
      · rw [if_pos hfail] at h
        exact absurd h (by simp)
      · rw [if_neg hfail]
    · rw [if_neg hstore]
  rw [sendPublishWithoutCopy_eq]
  change (if stored.1 ≠ .success then (stored.1, stored.2.2)
    else sendVectors c stored.2.2 info packetId (stored.2.1 :: publishVectors info packetId)) = _
  by_cases hstored : stored.1 = .success
  · rw [if_neg (not_not_intro hstored), if_neg (not_not_intro hstored), hheader hstored]
    rfl
  · rw [if_pos hstored, if_pos hstored]

/-- The vectors of a message are the bytes of `serializePublishCommon`. -/
theorem publishMessage_flatten (info : PublishInfo) (remainingLength : Nat) (packetId : UInt16) :
    (publishMessage info remainingLength packetId).flatten =
      serializePublishCommon info remainingLength packetId true := by
  unfold publishMessage publishVectors serializePublishCommon encodeString
    mqttSerializePublishHeaderWithoutTopic
  by_cases hqos : info.qos = .qos0 <;> by_cases hpayload : 0 < info.payloadLength <;>
    simp [hqos, hpayload]

theorem length_publishMessage_lt {info : PublishInfo}
    (h : (mqttGetPublishPacketSize info).1 = .success) (packetId : UInt16) :
    (publishMessage info (mqttGetPublishPacketSize info).2.1 packetId).flatten.length < 2 ^ 31 := by
  have hflat := length_flatten_le fun v hv => Nat.le_of_lt (length_publishVectors_lt h packetId v hv)
  have hcount : (publishVectors info packetId).length ≤ 3 := by
    unfold publishVectors
    split_ifs <;> simp
  have hmul : (publishMessage info (mqttGetPublishPacketSize info).2.1 packetId).length * 2 ^ 28 ≤
      4 * 2 ^ 28 := Nat.mul_le_mul_right _ (Nat.succ_le_succ hcount)
  exact Nat.lt_of_le_of_lt (hflat.trans hmul) (by decide)

/-- The PUBLISH packet of `sendPublishWithoutCopy`. -/
theorem sendVectors_spec (c : Config) (s : Sys) {info : PublishInfo}
    (h : (mqttGetPublishPacketSize info).1 = .success) (packetId : UInt16) :
    let message := publishMessage info (mqttGetPublishPacketSize info).2.1 packetId
    let sent := sendVectors c s info packetId message
    ∃ n stop, Sent s sent.2 (.publish packetId info.qos) message.flatten n stop ∧
      (sent.1 = .success ↔ stop = .complete) := by
  obtain ⟨n, stop, hsent, hreturned⟩ := (sendMessageVector_spec c s fun v hv => Nat.lt_trans
    (length_publishVectors_lt h packetId v hv) (by decide)).recordSent (.publish packetId info.qos)
  have hresult := hsent.result_eq_length hreturned
  unfold sendVectors
  dsimp only
  refine ⟨n, stop, hsent, ?_⟩
  rw [← hresult, int32Cast_eq (length_publishMessage_lt h packetId)]
  split
  · rename_i hne
    exact ⟨fun heq => absurd heq (by simp), fun heq => absurd heq hne⟩
  · rename_i heq
    exact ⟨fun _ => not_not.1 heq, fun _ => rfl⟩

/-- `MQTT_Publish` comes to the transport: the checks are passed, there is a record and the copy is
not refused. -/
structure HandsOver (s : Sys) (info : PublishInfo) (packetId : UInt16) : Prop where
  checks : Publishing s info packetId
  reserves : Reserves s info packetId
  stores : info.qos ≠ .qos0 → ¬ StoreFails s

theorem storeCopy_kept (s : Sys) (info : PublishInfo) (header : List UInt8) (packetId : UInt16) :
    ∃ store storeResults,
      (storeCopy s info header packetId).2.2 = { s with store, storeResults } := by
  unfold storeCopy
  split
  · exact (storePublish_spec s info header (publishVectors info packetId) packetId).2
  · exact ⟨s.store, s.storeResults, rfl⟩

/-- The status of the copy of any publish. -/
theorem storeCopy_success_iff (s : Sys) (info : PublishInfo) (remainingLength : Nat)
    (packetId : UInt16) :
    (storeCopy s info (mqttSerializePublishHeaderWithoutTopic info remainingLength).1 packetId).1 =
      .success ↔ (info.qos ≠ .qos0 → ¬ StoreFails s) := by
  by_cases hqos : info.qos = .qos0
  · have hnone : ¬ (info.qos ≠ .qos0 ∧ s.storeFunction = true) := fun h => h.1 hqos
    unfold storeCopy
    rw [if_neg hnone]
    exact ⟨fun _ hne => absurd hqos hne, fun _ => rfl⟩
  · rw [storeCopy_status s hqos]
    split
    · rename_i hfails
      exact ⟨fun h => absurd h (by decide), fun h => absurd hfails (h hqos)⟩
    · rename_i hstores
      exact ⟨fun _ _ => hstores, fun _ => rfl⟩

/-- The context in which `MQTT_Publish` sends its packet: with the record and the copy. -/
def publishContext (s : Sys) (info : PublishInfo) (packetId : UInt16) : Sys :=
  (storeCopy (s.setRecords (mqttReserveState s.toPublishRecords packetId info.qos).2) info
    (mqttSerializePublishHeaderWithoutTopic info (mqttGetPublishPacketSize info).2.1).1
    packetId).2.2

theorem publishContext_kept (s : Sys) (info : PublishInfo) (packetId : UInt16) :
    ∃ t store storeResults,
      publishContext s info packetId = { s.setRecords t with store, storeResults } := by
  obtain ⟨store, storeResults, hstored⟩ := storeCopy_kept
    (s.setRecords (mqttReserveState s.toPublishRecords packetId info.qos).2) info
    (mqttSerializePublishHeaderWithoutTopic info (mqttGetPublishPacketSize info).2.1).1 packetId
  exact ⟨_, store, storeResults, hstored⟩

section Outcome

variable (c : Config) {s : Sys} {info : PublishInfo} {packetId : UInt16}

/-- A publish that comes to the transport sends its message, and updates the record. -/
theorem mqttPublish_handsOver (h : HandsOver s info packetId) :
    ∃ t, (mqttPublish c s (some info) packetId).2 =
      (sendVectors c (publishContext s info packetId) info packetId
        (publishMessage info (mqttGetPublishPacketSize info).2.1 packetId)).2.setRecords t := by
  have hstored := (storeCopy_success_iff
    (s.setRecords (mqttReserveState s.toPublishRecords packetId info.qos).2) info
    (mqttGetPublishPacketSize info).2.1 packetId).2 h.stores
  have hreserves := h.reserves
  unfold Reserves at hreserves
  rw [mqttPublish_connected c h.checks.valid h.checks.size h.checks.connected]
  dsimp only
  rw [if_pos hreserves]
  unfold publishReserved publishContext
  rw [sendPublishWithoutCopy_vectors]
  dsimp only
  rw [if_neg (not_not_intro hstored)]
  split
  · exact ⟨_, rfl⟩
  · exact ⟨_, rfl⟩

/-- Any other publish changes the records and the copies at most. -/
theorem mqttPublish_unsent (h : ¬ HandsOver s info packetId) :
    ∃ t store storeResults,
      (mqttPublish c s (some info) packetId).2 = { s.setRecords t with store, storeResults } := by
  have houtcome := mqttPublish_cases c s info packetId
  generalize mqttPublish c s (some info) packetId = published at houtcome
  cases houtcome with
  | rejected _ => exact ⟨s.toPublishRecords, s.store, s.storeResults, rfl⟩
  | unreserved _ _ => exact ⟨_, s.store, s.storeResults, rfl⟩
  | reserved hchecks hok =>
    have hfail := mt (storeCopy_success_iff
      (s.setRecords (mqttReserveState s.toPublishRecords packetId info.qos).2) info
      (mqttGetPublishPacketSize info).2.1 packetId).1 fun hstores => h ⟨hchecks, hok, hstores⟩
    have hkept := publishContext_kept s info packetId
    unfold publishContext at hkept
    unfold publishReserved
    rw [sendPublishWithoutCopy_vectors]
    dsimp only
    rw [if_pos hfail, if_neg fun h => hfail h.1]
    exact hkept

/-- The packet that `MQTT_Publish` sends: exactly one when it comes to the transport, else none. -/
theorem mqttPublish_log (s : Sys) (info : PublishInfo) (packetId : UInt16) :
    let message := publishMessage info (mqttGetPublishPacketSize info).2.1 packetId
    (HandsOver s info packetId → ∃ n stop, (mqttPublish c s (some info) packetId).2.log =
      s.log ++ [.sent (.publish packetId info.qos) message.flatten n stop]) ∧
    (¬ HandsOver s info packetId → (mqttPublish c s (some info) packetId).2.log = s.log) := by
  intro message
  constructor
  · intro h
    obtain ⟨t, hpublished⟩ := mqttPublish_handsOver c h
    obtain ⟨t₀, store, storeResults, hcontext⟩ := publishContext_kept s info packetId
    obtain ⟨n, stop, hsent, -⟩ :=
      sendVectors_spec c (publishContext s info packetId) h.checks.size packetId
    have hlog := hsent.log_eq
    rw [hcontext] at hlog hpublished
    exact ⟨n, stop, (congrArg (fun s' : Sys => s'.log) hpublished).trans hlog⟩
  · intro h
    obtain ⟨t, store, storeResults, hpublished⟩ := mqttPublish_unsent c h
    rw [hpublished]
    rfl

end Outcome

/-- The three ways to serialize a publish lead to the same bytes. -/
theorem publish_paths_agree {info : PublishInfo} {packetId : UInt16}
    {remainingLength packetSize : Nat} (hdup : info.dup → info.qos ≠ .qos0)
    (hpayload : 0 < info.payloadLength → info.pPayload ≠ none)
    (hsizes : mqttGetPublishPacketSize info = (.success, remainingLength, packetSize))
    (hid : packetId ≠ 0) :
    ∃ bytes header, bytes.length = packetSize ∧
      header ++ readBytes info.pPayload info.payloadLength = bytes ∧
      (∀ (sizeBits : Nat) (buffer : List UInt8), buffer.length < 2 ^ sizeBits →
        packetSize ≤ buffer.length →
        mqttSerializePublish sizeBits info packetId remainingLength buffer =
          (.success, bytes ++ buffer.drop packetSize)) ∧
      (∀ (sizeBits : Nat) (buffer : List UInt8), packetSize < 2 ^ sizeBits →
        header.length ≤ buffer.length →
        mqttSerializePublishHeader sizeBits info packetId remainingLength buffer =
          (.success, header ++ buffer.drop header.length, some header.length)) ∧
      let front := mqttSerializePublishHeaderWithoutTopic info remainingLength
      front.2 = front.1.length ∧ front.2 ≤ 7 ∧
        (front.1 :: publishVectors info packetId).flatten = bytes ∧
        (∀ (c : Config) (s : Sys), let stored := storeCopy s info front.1 packetId
          sendPublishWithoutCopy c s info front.1 packetId =
            if stored.1 ≠ .success then (stored.1, stored.2.2)
            else sendVectors c stored.2.2 info packetId
              (front.1 :: publishVectors info packetId)) ∧
        ∀ (c : Config) (s : Sys),
          (HandsOver s info packetId → ∃ n stop, (mqttPublish c s (some info) packetId).2.log =
            s.log ++ [.sent (.publish packetId info.qos) bytes n stop]) ∧
          (¬ HandsOver s info packetId → (mqttPublish c s (some info) packetId).2.log = s.log) := by
  obtain ⟨htopic, hmax, hremaining, hsize⟩ := mqttGetPublishPacketSize_success_iff.1 hsizes
  obtain ⟨hlength, hheader⟩ := length_serializePublishCommon hmax packetId
  subst hremaining hsize
  have hencoded := length_encodeRemainingLength
    (Nat.le_trans (Nat.le_add_left ..) hmax : publishRemainingLength info ≤ maxRemainingLength)
  have hfour := remainingLengthEncodedSize_le (publishRemainingLength info)
  have hfront : (mqttSerializePublishHeaderWithoutTopic info (publishRemainingLength info)).2 =
      (mqttSerializePublishHeaderWithoutTopic info (publishRemainingLength info)).1.length := by
    simp only [mqttSerializePublishHeaderWithoutTopic, List.length_append, List.length_singleton,
      hencoded, length_uint16Bytes]
  refine ⟨serializePublishCommon info (publishRemainingLength info) packetId true,
    serializePublishCommon info (publishRemainingLength info) packetId false, hlength,
    (serializePublishCommon_payload ..).symm, ?_, ?_, hfront, ?_, publishMessage_flatten .., ?_, ?_⟩
  · intro sizeBits buffer hbits hbuffer
    exact mqttSerializePublish_success hmax htopic hpayload hdup (fun _ => hid) hbits hbuffer
  · intro sizeBits buffer hbits hbuffer
    exact mqttSerializePublishHeader_success hmax htopic hdup (fun _ => hid) hbits hbuffer
  · show 1 + remainingLengthEncodedSize (publishRemainingLength info) + 2 ≤ 7
    omega
  · exact fun c s => sendPublishWithoutCopy_vectors c s info (publishRemainingLength info) packetId
  · intro c s
    have hlog := mqttPublish_log c s info packetId
    dsimp only at hlog
    rwa [hsizes, publishMessage_flatten] at hlog

theorem publish_paths_agree_sample :
    let s := { Sys.initialized (World.still []) 16 2 with connectStatus := .connected }
    ∃ bytes header : List UInt8, bytes.length = 9 ∧ header ++ [7, 8] = bytes ∧
      mqttSerializePublish 32 samplePublish 5 7 (List.replicate 9 0) = (.success, bytes) ∧
      ∃ n stop, (mqttPublish .default s (some samplePublish) 5).2.log =
        [.sent (.publish 5 .qos1) bytes n stop] := by
  intro s
  obtain ⟨bytes, header, hlength, hheader, hserialized, -, -, -, -, -, hpublished⟩ :=
    @publish_paths_agree samplePublish 5 7 9 (fun _ => by decide) (fun _ => by decide) (by decide)
      (by decide)
  have hbuffer : (List.replicate 9 (0 : UInt8)).length = 9 := rfl
  have hhandsOver : HandsOver s samplePublish 5 :=
    ⟨⟨by decide, by decide, rfl⟩, .inl (by decide), fun _ => by decide⟩
  refine ⟨bytes, header, hlength, hheader, ?_, (hpublished .default s).1 hhandsOver⟩
  rw [hserialized 32 (List.replicate 9 0) (by rw [hbuffer]; decide) (by rw [hbuffer])]
  simp

end FreeMqtt

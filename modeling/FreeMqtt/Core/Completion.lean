import FreeMqtt.Core.Integrity
import FreeMqtt.Core.Reachable
import FreeMqtt.Core.Resumption
import FreeMqtt.State.Answer

/-!
# Completing a retransmitted publish

Which publishes can be completed after a resumption: `handleUncleanSessionResumption` hands the
stored packets to the transport but leaves their records as they are, so the answer is accepted
for the records that `MQTT_Publish` had already moved on, and for no others
(`resumed_answerAccepted_iff`).
-/

namespace FreeMqtt

/-! ## Acknowledgements from the broker -/

/-- An acknowledgement as it is handed to its handler. -/
def ackInfo (packetType : PubAckType) (packetId : UInt16) : PacketInfo :=
  ⟨packetType.toByte, some (uint16Bytes packetId), 2, 2⟩

theorem mqttDeserializeAck_ackInfo (packetType : PubAckType) {packetId : UInt16}
    (hid : packetId ≠ 0) :
    mqttDeserializeAck (ackInfo packetType packetId) true false = (.success, some packetId, none) := by
  have hsimple : deserializeSimpleAck (ackInfo packetType packetId) = (.success, some packetId) := by
    have hdecode : uint16Decode (ackInfo packetType packetId).pRemainingData 0 = packetId :=
      uint16Decode_uint16Bytes packetId
    simp only [deserializeSimpleAck, hdecode, hid, if_false]
    rfl
  unfold mqttDeserializeAck
  dsimp only
  rw [hsimple]
  cases packetType <;> rfl

/-- `handlePublishAcks` after the state engine has accepted an acknowledgement. -/
def afterAck (c : Config) (s : Sys) (packetType : PubAckType) (packetId : UInt16)
    (newState : PublishState) : Status × Sys :=
  let s :=
    if (packetType = .puback ∨ packetType = .pubrec) ∧ s.clearFunction then callClear s packetId
    else s
  sendPublishAcks c (appCallback c s (ackInfo packetType packetId) ⟨packetId, none, .success⟩)
    packetId newState

theorem handlePublishAcks_ackInfo (c : Config) (s : Sys) (packetType : PubAckType)
    {packetId : UInt16} (hid : packetId ≠ 0) :
    let updated := mqttUpdateStateAck s.toPublishRecords packetId packetType .receive
    handlePublishAcks c s (ackInfo packetType packetId) =
      if updated.1 ≠ .success then (updated.1, s.setRecords updated.2.2)
      else afterAck c (s.setRecords updated.2.2) packetType packetId (updated.2.1.getD .null) := by
  have htype : getAckFromPacketType (ackInfo packetType packetId).type = packetType :=
    getAckFromPacketType_toByte packetType
  unfold handlePublishAcks
  rw [mqttDeserializeAck_ackInfo packetType hid, htype]
  rfl

/-- The application is told about an accepted acknowledgement before anything else happens. -/
theorem afterAck_log (c : Config) (s : Sys) (packetType : PubAckType) (packetId : UInt16)
    (newState : PublishState) : ∃ events, (afterAck c s packetType packetId newState).2.log =
      s.log ++ .callback (ackInfo packetType packetId) ⟨packetId, none, .success⟩ :: events := by
  have hcalled : ∀ s₁ : Sys, s₁.log = s.log → ∃ events, (sendPublishAcks c (appCallback c s₁
      (ackInfo packetType packetId) ⟨packetId, none, .success⟩) packetId newState).2.log = s.log ++
        .callback (ackInfo packetType packetId) ⟨packetId, none, .success⟩ :: events := by
    intro s₁ hlog
    obtain ⟨events, heq⟩ := Library.log_extends
      ((appCallback_requests c s₁ (ackInfo packetType packetId)
        ⟨packetId, none, .success⟩).library.trans (sendPublishAcks_library c _ packetId newState))
    refine ⟨events, heq.trans ?_⟩
    rw [Sys.record, hlog, List.append_assoc, List.singleton_append]
  unfold afterAck
  dsimp only
  split
  · exact hcalled _ rfl
  · exact hcalled s rfl

/-! ## The answer to a PUBLISH -/

/-- `handlePublishAcks` on the packet that answers the PUBLISH of a record. -/
def handleAnswer (c : Config) (s : Sys) (r : PubAckInfo) : Status × Sys :=
  handlePublishAcks c s (ackInfo (answerType r.qos) r.packetId)

/-- The answer is given to the application, and the call succeeds when the application makes no
calls from this callback and the PUBREL of a QoS 2 publish is completely sent. -/
structure AnswerAccepted (c : Config) (s : Sys) (r : PubAckInfo) : Prop where
  callback : ∃ events, (handleAnswer c s r).2.log = s.log ++
    .callback (ackInfo (answerType r.qos) r.packetId) ⟨r.packetId, none, .success⟩ :: events
  success : s.callbacks.headD [] = [] →
    (∀ e ∈ (handleAnswer c s r).2.log.drop s.log.length, e.Complete) →
    (handleAnswer c s r).1 = .success

/-- What follows an accepted answer succeeds, as far as it depends on the library. -/
theorem afterAck_success (c : Config) {s : Sys} {r : PubAckInfo} {packetType : PubAckType}
    (ht : Table .outgoing s.outgoingPublishRecords) (hconn : s.connectStatus = .connected)
    (hquiet : s.callbacks.headD [] = []) {newState : PublishState}
    (hnew : newState = .publishDone ∨
      newState = .pubRelSend ∧ { r with publishState := .pubRelSend } ∈ s.outgoingPublishRecords)
    (hcomplete : ∀ e ∈ (afterAck c s packetType r.packetId newState).2.log.drop s.log.length,
      e.Complete) :
    (afterAck c s packetType r.packetId newState).1 = .success := by
  have hcallback : ∀ s₁ : Sys, s₁.callbacks = s.callbacks →
      appCallback c s₁ (ackInfo packetType r.packetId) ⟨r.packetId, none, .success⟩ =
        { s₁.record (.callback (ackInfo packetType r.packetId) ⟨r.packetId, none, .success⟩) with
          callbacks := s.callbacks.tail } := by
    intro s₁ hs₁
    have hcalls : (s₁.record (.callback (ackInfo packetType r.packetId)
        ⟨r.packetId, none, .success⟩)).callbacks = s.callbacks := hs₁
    unfold appCallback
    dsimp only
    rw [hcalls, hquiet]
    rfl
  obtain ⟨s₁, hs₁, hlog, hrecords, hstatus⟩ : ∃ s₁ : Sys,
      afterAck c s packetType r.packetId newState = sendPublishAcks c s₁ r.packetId newState ∧
      s₁.log = s.log ++
        [.callback (ackInfo packetType r.packetId) ⟨r.packetId, none, .success⟩] ∧
      s₁.outgoingPublishRecords = s.outgoingPublishRecords ∧
      s₁.connectStatus = s.connectStatus := by
    unfold afterAck
    dsimp only
    split
    · exact ⟨_, congrArg (fun x => sendPublishAcks c x r.packetId newState)
        (hcallback (callClear s r.packetId) rfl), rfl, rfl, rfl⟩
    · exact ⟨_, congrArg (fun x => sendPublishAcks c x r.packetId newState)
        (hcallback s rfl), rfl, rfl, rfl⟩
  rw [hs₁] at hcomplete ⊢
  rcases hnew with rfl | ⟨rfl, hin⟩
  · rw [sendPublishAcks_none c s₁ r.packetId rfl]
  · obtain ⟨front, rest, hsplit⟩ := List.append_of_mem hin
    rcases sendPublishAcks_pubrel c (r := { r with publishState := .pubRelSend })
      (hrecords.trans hsplit) (hrecords ▸ ht) (hstatus.trans hconn) (List.mem_cons_self ..) with
      ⟨e, he, -, hsent⟩ | ⟨hok, -⟩
    · dsimp only at hsent
      rw [hsent, hlog, List.append_assoc, List.drop_left] at hcomplete
      exact absurd (hcomplete e (by simp)) he
    · exact hok

theorem answerAccepted_iff (c : Config) {s : Sys} (ht : Table .outgoing s.outgoingPublishRecords)
    (hconn : s.connectStatus = .connected) {r : PubAckInfo} (hr : r ∈ s.outgoingPublishRecords)
    (hstate : r.publishState ∈ publishStates) :
    AnswerAccepted c s r ↔ r.publishState ≠ .publishSend ∧
      (r.qos = .qos2 → MoveFits s.outgoingPublishRecords r.packetId) := by
  obtain ⟨hid, hvalid⟩ := ht.live_of_state hr (by decide) hstate
  obtain ⟨status, records', heq, htab, hiff, hmoved⟩ := mqttUpdateStateAck_answer ht hr hstate
  have hanswer := handlePublishAcks_ackInfo c s (answerType r.qos) hid
  dsimp only at hanswer
  rw [heq] at hanswer
  rw [← hiff]
  constructor
  · rintro ⟨⟨events, hlog⟩, -⟩
    by_contra hstatus
    rw [handleAnswer, hanswer, if_pos hstatus] at hlog
    exact absurd (congrArg List.length hlog) (by simp [Sys.setRecords])
  · rintro rfl
    rw [if_neg (not_not_intro rfl)] at hanswer
    have hnew : mqttCalculateStateAck (answerType r.qos) .receive r.qos = .publishDone ∨
        mqttCalculateStateAck (answerType r.qos) .receive r.qos = .pubRelSend ∧
          { r with publishState := .pubRelSend } ∈ records' := by
      cases hq : r.qos with
      | qos0 => exact absurd hq hvalid.qos_ne
      | qos1 => exact .inl rfl
      | qos2 => exact .inr ⟨rfl, hq ▸ hmoved rfl hq⟩
    simp only [if_true, Option.getD_some] at hanswer
    refine ⟨?_, fun hquiet hcomplete => ?_⟩
    · rw [handleAnswer, hanswer]
      exact afterAck_log ..
    · rw [handleAnswer, hanswer] at hcomplete ⊢
      exact afterAck_success c (s := s.setRecords (s.toPublishRecords.setTable .outgoing records'))
        htab hconn hquiet hnew hcomplete

/-! ## After a resumption -/

theorem moveFits_map_afterPubrel (records : List PubAckInfo) (packetId : UInt16) :
    MoveFits (records.map afterPubrel) packetId ↔ MoveFits records packetId := by
  have hlen : (records.map afterPubrel).length = records.length := List.length_map ..
  have hid : ∀ r, (afterPubrel r).packetId = r.packetId := by
    intro r
    unfold afterPubrel
    split <;> rfl
  have hget : ∀ i, ((records.map afterPubrel).getD i default).packetId =
      (records.getD i default).packetId := by
    intro i
    rw [List.getD_eq_getElem?_getD, List.getD_eq_getElem?_getD, List.getElem?_map]
    cases records[i]? with
    | none => rfl
    | some r => exact hid r
  unfold MoveFits
  rw [scanBound_congr hlen, hlen, hget]

/-- After a resumption over which every stored publish was retrieved and every packet completely
sent, the broker's answer to a retransmitted publish is accepted if and only if `MQTT_Publish`
itself had completely sent it, and, for QoS 2, `addRecord` finds a slot for the record to move
to. -/
theorem resumed_answerAccepted_iff (c : Config) {s : Sys} (hreach : Reachable s.toPublishRecords)
    (hconn : s.connectStatus = .connected) (hretrieve : s.retrieveFunction = true)
    (hstored : Stored s (idsIn publishStates s.outgoingPublishRecords))
    (hretrieves : ∀ b ∈ s.retrieveResults, b = true)
    (hcomplete : ∀ e ∈ (handleUncleanSessionResumption c s).2.log.drop s.log.length, e.Complete)
    {r : PubAckInfo} (hr : r ∈ s.outgoingPublishRecords) (hstate : r.publishState ∈ publishStates) :
    let resumed := handleUncleanSessionResumption c s
    resumed.1 = .success ∧
      (∃ packet, s.store r.packetId = some packet ∧
        .sent (.resend r.packetId) packet packet.length .complete ∈ resumed.2.log) ∧
      (AnswerAccepted c resumed.2 r ↔ r.publishState ≠ .publishSend ∧
        (r.qos = .qos2 → MoveFits s.outgoingPublishRecords r.packetId)) := by
  obtain ⟨hok, hall, hrecords⟩ := handleUncleanSessionResumption_spec c hreach.table hconn
    (fun _ => hstored) hretrieves hcomplete
  have htab := ((handleUncleanSessionResumption_engine c s).reachable hreach).table
  have hin : r ∈ (handleUncleanSessionResumption c s).2.outgoingPublishRecords := by
    rw [hrecords, List.mem_map]
    refine ⟨r, hr, afterPubrel_of_notMem fun hpubrel => ?_⟩
    revert hstate hpubrel
    cases r.publishState <;> decide
  have hid : r.packetId ∈ idsIn publishStates s.outgoingPublishRecords :=
    List.mem_map.2 ⟨r, List.mem_filter.2 ⟨hr, decide_eq_true hstate⟩, rfl⟩
  obtain ⟨packet, hpacket, -⟩ := hstored r.packetId hid
  refine ⟨hok, ⟨packet, hpacket, ?_⟩, ?_⟩
  · rw [hall.log, resumptionPackets, if_pos hretrieve]
    refine List.mem_append_right _ (List.mem_map.2 ⟨(.resend r.packetId, packet), ?_, rfl⟩)
    refine List.mem_append_right _ (List.mem_map.2 ⟨r.packetId, hid, ?_⟩)
    rw [resendOf, hpacket]
    rfl
  · rw [answerAccepted_iff c htab (hall.connectStatus.trans hconn) hin hstate, hrecords,
      moveFits_map_afterPubrel]

/-- `resumed_answerAccepted_iff` on `crossedRun` after the publish of packet id 3 was sent. -/
theorem resumed_answerAccepted_iff_crossed :
    let s : Sys := { Sys.initialized (World.still []) 16 3 with
      toPublishRecords := (runCalls (.zeroed 3 3)
        (crossedRun ++ [.updateStatePublish 3 .send .qos1])).2
      connectStatus := .connected
      retrieveFunction := true
      store := fun id => if id = 3 then some [0x3A, 5, 0, 1, 0x74, 0, 3] else none }
    AnswerAccepted .default (handleUncleanSessionResumption .default s).2
      ⟨3, .qos1, .pubAckPending⟩ := by
  intro s
  have hids : idsIn publishStates s.outgoingPublishRecords = [3] := by decide
  have h := resumed_answerAccepted_iff .default (s := s) ⟨3, 3, _, rfl⟩ rfl rfl
    (fun id hid => ⟨[0x3A, 5, 0, 1, 0x74, 0, 3], by
      rw [hids, List.mem_singleton] at hid
      rw [hid]
      decide⟩) (by simp [s, World.still, Sys.initialized]) (by decide)
    (r := ⟨3, .qos1, .pubAckPending⟩) (by decide) (by decide)
  exact h.2.2.2 (by decide)

/-! ## A publish that was not sent -/

/-- A client with functions to store publishes, and the results of the transport for what it
sends first. Two CONNACKs are on their way, the second of a resumed session. -/
def storingClient (sends : List Int) : Sys :=
  { Sys.initialized { World.still [0x20, 2, 0, 0, 0x20, 2, 1, 0] with sends } 16 2 with
    storeFunction := true
    retrieveFunction := true
    clearFunction := true }

def resumingInfo : ConnectInfo := { clientInfo with cleanSession := false }

def publishInfoOne : PublishInfo where
  qos := .qos1
  retain := false
  dup := false
  pTopicName := some [0x74]
  topicNameLength := 1
  pPayload := none
  payloadLength := 0

/-- The transport fails on a PUBLISH of QoS 1. After the session is resumed the publish is on
the wire, but its PUBACK is an illegal transition. -/
theorem not_answerAccepted_unsent :
    let s₁ := (mqttConnect .default (storingClient [100, 100, 100, -1]) (some resumingInfo)
      none 1000).2.2
    let s₂ := (mqttPublish .default s₁ (some publishInfoOne) 1).2
    let s₃ := (mqttDisconnect .default s₂).2
    let resumed := mqttConnect .default s₃ (some resumingInfo) none 1000
    (resumed.1 = .success ∧ resumed.2.1 = some true ∧
      .sent (.resend 1) [0x3A, 5, 0, 1, 0x74, 0, 1] 7 .complete ∈ resumed.2.2.log) ∧
    (handlePublishAcks .default resumed.2.2 (ackInfo .puback 1)).1 = .illegalState ∧
    ¬ AnswerAccepted .default resumed.2.2 ⟨1, .qos1, .publishSend⟩ := by
  intro s₁ s₂ s₃ resumed
  refine ⟨by decide, by decide, fun h => ?_⟩
  obtain ⟨events, hlog⟩ := h.callback
  have hsame : (handleAnswer .default resumed.2.2 ⟨1, .qos1, .publishSend⟩).2.log =
      resumed.2.2.log := by decide
  rw [hsame] at hlog
  exact absurd (congrArg List.length hlog) (by simp)

end FreeMqtt

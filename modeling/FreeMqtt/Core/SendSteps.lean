import FreeMqtt.Core.Callback

/-!
# What sending keeps

Whatever the library sends goes through `transportSend` and the clock, and beside that a request only
changes the records, the copies of publishes and two fields of the context. A preorder that these keep
to (`SendPreorder`) is kept by every request of the application but `MQTT_Disconnect`, and by what the
handlers send.
-/

namespace FreeMqtt

theorem transportSend_kept (s : Sys) (offered : List UInt8) :
    ∃ sends wire, (transportSend s offered).2 = { s with sends, wire } := by
  rcases transportSend_spec s offered with ⟨result, sends, -, heq⟩ | ⟨n, -, sends, heq⟩
  · exact ⟨sends, s.wire, by rw [heq]⟩
  · exact ⟨sends, _, by rw [heq]⟩

/-- A preorder that the parts of a request keep to. -/
structure SendPreorder (r : Sys → Sys → Prop) : Prop where
  refl : ∀ s, r s s
  trans : ∀ {s s' s'' : Sys}, r s s' → r s' s'' → r s s''
  clock : ∀ s, r s (getTime s).2
  error : ∀ s, r s (networkError s)
  send : ∀ s offered, r s (transportSend s offered).2
  stamp : ∀ s, r s { (getTime s).2 with lastPacketTxTime := (getTime s).1 }
  record : ∀ s kind bytes accepted stop, r s (s.record (.sent kind bytes accepted stop))
  context : ∀ (s : Sys) (t : PublishRecords) controlPacketSent nextPacketId store storeResults,
    r s { s.setRecords t with controlPacketSent, nextPacketId, store, storeResults }

/-- On the way from `s` to `s'` the time of the last packet was set. -/
def PassesStamp (r : Sys → Sys → Prop) (s s' : Sys) : Prop :=
  ∃ s₁, r s s₁ ∧ r { (getTime s₁).2 with lastPacketTxTime := (getTime s₁).1 } s'

namespace SendPreorder

variable {r : Sys → Sys → Prop} (h : SendPreorder r) (c : Config)

include h

/-! ## The send loops -/

theorem afterSend (bytesSentOrError sendResult : Int) (s : Sys) :
    r s (FreeMqtt.afterSend bytesSentOrError sendResult s).2 := by
  unfold FreeMqtt.afterSend
  split
  · exact h.stamp s
  split
  · exact h.error s
  · exact h.refl s

theorem sendStep (s : Sys) (offered : List UInt8) (bytesSentOrError : Int) :
    let sent := transportSend s offered
    r s (getTime (FreeMqtt.afterSend bytesSentOrError sent.1 sent.2).2).2 :=
  h.trans (h.trans (h.send s offered) (h.afterSend ..)) (h.clock _)

theorem sendBufferLoop (startTime : UInt32) (bytesToSend fuel : Nat) (rest : List UInt8)
    (bytesSentOrError : Int) (s : Sys) :
    r s (FreeMqtt.sendBufferLoop c startTime bytesToSend fuel rest bytesSentOrError s).2 := by
  induction fuel generalizing rest bytesSentOrError s with
  | zero => exact h.refl s
  | succ fuel ih =>
    have hstep := h.sendStep s rest bytesSentOrError
    unfold FreeMqtt.sendBufferLoop
    dsimp only at hstep ⊢
    split
    · split
      · exact hstep
      · exact h.trans hstep (ih ..)
    · exact h.refl s

omit c in
theorem passesStamp_trans {s s' s'' : Sys} (hpasses : PassesStamp r s s') (h' : r s' s'') :
    PassesStamp r s s'' := by
  obtain ⟨s₁, hs, hs'⟩ := hpasses
  exact ⟨s₁, hs, h.trans hs' h'⟩

/-- A positive count of bytes sent means that the time was set. -/
theorem sendBufferLoop_stamps (startTime : UInt32) {bytesToSend fuel : Nat} {rest : List UInt8}
    {bytesSentOrError : Int} {s₀ s : Sys} (hreach : r s₀ s)
    (hsent : 0 < bytesSentOrError → PassesStamp r s₀ s)
    (hpos : 0 < (FreeMqtt.sendBufferLoop c startTime bytesToSend fuel rest bytesSentOrError s).1) :
    PassesStamp r s₀
      (FreeMqtt.sendBufferLoop c startTime bytesToSend fuel rest bytesSentOrError s).2 := by
  induction fuel generalizing rest bytesSentOrError s with
  | zero => exact hsent hpos
  | succ fuel ih =>
    have hoffered := h.send s rest
    have hstep : ∀ result,
        0 < (FreeMqtt.afterSend bytesSentOrError result (transportSend s rest).2).1 →
        PassesStamp r s₀
          (FreeMqtt.afterSend bytesSentOrError result (transportSend s rest).2).2 := by
      intro result
      unfold FreeMqtt.afterSend
      dsimp only
      split
      · exact fun _ => ⟨_, h.trans hreach hoffered, h.refl _⟩
      split
      · intro hpos
        dsimp only at hpos
        omega
      · exact fun hpos => h.passesStamp_trans (hsent hpos) hoffered
    have hreach' := h.trans hreach (h.sendStep s rest bytesSentOrError)
    unfold FreeMqtt.sendBufferLoop at hpos ⊢
    dsimp only at hpos hreach' ⊢
    split at hpos
    · rename_i hmore
      rw [if_pos hmore]
      split at hpos
      · rename_i htimeout
        rw [if_pos htimeout]
        exact h.passesStamp_trans (hstep _ hpos) (h.clock _)
      · rename_i htimeout
        rw [if_neg htimeout]
        exact ih hreach' (fun hpos => h.passesStamp_trans (hstep _ hpos) (h.clock _)) hpos
    · rename_i hmore
      rw [if_neg hmore]
      exact hsent hpos

theorem sendMessageVectorLoop (startTime : UInt32) (bytesToSend fuel : Nat)
    (vectors : List (List UInt8)) (bytesSentOrError : Int) (s : Sys) : r s
      (FreeMqtt.sendMessageVectorLoop c startTime bytesToSend fuel vectors bytesSentOrError s).2 := by
  induction fuel generalizing vectors bytesSentOrError s with
  | zero => exact h.refl s
  | succ fuel ih =>
    unfold FreeMqtt.sendMessageVectorLoop
    dsimp only
    generalize (if s.writev then vectors.flatten else vectors.headD []) = offered
    have hstep := h.sendStep s offered bytesSentOrError
    dsimp only at hstep
    split
    · split
      · exact hstep
      · exact h.trans hstep (ih ..)
    · exact h.refl s

theorem sendMessageVector (s : Sys) (pIoVec : List (List UInt8)) :
    r s (FreeMqtt.sendMessageVector c s pIoVec).2 :=
  h.trans (h.clock s) (h.sendMessageVectorLoop ..)

theorem sendPacket (s : Sys) (kind : PacketKind) (packet : List UInt8) :
    r s (FreeMqtt.sendPacket c s kind packet).2 :=
  h.trans (h.trans (h.clock s) (h.sendBufferLoop ..)) (h.record ..)

theorem sendPacket_stamps {s : Sys} {kind : PacketKind} {packet : List UInt8}
    (hpos : 0 < (FreeMqtt.sendPacket c s kind packet).1) :
    PassesStamp r s (FreeMqtt.sendPacket c s kind packet).2 :=
  h.passesStamp_trans (h.sendBufferLoop_stamps c _ (h.clock s) (fun hpos => absurd hpos (by simp)) hpos)
    (h.record ..)

/-! ## Requests -/

theorem setRecords (s : Sys) (t : PublishRecords) : r s (s.setRecords t) :=
  h.context s t s.controlPacketSent s.nextPacketId s.store s.storeResults

theorem sendTopics (perTopic : Nat) (topicVectors : SubscribeInfo → List (List UInt8)) (fuel : Nat)
    (subscriptions : List SubscribeInfo) (pIoVector : List (List UInt8)) (s : Sys) (result : Int) :
    r s (FreeMqtt.sendTopics c perTopic topicVectors fuel subscriptions pIoVector s result).2.1 := by
  induction fuel generalizing subscriptions pIoVector s result with
  | zero => exact h.refl s
  | succ fuel ih =>
    have hsent := h.sendMessageVector c s
      (fillVectors c perTopic topicVectors subscriptions pIoVector).1
    unfold FreeMqtt.sendTopics
    dsimp only
    split
    · exact h.refl s
    split
    · exact hsent
    · exact h.trans hsent (ih ..)

theorem sendTopicPacket (s : Sys) (kind : PacketKind) (header : List UInt8) (perTopic : Nat)
    (topicVectors : SubscribeInfo → List (List UInt8)) (subscriptions : List SubscribeInfo) :
    r s (FreeMqtt.sendTopicPacket c s kind header perTopic topicVectors subscriptions).2 :=
  h.trans (h.sendTopics ..) (h.record ..)

theorem mqttSubscribe (s : Sys) (pSubscriptionList : Option (List SubscribeInfo))
    (packetId : UInt16) : r s (FreeMqtt.mqttSubscribe c s pSubscriptionList packetId).2 := by
  unfold FreeMqtt.mqttSubscribe
  dsimp only
  split_ifs
  · exact h.refl s
  · exact h.refl s
  · exact h.refl s
  · exact h.sendTopicPacket ..

theorem mqttUnsubscribe (s : Sys) (pSubscriptionList : Option (List SubscribeInfo))
    (packetId : UInt16) : r s (FreeMqtt.mqttUnsubscribe c s pSubscriptionList packetId).2 := by
  unfold FreeMqtt.mqttUnsubscribe
  dsimp only
  split_ifs
  · exact h.refl s
  · exact h.refl s
  · exact h.refl s
  · exact h.sendTopicPacket ..

theorem storePublish (s : Sys) (pPublishInfo : PublishInfo) (pMqttHeader : List UInt8)
    (vectors : List (List UInt8)) (packetId : UInt16) :
    r s (FreeMqtt.storePublish s pPublishInfo pMqttHeader vectors packetId).2.2 := by
  have hstore : ∀ packet, r s (callStore s packetId packet).2 := by
    intro packet
    unfold callStore
    split
    · exact h.context s s.toPublishRecords s.controlPacketSent s.nextPacketId s.store _
    · exact h.context s s.toPublishRecords s.controlPacketSent s.nextPacketId _ _
  unfold FreeMqtt.storePublish
  dsimp only
  generalize (if pPublishInfo.dup = true then (Status.success, pMqttHeader)
    else mqttUpdateDuplicatePublishFlag pMqttHeader true) = changed
  split_ifs
  · exact h.refl s
  · exact hstore _
  · exact hstore _
  · exact hstore _

theorem sendPublishWithoutCopy (s : Sys) (pPublishInfo : PublishInfo) (pMqttHeader : List UInt8)
    (packetId : UInt16) :
    r s (FreeMqtt.sendPublishWithoutCopy c s pPublishInfo pMqttHeader packetId).2 := by
  have hstored : r s (if pPublishInfo.qos ≠ .qos0 ∧ s.storeFunction = true then
      FreeMqtt.storePublish s pPublishInfo pMqttHeader (publishVectors pPublishInfo packetId) packetId
      else (.success, pMqttHeader, s)).2.2 := by
    split
    · exact h.storePublish ..
    · exact h.refl s
  unfold FreeMqtt.sendPublishWithoutCopy
  dsimp only
  generalize (if pPublishInfo.qos ≠ .qos0 ∧ s.storeFunction = true then
    FreeMqtt.storePublish s pPublishInfo pMqttHeader (publishVectors pPublishInfo packetId) packetId
    else (.success, pMqttHeader, s)) = stored at *
  split
  · exact hstored
  · exact h.trans hstored (h.trans (h.sendMessageVector ..) (h.record ..))

theorem mqttPublish (s : Sys) (pPublishInfo : Option PublishInfo) (packetId : UInt16) :
    r s (FreeMqtt.mqttPublish c s pPublishInfo packetId).2 := by
  cases pPublishInfo with
  | none => exact h.refl s
  | some info =>
    have houtcome := mqttPublish_cases c s info packetId
    generalize FreeMqtt.mqttPublish c s (some info) packetId = published at houtcome
    cases houtcome with
    | rejected => exact h.refl s
    | unreserved => exact h.setRecords s _
    | reserved =>
      have hsent := h.trans (h.setRecords s _) (h.sendPublishWithoutCopy c
        (s.setRecords (mqttReserveState s.toPublishRecords packetId info.qos).2) info
        (mqttSerializePublishHeaderWithoutTopic info (mqttGetPublishPacketSize info).2.1).1 packetId)
      unfold publishReserved
      dsimp only
      split
      · exact h.trans hsent (h.setRecords _ _)
      · exact hsent

theorem mqttCancelCallback (s : Sys) (packetId : UInt16) :
    r s (FreeMqtt.mqttCancelCallback s packetId).2 := by
  unfold FreeMqtt.mqttCancelCallback
  split
  · exact h.refl s
  · exact h.setRecords s _

/-- The requests of the application other than `MQTT_Disconnect`. -/
theorem request (hping : ∀ s, r s (mqttPing c s).2) (s : Sys) {call : SendCall}
    (hcall : call ≠ .disconnect) : r s (call.run c s) := by
  cases call with
  | publish info packetId => exact h.mqttPublish c s info packetId
  | subscribe list packetId => exact h.mqttSubscribe c s list packetId
  | unsubscribe list packetId => exact h.mqttUnsubscribe c s list packetId
  | ping => exact hping s
  | disconnect => exact absurd rfl hcall
  | cancelCallback packetId => exact h.mqttCancelCallback s packetId
  | getPacketId =>
    exact h.context s s.toPublishRecords s.controlPacketSent _ s.store s.storeResults

/-- `MQTT_Ping`, when the preorder does not speak of the PINGRESP. -/
theorem mqttPing (hawaits : ∀ (s : Sys) pingReqSendTimeMs waitingForPingResp,
    r s { s with pingReqSendTimeMs, waitingForPingResp }) (s : Sys) :
    r s (FreeMqtt.mqttPing c s).2 := by
  have hsent := h.sendPacket c s .pingreq mqttSerializePingreq
  unfold FreeMqtt.mqttPing
  dsimp only
  split
  · exact h.refl s
  split
  · exact hsent
  · exact h.trans hsent (hawaits ..)

/-- `MQTT_Disconnect`, when the preorder does not speak of the buffer. -/
theorem mqttDisconnect (hreset : ∀ s : Sys, r s { s with connectStatus := .notConnected }.clearBuffer)
    (s : Sys) : r s (FreeMqtt.mqttDisconnect c s).2 := by
  unfold FreeMqtt.mqttDisconnect
  split
  · exact h.refl s
  · exact h.trans (hreset s) (h.sendPacket c _ .disconnect mqttSerializeDisconnect)

/-- The application callback. -/
theorem appCallback (hcall : ∀ (s : Sys) (call : SendCall), r s (call.run c s))
    (hrecord : ∀ (s : Sys) packet info callbacks,
      r s { s.record (.callback packet info) with callbacks })
    (s : Sys) (packet : PacketInfo) (info : DeserializedInfo) :
    r s (FreeMqtt.appCallback c s packet info) := by
  have hcalls : ∀ (calls : List SendCall) (s : Sys), r s (calls.foldl (SendCall.run c) s) := by
    intro calls
    induction calls with
    | nil => exact h.refl
    | cons call calls ih => exact fun s => h.trans (hcall s call) (ih _)
  exact h.trans (hrecord s packet info s.callbacks.tail) (hcalls _ _)

/-! ## Handlers -/

theorem sendPublishAcks (s : Sys) (packetId : UInt16) (publishState : PublishState) :
    r s (FreeMqtt.sendPublishAcks c s packetId publishState).2 := by
  have hsent := h.sendPacket c s
    (.ack (getAckFromPacketType (getAckTypeToSend publishState)) packetId)
    (mqttSerializeAck (getAckTypeToSend publishState) packetId).2
  unfold FreeMqtt.sendPublishAcks
  dsimp only
  split
  · exact h.refl s
  split
  · exact h.refl s
  split
  · exact h.refl s
  split
  · exact hsent
  · exact h.trans hsent (h.context _ _ true _ _ _)

theorem sendReply (s : Sys) (reply : Option (UInt16 × PublishState)) :
    r s (FreeMqtt.sendReply c s reply).2 := by
  cases reply with
  | none => exact h.refl s
  | some reply => exact h.sendPublishAcks c s reply.1 reply.2

/-- A handler that does not invoke the callback. -/
theorem silentOutcome {c : Config}
    (hanswered : ∀ s : Sys, r s { s with waitingForPingResp := false }) {s : Sys}
    {packet : PacketInfo} {result : Status × Sys} (hsilent : SilentOutcome c s packet result) :
    r s result.2 := by
  cases hsilent with
  | refused _ => exact h.refl s
  | pingresp => exact hanswered s
  | publish qos packetId _ _ => exact h.setRecords s _
  | duplicate qos packetId _ => exact h.trans (h.setRecords s _) (h.sendPublishAcks ..)
  | ack packetId _ _ => exact h.setRecords s _

/-- The context that a callback is invoked in. -/
theorem callbackFrame {s : Sys} {packet : PacketInfo} {manageKeepAlive : Bool} {frame : CallbackFrame}
    (hframe : FreeMqtt.callbackFrame s packet manageKeepAlive = some frame) : r s frame.before := by
  obtain ⟨t, store, hbefore⟩ := callbackFrame_before hframe
  rw [hbefore]
  exact h.context s t s.controlPacketSent s.nextPacketId store s.storeResults

/-- The handler of a packet. -/
theorem handlePacket (hcall : ∀ (s : Sys) (call : SendCall), r s (call.run c s))
    (hrecord : ∀ (s : Sys) packet info callbacks,
      r s { s.record (.callback packet info) with callbacks })
    (hdispatching : ∀ (s : Sys) packet, r s (s.dispatching packet))
    (hanswered : ∀ s : Sys, r s { s with waitingForPingResp := false })
    (manageKeepAlive : Bool) (packet : PacketInfo) (s : Sys) :
    r s (FreeMqtt.handlePacket c manageKeepAlive packet s).2 := by
  cases hframe : FreeMqtt.callbackFrame (s.dispatching packet) packet manageKeepAlive with
  | none =>
    exact h.trans (hdispatching s packet) (h.silentOutcome hanswered (handlePacket_silent c hframe))
  | some frame =>
    rw [handlePacket_callback c hframe]
    exact h.trans (h.trans (hdispatching s packet) (h.callbackFrame hframe))
      (h.trans (h.appCallback c hcall hrecord ..) (h.sendReply ..))

/-- `handleKeepAlive`. -/
theorem handleKeepAlive (hping : ∀ s, r s (FreeMqtt.mqttPing c s).2) (s : Sys) :
    r s (FreeMqtt.handleKeepAlive c s).2 := by
  have hsent := h.trans (h.clock s) (hping (getTime s).2)
  unfold FreeMqtt.handleKeepAlive
  dsimp only
  split
  · exact h.clock s
  split
  · exact hsent
  split
  · exact hsent
  · exact h.clock s

theorem checkKeepAlive (hping : ∀ s, r s (FreeMqtt.mqttPing c s).2) (recvBytes : Int)
    (manageKeepAlive : Bool) (status : Status) (s : Sys) :
    r s (FreeMqtt.checkKeepAlive c recvBytes manageKeepAlive status s).2 := by
  unfold FreeMqtt.checkKeepAlive
  split
  · exact h.handleKeepAlive c hping s
  · exact h.refl s

end SendPreorder

end FreeMqtt

import FreeMqtt.Core.Connect

/-!
# A clock that is ahead

Two contexts of which one reads a clock that is ahead by a constant, and has times that are stored
accordingly or are not compared yet (`Shifted`). The functions of the library that send packets and
that receive them do the same on both.
-/

namespace FreeMqtt

/-- The context with a clock that is ahead by `d`, and with other stored times. -/
def Sys.shifted (d lastPacketTxTime lastPacketRxTime pingReqSendTimeMs : UInt32) (s : Sys) : Sys :=
  { s with
    clock := fun n => s.clock n + d
    lastPacketTxTime
    lastPacketRxTime
    pingReqSendTimeMs }

/-- The clock of `s'` is ahead by `d`, and so are the stored times that will be compared: the time of
the last packet sent when there is a keep-alive interval, the time of a PINGREQ that is not answered,
and the time of the last packet received if `rx`. -/
def Shifted (d : UInt32) (rx : Prop) (s s' : Sys) : Prop :=
  ∃ tx r ping, s' = s.shifted d tx r ping ∧
    (s.keepAliveIntervalSec ≠ 0 → tx = s.lastPacketTxTime + d) ∧
    (rx → r = s.lastPacketRxTime + d) ∧
    (s.waitingForPingResp = true → ping = s.pingReqSendTimeMs + d)

/-- The same result on both contexts, which stay shifted. -/
def SameResult {α : Type} (d : UInt32) (rx : Prop) (x x' : α × Sys) : Prop :=
  x'.1 = x.1 ∧ Shifted d rx x.2 x'.2

/-- The time of the last packet sent is shifted. -/
def TxShifted (d : UInt32) (s s' : Sys) : Prop := s'.lastPacketTxTime = s.lastPacketTxTime + d

/-- What the conditions of `Shifted` are about. -/
def Sys.timers (s : Sys) : UInt16 × UInt32 × UInt32 × Bool × UInt32 :=
  (s.keepAliveIntervalSec, s.lastPacketTxTime, s.lastPacketRxTime, s.waitingForPingResp,
    s.pingReqSendTimeMs)

theorem calculateElapsedTime_add (later start d : UInt32) :
    calculateElapsedTime (later + d) (start + d) = calculateElapsedTime later start := by
  unfold calculateElapsedTime
  grind

section Shifted

variable {d : UInt32} {rx : Prop} {s s' : Sys}

/-- What does not depend on the clock and the stored times. -/
theorem Shifted.proj (h : Shifted d rx s s') {α : Type} (f : Sys → α)
    (hf : ∀ tx r ping, f (s.shifted d tx r ping) = f s) : f s' = f s := by
  obtain ⟨tx, r, ping, rfl, -⟩ := h
  exact hf tx r ping

/-- A change of something else. -/
theorem Shifted.update (h : Shifted d rx s s') (f : Sys → Sys)
    (hf : ∀ tx r ping, f (s.shifted d tx r ping) = (f s).shifted d tx r ping)
    (htimers : (f s).timers = s.timers) : Shifted d rx (f s) (f s') := by
  obtain ⟨tx, r, ping, rfl, htx, hr, hping⟩ := h
  obtain ⟨hkeep, hrest⟩ := Prod.ext_iff.1 htimers
  obtain ⟨hlastTx, hrest⟩ := Prod.ext_iff.1 hrest
  obtain ⟨hlastRx, hrest⟩ := Prod.ext_iff.1 hrest
  obtain ⟨hwaiting, hsent⟩ := Prod.ext_iff.1 hrest
  dsimp only [Sys.timers] at hkeep hlastTx hlastRx hwaiting hsent
  refine ⟨tx, r, ping, hf tx r ping, ?_, ?_, ?_⟩
  · rw [hkeep, hlastTx]
    exact htx
  · rw [hlastRx]
    exact hr
  · rw [hwaiting, hsent]
    exact hping

theorem Shifted.records (h : Shifted d rx s s') : s'.toPublishRecords = s.toPublishRecords :=
  h.proj (fun s => s.toPublishRecords) fun _ _ _ => rfl

theorem Shifted.connectStatus (h : Shifted d rx s s') : s'.connectStatus = s.connectStatus :=
  h.proj (fun s => s.connectStatus) fun _ _ _ => rfl

theorem Shifted.setRecords (h : Shifted d rx s s') (t : PublishRecords) :
    Shifted d rx (s.setRecords t) (s'.setRecords t) :=
  h.update (Sys.setRecords · t) (fun _ _ _ => rfl) rfl

theorem Shifted.record (h : Shifted d rx s s') (event : Event) :
    Shifted d rx (s.record event) (s'.record event) :=
  h.update (Sys.record · event) (fun _ _ _ => rfl) rfl

theorem Shifted.getTime (h : Shifted d rx s s') :
    (FreeMqtt.getTime s').1 = (FreeMqtt.getTime s).1 + d ∧
      Shifted d rx (FreeMqtt.getTime s).2 (FreeMqtt.getTime s').2 := by
  refine ⟨?_, h.update (fun s => (FreeMqtt.getTime s).2) (fun _ _ _ => rfl) rfl⟩
  obtain ⟨tx, r, ping, rfl, -⟩ := h
  rfl

/-! ## Sending -/

theorem transportSend_shifted (s : Sys) (d tx r ping : UInt32) (offered : List UInt8) :
    transportSend (s.shifted d tx r ping) offered =
      ((transportSend s offered).1, (transportSend s offered).2.shifted d tx r ping) := by
  have hsends : (s.shifted d tx r ping).sends = s.sends := rfl
  unfold transportSend
  rw [hsends]
  split
  · rfl
  · split <;> rfl

theorem timers_transportSend (s : Sys) (offered : List UInt8) :
    (transportSend s offered).2.timers = s.timers := by
  unfold transportSend
  split
  · rfl
  · split <;> rfl

theorem Shifted.setTx (h : Shifted d rx s s') (time : UInt32) :
    Shifted d rx { s with lastPacketTxTime := time } { s' with lastPacketTxTime := time + d } := by
  obtain ⟨tx, r, ping, rfl, -, hr, hping⟩ := h
  exact ⟨time + d, r, ping, rfl, fun _ => rfl, hr, hping⟩

theorem Shifted.networkError (h : Shifted d rx s s') :
    Shifted d rx (FreeMqtt.networkError s) (FreeMqtt.networkError s') :=
  h.update FreeMqtt.networkError (fun _ _ _ => rfl) rfl

/-- `afterSend`. -/
theorem Shifted.afterSend (h : Shifted d rx s s') (b result : Int)
    (htx : 0 < b → TxShifted d s s') :
    SameResult d rx (FreeMqtt.afterSend b result s) (FreeMqtt.afterSend b result s') ∧
      (0 < (FreeMqtt.afterSend b result s).1 →
        TxShifted d (FreeMqtt.afterSend b result s).2 (FreeMqtt.afterSend b result s').2) := by
  unfold FreeMqtt.afterSend
  dsimp only
  split
  · obtain ⟨htime, hnow⟩ := h.getTime
    rw [htime]
    exact ⟨⟨rfl, hnow.setTx _⟩, fun _ => rfl⟩
  split
  · rename_i hneg
    exact ⟨⟨rfl, h.networkError⟩, fun hpos => absurd hpos (Int.not_lt.2 (Int.le_of_lt hneg))⟩
  · exact ⟨⟨rfl, h⟩, htx⟩

/-- A result of the transport, and the time read after it. -/
theorem Shifted.sendStep (h : Shifted d rx s s') (offered : List UInt8) (b : Int)
    (htx : 0 < b → TxShifted d s s') :
    let sent := transportSend s offered
    let sent' := transportSend s' offered
    let after := FreeMqtt.afterSend b sent.1 sent.2
    let after' := FreeMqtt.afterSend b sent'.1 sent'.2
    sent'.1 = sent.1 ∧ after'.1 = after.1 ∧
      (FreeMqtt.getTime after'.2).1 = (FreeMqtt.getTime after.2).1 + d ∧
      Shifted d rx (FreeMqtt.getTime after.2).2 (FreeMqtt.getTime after'.2).2 ∧
      (0 < after.1 → TxShifted d (FreeMqtt.getTime after.2).2 (FreeMqtt.getTime after'.2).2) := by
  have hsent : Shifted d rx (transportSend s offered).2 (transportSend s' offered).2 :=
    h.update (fun s => (transportSend s offered).2)
      (fun tx r ping => congrArg Prod.snd (transportSend_shifted s d tx r ping offered))
      (timers_transportSend s offered)
  have hresult : (transportSend s' offered).1 = (transportSend s offered).1 :=
    h.proj (fun s => (transportSend s offered).1) fun tx r ping => by
      rw [transportSend_shifted]
  have hlast : ∀ s : Sys, (transportSend s offered).2.lastPacketTxTime = s.lastPacketTxTime :=
    fun s => congrArg (fun timers => timers.2.1) (timers_transportSend s offered)
  dsimp only
  rw [hresult]
  obtain ⟨⟨hafter, hstate⟩, htx'⟩ := hsent.afterSend b (transportSend s offered).1 fun hpos => by
    unfold TxShifted
    rw [hlast, hlast]
    exact htx hpos
  obtain ⟨htime, hnow⟩ := hstate.getTime
  exact ⟨rfl, hafter, htime, hnow, htx'⟩

/-- The loop of `sendBuffer`; a positive result means that the time of the packet was set. -/
theorem Shifted.sendBufferLoop (h : Shifted d rx s s') (c : Config) (startTime : UInt32)
    (bytesToSend fuel : Nat) (rest : List UInt8) (b : Int) (htx : 0 < b → TxShifted d s s') :
    let sent := FreeMqtt.sendBufferLoop c startTime bytesToSend fuel rest b s
    let sent' := FreeMqtt.sendBufferLoop c (startTime + d) bytesToSend fuel rest b s'
    SameResult d rx sent sent' ∧ (0 < sent.1 → TxShifted d sent.2 sent'.2) := by
  induction fuel generalizing rest b s s' with
  | zero => exact ⟨⟨rfl, h⟩, htx⟩
  | succ fuel ih =>
    unfold FreeMqtt.sendBufferLoop
    dsimp only
    split
    swap
    · exact ⟨⟨rfl, h⟩, htx⟩
    obtain ⟨hresult, hafter, htime, hnow, htx'⟩ := h.sendStep rest b htx
    rw [hresult] at hafter htime hnow htx' ⊢
    rw [hafter, htime, calculateElapsedTime_add]
    split
    · exact ⟨⟨rfl, hnow⟩, htx'⟩
    · exact ih hnow _ _ htx'

theorem Shifted.sendBuffer (h : Shifted d rx s s') (c : Config) (buffer : List UInt8) :
    SameResult d rx (FreeMqtt.sendBuffer c s buffer) (FreeMqtt.sendBuffer c s' buffer) ∧
      (0 < (FreeMqtt.sendBuffer c s buffer).1 →
        TxShifted d (FreeMqtt.sendBuffer c s buffer).2 (FreeMqtt.sendBuffer c s' buffer).2) := by
  obtain ⟨htime, hnow⟩ := h.getTime
  have hsends : s'.sends = s.sends := h.proj (fun s => s.sends) fun _ _ _ => rfl
  unfold FreeMqtt.sendBuffer
  dsimp only
  rw [htime, hsends]
  exact hnow.sendBufferLoop c _ _ _ _ 0 nofun

/-- The loop of `sendMessageVector`, likewise. -/
theorem Shifted.sendMessageVectorLoop (h : Shifted d rx s s') (c : Config) (startTime : UInt32)
    (bytesToSend fuel : Nat) (vectors : List (List UInt8)) (b : Int)
    (htx : 0 < b → TxShifted d s s') :
    let sent := FreeMqtt.sendMessageVectorLoop c startTime bytesToSend fuel vectors b s
    let sent' := FreeMqtt.sendMessageVectorLoop c (startTime + d) bytesToSend fuel vectors b s'
    SameResult d rx sent sent' ∧ (0 < sent.1 → TxShifted d sent.2 sent'.2) := by
  induction fuel generalizing vectors b s s' with
  | zero => exact ⟨⟨rfl, h⟩, htx⟩
  | succ fuel ih =>
    have hwritev : s'.writev = s.writev := h.proj (fun s => s.writev) fun _ _ _ => rfl
    unfold FreeMqtt.sendMessageVectorLoop
    dsimp only
    split
    swap
    · exact ⟨⟨rfl, h⟩, htx⟩
    rw [hwritev]
    generalize (if s.writev then vectors.flatten else vectors.headD []) = offered
    obtain ⟨hresult, hafter, htime, hnow, htx'⟩ := h.sendStep offered b htx
    rw [hresult] at hafter htime hnow htx' ⊢
    rw [hafter, htime, calculateElapsedTime_add]
    split
    · exact ⟨⟨rfl, hnow⟩, htx'⟩
    · exact ih hnow _ _ htx'

theorem Shifted.sendMessageVector (h : Shifted d rx s s') (c : Config)
    (pIoVec : List (List UInt8)) :
    SameResult d rx (FreeMqtt.sendMessageVector c s pIoVec)
        (FreeMqtt.sendMessageVector c s' pIoVec) ∧
      (0 < (FreeMqtt.sendMessageVector c s pIoVec).1 →
        TxShifted d (FreeMqtt.sendMessageVector c s pIoVec).2
          (FreeMqtt.sendMessageVector c s' pIoVec).2) := by
  obtain ⟨htime, hnow⟩ := h.getTime
  have hsends : s'.sends = s.sends := h.proj (fun s => s.sends) fun _ _ _ => rfl
  unfold FreeMqtt.sendMessageVector
  dsimp only
  rw [htime, hsends]
  exact hnow.sendMessageVectorLoop c _ _ _ _ 0 nofun

/-- The packet in the log. -/
theorem Shifted.recordSent {after after' : Sys} (hafter : Shifted d rx after after')
    (h : Shifted d rx s s') (kind : PacketKind) (bytes : List UInt8) (result : Int) :
    Shifted d rx (after.recordSent s kind bytes result) (after'.recordSent s' kind bytes result) := by
  have hwire : s'.wire = s.wire := h.proj (fun s => s.wire) fun _ _ _ => rfl
  have hwireAfter : after'.wire = after.wire := hafter.proj (fun s => s.wire) fun _ _ _ => rfl
  unfold Sys.recordSent
  dsimp only
  rw [hwire, hwireAfter]
  exact hafter.record _

theorem Shifted.sendPacket (h : Shifted d rx s s') (c : Config) (kind : PacketKind)
    (packet : List UInt8) :
    SameResult d rx (FreeMqtt.sendPacket c s kind packet) (FreeMqtt.sendPacket c s' kind packet) ∧
      (0 < (FreeMqtt.sendPacket c s kind packet).1 →
        TxShifted d (FreeMqtt.sendPacket c s kind packet).2
          (FreeMqtt.sendPacket c s' kind packet).2) := by
  obtain ⟨⟨hresult, hsent⟩, htx⟩ := h.sendBuffer c packet
  unfold FreeMqtt.sendPacket
  dsimp only
  rw [hresult]
  exact ⟨⟨rfl, hsent.recordSent h _ _ _⟩, htx⟩

theorem Shifted.sendPublishAcks (h : Shifted d rx s s') (c : Config) (packetId : UInt16)
    (state : PublishState) :
    SameResult d rx (FreeMqtt.sendPublishAcks c s packetId state)
      (FreeMqtt.sendPublishAcks c s' packetId state) := by
  unfold FreeMqtt.sendPublishAcks
  dsimp only
  rw [h.connectStatus]
  split
  · exact ⟨rfl, h⟩
  split
  · exact ⟨rfl, h⟩
  split
  · exact ⟨rfl, h⟩
  obtain ⟨⟨hresult, hsent⟩, -⟩ := h.sendPacket c
    (.ack (getAckFromPacketType (getAckTypeToSend state)) packetId)
    (mqttSerializeAck (getAckTypeToSend state) packetId).2
  rw [hresult]
  split
  · exact ⟨rfl, hsent⟩
  · rw [hsent.records]
    exact ⟨rfl, (hsent.update (fun s => { s with controlPacketSent := true })
      (fun _ _ _ => rfl) rfl).setRecords _⟩

/-! ## Requests -/

theorem Shifted.sendTopics (h : Shifted d rx s s') (c : Config) (perTopic : Nat)
    (topicVectors : SubscribeInfo → List (List UInt8)) (fuel : Nat)
    (subscriptions : List SubscribeInfo) (pIoVector : List (List UInt8)) (result : Int) :
    let sent := FreeMqtt.sendTopics c perTopic topicVectors fuel subscriptions pIoVector s result
    let sent' := FreeMqtt.sendTopics c perTopic topicVectors fuel subscriptions pIoVector s' result
    sent'.1 = sent.1 ∧ sent'.2.2 = sent.2.2 ∧ Shifted d rx sent.2.1 sent'.2.1 := by
  induction fuel generalizing subscriptions pIoVector result s s' with
  | zero => exact ⟨rfl, rfl, h⟩
  | succ fuel ih =>
    unfold FreeMqtt.sendTopics
    dsimp only
    split
    · exact ⟨rfl, rfl, h⟩
    obtain ⟨⟨hresult, hsent⟩, -⟩ :=
      h.sendMessageVector c (fillVectors c perTopic topicVectors subscriptions pIoVector).1
    rw [hresult]
    split
    · exact ⟨rfl, rfl, hsent⟩
    · exact ih hsent _ _ _

theorem Shifted.sendTopicPacket (h : Shifted d rx s s') (c : Config) (kind : PacketKind)
    (header : List UInt8) (perTopic : Nat) (topicVectors : SubscribeInfo → List (List UInt8))
    (subscriptions : List SubscribeInfo) :
    SameResult d rx (FreeMqtt.sendTopicPacket c s kind header perTopic topicVectors subscriptions)
      (FreeMqtt.sendTopicPacket c s' kind header perTopic topicVectors subscriptions) := by
  obtain ⟨hstatus, hresult, hsent⟩ := h.sendTopics c perTopic topicVectors
    (subscriptions.length + 1) subscriptions [header] 0
  unfold FreeMqtt.sendTopicPacket
  dsimp only at hstatus hresult hsent ⊢
  rw [hstatus, hresult]
  exact ⟨rfl, hsent.recordSent h _ _ _⟩

theorem Shifted.validateSubscribe (h : Shifted d rx s s')
    (pSubscriptionList : Option (List SubscribeInfo)) (packetId : UInt16) :
    validateSubscribeUnsubscribeParams s' pSubscriptionList packetId =
      validateSubscribeUnsubscribeParams s pSubscriptionList packetId :=
  h.proj (validateSubscribeUnsubscribeParams · pSubscriptionList packetId) fun _ _ _ => rfl

theorem Shifted.mqttSubscribe (h : Shifted d rx s s') (c : Config)
    (pSubscriptionList : Option (List SubscribeInfo)) (packetId : UInt16) :
    SameResult d rx (FreeMqtt.mqttSubscribe c s pSubscriptionList packetId)
      (FreeMqtt.mqttSubscribe c s' pSubscriptionList packetId) := by
  unfold FreeMqtt.mqttSubscribe
  dsimp only
  rw [h.validateSubscribe, h.connectStatus]
  split
  · exact ⟨rfl, h⟩
  split
  · exact ⟨rfl, h⟩
  split
  · exact ⟨rfl, h⟩
  · exact h.sendTopicPacket c _ _ _ _ _

theorem Shifted.mqttUnsubscribe (h : Shifted d rx s s') (c : Config)
    (pSubscriptionList : Option (List SubscribeInfo)) (packetId : UInt16) :
    SameResult d rx (FreeMqtt.mqttUnsubscribe c s pSubscriptionList packetId)
      (FreeMqtt.mqttUnsubscribe c s' pSubscriptionList packetId) := by
  unfold FreeMqtt.mqttUnsubscribe
  dsimp only
  rw [h.validateSubscribe, h.connectStatus]
  split
  · exact ⟨rfl, h⟩
  split
  · exact ⟨rfl, h⟩
  split
  · exact ⟨rfl, h⟩
  · exact h.sendTopicPacket c _ _ _ _ _

/-- A call of `storeFunction`. -/
theorem Shifted.callStore (h : Shifted d rx s s') (packetId : UInt16) (packet : List UInt8) :
    SameResult d rx (FreeMqtt.callStore s packetId packet) (FreeMqtt.callStore s' packetId packet) := by
  have hresults : s'.storeResults = s.storeResults := h.proj (fun s => s.storeResults) fun _ _ _ => rfl
  unfold FreeMqtt.callStore
  rw [hresults]
  split
  · rename_i storeResults _
    exact ⟨rfl, h.update (fun s => { s with storeResults }) (fun _ _ _ => rfl) rfl⟩
  · exact ⟨rfl, h.update (fun s' => { s' with
      storeResults := s.storeResults.tail
      store := fun i => if i = packetId then some packet else s'.store i }) (fun _ _ _ => rfl) rfl⟩

theorem Shifted.storePublish (h : Shifted d rx s s') (info : PublishInfo) (header : List UInt8)
    (vectors : List (List UInt8)) (packetId : UInt16) :
    let stored := FreeMqtt.storePublish s info header vectors packetId
    let stored' := FreeMqtt.storePublish s' info header vectors packetId
    stored'.1 = stored.1 ∧ stored'.2.1 = stored.2.1 ∧ Shifted d rx stored.2.2 stored'.2.2 := by
  unfold FreeMqtt.storePublish
  dsimp only
  generalize (if info.dup then (Status.success, header)
    else mqttUpdateDuplicatePublishFlag header true) = changed
  obtain ⟨hresult, hstored⟩ := h.callStore packetId (changed.2 :: vectors).flatten
  split
  · exact ⟨rfl, rfl, h⟩
  rw [hresult]
  split
  · exact ⟨rfl, rfl, hstored⟩
  split
  · exact ⟨rfl, rfl, hstored⟩
  · exact ⟨rfl, rfl, hstored⟩

theorem Shifted.sendPublishWithoutCopy (h : Shifted d rx s s') (c : Config) (info : PublishInfo)
    (header : List UInt8) (packetId : UInt16) :
    SameResult d rx (FreeMqtt.sendPublishWithoutCopy c s info header packetId)
      (FreeMqtt.sendPublishWithoutCopy c s' info header packetId) := by
  have hfunction : s'.storeFunction = s.storeFunction :=
    h.proj (fun s => s.storeFunction) fun _ _ _ => rfl
  have hstored : let stored := if info.qos ≠ .qos0 ∧ s.storeFunction then
        FreeMqtt.storePublish s info header (publishVectors info packetId) packetId
        else (.success, header, s)
      let stored' := if info.qos ≠ .qos0 ∧ s.storeFunction then
        FreeMqtt.storePublish s' info header (publishVectors info packetId) packetId
        else (.success, header, s')
      stored'.1 = stored.1 ∧ stored'.2.1 = stored.2.1 ∧ Shifted d rx stored.2.2 stored'.2.2 := by
    dsimp only
    split
    · exact h.storePublish info header _ packetId
    · exact ⟨rfl, rfl, h⟩
  unfold FreeMqtt.sendPublishWithoutCopy
  rw [hfunction]
  dsimp only at hstored ⊢
  generalize (if info.qos ≠ .qos0 ∧ s.storeFunction then
    FreeMqtt.storePublish s info header (publishVectors info packetId) packetId
    else (.success, header, s)) = stored at hstored
  generalize (if info.qos ≠ .qos0 ∧ s.storeFunction then
    FreeMqtt.storePublish s' info header (publishVectors info packetId) packetId
    else (.success, header, s')) = stored' at hstored
  obtain ⟨hstatus, hheader, hstored⟩ := hstored
  rw [hstatus, hheader]
  split
  · exact ⟨rfl, hstored⟩
  · obtain ⟨⟨hresult, hsent⟩, -⟩ := hstored.sendMessageVector c
      (stored.2.1 :: publishVectors info packetId)
    rw [hresult]
    exact ⟨rfl, hsent.recordSent hstored _ _ _⟩

theorem Shifted.mqttPublish (h : Shifted d rx s s') (c : Config) (info : Option PublishInfo)
    (packetId : UInt16) :
    SameResult d rx (FreeMqtt.mqttPublish c s info packetId)
      (FreeMqtt.mqttPublish c s' info packetId) := by
  have hvalid : ∀ info,
      validatePublishParams s' info packetId = validatePublishParams s info packetId :=
    fun info => h.proj (validatePublishParams · info packetId) fun _ _ _ => rfl
  cases info with
  | none => exact ⟨hvalid none, h⟩
  | some info =>
    unfold FreeMqtt.mqttPublish
    dsimp only
    rw [hvalid, h.connectStatus, h.records]
    generalize (if info.qos ≠ .qos0 then mqttReserveState s.toPublishRecords packetId info.qos
      else (.success, s.toPublishRecords)) = reserved
    have hreserved := h.setRecords reserved.2
    generalize (if reserved.1 = .stateCollision ∧ info.dup then Status.success
      else reserved.1) = status
    split
    · exact ⟨rfl, h⟩
    split
    · exact ⟨rfl, h⟩
    split
    · exact ⟨rfl, h⟩
    split
    · exact ⟨rfl, hreserved⟩
    obtain ⟨hstatus, hsent⟩ := hreserved.sendPublishWithoutCopy c info
      (mqttSerializePublishHeaderWithoutTopic info (mqttGetPublishPacketSize info).2.1).1 packetId
    rw [hstatus, hsent.records]
    split
    · exact ⟨rfl, hsent.setRecords _⟩
    · exact ⟨hstatus, hsent⟩

/-- A PINGREQ that is completely sent: its time is that of the last packet. -/
theorem Shifted.setPing (h : Shifted d rx s s') (htx : TxShifted d s s') :
    Shifted d rx { s with pingReqSendTimeMs := s.lastPacketTxTime, waitingForPingResp := true }
      { s' with pingReqSendTimeMs := s'.lastPacketTxTime, waitingForPingResp := true } := by
  obtain ⟨tx, r, ping, rfl, hkeep, hr, -⟩ := h
  exact ⟨tx, r, tx, rfl, hkeep, hr, fun _ => htx⟩

theorem Shifted.mqttPing (h : Shifted d rx s s') (c : Config) :
    SameResult d rx (FreeMqtt.mqttPing c s) (FreeMqtt.mqttPing c s') := by
  unfold FreeMqtt.mqttPing
  dsimp only
  rw [h.connectStatus]
  split
  · exact ⟨rfl, h⟩
  obtain ⟨⟨hresult, hsent⟩, htx⟩ := h.sendPacket c .pingreq mqttSerializePingreq
  rw [hresult]
  split
  · exact ⟨rfl, hsent⟩
  · rename_i hall
    exact ⟨rfl, hsent.setPing (htx (Int.lt_of_lt_of_le (by decide) (Int.not_lt.1 hall)))⟩

theorem Shifted.clearBuffer (h : Shifted d rx s s') : Shifted d rx s.clearBuffer s'.clearBuffer :=
  h.update Sys.clearBuffer (fun _ _ _ => rfl) rfl

theorem Shifted.setStatus (h : Shifted d rx s s') (connectStatus : ConnectionStatus) :
    Shifted d rx { s with connectStatus } { s' with connectStatus } :=
  h.update (fun s => { s with connectStatus }) (fun _ _ _ => rfl) rfl

theorem Shifted.mqttDisconnect (h : Shifted d rx s s') (c : Config) :
    SameResult d rx (FreeMqtt.mqttDisconnect c s) (FreeMqtt.mqttDisconnect c s') := by
  unfold FreeMqtt.mqttDisconnect
  dsimp only
  rw [h.connectStatus]
  split
  · exact ⟨rfl, h⟩
  · obtain ⟨⟨hresult, hsent⟩, -⟩ := (h.setStatus .notConnected).clearBuffer.sendPacket c
      .disconnect mqttSerializeDisconnect
    rw [hresult]
    exact ⟨rfl, hsent⟩

theorem Shifted.mqttCancelCallback (h : Shifted d rx s s') (packetId : UInt16) :
    SameResult d rx (FreeMqtt.mqttCancelCallback s packetId)
      (FreeMqtt.mqttCancelCallback s' packetId) := by
  have hrecords := h.records
  unfold FreeMqtt.mqttCancelCallback
  dsimp only
  rw [hrecords]
  split
  · exact ⟨rfl, h⟩
  · exact ⟨rfl, h.setRecords _⟩

theorem Shifted.mqttGetPacketId (h : Shifted d rx s s') :
    SameResult d rx (FreeMqtt.mqttGetPacketId s) (FreeMqtt.mqttGetPacketId s') := by
  have hnext : s'.nextPacketId = s.nextPacketId := h.proj (fun s => s.nextPacketId) fun _ _ _ => rfl
  unfold FreeMqtt.mqttGetPacketId
  rw [hnext]
  exact ⟨rfl, h.update (fun s' => { s' with
    nextPacketId := if s.nextPacketId = 0xFFFF then 1 else s.nextPacketId + 1 }) (fun _ _ _ => rfl) rfl⟩

theorem Shifted.sendCall (h : Shifted d rx s s') (c : Config) (call : SendCall) :
    Shifted d rx (call.run c s) (call.run c s') := by
  cases call with
  | publish info packetId => exact (h.mqttPublish c info packetId).2
  | subscribe list packetId => exact (h.mqttSubscribe c list packetId).2
  | unsubscribe list packetId => exact (h.mqttUnsubscribe c list packetId).2
  | ping => exact (h.mqttPing c).2
  | disconnect => exact (h.mqttDisconnect c).2
  | cancelCallback packetId => exact (h.mqttCancelCallback packetId).2
  | getPacketId => exact h.mqttGetPacketId.2

theorem Shifted.sendCalls (h : Shifted d rx s s') (c : Config) (calls : List SendCall) :
    Shifted d rx (calls.foldl (SendCall.run c) s) (calls.foldl (SendCall.run c) s') := by
  induction calls generalizing s s' with
  | nil => exact h
  | cons call calls ih => exact ih (h.sendCall c call)

theorem Shifted.appCallback (h : Shifted d rx s s') (c : Config) (packet : PacketInfo)
    (info : DeserializedInfo) :
    Shifted d rx (FreeMqtt.appCallback c s packet info) (FreeMqtt.appCallback c s' packet info) := by
  have hrecorded := h.record (.callback packet info)
  have hcallbacks : (s'.record (.callback packet info)).callbacks =
      (s.record (.callback packet info)).callbacks :=
    hrecorded.proj (fun s => s.callbacks) fun _ _ _ => rfl
  unfold FreeMqtt.appCallback
  dsimp only
  rw [hcallbacks]
  have hnext := hrecorded.update (fun s' => { s' with
    callbacks := (s.record (.callback packet info)).callbacks.tail }) (fun _ _ _ => rfl) rfl
  exact hnext.sendCalls c _

/-! ## Handlers -/

theorem Shifted.handleIncomingPublish (h : Shifted d rx s s') (c : Config) (packet : PacketInfo) :
    SameResult d rx (FreeMqtt.handleIncomingPublish c s packet)
      (FreeMqtt.handleIncomingPublish c s' packet) := by
  have hrecords := h.records
  unfold FreeMqtt.handleIncomingPublish
  dsimp only
  rw [hrecords]
  split
  · exact ⟨rfl, h⟩
  split
  · exact ⟨rfl, h⟩
  have hupdated := h.setRecords (mqttUpdateStatePublish s.toPublishRecords
    ((mqttDeserializePublish packet).2.1.getD 0) .receive (mqttDeserializePublish packet).2.2.qos).2.2
  split
  · exact (hupdated.appCallback c packet _).sendPublishAcks c _ _
  split
  · exact hupdated.sendPublishAcks c _ _
  · exact ⟨rfl, hupdated⟩

theorem Shifted.callClear (h : Shifted d rx s s') (packetId : UInt16) :
    Shifted d rx (FreeMqtt.callClear s packetId) (FreeMqtt.callClear s' packetId) :=
  h.update (FreeMqtt.callClear · packetId) (fun _ _ _ => rfl) rfl

theorem Shifted.handlePublishAcks (h : Shifted d rx s s') (c : Config) (packet : PacketInfo) :
    SameResult d rx (FreeMqtt.handlePublishAcks c s packet)
      (FreeMqtt.handlePublishAcks c s' packet) := by
  unfold FreeMqtt.handlePublishAcks
  dsimp only
  rw [h.records]
  split
  · exact ⟨rfl, h⟩
  have hupdated := h.setRecords (mqttUpdateStateAck s.toPublishRecords
    ((mqttDeserializeAck packet true false).2.1.getD 0) (getAckFromPacketType packet.type) .receive).2.2
  split
  · exact ⟨rfl, hupdated⟩
  have hclear : s'.clearFunction = s.clearFunction := h.proj (fun s => s.clearFunction) fun _ _ _ => rfl
  have hfunction : ∀ (s : Sys) t, (s.setRecords t).clearFunction = s.clearFunction := fun _ _ => rfl
  rw [hfunction, hfunction, hclear]
  split
  · exact ((hupdated.callClear _).appCallback c packet _).sendPublishAcks c _ _
  · exact (hupdated.appCallback c packet _).sendPublishAcks c _ _

theorem Shifted.handleIncomingAck (h : Shifted d rx s s') (c : Config) (packet : PacketInfo)
    (manageKeepAlive : Bool) :
    SameResult d rx (FreeMqtt.handleIncomingAck c s packet manageKeepAlive)
      (FreeMqtt.handleIncomingAck c s' packet manageKeepAlive) := by
  have hanswered : Shifted d rx { s with waitingForPingResp := false }
      { s' with waitingForPingResp := false } := by
    obtain ⟨tx, r, ping, rfl, htx, hr, -⟩ := h
    exact ⟨tx, r, ping, rfl, htx, hr, nofun⟩
  unfold FreeMqtt.handleIncomingAck
  dsimp only
  split
  · exact h.handlePublishAcks c packet
  split
  · split
    · exact ⟨rfl, h⟩
    split
    · exact ⟨rfl, hanswered⟩
    · exact ⟨rfl, h.appCallback c packet _⟩
  split
  · split
    · exact ⟨rfl, h.appCallback c packet _⟩
    · exact ⟨rfl, h⟩
  · exact ⟨rfl, h⟩

theorem Shifted.handlePacket (h : Shifted d rx s s') (c : Config) (manageKeepAlive : Bool)
    (packet : PacketInfo) :
    SameResult d rx (FreeMqtt.handlePacket c manageKeepAlive packet s)
      (FreeMqtt.handlePacket c manageKeepAlive packet s') := by
  have hrecorded := h.record (.dispatched packet.type
    (readBytes packet.pRemainingData packet.remainingLength))
  unfold FreeMqtt.handlePacket
  dsimp only
  split
  · exact hrecorded.handleIncomingPublish c packet
  · exact hrecorded.handleIncomingAck c packet manageKeepAlive

/-! ## Receiving -/

theorem transportRecv_shifted (s : Sys) (d tx r ping : UInt32) (bytesToRecv : Nat) :
    transportRecv (s.shifted d tx r ping) bytesToRecv =
      ((transportRecv s bytesToRecv).1, (transportRecv s bytesToRecv).2.1,
        (transportRecv s bytesToRecv).2.2.shifted d tx r ping) := by
  have hrecvs : (s.shifted d tx r ping).recvs = s.recvs := rfl
  unfold transportRecv
  rw [hrecvs]
  split
  · rfl
  · split <;> rfl

theorem timers_transportRecv (s : Sys) (bytesToRecv : Nat) :
    (transportRecv s bytesToRecv).2.2.timers = s.timers := by
  unfold transportRecv
  split
  · rfl
  · split <;> rfl

theorem Shifted.transportRecv (h : Shifted d rx s s') (bytesToRecv : Nat) :
    let received := FreeMqtt.transportRecv s bytesToRecv
    let received' := FreeMqtt.transportRecv s' bytesToRecv
    received'.1 = received.1 ∧ received'.2.1 = received.2.1 ∧
      Shifted d rx received.2.2 received'.2.2 := by
  have hrecv := fun tx r ping => transportRecv_shifted s d tx r ping bytesToRecv
  refine ⟨?_, ?_, ?_⟩
  · exact h.proj (fun s => (FreeMqtt.transportRecv s bytesToRecv).1) fun tx r ping => by rw [hrecv]
  · exact h.proj (fun s => (FreeMqtt.transportRecv s bytesToRecv).2.1) fun tx r ping => by rw [hrecv]
  · exact h.update (fun s => (FreeMqtt.transportRecv s bytesToRecv).2.2)
      (fun tx r ping => congrArg (fun received => received.2.2) (hrecv tx r ping))
      (timers_transportRecv s bytesToRecv)

/-- Bytes written into the buffer. -/
theorem Shifted.write (h : Shifted d rx s s') (offset : Nat) (bytes : List UInt8) :
    Shifted d rx { s with networkBuffer := writeAt s.networkBuffer offset bytes }
      { s' with networkBuffer := writeAt s'.networkBuffer offset bytes } :=
  h.update (fun s => { s with networkBuffer := writeAt s.networkBuffer offset bytes })
    (fun _ _ _ => rfl) rfl

theorem Shifted.recvExactLoop (h : Shifted d rx s s') (c : Config) (fuel offset bytesRemaining : Nat)
    (total : Int) (last : UInt32) :
    SameResult d rx (FreeMqtt.recvExactLoop c fuel offset bytesRemaining total last s)
      (FreeMqtt.recvExactLoop c fuel offset bytesRemaining total (last + d) s') := by
  induction fuel generalizing offset bytesRemaining total last s s' with
  | zero => exact ⟨rfl, h⟩
  | succ fuel ih =>
    unfold FreeMqtt.recvExactLoop
    dsimp only
    split
    swap
    · exact ⟨rfl, h⟩
    obtain ⟨hresult, hbytes, hreceived⟩ := h.transportRecv bytesRemaining
    rw [hresult, hbytes]
    have hwritten := hreceived.write offset (FreeMqtt.transportRecv s bytesRemaining).2.1
    obtain ⟨htime, hnow⟩ := hwritten.getTime
    split
    · exact ⟨rfl, hwritten.networkError⟩
    rw [htime]
    split
    · exact ih hnow _ _ _ _
    rw [calculateElapsedTime_add]
    split
    · exact ⟨rfl, hnow⟩
    · exact ih hnow _ _ _ _

theorem Shifted.recvExact (h : Shifted d rx s s') (c : Config) (bytesToRecv : Nat) :
    SameResult d rx (FreeMqtt.recvExact c s bytesToRecv) (FreeMqtt.recvExact c s' bytesToRecv) := by
  have hrecvs : s'.recvs = s.recvs := h.proj (fun s => s.recvs) fun _ _ _ => rfl
  obtain ⟨htime, hnow⟩ := h.getTime
  unfold FreeMqtt.recvExact
  dsimp only
  rw [htime, hrecvs]
  exact hnow.recvExactLoop c _ _ _ _ _

theorem Shifted.discardStoredLoop (h : Shifted d rx s s') (c : Config)
    (remainingLength fuel bytesToReceive total : Nat) :
    SameResult d rx (FreeMqtt.discardStoredLoop c remainingLength fuel bytesToReceive total s)
      (FreeMqtt.discardStoredLoop c remainingLength fuel bytesToReceive total s') := by
  induction fuel generalizing bytesToReceive total s s' with
  | zero => exact ⟨rfl, h⟩
  | succ fuel ih =>
    unfold FreeMqtt.discardStoredLoop
    dsimp only
    split
    swap
    · exact ⟨rfl, h⟩
    obtain ⟨hresult, hreceived⟩ := h.recvExact c (min bytesToReceive (remainingLength - total))
    rw [hresult]
    split
    · exact ⟨rfl, hreceived⟩
    · exact ih hreceived _ _

theorem Shifted.networkBuffer (h : Shifted d rx s s') : s'.networkBuffer = s.networkBuffer :=
  h.proj (fun s => s.networkBuffer) fun _ _ _ => rfl

theorem Shifted.index (h : Shifted d rx s s') : s'.index = s.index :=
  h.proj (fun s => s.index) fun _ _ _ => rfl

theorem Shifted.discardStoredPacket (h : Shifted d rx s s') (c : Config) (packet : PacketInfo) :
    SameResult d rx (FreeMqtt.discardStoredPacket c s packet)
      (FreeMqtt.discardStoredPacket c s' packet) := by
  unfold FreeMqtt.discardStoredPacket
  dsimp only
  rw [h.index, h.networkBuffer]
  obtain ⟨hresult, hdiscarded⟩ := h.discardStoredLoop c
    (c.sizeSub (packet.remainingLength + packet.headerLength) s.index)
    (c.sizeSub (packet.remainingLength + packet.headerLength) s.index + 1) s.networkBuffer.length 0
  rw [hresult]
  exact ⟨rfl, hdiscarded.clearBuffer⟩

theorem Shifted.discardLoop (h : Shifted d rx s s') (c : Config) (remainingLength : Nat)
    (timeoutMs entryTimeMs : UInt32) (fuel bytesToReceive total : Nat) :
    SameResult d rx
      (FreeMqtt.discardLoop c remainingLength timeoutMs entryTimeMs fuel bytesToReceive total s)
      (FreeMqtt.discardLoop c remainingLength timeoutMs (entryTimeMs + d) fuel bytesToReceive total
        s') := by
  induction fuel generalizing bytesToReceive total s s' with
  | zero => exact ⟨rfl, h⟩
  | succ fuel ih =>
    unfold FreeMqtt.discardLoop
    dsimp only
    split
    swap
    · exact ⟨rfl, h⟩
    obtain ⟨hresult, hreceived⟩ := h.recvExact c (min bytesToReceive (remainingLength - total))
    obtain ⟨htime, hnow⟩ := hreceived.getTime
    rw [hresult, htime, calculateElapsedTime_add]
    split
    · exact ⟨rfl, hreceived⟩
    split
    · exact ⟨rfl, hnow⟩
    · exact ih hnow _ _

theorem Shifted.receivePacket (h : Shifted d rx s s') (c : Config) (packet : PacketInfo)
    (remainingTimeMs : UInt32) :
    SameResult d rx (FreeMqtt.receivePacket c s packet remainingTimeMs)
      (FreeMqtt.receivePacket c s' packet remainingTimeMs) := by
  unfold FreeMqtt.receivePacket
  dsimp only
  rw [h.networkBuffer]
  split
  · obtain ⟨htime, hnow⟩ := h.getTime
    unfold FreeMqtt.discardPacket
    dsimp only
    rw [htime, h.networkBuffer]
    obtain ⟨hresult, hdiscarded⟩ := hnow.discardLoop c packet.remainingLength remainingTimeMs
      (FreeMqtt.getTime s).1 (packet.remainingLength + 1) s.networkBuffer.length 0
    rw [hresult]
    exact ⟨rfl, hdiscarded⟩
  · obtain ⟨hresult, hreceived⟩ := h.recvExact c packet.remainingLength
    rw [hresult]
    exact ⟨rfl, hreceived⟩

/-! ## One iteration of a loop -/

/-- The keep-alive check compares the time of the last packet received. -/
def ComparesRx (c : Config) (s : Sys) : Prop :=
  let packetTxTimeoutMs := min c.packetTxTimeoutMs (1000 * s.keepAliveIntervalSec.toNat)
  s.waitingForPingResp = false ∧ ¬ (packetTxTimeoutMs ≠ 0 ∧
    packetTxTimeoutMs ≤ (calculateElapsedTime (FreeMqtt.getTime s).1 s.lastPacketTxTime).toNat)

instance (c : Config) (s : Sys) : Decidable (ComparesRx c s) := inferInstanceAs (Decidable (_ ∧ _))

theorem handleKeepAlive_eq (c : Config) (s : Sys) : handleKeepAlive c s =
    let now := getTime s
    let packetTxTimeoutMs := min c.packetTxTimeoutMs (1000 * s.keepAliveIntervalSec.toNat)
    if s.waitingForPingResp then
      (if c.pingrespTimeoutMs < (calculateElapsedTime now.1 s.pingReqSendTimeMs).toNat then
        .keepAliveTimeout
      else .success, now.2)
    else if packetTxTimeoutMs ≠ 0 ∧
        packetTxTimeoutMs ≤ (calculateElapsedTime now.1 s.lastPacketTxTime).toNat then
      mqttPing c now.2
    else
      let timeElapsed := (calculateElapsedTime now.1 s.lastPacketRxTime).toNat
      if timeElapsed ≠ 0 ∧ c.packetRxTimeoutMs ≤ timeElapsed then mqttPing c now.2
      else (.success, now.2) := rfl

/-- The keep-alive check, when the time of the last packet received is set or not compared. -/
theorem Shifted.handleKeepAlive (h : Shifted d rx s s') (c : Config) (hrx : ComparesRx c s → rx) :
    SameResult d rx (FreeMqtt.handleKeepAlive c s) (FreeMqtt.handleKeepAlive c s') := by
  obtain ⟨htime, hnow⟩ := h.getTime
  have hwaiting : s'.waitingForPingResp = s.waitingForPingResp :=
    h.proj (fun s => s.waitingForPingResp) fun _ _ _ => rfl
  have hkeep : s'.keepAliveIntervalSec = s.keepAliveIntervalSec :=
    h.proj (fun s => s.keepAliveIntervalSec) fun _ _ _ => rfl
  obtain ⟨htx, hr, hping⟩ : (s.keepAliveIntervalSec ≠ 0 → TxShifted d s s') ∧
      (rx → s'.lastPacketRxTime = s.lastPacketRxTime + d) ∧
      (s.waitingForPingResp = true → s'.pingReqSendTimeMs = s.pingReqSendTimeMs + d) := by
    obtain ⟨tx, r, ping, rfl, hconditions⟩ := h
    exact hconditions
  rw [handleKeepAlive_eq, handleKeepAlive_eq]
  dsimp only
  rw [hwaiting, hkeep, htime]
  split
  · rename_i hwait
    rw [hping hwait, calculateElapsedTime_add]
    exact ⟨rfl, hnow⟩
  rename_i hwait
  -- without a keep-alive interval the time of the last packet sent is not compared
  have htimeout : min c.packetTxTimeoutMs (1000 * s.keepAliveIntervalSec.toNat) ≠ 0 →
      calculateElapsedTime ((FreeMqtt.getTime s).1 + d) s'.lastPacketTxTime =
        calculateElapsedTime (FreeMqtt.getTime s).1 s.lastPacketTxTime := by
    intro hmin
    rw [htx fun hzero => hmin (by simp [hzero]), calculateElapsedTime_add]
  by_cases htimed : min c.packetTxTimeoutMs (1000 * s.keepAliveIntervalSec.toNat) ≠ 0 ∧
      min c.packetTxTimeoutMs (1000 * s.keepAliveIntervalSec.toNat) ≤
        (calculateElapsedTime (FreeMqtt.getTime s).1 s.lastPacketTxTime).toNat
  · rw [if_pos htimed, if_pos ⟨htimed.1, by rw [htimeout htimed.1]; exact htimed.2⟩]
    exact hnow.mqttPing c
  · have htimed' : ¬ (min c.packetTxTimeoutMs (1000 * s.keepAliveIntervalSec.toNat) ≠ 0 ∧
        min c.packetTxTimeoutMs (1000 * s.keepAliveIntervalSec.toNat) ≤
          (calculateElapsedTime ((FreeMqtt.getTime s).1 + d) s'.lastPacketTxTime).toNat) := by
      intro ⟨hmin, hle⟩
      rw [htimeout hmin] at hle
      exact htimed ⟨hmin, hle⟩
    rw [if_neg htimed, if_neg htimed', hr (hrx ⟨by simpa using hwait, htimed⟩),
      calculateElapsedTime_add]
    split
    · exact hnow.mqttPing c
    · exact ⟨rfl, hnow⟩

theorem Shifted.readIntoBuffer (h : Shifted d rx s s') (c : Config) :
    let read := FreeMqtt.readIntoBuffer c s
    let read' := FreeMqtt.readIntoBuffer c s'
    read'.1 = read.1 ∧ read'.2.1 = read.2.1 ∧ read'.2.2.1 = read.2.2.1 ∧
      Shifted d rx read.2.2.2 read'.2.2.2 := by
  -- from the bytes in the buffer on
  have hnext : ∀ (count : Int) {s s' : Sys}, Shifted d rx s s' →
      let rest := fun s : Sys => if count < 0 then
          (count, Status.recvFailed, (⟨0, none, 0, 0⟩ : PacketInfo), FreeMqtt.networkError s)
        else if count = 0 ∧ s.index = 0 then (count, .noDataAvailable, ⟨0, none, 0, 0⟩, s)
        else
          let s := { s with index := s.index + count.toNat }
          let packet := mqttProcessIncomingPacketTypeAndLength s.networkBuffer s.index
          (count, packet.1, packet.2, s)
      (rest s').1 = (rest s).1 ∧ (rest s').2.1 = (rest s).2.1 ∧ (rest s').2.2.1 = (rest s).2.2.1 ∧
        Shifted d rx (rest s).2.2.2 (rest s').2.2.2 := by
    intro count s s' h
    dsimp only
    by_cases hneg : count < 0
    · rw [if_pos hneg, if_pos hneg]
      exact ⟨rfl, rfl, rfl, h.networkError⟩
    rw [if_neg hneg, if_neg hneg]
    by_cases hnone : count = 0 ∧ s.index = 0
    · rw [if_pos hnone, if_pos (show count = 0 ∧ s'.index = 0 from ⟨hnone.1, h.index.trans hnone.2⟩)]
      exact ⟨rfl, rfl, rfl, h⟩
    · have hsome : ¬ (count = 0 ∧ s'.index = 0) := by
        rw [h.index]
        exact hnone
      have hindexed := h.update (fun s => { s with index := s.index + count.toNat })
        (fun _ _ _ => rfl) rfl
      have hpacket : mqttProcessIncomingPacketTypeAndLength s'.networkBuffer (s'.index + count.toNat) =
          mqttProcessIncomingPacketTypeAndLength s.networkBuffer (s.index + count.toNat) := by
        rw [h.networkBuffer, h.index]
      rw [if_neg hnone, if_neg hsome]
      have hstatus := congrArg Prod.fst hpacket
      have hinfo := congrArg Prod.snd hpacket
      exact ⟨rfl, hstatus, hinfo, hindexed⟩
  obtain ⟨hresult, hbytes, hreceived⟩ := h.transportRecv (c.sizeSub s.networkBuffer.length s.index)
  unfold FreeMqtt.readIntoBuffer
  dsimp only
  rw [h.networkBuffer, h.index, hresult, hbytes]
  exact hnext _ (hreceived.write s.index
    (FreeMqtt.transportRecv s (c.sizeSub s.networkBuffer.length s.index)).2.1)

theorem Shifted.checkKeepAlive (h : Shifted d rx s s') (c : Config) (recvBytes : Int)
    (manageKeepAlive : Bool) (status : Status)
    (hrx : recvBytes = 0 → manageKeepAlive = true → ComparesRx c s → rx) :
    SameResult d rx (FreeMqtt.checkKeepAlive c recvBytes manageKeepAlive status s)
      (FreeMqtt.checkKeepAlive c recvBytes manageKeepAlive status s') := by
  unfold FreeMqtt.checkKeepAlive
  split
  · rename_i hcheck
    obtain ⟨hstatus, hkept⟩ := h.handleKeepAlive c (hrx hcheck.1 hcheck.2)
    dsimp only
    rw [hstatus]
    exact ⟨rfl, hkept⟩
  · exact ⟨rfl, h⟩

theorem Shifted.checkComplete (h : Shifted d rx s s') (c : Config) (status : Status)
    (packet : PacketInfo) :
    SameResult d rx (FreeMqtt.checkComplete c status packet s)
      (FreeMqtt.checkComplete c status packet s') := by
  unfold FreeMqtt.checkComplete
  dsimp only
  rw [h.networkBuffer, h.index]
  split
  · exact ⟨rfl, h⟩
  split
  · exact h.discardStoredPacket c packet
  split
  · exact ⟨rfl, h⟩
  · exact ⟨rfl, h⟩

theorem Shifted.mono (h : Shifted d rx s s') {rx' : Prop} (hrx : rx' → rx) : Shifted d rx' s s' := by
  obtain ⟨tx, r, ping, heq, htx, hr, hping⟩ := h
  exact ⟨tx, r, ping, heq, htx, fun h => hr (hrx h), hping⟩

/-- The time of the last packet received is set. -/
theorem Shifted.setRx (h : Shifted d rx s s') :
    Shifted d True { (FreeMqtt.getTime s).2 with lastPacketRxTime := (FreeMqtt.getTime s).1 }
      { (FreeMqtt.getTime s').2 with lastPacketRxTime := (FreeMqtt.getTime s').1 } := by
  obtain ⟨tx, r, ping, rfl, htx, -, hping⟩ := h
  exact ⟨tx, _, ping, rfl, htx, fun _ => rfl, hping⟩

theorem Shifted.dispatchPacket (h : Shifted d rx s s') (c : Config) (manageKeepAlive : Bool)
    (packet : PacketInfo) :
    SameResult d (rx ∨ (FreeMqtt.dispatchPacket c manageKeepAlive packet s).1 = .success)
      (FreeMqtt.dispatchPacket c manageKeepAlive packet s)
      (FreeMqtt.dispatchPacket c manageKeepAlive packet s') := by
  unfold FreeMqtt.dispatchPacket
  dsimp only
  rw [h.networkBuffer]
  obtain ⟨hstatus, hhandled⟩ := h.handlePacket c manageKeepAlive
    { packet with pRemainingData := some (s.networkBuffer.drop packet.headerLength) }
  generalize FreeMqtt.handlePacket c manageKeepAlive
    { packet with pRemainingData := some (s.networkBuffer.drop packet.headerLength) } s = handled at *
  generalize FreeMqtt.handlePacket c manageKeepAlive
    { packet with pRemainingData := some (s.networkBuffer.drop packet.headerLength) } s' = handled' at *
  have hremoved := hhandled.update (fun s =>
      let index := c.sizeSub s.index (packet.remainingLength + packet.headerLength)
      { s with
        index
        networkBuffer :=
          moveToFront s.networkBuffer (packet.remainingLength + packet.headerLength) index })
    (fun _ _ _ => rfl) rfl
  rw [hstatus]
  split
  · exact ⟨rfl, hremoved.setRx.mono fun _ => trivial⟩
  · rename_i hfailed
    exact ⟨rfl, hremoved.mono fun hrx => hrx.resolve_right hfailed⟩

/-- An iteration hands a packet to its handler, which succeeds. -/
def HandlesPacket (c : Config) (s : Sys) (manageKeepAlive : Bool) : Prop :=
  let read := FreeMqtt.readIntoBuffer c s
  let kept := FreeMqtt.checkKeepAlive c read.1 manageKeepAlive read.2.1 read.2.2.2
  let complete := FreeMqtt.checkComplete c kept.1 read.2.2.1 kept.2
  complete.1 = .success ∧
    (FreeMqtt.dispatchPacket c manageKeepAlive read.2.2.1 complete.2).1 = .success

instance (c : Config) (s : Sys) (manageKeepAlive : Bool) :
    Decidable (HandlesPacket c s manageKeepAlive) := inferInstanceAs (Decidable (_ ∧ _))

/-- An iteration compares the time of the last packet received. -/
def IterationComparesRx (c : Config) (s : Sys) (manageKeepAlive : Bool) : Prop :=
  (FreeMqtt.readIntoBuffer c s).1 = 0 ∧ manageKeepAlive = true ∧
    ComparesRx c (FreeMqtt.readIntoBuffer c s).2.2.2

instance (c : Config) (s : Sys) (manageKeepAlive : Bool) :
    Decidable (IterationComparesRx c s manageKeepAlive) := inferInstanceAs (Decidable (_ ∧ _))

theorem Shifted.receiveSingleIteration (h : Shifted d rx s s') (c : Config) (manageKeepAlive : Bool)
    (hrx : IterationComparesRx c s manageKeepAlive → rx) :
    SameResult d (rx ∨ HandlesPacket c s manageKeepAlive)
      (FreeMqtt.receiveSingleIteration c s manageKeepAlive)
      (FreeMqtt.receiveSingleIteration c s' manageKeepAlive) := by
  obtain ⟨hcount, hstatus, hpacket, hread⟩ := h.readIntoBuffer c
  unfold IterationComparesRx at hrx
  unfold FreeMqtt.receiveSingleIteration HandlesPacket
  dsimp only at hcount hstatus hpacket hread ⊢
  generalize FreeMqtt.readIntoBuffer c s = read at *
  generalize FreeMqtt.readIntoBuffer c s' = read' at *
  obtain ⟨hkeptStatus, hkept⟩ := hread.checkKeepAlive c read.1 manageKeepAlive read.2.1
    fun hzero hmanage hcompares => hrx ⟨hzero, hmanage, hcompares⟩
  rw [hcount, hstatus, hpacket]
  generalize FreeMqtt.checkKeepAlive c read.1 manageKeepAlive read.2.1 read.2.2.2 = kept at *
  generalize FreeMqtt.checkKeepAlive c read.1 manageKeepAlive read.2.1 read'.2.2.2 = kept' at *
  obtain ⟨hcompleteStatus, hcomplete⟩ := hkept.checkComplete c kept.1 read.2.2.1
  rw [hkeptStatus]
  generalize FreeMqtt.checkComplete c kept.1 read.2.2.1 kept.2 = complete at *
  generalize FreeMqtt.checkComplete c kept.1 read.2.2.1 kept'.2 = complete' at *
  rw [hcompleteStatus]
  split
  · rename_i hok
    obtain ⟨hhandledStatus, hhandled⟩ := hcomplete.dispatchPacket c manageKeepAlive read.2.2.1
    rw [hhandledStatus]
    exact ⟨rfl, hhandled.mono (Or.imp_right And.right)⟩
  · rename_i hfailed
    rw [hcompleteStatus]
    exact ⟨rfl, hcomplete.mono fun hrx => hrx.resolve_right fun h => hfailed h.1⟩

end Shifted

end FreeMqtt

import FreeMqtt.Core.ClockShift
import FreeMqtt.Core.Integrity
import FreeMqtt.Core.Operations

/-!
# Runs under a translated clock

Two runs of the same calls, the second with a constant added to all that its clock returns. They
send the same and return the same as long as no keep-alive check compares `lastPacketRxTime` before
a loop has set it: `MQTT_Connect` leaves it as `MQTT_Init` does, at zero.
-/

namespace FreeMqtt

section Connect

variable {d : UInt32} {rx : Prop} {s s' : Sys}

/-! ## Connecting -/

/-- A CONNECT that is completely sent sets the time of the last packet sent. -/
theorem Shifted.sendConnectWithoutCopy (h : Shifted d rx s s') (c : Config) (info : ConnectInfo)
    (will : Option PublishInfo) {remainingLength : Nat}
    (hlength : remainingLength ≤ maxRemainingLength) :
    let sent := FreeMqtt.sendConnectWithoutCopy c s info will remainingLength
    let sent' := FreeMqtt.sendConnectWithoutCopy c s' info will remainingLength
    SameResult d rx sent sent' ∧ (sent.1 = .success → TxShifted d sent.2 sent'.2) := by
  unfold FreeMqtt.sendConnectWithoutCopy
  dsimp only
  split
  · exact ⟨⟨rfl, h⟩, nofun⟩
  obtain ⟨⟨hresult, hsent⟩, htx⟩ := h.sendMessageVector c (connectVectors info will remainingLength)
  generalize FreeMqtt.sendMessageVector c s (connectVectors info will remainingLength) = sent at *
  generalize FreeMqtt.sendMessageVector c s' (connectVectors info will remainingLength) = sent' at *
  rw [hresult]
  refine ⟨⟨rfl, hsent.recordSent h _ _ _⟩, ?_⟩
  split
  · exact nofun
  · rename_i hall
    intro
    apply htx
    rw [not_not.1 hall, int32Cast_eq (length_connectVectors_lt info will hlength)]
    refine Int.ofNat_lt.2 (List.length_pos_of_ne_nil ?_)
    simp [connectVectors, mqttSerializeConnectFixedHeader]

theorem Shifted.getRemainingLengthLoop (h : Shifted d rx s s')
    (fuel remainingLength bytesDecoded : Nat) :
    let decoded := FreeMqtt.getRemainingLengthLoop fuel remainingLength bytesDecoded s
    let decoded' := FreeMqtt.getRemainingLengthLoop fuel remainingLength bytesDecoded s'
    decoded'.1 = decoded.1 ∧ decoded'.2.1 = decoded.2.1 ∧ Shifted d rx decoded.2.2 decoded'.2.2 := by
  induction fuel generalizing remainingLength bytesDecoded s s' with
  | zero => exact ⟨rfl, rfl, h⟩
  | succ fuel ih =>
    unfold FreeMqtt.getRemainingLengthLoop
    dsimp only
    split
    · exact ⟨rfl, rfl, h⟩
    obtain ⟨hresult, hbytes, hreceived⟩ := h.transportRecv 1
    rw [hresult, hbytes]
    split
    · split
      · exact ih hreceived _ _
      · exact ⟨rfl, rfl, hreceived⟩
    · exact ⟨rfl, rfl, hreceived⟩

theorem Shifted.getRemainingLength (h : Shifted d rx s s') :
    SameResult d rx (FreeMqtt.getRemainingLength s) (FreeMqtt.getRemainingLength s') := by
  obtain ⟨hlength, hcount, hread⟩ := h.getRemainingLengthLoop 5 0 0
  unfold FreeMqtt.getRemainingLength
  dsimp only
  rw [hlength, hcount]
  exact ⟨rfl, hread⟩

theorem Shifted.mqttGetIncomingPacketTypeAndLength (h : Shifted d rx s s') (packet : PacketInfo) :
    let received := FreeMqtt.mqttGetIncomingPacketTypeAndLength s packet
    let received' := FreeMqtt.mqttGetIncomingPacketTypeAndLength s' packet
    received'.1 = received.1 ∧ received'.2.1 = received.2.1 ∧
      Shifted d rx received.2.2 received'.2.2 := by
  obtain ⟨hresult, hbytes, hreceived⟩ := h.transportRecv 1
  obtain ⟨hlength, hread⟩ := hreceived.getRemainingLength
  unfold FreeMqtt.mqttGetIncomingPacketTypeAndLength
  dsimp only
  rw [hresult, hbytes, hlength]
  split
  · split
    · exact ⟨rfl, rfl, hread⟩
    · exact ⟨rfl, rfl, hreceived⟩
  split
  · exact ⟨rfl, rfl, hreceived⟩
  · exact ⟨rfl, rfl, hreceived⟩

theorem Shifted.receiveConnackLoop (h : Shifted d rx s s') (c : Config)
    (timeoutMs entryTimeMs : UInt32) (fuel loopCount : Nat) (packet : PacketInfo) :
    let received := FreeMqtt.receiveConnackLoop c timeoutMs entryTimeMs fuel loopCount packet s
    let received' :=
      FreeMqtt.receiveConnackLoop c timeoutMs (entryTimeMs + d) fuel loopCount packet s'
    received'.1 = received.1 ∧ received'.2.1 = received.2.1 ∧
      Shifted d rx received.2.2 received'.2.2 := by
  induction fuel generalizing loopCount packet s s' with
  | zero => exact ⟨rfl, rfl, h⟩
  | succ fuel ih =>
    obtain ⟨hstatus, hpacket, hreceived⟩ := h.mqttGetIncomingPacketTypeAndLength packet
    unfold FreeMqtt.receiveConnackLoop
    dsimp only
    rw [hstatus, hpacket]
    by_cases htimed : timeoutMs > 0
    · obtain ⟨htime, hnow⟩ := hreceived.getTime
      simp only [if_pos htimed]
      rw [htime, calculateElapsedTime_add]
      split
      · exact ih hnow _ _
      · exact ⟨rfl, rfl, hnow⟩
    · simp only [if_neg htimed]
      split
      · exact ih hreceived _ _
      · exact ⟨rfl, rfl, hreceived⟩

theorem Shifted.receiveConnack (h : Shifted d rx s s') (c : Config) (timeoutMs : UInt32)
    (cleanSession : Bool) :
    let connack := FreeMqtt.receiveConnack c s timeoutMs cleanSession
    let connack' := FreeMqtt.receiveConnack c s' timeoutMs cleanSession
    connack'.1 = connack.1 ∧ connack'.2.1 = connack.2.1 ∧
      Shifted d rx connack.2.2 connack'.2.2 := by
  obtain ⟨hentry, hentered⟩ := h.getTime
  have hrecvs : (FreeMqtt.getTime s').2.recvs = (FreeMqtt.getTime s).2.recvs :=
    hentered.proj (fun s => s.recvs) fun _ _ _ => rfl
  obtain ⟨hstatus, hpacket, hreceived⟩ := hentered.receiveConnackLoop c timeoutMs
    (FreeMqtt.getTime s).1 ((FreeMqtt.getTime s).2.recvs.length + 1) 0 ⟨0, none, 0, 0⟩
  unfold FreeMqtt.receiveConnack
  dsimp only
  rw [hentry, hrecvs, hstatus, hpacket]
  generalize FreeMqtt.receiveConnackLoop c timeoutMs (FreeMqtt.getTime s).1
    ((FreeMqtt.getTime s).2.recvs.length + 1) 0 ⟨0, none, 0, 0⟩ (FreeMqtt.getTime s).2 = received at *
  generalize FreeMqtt.receiveConnackLoop c timeoutMs ((FreeMqtt.getTime s).1 + d)
    ((FreeMqtt.getTime s).2.recvs.length + 1) 0 ⟨0, none, 0, 0⟩ (FreeMqtt.getTime s').2 = received' at *
  obtain ⟨htime, hnow⟩ := hreceived.getTime
  split
  · exact ⟨rfl, rfl, hreceived⟩
  rw [htime, calculateElapsedTime_add]
  split
  · exact ⟨rfl, rfl, hnow⟩
  generalize (if calculateElapsedTime (FreeMqtt.getTime received.2.2).1 (FreeMqtt.getTime s).1 <
    timeoutMs then timeoutMs - calculateElapsedTime (FreeMqtt.getTime received.2.2).1
      (FreeMqtt.getTime s).1 else 0) = remainingTimeMs
  obtain ⟨hread, hpacketRead⟩ := hnow.receivePacket c received.2.1 remainingTimeMs
  rw [hread, hpacketRead.networkBuffer]
  split
  · exact ⟨rfl, rfl, hpacketRead⟩
  split
  · exact ⟨rfl, rfl, hpacketRead⟩
  split
  · exact ⟨rfl, rfl, hpacketRead⟩
  · exact ⟨rfl, rfl, hpacketRead⟩

/-! ## Sessions -/

theorem Shifted.resendPubrels (h : Shifted d rx s s') (c : Config) (fuel : Nat) (packetId : UInt16)
    (cursor : Nat) :
    SameResult d rx (FreeMqtt.resendPubrels c fuel packetId cursor s)
      (FreeMqtt.resendPubrels c fuel packetId cursor s') := by
  induction fuel generalizing packetId cursor s s' with
  | zero => exact ⟨rfl, h⟩
  | succ fuel ih =>
    obtain ⟨hstatus, hsent⟩ := h.sendPublishAcks c packetId .pubRelSend
    unfold FreeMqtt.resendPubrels
    dsimp only
    rw [hstatus, hsent.records]
    split
    · exact ⟨rfl, h⟩
    split
    · exact ih hsent _ _
    · exact ⟨hstatus, hsent⟩

theorem Shifted.callRetrieve (h : Shifted d rx s s') (packetId : UInt16) :
    SameResult d rx (FreeMqtt.callRetrieve s packetId) (FreeMqtt.callRetrieve s' packetId) := by
  have hresults : s'.retrieveResults = s.retrieveResults :=
    h.proj (fun s => s.retrieveResults) fun _ _ _ => rfl
  have hstore : s'.store packetId = s.store packetId :=
    h.proj (fun s => s.store packetId) fun _ _ _ => rfl
  unfold FreeMqtt.callRetrieve
  rw [hresults, hstore]
  split
  · rename_i retrieveResults _
    exact ⟨rfl, h.update (fun s => { s with retrieveResults }) (fun _ _ _ => rfl) rfl⟩
  · exact ⟨rfl, h.update (fun s' => { s' with retrieveResults := s.retrieveResults.tail })
      (fun _ _ _ => rfl) rfl⟩

theorem Shifted.resendPublishes (h : Shifted d rx s s') (c : Config) (fuel cursor : Nat) :
    SameResult d rx (FreeMqtt.resendPublishes c fuel cursor s)
      (FreeMqtt.resendPublishes c fuel cursor s') := by
  induction fuel generalizing cursor s s' with
  | zero => exact ⟨rfl, h⟩
  | succ fuel ih =>
    obtain ⟨hpacket, hretrieved⟩ :=
      h.callRetrieve (mqttPublishToResend s.toPublishRecords cursor).1
    unfold FreeMqtt.resendPublishes
    dsimp only
    rw [h.records, hpacket]
    split
    · exact ⟨rfl, h⟩
    split
    · exact ⟨rfl, hretrieved⟩
    · rename_i packet _
      obtain ⟨⟨hresult, hsent⟩, -⟩ := hretrieved.sendPacket c
        (.resend (mqttPublishToResend s.toPublishRecords cursor).1) packet
      rw [hresult]
      split
      · exact ⟨rfl, hsent⟩
      · exact ih hsent _

theorem Shifted.handleUncleanSessionResumption (h : Shifted d rx s s') (c : Config) :
    SameResult d rx (FreeMqtt.handleUncleanSessionResumption c s)
      (FreeMqtt.handleUncleanSessionResumption c s') := by
  obtain ⟨hstatus, hsent⟩ := h.resendPubrels c (s.outgoingPublishRecords.length + 1)
    (mqttPubrelToResend s.toPublishRecords 0).1 (mqttPubrelToResend s.toPublishRecords 0).2.1
  have hretrieve := hsent.proj (fun s => s.retrieveFunction) fun _ _ _ => rfl
  unfold FreeMqtt.handleUncleanSessionResumption
  dsimp only at hretrieve ⊢
  rw [h.records, hstatus, hretrieve]
  split
  · exact hsent.resendPublishes c _ 0
  · exact ⟨hstatus, hsent⟩

theorem Shifted.clearPublishes (h : Shifted d rx s s') (fuel cursor : Nat) :
    Shifted d rx (FreeMqtt.clearPublishes fuel cursor s) (FreeMqtt.clearPublishes fuel cursor s') := by
  induction fuel generalizing cursor s s' with
  | zero => exact h
  | succ fuel ih =>
    unfold FreeMqtt.clearPublishes
    dsimp only
    rw [h.records]
    split
    · exact h
    · exact ih (h.callClear _) _

theorem Shifted.handleCleanSession (h : Shifted d rx s s') :
    Shifted d rx (FreeMqtt.handleCleanSession s) (FreeMqtt.handleCleanSession s') := by
  have hclear : s'.clearFunction = s.clearFunction := h.proj (fun s => s.clearFunction) fun _ _ _ => rfl
  have hempty : ∀ s : Sys, s.clearBuffer.clearFunction = s.clearFunction := fun _ => rfl
  unfold FreeMqtt.handleCleanSession
  dsimp only
  rw [hempty, hempty, hclear, h.clearBuffer.records]
  split
  · have hcleared := h.clearBuffer.clearPublishes (s.clearBuffer.outgoingPublishRecords.length + 1) 0
    rw [hcleared.records]
    exact hcleared.setRecords _
  · rw [h.clearBuffer.records]
    exact h.clearBuffer.setRecords _

/-! ## `MQTT_Connect` -/

/-- The time of a CONNECT stays the time of the last packet sent. -/
theorem TxShifted.of_eq (htx : TxShifted d s s') {after after' : Sys}
    (heq : after.lastPacketTxTime = s.lastPacketTxTime)
    (heq' : after'.lastPacketTxTime = s'.lastPacketTxTime) : TxShifted d after after' := by
  unfold TxShifted
  rw [heq, heq']
  exact htx

theorem lastPacketTxTime_receiveConnack (c : Config) (s : Sys) (timeoutMs : UInt32)
    (cleanSession : Bool) :
    (receiveConnack c s timeoutMs cleanSession).2.2.lastPacketTxTime = s.lastPacketTxTime := by
  obtain ⟨ticks, recvs, inbound, networkBuffer, index, connectStatus, -, heq⟩ :=
    reads_receiveConnack c s timeoutMs cleanSession
  rw [heq]

theorem lastPacketTxTime_handleCleanSession (s : Sys) :
    (handleCleanSession s).lastPacketTxTime = s.lastPacketTxTime := by
  obtain ⟨store, heq⟩ := handleCleanSession_eq s
  rw [heq]
  rfl

/-- A connection that is made, after a CONNECT whose time is set. -/
theorem Shifted.setConnected (h : Shifted d rx s s') (htx : TxShifted d s s')
    (keepAliveSeconds : UInt16) :
    Shifted d rx
      { s with
        connectStatus := .connected
        keepAliveIntervalSec := keepAliveSeconds
        waitingForPingResp := false
        pingReqSendTimeMs := 0 }
      { s' with
        connectStatus := .connected
        keepAliveIntervalSec := keepAliveSeconds
        waitingForPingResp := false
        pingReqSendTimeMs := 0 } := by
  obtain ⟨tx, r, ping, rfl, -, hr, -⟩ := h
  exact ⟨tx, r, 0, rfl, fun _ => htx, hr, nofun⟩

theorem Shifted.establish (h : Shifted d rx s s') (c : Config) (info : ConnectInfo)
    (will : Option PublishInfo) {remainingLength : Nat} (hlength : remainingLength ≤ maxRemainingLength)
    (timeoutMs : UInt32) :
    let established := FreeMqtt.establish c s info will remainingLength timeoutMs
    let established' := FreeMqtt.establish c s' info will remainingLength timeoutMs
    established'.1 = established.1 ∧ established'.2.1 = established.2.1 ∧
      Shifted d rx established.2.2 established'.2.2 := by
  obtain ⟨⟨hstatus, hsent⟩, htx⟩ := h.sendConnectWithoutCopy c info will hlength
  unfold FreeMqtt.establish
  dsimp only at hstatus hsent htx ⊢
  generalize FreeMqtt.sendConnectWithoutCopy c s info will remainingLength = sent at *
  generalize FreeMqtt.sendConnectWithoutCopy c s' info will remainingLength = sent' at *
  rw [hstatus]
  split
  · exact ⟨rfl, rfl, hsent⟩
  rename_i hok
  obtain ⟨hanswer, hpresent, hconnack⟩ := hsent.receiveConnack c timeoutMs info.cleanSession
  have hlast := (htx (not_not.1 hok)).of_eq
    (lastPacketTxTime_receiveConnack c sent.2 timeoutMs info.cleanSession)
    (lastPacketTxTime_receiveConnack c sent'.2 timeoutMs info.cleanSession)
  rw [hanswer, hpresent]
  split
  · exact ⟨hanswer, hpresent, hconnack⟩
  split
  · exact ⟨rfl, rfl, hconnack.handleCleanSession.setConnected
      (hlast.of_eq (lastPacketTxTime_handleCleanSession _) (lastPacketTxTime_handleCleanSession _)) _⟩
  · exact ⟨rfl, rfl, hconnack.setConnected hlast _⟩

/-- The end of a failed `MQTT_Connect`. -/
theorem Shifted.giveUp (h : Shifted d rx s s') :
    Shifted d rx
      { s with
        connectStatus :=
          if s.connectStatus = .connected then .disconnectPending else s.connectStatus }
      { s' with
        connectStatus :=
          if s'.connectStatus = .connected then .disconnectPending else s'.connectStatus } := by
  rw [h.connectStatus]
  exact h.setStatus _

theorem Shifted.mqttConnect (h : Shifted d rx s s') (c : Config) (pConnectInfo : Option ConnectInfo)
    (will : Option PublishInfo) (timeoutMs : UInt32) :
    let connected := FreeMqtt.mqttConnect c s pConnectInfo will timeoutMs
    let connected' := FreeMqtt.mqttConnect c s' pConnectInfo will timeoutMs
    connected'.1 = connected.1 ∧ connected'.2.1 = connected.2.1 ∧
      Shifted d rx connected.2.2 connected'.2.2 := by
  unfold FreeMqtt.mqttConnect
  cases pConnectInfo with
  | none => exact ⟨rfl, rfl, h.giveUp⟩
  | some info =>
    obtain ⟨hstatus, hpresent, hestablished⟩ :=
      h.establish c info will (connectPacketSize_le (some info) will) timeoutMs
    obtain ⟨hresumedStatus, hresumed⟩ := hestablished.handleUncleanSessionResumption c
    dsimp only at hstatus hpresent ⊢
    rw [hstatus, hpresent, h.connectStatus, hresumedStatus]
    split
    · exact ⟨rfl, rfl, h.setStatus _⟩
    split
    · exact ⟨rfl, rfl, h⟩
    split
    · exact ⟨rfl, rfl, hestablished.giveUp⟩
    split
    · split
      · exact ⟨rfl, rfl, hresumed⟩
      · exact ⟨rfl, rfl, hresumed.giveUp⟩
    · exact ⟨hstatus, hpresent, hestablished⟩

/-! ## Setting up -/

theorem Shifted.mqttInitStatefulQoS (h : Shifted d rx s s') (outgoing : Option (List PubAckInfo))
    (outgoingCount : Nat) (incoming : Option (List PubAckInfo)) (incomingCount : Nat) :
    SameResult d rx (FreeMqtt.mqttInitStatefulQoS s outgoing outgoingCount incoming incomingCount)
      (FreeMqtt.mqttInitStatefulQoS s' outgoing outgoingCount incoming incomingCount) := by
  unfold FreeMqtt.mqttInitStatefulQoS
  split
  · exact ⟨rfl, h⟩
  split
  · exact ⟨rfl, h⟩
  · exact ⟨rfl, h.update (fun s => { s with
      incomingPublishRecords := (incoming.getD []).take incomingCount
      outgoingPublishRecords := (outgoing.getD []).take outgoingCount }) (fun _ _ _ => rfl) rfl⟩

theorem Shifted.mqttInitRetransmits (h : Shifted d rx s s')
    (storeFunction retrieveFunction clearFunction : Bool) :
    SameResult d rx (FreeMqtt.mqttInitRetransmits s storeFunction retrieveFunction clearFunction)
      (FreeMqtt.mqttInitRetransmits s' storeFunction retrieveFunction clearFunction) := by
  unfold FreeMqtt.mqttInitRetransmits
  split
  · exact ⟨rfl, h⟩
  split
  · exact ⟨rfl, h⟩
  split
  · exact ⟨rfl, h⟩
  · exact ⟨rfl, h.update (fun s => { s with storeFunction, retrieveFunction, clearFunction })
      (fun _ _ _ => rfl) rfl⟩

/-- A successful `MQTT_Init` sets all stored times to zero. None of them will be compared, but that of
the last packet received. -/
theorem shifted_mqttInit (s : Sys) (d tx r ping : UInt32) (transport : Option TransportInterface)
    (getTimeFunction userCallback : Bool) (buffer : Option (List UInt8)) :
    let initialized := mqttInit s transport getTimeFunction userCallback buffer
    let initialized' :=
      mqttInit (s.shifted d tx r ping) transport getTimeFunction userCallback buffer
    initialized'.1 = initialized.1 ∧
      (initialized.1 = .success → Shifted d False initialized.2 initialized'.2) ∧
      (initialized.1 ≠ .success → initialized.2 = s ∧ initialized'.2 = s.shifted d tx r ping) := by
  unfold mqttInit
  split
  · split
    · exact ⟨rfl, nofun, fun _ => ⟨rfl, rfl⟩⟩
    split
    · exact ⟨rfl, nofun, fun _ => ⟨rfl, rfl⟩⟩
    split
    · exact ⟨rfl, nofun, fun _ => ⟨rfl, rfl⟩⟩
    split
    · exact ⟨rfl, nofun, fun _ => ⟨rfl, rfl⟩⟩
    · exact ⟨rfl, fun _ => ⟨0, 0, 0, rfl, fun hkeep => absurd rfl hkeep, False.elim, nofun⟩,
        fun hne => absurd rfl hne⟩
  · exact ⟨rfl, nofun, fun _ => ⟨rfl, rfl⟩⟩

end Connect

/-! ## What is seen of a run -/

/-- What a call returns. -/
inductive CallResult
  | status (status : Status)
  /-- the status of `MQTT_Connect`, and `*pSessionPresent` when it is written -/
  | connected (status : Status) (sessionPresent : Option Bool)
  | packetId (packetId : UInt16)
  deriving DecidableEq, Repr

def SendCall.result (c : Config) (s : Sys) : SendCall → CallResult
  | .publish pPublishInfo packetId => .status (mqttPublish c s pPublishInfo packetId).1
  | .subscribe pSubscriptionList packetId => .status (mqttSubscribe c s pSubscriptionList packetId).1
  | .unsubscribe pSubscriptionList packetId =>
      .status (mqttUnsubscribe c s pSubscriptionList packetId).1
  | .ping => .status (mqttPing c s).1
  | .disconnect => .status (mqttDisconnect c s).1
  | .cancelCallback packetId => .status (mqttCancelCallback s packetId).1
  | .getPacketId => .packetId (mqttGetPacketId s).1

def ApiCall.result (c : Config) (s : Sys) : ApiCall → CallResult
  | .init pTransportInterface getTimeFunction userCallback pNetworkBuffer =>
      .status (mqttInit s pTransportInterface getTimeFunction userCallback pNetworkBuffer).1
  | .initStatefulQoS pOutgoingPublishRecords outgoingPublishCount pIncomingPublishRecords
      incomingPublishCount =>
      .status (mqttInitStatefulQoS s pOutgoingPublishRecords outgoingPublishCount
        pIncomingPublishRecords incomingPublishCount).1
  | .initRetransmits storeFunction retrieveFunction clearFunction =>
      .status (mqttInitRetransmits s storeFunction retrieveFunction clearFunction).1
  | .request call => call.result c s
  | .processLoop => .status (mqttProcessLoop c s).1
  | .receiveLoop => .status (mqttReceiveLoop c s).1
  | .checkConnectStatus => .status (mqttCheckConnectStatus s)

def Call.result (c : Config) (s : Sys) : Call → CallResult
  | .connect pConnectInfo pWillInfo timeoutMs =>
      let connected := mqttConnect c s pConnectInfo pWillInfo timeoutMs
      .connected connected.1 connected.2.1
  | .api call => call.result c s

/-- What is seen of a run: what each call returns, and the packets and callbacks up to its end. -/
def observed (c : Config) (s : Sys) : List Call → List (CallResult × List Event × List UInt8)
  | [] => []
  | call :: calls =>
      (call.result c s, (call.run c s).log, (call.run c s).wire) ::
        observed c (call.run c s) calls

/-! ## The time of the last packet received -/

/-- A call compares the time of the last packet received. -/
def Call.ComparesRx (c : Config) (s : Sys) : Call → Prop
  | .api .processLoop => IterationComparesRx c { s with controlPacketSent := false } true
  | _ => False

instance (c : Config) (s : Sys) : (call : Call) → Decidable (call.ComparesRx c s)
  | .api .processLoop =>
      inferInstanceAs (Decidable (IterationComparesRx c { s with controlPacketSent := false } true))
  | .connect .. | .api (.init ..) | .api (.initStatefulQoS ..) | .api (.initRetransmits ..)
  | .api (.request _) | .api .receiveLoop | .api .checkConnectStatus => .isFalse id

/-- Whether a packet was handled by a loop since `MQTT_Init`, after a call. -/
def Call.received (c : Config) (s : Sys) (received : Bool) : Call → Bool
  | .api (.init pTransportInterface getTimeFunction userCallback pNetworkBuffer) =>
      received && decide
        ((mqttInit s pTransportInterface getTimeFunction userCallback pNetworkBuffer).1 ≠ .success)
  | .api .processLoop => received || decide (HandlesPacket c { s with controlPacketSent := false } true)
  | .api .receiveLoop => received || decide (HandlesPacket c s false)
  | _ => received

/-- The time of the last packet received is compared only after a loop has handled a packet since
`MQTT_Init`. -/
def PacketBeforeCheck (c : Config) : (received : Bool) → Sys → List Call → Prop
  | _, _, [] => True
  | received, s, call :: calls =>
      (call.ComparesRx c s → received = true) ∧
        PacketBeforeCheck c (call.received c s received) (call.run c s) calls

instance (c : Config) : (received : Bool) → (s : Sys) → (calls : List Call) →
    Decidable (PacketBeforeCheck c received s calls)
  | _, _, [] => .isTrue trivial
  | received, s, call :: calls =>
      have := instDecidablePacketBeforeCheck c (call.received c s received) (call.run c s) calls
      inferInstanceAs (Decidable (_ ∧ _))

section Runs

variable {d : UInt32} {s s' : Sys} {received : Bool}

theorem Shifted.sendCall_result {rx : Prop} (h : Shifted d rx s s') (c : Config) (call : SendCall) :
    call.result c s' = call.result c s := by
  cases call with
  | publish info packetId => exact congrArg CallResult.status (h.mqttPublish c info packetId).1
  | subscribe list packetId => exact congrArg CallResult.status (h.mqttSubscribe c list packetId).1
  | unsubscribe list packetId =>
    exact congrArg CallResult.status (h.mqttUnsubscribe c list packetId).1
  | ping => exact congrArg CallResult.status (h.mqttPing c).1
  | disconnect => exact congrArg CallResult.status (h.mqttDisconnect c).1
  | cancelCallback packetId => exact congrArg CallResult.status (h.mqttCancelCallback packetId).1
  | getPacketId => exact congrArg CallResult.packetId h.mqttGetPacketId.1

/-- One call: the same result, and contexts that stay shifted. -/
theorem Shifted.call (h : Shifted d (received = true) s s') (c : Config) (call : Call)
    (hcompares : call.ComparesRx c s → received = true) :
    call.result c s' = call.result c s ∧
      Shifted d (call.received c s received = true) (call.run c s) (call.run c s') := by
  have hiteration : ∀ {s s' : Sys} (manageKeepAlive : Bool), Shifted d (received = true) s s' →
      (IterationComparesRx c s manageKeepAlive → received = true) →
      SameResult d ((received || decide (HandlesPacket c s manageKeepAlive)) = true)
        (FreeMqtt.receiveSingleIteration c s manageKeepAlive)
        (FreeMqtt.receiveSingleIteration c s' manageKeepAlive) := by
    intro s s' manageKeepAlive h hrx
    obtain ⟨hstatus, hreceived⟩ := h.receiveSingleIteration c manageKeepAlive hrx
    exact ⟨hstatus, hreceived.mono fun hor => by simpa using hor⟩
  cases call with
  | connect info will timeoutMs =>
    obtain ⟨hstatus, hpresent, hconnected⟩ := h.mqttConnect c info will timeoutMs
    exact ⟨congrArg₂ CallResult.connected hstatus hpresent, hconnected⟩
  | api call =>
    cases call with
    | init transport getTimeFunction userCallback buffer =>
      obtain ⟨tx, r, ping, rfl, -⟩ := id h
      obtain ⟨hstatus, hok, hfailed⟩ :=
        shifted_mqttInit s d tx r ping transport getTimeFunction userCallback buffer
      refine ⟨congrArg CallResult.status hstatus, ?_⟩
      by_cases hinit : (mqttInit s transport getTimeFunction userCallback buffer).1 = .success
      · exact (hok hinit).mono fun hstays => by simp [Call.received, hinit] at hstays
      · obtain ⟨heq, heq'⟩ := hfailed hinit
        show Shifted d _ (mqttInit s transport getTimeFunction userCallback buffer).2
          (mqttInit (s.shifted d tx r ping) transport getTimeFunction userCallback buffer).2
        rw [heq, heq']
        exact h.mono fun hstays => (Bool.and_eq_true_iff.1 hstays).1
    | initStatefulQoS outgoing outgoingCount incoming incomingCount =>
      obtain ⟨hstatus, hset⟩ :=
        h.mqttInitStatefulQoS outgoing outgoingCount incoming incomingCount
      exact ⟨congrArg CallResult.status hstatus, hset⟩
    | initRetransmits storeFunction retrieveFunction clearFunction =>
      obtain ⟨hstatus, hset⟩ :=
        h.mqttInitRetransmits storeFunction retrieveFunction clearFunction
      exact ⟨congrArg CallResult.status hstatus, hset⟩
    | request call => exact ⟨h.sendCall_result c call, h.sendCall c call⟩
    | processLoop =>
      obtain ⟨hstatus, hreceived⟩ := hiteration true
        (h.update (fun s => { s with controlPacketSent := false }) (fun _ _ _ => rfl) rfl) hcompares
      exact ⟨congrArg CallResult.status hstatus, hreceived⟩
    | receiveLoop =>
      obtain ⟨hstatus, hreceived⟩ := hiteration false h fun hcompared => nomatch hcompared.2.1
      exact ⟨congrArg CallResult.status hstatus, hreceived⟩
    | checkConnectStatus =>
      exact ⟨congrArg CallResult.status (h.proj mqttCheckConnectStatus fun _ _ _ => rfl), h⟩

theorem Shifted.observed (h : Shifted d (received = true) s s') (c : Config) (calls : List Call)
    (hbefore : PacketBeforeCheck c received s calls) :
    FreeMqtt.observed c s' calls = FreeMqtt.observed c s calls := by
  induction calls generalizing received s s' with
  | nil => rfl
  | cons call calls ih =>
    obtain ⟨hcompares, hrest⟩ := hbefore
    obtain ⟨hresult, hnext⟩ := h.call c call hcompares
    have hlog : (call.run c s').log = (call.run c s).log := hnext.proj (fun s => s.log) fun _ _ _ => rfl
    have hwire : (call.run c s').wire = (call.run c s).wire :=
      hnext.proj (fun s => s.wire) fun _ _ _ => rfl
    unfold FreeMqtt.observed
    rw [hresult, hlog, hwire, ih hnext hrest]

end Runs

/-- The context with a clock that is ahead by `d`. -/
def Sys.translated (d : UInt32) (s : Sys) : Sys := { s with clock := fun n => s.clock n + d }

/-- From a successful `MQTT_Init` on, a constant added to the clock changes nothing that is seen, if
`lastPacketRxTime` is compared only after a loop has set it. -/
theorem observed_translated (c : Config) (s : Sys) (d : UInt32) (transport : Option TransportInterface)
    (getTimeFunction userCallback : Bool) (buffer : Option (List UInt8)) (calls : List Call)
    (hinit : (mqttInit s transport getTimeFunction userCallback buffer).1 = .success)
    (hbefore : PacketBeforeCheck c false
      (mqttInit s transport getTimeFunction userCallback buffer).2 calls) :
    let init := Call.api (.init transport getTimeFunction userCallback buffer)
    observed c (s.translated d) (init :: calls) = observed c s (init :: calls) := by
  obtain ⟨hstatus, hok, -⟩ := shifted_mqttInit s d s.lastPacketTxTime s.lastPacketRxTime
    s.pingReqSendTimeMs transport getTimeFunction userCallback buffer
  have hshifted : Shifted d (false = true)
      (mqttInit s transport getTimeFunction userCallback buffer).2
      (mqttInit (s.translated d) transport getTimeFunction userCallback buffer).2 :=
    (hok hinit).mono Bool.false_ne_true
  have hlog := hshifted.proj (fun s => s.log) fun _ _ _ => rfl
  have hwire := hshifted.proj (fun s => s.wire) fun _ _ _ => rfl
  have hrest := hshifted.observed c calls hbefore
  have hresult := congrArg CallResult.status hstatus
  dsimp only
  unfold observed
  exact congrArg₂ List.cons (Prod.ext hresult (Prod.ext hlog hwire)) hrest

/-- A context before `MQTT_Init`, a clock at zero, and a transport that delivers the CONNACK and what
`recvs` says of `more`. -/
def unconnected (recvs : List Int) (more : List UInt8) : Sys :=
  { Context.zero with
    toWorld := { World.still ([0x20, 2, 0, 0] ++ more) with recvs := [1, 1, 2] ++ recvs } }

/-- `MQTT_Init` with a buffer of 16 bytes. -/
def initCall : Call := .api (.init (some ⟨true, true, false⟩) true true (some (List.replicate 16 0)))

/-- `MQTT_Connect`, and an `MQTT_ProcessLoop` that finds no data. The time of the last packet received
is still zero, so the check sends a PINGREQ when the clock is at 30 seconds, and none at zero. -/
theorem not_observed_translated_quiet :
    let calls := [initCall, .connect (some clientInfo) none 0, .api .processLoop]
    ((observed .default (unconnected [0] []) calls)[1]?).map Prod.fst =
        some (.connected .success (some false)) ∧
      observed .default ((unconnected [0] []).translated 30000) calls ≠
        observed .default (unconnected [0] []) calls := by
  decide +kernel

/-- `observed_translated` with a PINGRESP before the check. -/
theorem observed_translated_pingresp :
    let calls := [.connect (some clientInfo) none 0, .api .receiveLoop, .api .processLoop]
    observed .default ((unconnected [2, 0] [0xD0, 0]).translated 30000) (initCall :: calls) =
      observed .default (unconnected [2, 0] [0xD0, 0]) (initCall :: calls) :=
  observed_translated .default (unconnected [2, 0] [0xD0, 0]) 30000 (some ⟨true, true, false⟩) true true
    (some (List.replicate 16 0))
    [.connect (some clientInfo) none 0, .api .receiveLoop, .api .processLoop] rfl (by decide)

end FreeMqtt

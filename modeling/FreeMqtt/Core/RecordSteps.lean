import FreeMqtt.Core.Drain
import FreeMqtt.Core.Outgoing
import FreeMqtt.State.AnyRecords

/-!
# Records and packet ids over the operations

An operation that does not set the record arrays changes them by calls of the engine, or zeroes them
in a clean session, and leaves the next packet id alone unless it is `MQTT_GetPacketId`. A preorder
that these keep to (`RecordPreorder`) is kept by every operation, whatever is in the arrays.
-/

namespace FreeMqtt

/-- The packet id that a request reserves. -/
def SendCall.reservedId : SendCall → Option UInt16
  | .publish (some info) packetId => if info.qos ≠ .qos0 then some packetId else none
  | _ => none

def Operation.reservedId : Operation → Option UInt16
  | .request call => call.reservedId
  | _ => none

/-- A preorder that the engine keeps to, as long as it reserves only certain packet ids. -/
structure RecordPreorder (r : Sys → Sys → Prop) (reserved : UInt16 → Prop) : Prop where
  trans : ∀ {s s' s'' : Sys}, r s s' → r s' s'' → r s s''
  frame : ∀ {s s' : Sys}, s'.toPublishRecords = s.toPublishRecords →
    s'.nextPacketId = s.nextPacketId → r s s'
  call : ∀ (s : Sys) (call : EngineCall), (∀ id ∈ call.reservedId, reserved id) →
    r s (s.setRecords (call.run s.toPublishRecords).2)
  clean : ∀ (s : Sys) n m, r s (s.setRecords (.zeroed n m))

namespace RecordPreorder

variable {r : Sys → Sys → Prop} {reserved : UInt16 → Prop} (h : RecordPreorder r reserved)
  (c : Config)

include h

theorem refl (s : Sys) : r s s := h.frame rfl rfl

/-! ## Packets -/

theorem sent {s s' : Sys} {kind : PacketKind} {packet : List UInt8} {n : Nat} {stop : Stop}
    (hsent : Sent s s' kind packet n stop) : r s s' := by
  obtain ⟨-, -, ticks, sends, lastTx, rfl⟩ := hsent
  exact h.frame rfl rfl

theorem outcome {kind : PacketKind} {s s' : Sys} (houtcome : SendOutcome kind s s') : r s s' := by
  cases houtcome with
  | unsent heq => exact heq ▸ h.refl s
  | sent packet n stop _ hsent => exact h.sent hsent

theorem reads {s s' : Sys} (hreads : Reads s s') : r s s' := by
  obtain ⟨ticks, recvs, inbound, networkBuffer, index, connectStatus, -, rfl⟩ := hreads
  exact h.frame rfl rfl

theorem sendPublishAcks (s : Sys) (packetId : UInt16) (state : PublishState) :
    r s (FreeMqtt.sendPublishAcks c s packetId state).2 := by
  by_cases hsend : packetId = 0 ∨ s.connectStatus ≠ .connected
  · rw [sendPublishAcks_unsent c state hsend]
    exact h.refl s
  obtain ⟨hid, hconn⟩ := not_or.1 hsend
  cases hack : ackToSend state with
  | none =>
    rw [sendPublishAcks_none c s packetId hack]
    exact h.refl s
  | some packetType =>
    obtain ⟨s₁, n, stop, hsent, heq⟩ := sendPublishAcks_connected c hack hid (not_not.1 hconn)
    rw [heq]
    split
    · have hupdated := h.call s (.updateStateAck packetId packetType .send) nofun
      refine h.trans hupdated (h.frame rfl ?_)
      obtain ⟨-, -, ticks, sends, lastTx, rfl⟩ := hsent
      rfl
    · exact h.sent hsent

/-! ## Requests -/

theorem mqttPublish (s : Sys) (info : PublishInfo) (packetId : UInt16)
    (hid : info.qos ≠ .qos0 → reserved packetId) :
    r s (FreeMqtt.mqttPublish c s (some info) packetId).2 := by
  have hreserve := h.call s (.reserveState packetId info.qos) fun id hreserves => by
    obtain ⟨hqos, heq⟩ := Option.ite_none_right_eq_some.1 hreserves
    exact Option.some.inj heq ▸ hid hqos
  have houtcome := mqttPublish_cases c s info packetId
  generalize FreeMqtt.mqttPublish c s (some info) packetId = published at houtcome
  cases houtcome with
  | rejected => exact h.refl s
  | unreserved => exact hreserve
  | reserved hchecks =>
    refine h.trans hreserve ?_
    change r (s.setRecords (mqttReserveState s.toPublishRecords packetId info.qos).2) _
    generalize s.setRecords (mqttReserveState s.toPublishRecords packetId info.qos).2 = s₁
    have hsent : r s₁ (sendPublishWithoutCopy c s₁ info (mqttSerializePublishHeaderWithoutTopic info
        (mqttGetPublishPacketSize info).2.1).1 packetId).2 := by
      obtain ⟨store, storeResults, ⟨hsame, -⟩ | ⟨packet, n, stop, hsent, -⟩⟩ :=
        sendPublishWithoutCopy_spec c s₁ (length_publishVectors_lt hchecks.size packetId)
      · rw [hsame]
        exact h.frame rfl rfl
      · have hstored : r s₁ { s₁ with store, storeResults } := h.frame rfl rfl
        exact h.trans hstored (h.sent hsent)
    unfold publishReserved
    dsimp only
    split
    · exact h.trans hsent
        (h.call _ (.updateStatePublish packetId .send info.qos) nofun)
    · exact hsent

/-- The requests of the application other than `MQTT_GetPacketId`. -/
theorem request (s : Sys) {call : SendCall} (hcall : call ≠ .getPacketId)
    (hid : ∀ id ∈ call.reservedId, reserved id) : r s (call.run c s) := by
  cases call with
  | publish info packetId =>
    cases info with
    | none => exact h.refl s
    | some info => exact h.mqttPublish c s info packetId fun hqos => hid packetId (if_pos hqos)
  | subscribe list packetId => exact h.outcome (mqttSubscribe_outcome c s list packetId)
  | unsubscribe list packetId => exact h.outcome (mqttUnsubscribe_outcome c s list packetId)
  | ping =>
    obtain ⟨s₁, pingReqSendTimeMs, waitingForPingResp, houtcome, heq⟩ := mqttPing_outcome c s
    show r s (mqttPing c s).2
    rw [heq]
    exact h.trans (h.outcome houtcome) (h.frame rfl rfl)
  | disconnect =>
    show r s (mqttDisconnect c s).2
    rcases mqttDisconnect_outcome c s with ⟨-, heq⟩ | ⟨-, n, stop, hsent⟩
    · rw [heq]
      exact h.refl s
    · have hcleared : r s { s with connectStatus := .notConnected }.clearBuffer := h.frame rfl rfl
      exact h.trans hcleared (h.sent hsent)
  | cancelCallback packetId =>
    show r s (mqttCancelCallback s packetId).2
    unfold mqttCancelCallback
    split
    · exact h.refl s
    · exact h.call s (.removeStateRecord packetId) nofun
  | getPacketId => exact absurd rfl hcall

/-! ## Handlers -/

theorem publishAckFrame {s : Sys} {packet : PacketInfo} {frame : CallbackFrame}
    (hframe : FreeMqtt.publishAckFrame s packet = some frame) : r s frame.before := by
  unfold FreeMqtt.publishAckFrame at hframe
  dsimp only at hframe
  split at hframe
  · cases hframe
    have hupdated := h.call s (.updateStateAck ((mqttDeserializeAck packet true false).2.1.getD 0)
      (getAckFromPacketType packet.type) .receive) nofun
    refine h.trans hupdated ?_
    unfold clearAcked
    split
    · exact h.frame rfl rfl
    · exact h.refl _
  · cases hframe

/-- The context that a callback is invoked in. -/
theorem callbackFrame {s : Sys} {packet : PacketInfo} {manageKeepAlive : Bool}
    {frame : CallbackFrame} (hframe : FreeMqtt.callbackFrame s packet manageKeepAlive = some frame) :
    r s frame.before := by
  unfold FreeMqtt.callbackFrame at hframe
  split at hframe
  · unfold publishFrame at hframe
    dsimp only at hframe
    split at hframe
    · cases hframe
      exact h.call s (.updateStatePublish _ .receive _) nofun
    · cases hframe
  unfold ackFrame at hframe
  dsimp only at hframe
  split at hframe
  · exact h.publishAckFrame hframe
  · split_ifs at hframe
    · cases hframe
      exact h.refl s
    · cases hframe
      exact h.refl s

/-- A handler that does not invoke the callback. -/
theorem silentOutcome {s : Sys} {packet : PacketInfo} {result : Status × Sys}
    (hsilent : SilentOutcome c s packet result) : r s result.2 := by
  have hpublish : ∀ packetId qos, r s (s.setRecords
      (mqttUpdateStatePublish s.toPublishRecords packetId .receive qos).2.2) := fun packetId qos =>
    h.call s (.updateStatePublish packetId .receive qos) nofun
  cases hsilent with
  | refused _ => exact h.refl s
  | pingresp => exact h.frame rfl rfl
  | publish qos packetId hupdated _ =>
    have hstep := hpublish packetId qos
    rwa [hupdated] at hstep
  | duplicate qos packetId hupdated =>
    have hstep := hpublish packetId qos
    rw [hupdated] at hstep
    exact h.trans hstep (h.sendPublishAcks ..)
  | ack packetId hupdated _ =>
    have hstep : r s (s.setRecords (mqttUpdateStateAck s.toPublishRecords packetId
        (getAckFromPacketType packet.type) .receive).2.2) :=
      h.call s (.updateStateAck packetId (getAckFromPacketType packet.type) .receive) nofun
    rwa [hupdated] at hstep

/-! ## Connecting -/

theorem establish (s : Sys) (info : ConnectInfo) (will : Option PublishInfo) (timeoutMs : UInt32) :
    r s (FreeMqtt.establish c s info will (mqttGetConnectPacketSize (some info) will).2.1
      timeoutMs).2.2 := by
  have hsend := sendConnectWithoutCopy_spec c s info will (connectPacketSize_le (some info) will)
  unfold FreeMqtt.establish
  dsimp only at hsend ⊢
  generalize sendConnectWithoutCopy c s info will
    (mqttGetConnectPacketSize (some info) will).2.1 = connect at hsend
  have hsent : r s connect.2 := by
    rcases hsend with ⟨-, heq⟩ | ⟨packet, n, stop, hsent, -⟩
    · exact heq ▸ h.refl s
    · exact h.sent hsent
  split
  · exact hsent
  have hread := h.trans hsent (h.reads (reads_receiveConnack c connect.2 timeoutMs info.cleanSession))
  generalize receiveConnack c connect.2 timeoutMs info.cleanSession = connack at hread
  split
  · exact hread
  split
  · obtain ⟨store, heq⟩ := handleCleanSession_eq connack.2.2
    rw [heq]
    exact h.trans hread (h.trans (h.clean _ _ _) (h.frame rfl rfl))
  · exact h.trans hread (h.frame rfl rfl)

theorem resend (s : Sys) (packetId : UInt16) :
    r s (Operation.run c s (.resend packetId)) := by
  obtain ⟨-, retrieveResults, heq⟩ := callRetrieve_spec s packetId
  unfold Operation.run
  dsimp only
  rw [heq]
  split
  · exact h.frame rfl rfl
  · obtain ⟨n, stop, hsent, -⟩ := sendPacket_spec c { s with retrieveResults } (.resend packetId) _
    have hretrieved : r s { s with retrieveResults } := h.frame rfl rfl
    exact h.trans hretrieved (h.sent hsent)

/-! ## Operations -/

theorem operation (s : Sys) {operation : Operation} (hsets : ¬ operation.SetsRecords)
    (hid : operation ≠ .request .getPacketId) (hreserved : ∀ id ∈ operation.reservedId, reserved id) :
    r s (operation.run c s) := by
  cases operation with
  | request call => exact h.request c s (fun heq => hid (heq ▸ rfl)) hreserved
  | acknowledge packetId state => exact h.sendPublishAcks c s packetId state
  | deliver packet manageKeepAlive =>
    have hdispatched : r s (s.dispatching packet) := h.frame rfl rfl
    cases hframe : FreeMqtt.callbackFrame (s.dispatching packet) packet manageKeepAlive with
    | none =>
      rw [run_deliver_none c hframe]
      exact h.refl s
    | some frame =>
      rw [run_deliver c hframe]
      exact h.trans hdispatched (h.trans (h.callbackFrame hframe) (h.frame rfl rfl))
  | handle packet manageKeepAlive =>
    have hdispatched : r s (s.dispatching packet) := h.frame rfl rfl
    cases hframe : FreeMqtt.callbackFrame (s.dispatching packet) packet manageKeepAlive with
    | none =>
      rw [run_handle c hframe]
      exact h.trans hdispatched (h.silentOutcome c (handlePacket_silent c hframe))
    | some frame =>
      rw [run_handle_some c hframe]
      exact h.refl s
  | establish info will timeoutMs => exact h.establish c s info will timeoutMs
  | resend packetId => exact h.resend c s packetId
  | giveUp => exact h.frame rfl rfl
  | startProcessLoop => exact h.frame rfl rfl
  | read => exact h.reads (reads_readIntoBuffer c s)
  | readClock => exact h.frame rfl rfl
  | discard packet => exact h.reads (reads_discardStoredPacket c s packet)
  | remove totalLength => exact h.frame rfl rfl
  | setLastPacketRxTime => exact h.frame rfl rfl
  | setUp call =>
    cases call with
    | init _ _ _ _ => exact absurd trivial hsets
    | initStatefulQoS _ _ _ _ => exact absurd trivial hsets
    | initRetransmits storeFunction retrieveFunction clearFunction =>
      unfold Operation.run ApiCall.run mqttInitRetransmits
      dsimp only
      split_ifs <;> exact h.frame rfl rfl
    | _ => exact h.refl s

end RecordPreorder

/-! ## Packet ids -/

/-- The live packet ids of the array that an operation gives to the context. -/
def Operation.restoredIds : Operation → List UInt16
  | .setUp (.initStatefulQoS (some records) count _ _) => liveIds (records.take count)
  | _ => []

def Operation.IsInit : Operation → Prop
  | .setUp call => call.IsInit
  | _ => False

def Call.IsInit : Call → Prop
  | .api call => call.IsInit
  | _ => False

/-- The next packet id stays, and the live packet ids are new only where they are reserved. -/
def AddsOnly (reserved : UInt16 → Prop) (s s' : Sys) : Prop :=
  s'.nextPacketId = s.nextPacketId ∧
    ∀ id ∈ liveIds s'.outgoingPublishRecords, reserved id ∨ id ∈ liveIds s.outgoingPublishRecords

theorem recordPreorder_addsOnly (reserved : UInt16 → Prop) :
    RecordPreorder (AddsOnly reserved) reserved where
  trans := by
    intro s s' s'' h h'
    refine ⟨h'.1.trans h.1, fun id hid => ?_⟩
    rcases h'.2 id hid with hreserved | hid
    · exact .inl hreserved
    · exact h.2 id hid
  frame := by
    intro s s' hrecords hnext
    refine ⟨hnext, fun id hid => .inr ?_⟩
    rwa [congrArg PublishRecords.outgoingPublishRecords hrecords] at hid
  call := fun s call hreserved =>
    ⟨rfl, fun id hid => (mem_liveIds_run hid).imp_left (hreserved id)⟩
  clean := by
    intro s n m
    refine ⟨rfl, fun id hid => absurd hid ?_⟩
    show id ∉ (live (holes n)).map PubAckInfo.packetId
    rw [live_holes]
    exact List.not_mem_nil

theorem not_isInit_of_not_setsRecords {operation : Operation} (h : ¬ operation.SetsRecords) :
    ¬ operation.IsInit := by
  cases operation with
  | setUp call =>
    cases call with
    | init _ _ _ _ => exact absurd trivial h
    | _ => exact id
  | _ => exact id

theorem Call.not_isInit {c : Config} {s : Sys} {call : Call} (h : ¬ call.IsInit) :
    ∀ operation ∈ call.operations c s, ¬ operation.IsInit := by
  by_cases hsets : call.SetsRecords
  swap
  · intro operation hmem
    exact not_isInit_of_not_setsRecords (call.not_setsRecords hsets operation hmem)
  cases call with
  | connect _ _ _ => exact absurd hsets id
  | api call =>
    cases call with
    | init _ _ _ _ => exact absurd trivial h
    | initStatefulQoS _ _ _ _ =>
      intro operation hmem
      rw [List.mem_singleton.1 hmem]
      exact id
    | _ => exact absurd hsets id

/-- Only `MQTT_GetPacketId` counts. -/
theorem Operation.nextPacketId_run (c : Config) (s : Sys) {operation : Operation}
    (hinit : ¬ operation.IsInit) (hid : operation ≠ .request .getPacketId) :
    (operation.run c s).nextPacketId = s.nextPacketId := by
  by_cases hsets : operation.SetsRecords
  swap
  · have hadds := (recordPreorder_addsOnly (· ∈ operation.reservedId)).operation c s hsets hid
      fun _ => id
    exact hadds.1
  cases operation with
  | setUp call =>
    cases call with
    | init _ _ _ _ => exact absurd trivial hinit
    | initStatefulQoS _ _ _ _ =>
      unfold Operation.run ApiCall.run mqttInitStatefulQoS
      dsimp only
      split_ifs <;> rfl
    | _ => exact absurd hsets id
  | _ => exact absurd hsets id

/-- A live packet id is new only where it is reserved or comes with an array. -/
theorem Operation.mem_liveIds_run (c : Config) (s : Sys) {operation : Operation}
    (hinit : ¬ operation.IsInit) {id : UInt16}
    (h : id ∈ liveIds (operation.run c s).outgoingPublishRecords) :
    id ∈ operation.reservedId ∨ id ∈ operation.restoredIds ∨ id ∈ liveIds s.outgoingPublishRecords := by
  by_cases hid : operation = .request .getPacketId
  · subst hid
    exact .inr (.inr h)
  by_cases hsets : operation.SetsRecords
  swap
  · have hadds := (recordPreorder_addsOnly (· ∈ operation.reservedId)).operation c s hsets hid
      fun _ hmem => hmem
    exact (hadds.2 id h).imp_right .inr
  cases operation with
  | setUp call =>
    cases call with
    | init _ _ _ _ => exact absurd trivial hinit
    | initStatefulQoS outgoing outgoingCount incoming incomingCount =>
      unfold Operation.run ApiCall.run mqttInitStatefulQoS at h
      dsimp only at h
      split_ifs at h
      · exact .inr (.inr h)
      · exact .inr (.inr h)
      · cases outgoing with
        | none => exact absurd h (by simp [liveIds, live])
        | some records => exact .inr (.inl h)
    | _ => exact absurd hsets False.elim
  | _ => exact absurd hsets False.elim

end FreeMqtt

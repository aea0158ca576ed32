import FreeMqtt.Core.Answers
import FreeMqtt.Core.ClientPackets
import FreeMqtt.Core.Integrity

/-!
# What an operation puts on the wire

For every operation of a run: it hands at most one packet to the transport, and this packet says what
the operation asks for (`Asks`), or is a stored publish that is sent again (`Operation.transmits`).
The stored publishes are duplicates of those that the application asked for
(`Operation.storesRequested`).
-/

namespace FreeMqtt

/-! ## Transmissions -/

/-- A packet that was handed to the transport, which accepted its first bytes. -/
structure Transmission where
  packet : List UInt8
  accepted : Nat
  deriving DecidableEq, Repr

/-- What went over the connection. -/
def Transmission.bytes (t : Transmission) : List UInt8 := t.packet.take t.accepted

abbrev Transmission.Complete (t : Transmission) : Prop := t.accepted = t.packet.length

def Event.transmission : Event → Option Transmission
  | .sent _ packet n _ => some ⟨packet, n⟩
  | _ => none

/-- The bytes and the packets between two states. -/
def Transmitted (s s' : Sys) (sent : List Transmission) : Prop :=
  ∃ events, Emitted s s' events ∧ events.filterMap Event.transmission = sent

theorem Transmitted.refl (s : Sys) : Transmitted s s [] := ⟨[], .refl s, rfl⟩

theorem Transmitted.of_eq {s s' : Sys} (hlog : s'.log = s.log) (hwire : s'.wire = s.wire) :
    Transmitted s s' [] :=
  ⟨[], ⟨by rw [hlog, List.append_nil], by rw [hwire]; simp⟩, rfl⟩

theorem Transmitted.trans {s s' s'' : Sys} {sent more : List Transmission}
    (h : Transmitted s s' sent) (h' : Transmitted s' s'' more) :
    Transmitted s s'' (sent ++ more) := by
  obtain ⟨events, hemitted, rfl⟩ := h
  obtain ⟨events', hemitted', rfl⟩ := h'
  exact ⟨events ++ events', hemitted.trans hemitted', List.filterMap_append⟩

theorem Sent.transmitted {s s' : Sys} {kind : PacketKind} {packet : List UInt8} {n : Nat}
    {stop : Stop} (h : Sent s s' kind packet n stop) : Transmitted s s' [⟨packet, n⟩] :=
  ⟨_, h.emitted, rfl⟩

/-- The wire got the accepted bytes, packet after packet. -/
theorem Transmitted.wire {s s' : Sys} {sent : List Transmission} (h : Transmitted s s' sent) :
    s'.wire = s.wire ++ sent.flatMap Transmission.bytes := by
  obtain ⟨events, hemitted, rfl⟩ := h
  rw [hemitted.wire, ← List.flatMap_def]
  congr 1
  clear hemitted
  induction events with
  | nil => rfl
  | cons e events ih =>
    rw [List.flatMap_cons, ih]
    cases e with
    | sent => rfl
    | dispatched => rfl
    | callback => rfl

/-! ## What operations ask for -/

/-- What an operation asks to be sent. -/
inductive Asks : Operation → ClientPacket → Prop
  | connect (info : ConnectInfo) (will : Option PublishInfo) (timeoutMs : UInt32) :
      Asks (.establish info will timeoutMs) (.connect (info.packet will))
  | publish (info : PublishInfo) (packetId : UInt16) :
      Asks (.request (.publish (some info) packetId)) (info.clientPacket packetId)
  | subscribe (list : List SubscribeInfo) (packetId : UInt16) :
      Asks (.request (.subscribe (some list) packetId))
        (.topics .subscribe packetId (list.map (·.topic .subscribe)))
  | unsubscribe (list : List SubscribeInfo) (packetId : UInt16) :
      Asks (.request (.unsubscribe (some list) packetId))
        (.topics .unsubscribe packetId (list.map (·.topic .unsubscribe)))
  | ping : Asks (.request .ping) .pingreq
  | disconnect : Asks (.request .disconnect) .disconnect
  | acknowledge {packetId : UInt16} {state : PublishState} {packetType : PubAckType}
      (h : ackToSend state = some packetType) :
      Asks (.acknowledge packetId state) (.ack packetType packetId)
  /-- a PUBLISH that was received before -/
  | duplicate {packet : PacketInfo} {packetType : PubAckType} {packetId : UInt16}
      (manageKeepAlive : Bool) (h : packet.answer = some (packetType, packetId)) :
      Asks (.handle packet manageKeepAlive) (.ack packetType packetId)

/-- The bytes that an operation hands to the transport. -/
inductive Writes (s : Sys) : Operation → List UInt8 → Prop
  | asked {operation : Operation} {packet : ClientPacket} {bytes : List UInt8}
      (hasks : Asks operation packet) (hwhole : WholePacket bytes)
      (hread : readClientPacket bytes = some packet) : Writes s operation bytes
  | stored {packetId : UInt16} {copy : List UInt8} (h : s.store packetId = some copy) :
      Writes s (.resend packetId) copy

/-- What the library relies on when it writes the packet of an operation: the message of a will is
there, and the sizes of the topics do not add up to more than a `size_t`. -/
def Operation.Sound (c : Config) : Operation → Prop
  | .establish _ will _ => ∀ w ∈ will, w.payloadLength ≠ 0 → w.pPayload ≠ none
  | .request (.subscribe (some list) _) => topicRemainingLength list .subscribe < 2 ^ c.sizeBits
  | .request (.unsubscribe (some list) _) => topicRemainingLength list .unsubscribe < 2 ^ c.sizeBits
  | _ => True

instance (c : Config) : DecidablePred (Operation.Sound c)
  | .establish _ will _ =>
      inferInstanceAs (Decidable (∀ w ∈ will, w.payloadLength ≠ 0 → w.pPayload ≠ none))
  | .request (.subscribe (some list) _) =>
      inferInstanceAs (Decidable (topicRemainingLength list .subscribe < 2 ^ c.sizeBits))
  | .request (.unsubscribe (some list) _) =>
      inferInstanceAs (Decidable (topicRemainingLength list .unsubscribe < 2 ^ c.sizeBits))
  | .request (.subscribe none _) | .request (.unsubscribe none _) | .request (.publish _ _)
  | .request .ping | .request .disconnect | .request (.cancelCallback _) | .request .getPacketId
  | .acknowledge _ _ | .deliver _ _ | .handle _ _ | .resend _ | .giveUp | .startProcessLoop | .read
  | .readClock | .discard _ | .remove _ | .setLastPacketRxTime | .setUp _ => isTrue trivial

/-- An operation sends at most one packet, and one of its own. -/
def Transmits (operation : Operation) (s s' : Sys) : Prop :=
  ∃ sent, Transmitted s s' sent ∧ sent.length ≤ 1 ∧
    ∀ t ∈ sent, t.accepted ≤ t.packet.length ∧ Writes s operation t.packet

theorem Transmits.nothing {operation : Operation} {s s' : Sys} (h : Transmitted s s' []) :
    Transmits operation s s' :=
  ⟨[], h, Nat.zero_le 1, fun _ ht => absurd ht List.not_mem_nil⟩

theorem Transmits.of_eq {operation : Operation} {s s' : Sys} (hlog : s'.log = s.log)
    (hwire : s'.wire = s.wire) : Transmits operation s s' :=
  .nothing (.of_eq hlog hwire)

theorem Sent.transmits {operation : Operation} {s s₁ s₂ s' : Sys} {kind : PacketKind}
    {packet : List UInt8} {n : Nat} {stop : Stop} (h : Sent s₁ s₂ kind packet n stop)
    (hbefore : Transmitted s s₁ []) (hafter : Transmitted s₂ s' [])
    (hwrites : Writes s operation packet) : Transmits operation s s' := by
  refine ⟨[⟨packet, n⟩], (hbefore.trans h.transmitted).trans hafter, Nat.le_refl 1, fun t ht => ?_⟩
  rw [List.mem_singleton.1 ht]
  exact ⟨h.1, hwrites⟩

/-! ## Publishes -/

/-- The copy that a publish leaves in the store. -/
theorem storeCopy_publishCopy (s : Sys) (info : PublishInfo) (remainingLength : Nat)
    (packetId : UInt16) :
    let header := (mqttSerializePublishHeaderWithoutTopic info remainingLength).1
    ∃ store storeResults, (storeCopy s info header packetId).2.2 = { s with store, storeResults } ∧
      (store = s.store ∨ info.qos ≠ .qos0 ∧ store = fun id =>
        if id = packetId then some (publishCopy info remainingLength packetId) else s.store id) := by
  dsimp only
  rw [storeCopy_eq s info remainingLength packetId]
  split
  swap
  · exact ⟨s.store, s.storeResults, rfl, .inl rfl⟩
  rename_i hstores
  dsimp only
  unfold callStore
  split
  · exact ⟨s.store, _, rfl, .inl rfl⟩
  · exact ⟨_, _, rfl, .inr ⟨hstores.1, rfl⟩⟩

/-- From the reserved record on: the copy is stored, and the packet is handed to the transport. -/
theorem publishReserved_cases (c : Config) (s : Sys) {info : PublishInfo}
    (hsize : (mqttGetPublishPacketSize info).1 = .success) (packetId : UInt16) :
    let remainingLength := (mqttGetPublishPacketSize info).2.1
    let s' := (publishReserved c s info packetId).2
    ∃ store storeResults, (store = s.store ∨ info.qos ≠ .qos0 ∧ store = fun id =>
        if id = packetId then some (publishCopy info remainingLength packetId) else s.store id) ∧
      (s' = { s with store, storeResults } ∨ ∃ s₁ n stop t,
        Sent { s with store, storeResults } s₁ (.publish packetId info.qos)
          (publishMessage info remainingLength packetId).flatten n stop ∧ s' = s₁.setRecords t) := by
  dsimp only
  obtain ⟨store, storeResults, hstored, hstore⟩ :=
    storeCopy_publishCopy s info (mqttGetPublishPacketSize info).2.1 packetId
  refine ⟨store, storeResults, hstore, ?_⟩
  unfold publishReserved
  rw [sendPublishWithoutCopy_vectors]
  dsimp only
  rw [hstored]
  split
  · rename_i hfailed
    rw [if_neg fun h => hfailed h.1]
    exact .inl rfl
  obtain ⟨n, stop, hsent, -⟩ := sendVectors_spec c { s with store, storeResults } hsize packetId
  generalize sendVectors c { s with store, storeResults } info packetId _ = sent at hsent ⊢
  refine .inr ⟨sent.2, n, stop, ?_⟩
  split
  · exact ⟨_, hsent, rfl⟩
  · exact ⟨sent.2.toPublishRecords, hsent, rfl⟩

theorem publish_transmits (c : Config) (s : Sys) (info : PublishInfo) (packetId : UInt16) :
    Transmits (.request (.publish (some info) packetId)) s (mqttPublish c s (some info) packetId).2 := by
  have houtcome := mqttPublish_cases c s info packetId
  generalize mqttPublish c s (some info) packetId = published at houtcome
  cases houtcome with
  | rejected _ _ => exact .of_eq rfl rfl
  | unreserved _ _ => exact .of_eq rfl rfl
  | reserved hchecks _ =>
    obtain ⟨hwhole, hread⟩ := readClientPacket_publish hchecks.size fun hqos =>
      Publishable.packetId_ne ⟨hchecks.valid, hchecks.size, hchecks.connected, hqos⟩
    obtain ⟨store, storeResults, -, heq | ⟨s₁, n, stop, t, hsent, heq⟩⟩ := publishReserved_cases c
      (s.setRecords (mqttReserveState s.toPublishRecords packetId info.qos).2) hchecks.size packetId
    · rw [heq]
      exact .of_eq rfl rfl
    · rw [heq]
      exact hsent.transmits (.of_eq rfl rfl) (.of_eq rfl rfl)
        (.asked (.publish info packetId) hwhole hread)

/-! ## Acknowledgements -/

/-- The one packet of an acknowledgement that is sent from a state like `s`. -/
theorem sendPublishAcks_transmits (c : Config) {operation : Operation} {s s₁ : Sys}
    (hbefore : Transmitted s s₁ []) (packetId : UInt16) (state : PublishState)
    (hasks : ∀ packetType, ackToSend state = some packetType →
      Asks operation (.ack packetType packetId)) :
    Transmits operation s (sendPublishAcks c s₁ packetId state).2 := by
  by_cases hsend : packetId = 0 ∨ s₁.connectStatus ≠ .connected
  · rw [sendPublishAcks_unsent c state hsend]
    exact .nothing hbefore
  obtain ⟨hid, hconn⟩ := not_or.1 hsend
  cases hack : ackToSend state with
  | none =>
    rw [sendPublishAcks_none c s₁ packetId hack]
    exact .nothing hbefore
  | some packetType =>
    obtain ⟨s₂, n, stop, hsent, heq⟩ := sendPublishAcks_connected c hack hid (not_not.1 hconn)
    obtain ⟨hwhole, hread⟩ := readClientPacket_ack packetType hid
    have hwrites : Writes s operation (ackPacket packetType packetId) :=
      .asked (hasks packetType hack) hwhole hread
    rw [heq]
    split
    · exact hsent.transmits hbefore (.of_eq rfl rfl) hwrites
    · exact hsent.transmits hbefore (.refl s₂) hwrites

theorem transmitted_dispatching (s : Sys) (packet : PacketInfo) :
    Transmitted s (s.dispatching packet) [] :=
  ⟨[.dispatched packet.type (readBytes packet.pRemainingData packet.remainingLength)],
    ⟨rfl, (List.append_nil s.wire).symm⟩, rfl⟩

theorem deliver_transmits (c : Config) (s : Sys) (packet : PacketInfo) (manageKeepAlive : Bool) :
    let operation := Operation.deliver packet manageKeepAlive
    Transmits operation s (operation.run c s) := by
  dsimp only
  cases hframe : callbackFrame (s.dispatching packet) packet manageKeepAlive with
  | none =>
    rw [run_deliver_none c hframe]
    exact .of_eq rfl rfl
  | some frame =>
    obtain ⟨t, store, hbefore⟩ := callbackFrame_before hframe
    rw [run_deliver c hframe, hbefore]
    exact .nothing ((transmitted_dispatching s packet).trans
      ⟨[.callback packet frame.info], ⟨rfl, (List.append_nil s.wire).symm⟩, rfl⟩)

theorem handle_transmits (c : Config) (s : Sys) (packet : PacketInfo) (manageKeepAlive : Bool) :
    let operation := Operation.handle packet manageKeepAlive
    Transmits operation s (operation.run c s) := by
  dsimp only
  cases hframe : callbackFrame (s.dispatching packet) packet manageKeepAlive with
  | some frame =>
    rw [run_handle_some c hframe]
    exact .of_eq rfl rfl
  | none =>
    have hdispatched := transmitted_dispatching s packet
    rw [run_handle c hframe]
    rcases handlePacket_unheard c hframe with ⟨t, waiting, heq⟩ | ⟨t, packetId, state, heq, hanswer⟩
    · rw [heq]
      exact .nothing (hdispatched.trans (.of_eq rfl rfl))
    · have hrecords : Transmitted s ((s.dispatching packet).setRecords t) [] :=
        hdispatched.trans (.of_eq rfl rfl)
      rw [heq]
      exact sendPublishAcks_transmits c hrecords packetId state fun packetType hack =>
        .duplicate manageKeepAlive (hanswer packetType hack)

/-! ## Other operations -/

/-- A SUBSCRIBE or an UNSUBSCRIBE with topics that were checked. -/
theorem topics_transmit {c : Config} {s s' : Sys} {operation : Operation} {kind : PacketKind}
    {list : Option (List SubscribeInfo)} {packetId : UInt16} (type : SubscriptionType)
    (hvalid : validateSubscribeUnsubscribeParams s list packetId = .success)
    (hsize : (getTopicPacketSize c.sizeBits list type).1 = .success)
    (hsum : ∀ l ∈ list, topicRemainingLength l type < 2 ^ c.sizeBits)
    (hasks : ∀ l ∈ list, Asks operation (.topics type packetId (l.map (·.topic type))))
    {n : Nat} {stop : Stop} (hsent : Sent s s' kind
      (serializeTopicHeader (getTopicPacketSize c.sizeBits list type).2.1 packetId type ++
        ((list.getD []).flatMap (topicVectors · type)).flatten) n stop) :
    Transmits operation s s' := by
  obtain ⟨l, rfl, hid⟩ : ∃ l, list = some l ∧ packetId ≠ 0 := by
    unfold validateSubscribeUnsubscribeParams at hvalid
    cases list with
    | none => cases hvalid
    | some l =>
      dsimp only at hvalid
      split_ifs at hvalid with hnil hid
      exact ⟨l, rfl, hid⟩
  obtain ⟨hwhole, hread⟩ := readClientPacket_topics (hsum l rfl) hsize hid
  exact hsent.transmits (.refl s) (.refl s') (.asked (hasks l rfl) hwhole hread)

theorem request_transmits (c : Config) (s : Sys) (call : SendCall)
    (hsound : (Operation.request call).Sound c) :
    let operation := Operation.request call
    Transmits operation s (operation.run c s) := by
  dsimp only
  cases call with
  | publish info packetId =>
    cases info with
    | none => exact .of_eq rfl rfl
    | some info => exact publish_transmits c s info packetId
  | subscribe list packetId =>
    show Transmits _ s (mqttSubscribe c s list packetId).2
    unfold mqttSubscribe
    dsimp only
    split_ifs with hvalid hsize hconn
    · exact .of_eq rfl rfl
    · exact .of_eq rfl rfl
    · exact .of_eq rfl rfl
    · obtain ⟨n, stop, hsent⟩ := sendTopicPacket_spec (topicVectors_subscribe c) s .subscribe
        (length_topicHeader_le packetId (getSubscribePacketSize_le (not_not.1 hsize)))
        (list.getD [])
      refine topics_transmit .subscribe (not_not.1 hvalid) (not_not.1 hsize) ?_ ?_ hsent
      · rintro l rfl
        exact hsound
      · rintro l rfl
        exact .subscribe l packetId
  | unsubscribe list packetId =>
    show Transmits _ s (mqttUnsubscribe c s list packetId).2
    unfold mqttUnsubscribe
    dsimp only
    split_ifs with hvalid hsize hconn
    · exact .of_eq rfl rfl
    · exact .of_eq rfl rfl
    · exact .of_eq rfl rfl
    · obtain ⟨n, stop, hsent⟩ := sendTopicPacket_spec (topicVectors_unsubscribe c) s .unsubscribe
        (length_topicHeader_le packetId (getUnsubscribePacketSize_le (not_not.1 hsize)))
        (list.getD [])
      refine topics_transmit .unsubscribe (not_not.1 hvalid) (not_not.1 hsize) ?_ ?_ hsent
      · rintro l rfl
        exact hsound
      · rintro l rfl
        exact .unsubscribe l packetId
  | ping =>
    obtain ⟨hwhole, hread⟩ := readClientPacket_pingreq
    have hwrites : Writes s (.request .ping) mqttSerializePingreq := .asked .ping hwhole hread
    show Transmits _ s (mqttPing c s).2
    unfold mqttPing
    split
    · exact .of_eq rfl rfl
    obtain ⟨n, stop, hsent, -⟩ := sendPacket_spec c s .pingreq mqttSerializePingreq
    dsimp only
    split
    · exact hsent.transmits (.refl s) (.refl _) hwrites
    · exact hsent.transmits (.refl s) (.of_eq rfl rfl) hwrites
  | disconnect =>
    obtain ⟨hwhole, hread⟩ := readClientPacket_disconnect
    show Transmits _ s (mqttDisconnect c s).2
    rcases mqttDisconnect_outcome c s with ⟨-, heq⟩ | ⟨-, n, stop, hsent⟩
    · rw [heq]
      exact .of_eq rfl rfl
    · exact hsent.transmits (.of_eq rfl rfl) (.refl _) (.asked .disconnect hwhole hread)
  | cancelCallback packetId =>
    show Transmits _ s (mqttCancelCallback s packetId).2
    unfold mqttCancelCallback
    split
    · exact .of_eq rfl rfl
    · exact .of_eq rfl rfl
  | getPacketId => exact .of_eq rfl rfl

theorem resend_transmits (c : Config) (s : Sys) (packetId : UInt16) :
    let operation := Operation.resend packetId
    Transmits operation s (operation.run c s) := by
  obtain ⟨hretrieved, retrieveResults, heq⟩ := callRetrieve_spec s packetId
  unfold Operation.run
  dsimp only
  rw [heq]
  split
  · exact .of_eq rfl rfl
  · rename_i packet hpacket
    have hstored : s.store packetId = some packet := by
      rw [hpacket] at hretrieved
      exact (List.mem_singleton.1 ((List.mem_cons.1 hretrieved).resolve_left (by simp))).symm
    obtain ⟨n, stop, hsent, -⟩ := sendPacket_spec c { s with retrieveResults } (.resend packetId)
      packet
    exact hsent.transmits (.of_eq rfl rfl) (.refl _) (.stored hstored)

/-! ## CONNECT -/

/-- A CONNECT is begun when its size was accepted. -/
def Operation.Sized : Operation → Prop
  | .establish info will _ => (mqttGetConnectPacketSize (some info) will).1 = .success
  | _ => True

theorem sized_of_not_establishes {operation : Operation} (h : ¬ operation.Establishes) :
    operation.Sized := by
  cases operation with
  | establish info will timeoutMs => exact absurd trivial h
  | _ => trivial

theorem Call.sized {c : Config} {s : Sys} {call : Call} :
    ∀ operation ∈ call.operations c s, operation.Sized := by
  intro operation hmem
  rcases call.operations_cases c s with hconnects | ⟨info, will, timeoutMs, rest, -, heq, hrest, -⟩
  · exact sized_of_not_establishes fun h => hconnects operation hmem h.connects
  rw [heq] at hmem
  rcases List.mem_cons.1 hmem with rfl | hmem
  swap
  · exact sized_of_not_establishes (hrest operation hmem)
  cases call with
  | api call =>
    have hfirst := not_connects_api call (.establish info will timeoutMs) (heq ▸ List.mem_cons_self)
    exact absurd trivial hfirst
  | connect info' will' timeoutMs' =>
    change connectOperations c s info' will' timeoutMs' = _ at heq
    unfold connectOperations at heq
    cases info' with
    | none => cases heq
    | some info' =>
      dsimp only at heq
      split at heq
      · cases heq
      rename_i hsize
      split at heq
      · cases heq
      cases (List.cons.inj heq).1
      exact not_not.1 hsize

/-- The CONNECT of a will that is there. -/
theorem sendConnectWithoutCopy_transmits (c : Config) (s : Sys) {info : ConnectInfo}
    {will : Option PublishInfo} (hsize : (mqttGetConnectPacketSize (some info) will).1 = .success)
    (hwill : ∀ w ∈ will, w.payloadLength ≠ 0 → w.pPayload ≠ none) (timeoutMs : UInt32) :
    Transmits (.establish info will timeoutMs) s
      (sendConnectWithoutCopy c s info will (mqttGetConnectPacketSize (some info) will).2.1).2 := by
  unfold sendConnectWithoutCopy
  dsimp only
  split
  · exact .of_eq rfl rfl
  rename_i htopic
  have hset : WillSet will := by
    intro w hw
    refine ⟨fun hnone => htopic ?_, hwill w hw⟩
    rw [Option.mem_def.1 hw, Option.any_some, hnone]
    rfl
  obtain ⟨-, hshort⟩ := shortVectors_connect info will (connectPacketSize_le (some info) will)
  obtain ⟨n, stop, hsent, -⟩ := (sendMessageVector_spec c s
    fun v hv => Nat.lt_of_le_of_lt (hshort v hv) (by decide)).recordSent .connect
  obtain ⟨hwhole, hread⟩ := readClientPacket_connect hset hsize
  exact hsent.transmits (.refl s) (.refl _) (.asked (.connect info will timeoutMs) hwhole hread)

/-- Nothing more is sent. -/
theorem Transmits.trans_eq {operation : Operation} {s s₁ s' : Sys} (h : Transmits operation s s₁)
    (hlog : s'.log = s₁.log) (hwire : s'.wire = s₁.wire) : Transmits operation s s' := by
  obtain ⟨sent, hsent, hone, hwrites⟩ := h
  have hmore := hsent.trans (.of_eq hlog hwire)
  rw [List.append_nil] at hmore
  exact ⟨sent, hmore, hone, hwrites⟩

theorem establish_transmits (c : Config) (s : Sys) {info : ConnectInfo} {will : Option PublishInfo}
    {timeoutMs : UInt32} (hsized : (Operation.establish info will timeoutMs).Sized)
    (hsound : (Operation.establish info will timeoutMs).Sound c) :
    let operation := Operation.establish info will timeoutMs
    Transmits operation s (operation.run c s) := by
  have hconnect := sendConnectWithoutCopy_transmits c s hsized hsound timeoutMs
  unfold Operation.run FreeMqtt.establish
  dsimp only at hconnect ⊢
  generalize sendConnectWithoutCopy c s info will
    (mqttGetConnectPacketSize (some info) will).2.1 = sent at hconnect ⊢
  split
  · exact hconnect
  have hreads := received_receiveConnack c sent.2 timeoutMs info.cleanSession
  generalize receiveConnack c sent.2 timeoutMs info.cleanSession = connack at hreads ⊢
  replace hconnect := hconnect.trans_eq hreads.log hreads.wire
  split
  · exact hconnect
  split
  · obtain ⟨hwire, hlog⟩ := handleCleanSession_spec connack.2.2
    exact hconnect.trans_eq hlog hwire
  · exact hconnect.trans_eq rfl rfl

theorem setUp_world (c : Config) (s : Sys) (call : ApiCall) :
    (Operation.run c s (.setUp call)).toWorld = s.toWorld := by
  cases call with
  | init transport getTimeFunction userCallback buffer =>
    show (mqttInit s transport getTimeFunction userCallback buffer).2.toWorld = s.toWorld
    unfold mqttInit
    split
    · split_ifs <;> rfl
    · rfl
  | initStatefulQoS outgoing outgoingCount incoming incomingCount =>
    show (mqttInitStatefulQoS s outgoing outgoingCount incoming incomingCount).2.toWorld = s.toWorld
    unfold mqttInitStatefulQoS
    split_ifs <;> rfl
  | initRetransmits storeFunction retrieveFunction clearFunction =>
    show (mqttInitRetransmits s storeFunction retrieveFunction clearFunction).2.toWorld = s.toWorld
    unfold mqttInitRetransmits
    split_ifs <;> rfl
  | _ => rfl

/-- Every operation of a run. -/
theorem Operation.transmits (c : Config) (s : Sys) {operation : Operation}
    (hsized : operation.Sized) (hsound : operation.Sound c) :
    Transmits operation s (operation.run c s) := by
  have hreads : ∀ {s'}, Received s s' → Transmits operation s s' := fun h => .of_eq h.log h.wire
  cases operation with
  | request call => exact request_transmits c s call hsound
  | acknowledge packetId state =>
    exact sendPublishAcks_transmits c (.refl s) packetId state fun _ hack => .acknowledge hack
  | deliver packet manageKeepAlive => exact deliver_transmits c s packet manageKeepAlive
  | handle packet manageKeepAlive => exact handle_transmits c s packet manageKeepAlive
  | establish info will timeoutMs => exact establish_transmits c s hsized hsound
  | resend packetId => exact resend_transmits c s packetId
  | giveUp => exact .of_eq rfl rfl
  | startProcessLoop => exact .of_eq rfl rfl
  | read => exact hreads (reads_readIntoBuffer c s).received
  | readClock => exact .of_eq rfl rfl
  | discard packet => exact hreads (reads_discardStoredPacket c s packet).received
  | remove totalLength => exact .of_eq rfl rfl
  | setLastPacketRxTime => exact .of_eq rfl rfl
  | setUp call =>
    have hworld := setUp_world c s call
    exact .of_eq (congrArg World.log hworld) (congrArg World.wire hworld)

/-! ## The store -/

/-- A stored packet is the duplicate of a publish. -/
def DuplicatePacket (info : PublishInfo) (packetId : UInt16) (copy : List UInt8) : Prop :=
  WholePacket copy ∧
    readClientPacket copy = some ({ info with dup := true }.clientPacket packetId)

/-- What an operation stores is the duplicate of the publish that it asks for. -/
def StoresRequested (operation : Operation) (s s' : Sys) : Prop :=
  ∀ packetId copy, s'.store packetId = some copy → s.store packetId = some copy ∨
    ∃ info, operation = .request (.publish (some info) packetId) ∧ info.qos ≠ .qos0 ∧
      DuplicatePacket info packetId copy

theorem StoresRequested.of_eq {operation : Operation} {s s' : Sys} (h : s'.store = s.store) :
    StoresRequested operation s s' := fun _ _ hcopy => .inl (h ▸ hcopy)

/-- Copies are cleared only. -/
theorem StoresRequested.of_cleared {operation : Operation} {s s' : Sys}
    (h : ∀ id, s'.store id = none ∨ s'.store id = s.store id) : StoresRequested operation s s' := by
  intro packetId copy hcopy
  rcases h packetId with hnone | hsame
  · rw [hnone] at hcopy
    cases hcopy
  · exact .inl (hsame ▸ hcopy)

theorem publish_stores (c : Config) (s : Sys) (info : PublishInfo) (packetId : UInt16) :
    StoresRequested (.request (.publish (some info) packetId)) s
      (mqttPublish c s (some info) packetId).2 := by
  have houtcome := mqttPublish_cases c s info packetId
  generalize mqttPublish c s (some info) packetId = published at houtcome
  cases houtcome with
  | rejected _ _ => exact .of_eq rfl
  | unreserved _ _ => exact .of_eq rfl
  | reserved hchecks _ =>
    obtain ⟨store, storeResults, hstore, hsent⟩ := publishReserved_cases c
      (s.setRecords (mqttReserveState s.toPublishRecords packetId info.qos).2) hchecks.size packetId
    have hkept : (publishReserved c (s.setRecords (mqttReserveState s.toPublishRecords packetId
        info.qos).2) info packetId).2.store = store := by
      rcases hsent with heq | ⟨s₁, n, stop, t, hsent, heq⟩
      · rw [heq]
      · rw [heq]
        exact hsent.kept.2
    rcases hstore with rfl | ⟨hqos, rfl⟩
    · exact .of_eq hkept
    intro id copy hcopy
    rw [hkept] at hcopy
    dsimp only at hcopy
    split at hcopy
    swap
    · exact .inl hcopy
    rename_i hid
    cases hcopy
    subst hid
    have hne := Publishable.packetId_ne ⟨hchecks.valid, hchecks.size, hchecks.connected, hqos⟩
    exact .inr ⟨info, rfl, hqos, @readClientPacket_publish { info with dup := true } hchecks.size id
      fun _ => hne⟩

/-- The copies in the context of a callback. -/
theorem callbackFrame_cleared {s : Sys} {packet : PacketInfo} {manageKeepAlive : Bool}
    {frame : CallbackFrame} (h : callbackFrame s packet manageKeepAlive = some frame) (id : UInt16) :
    frame.before.store id = none ∨ frame.before.store id = s.store id := by
  unfold callbackFrame publishFrame ackFrame publishAckFrame at h
  dsimp only at h
  split_ifs at h
  all_goals
    cases h
  · exact .inr rfl
  · dsimp only
    unfold clearAcked callClear
    split
    · dsimp only
      split
      · exact .inl rfl
      · exact .inr rfl
    · exact .inr rfl
  · exact .inr rfl
  · exact .inr rfl

theorem handleCleanSession_cleared (s : Sys) (id : UInt16) :
    (handleCleanSession s).store id = none ∨ (handleCleanSession s).store id = s.store id := by
  have hloop : ∀ (fuel cursor : Nat) (s : Sys), (clearPublishes fuel cursor s).store id = none ∨
      (clearPublishes fuel cursor s).store id = s.store id := by
    intro fuel
    induction fuel with
    | zero => exact fun _ _ => .inr rfl
    | succ fuel ih =>
      intro cursor s
      unfold clearPublishes
      dsimp only
      split
      · exact .inr rfl
      rcases ih (mqttPublishToResend s.toPublishRecords cursor).2
        (callClear s (mqttPublishToResend s.toPublishRecords cursor).1) with hnone | hsame
      · exact .inl hnone
      · rw [hsame]
        unfold callClear
        dsimp only
        split
        · exact .inl rfl
        · exact .inr rfl
  unfold handleCleanSession
  dsimp only
  split
  · exact hloop _ _ s.clearBuffer
  · exact .inr rfl

theorem sendPublishAcks_store (c : Config) (s : Sys) (packetId : UInt16) (state : PublishState) :
    (sendPublishAcks c s packetId state).2.store = s.store := by
  by_cases hsend : packetId = 0 ∨ s.connectStatus ≠ .connected
  · rw [sendPublishAcks_unsent c state hsend]
  obtain ⟨hid, hconn⟩ := not_or.1 hsend
  cases hack : ackToSend state with
  | none => rw [sendPublishAcks_none c s packetId hack]
  | some packetType =>
    obtain ⟨s₁, n, stop, hsent, heq⟩ := sendPublishAcks_connected c hack hid (not_not.1 hconn)
    rw [heq]
    split
    · exact hsent.kept.2
    · exact hsent.kept.2

theorem SendOutcome.store_eq {kind : PacketKind} {s s' : Sys} (h : SendOutcome kind s s') :
    s'.store = s.store := by
  cases h with
  | unsent heq => rw [heq]
  | sent packet n stop _ hsent => exact hsent.kept.2

/-- No request but a publish changes the store. -/
theorem request_store (c : Config) (s : Sys) {call : SendCall}
    (hcall : ∀ info packetId, call ≠ .publish (some info) packetId) :
    (call.run c s).store = s.store := by
  cases call with
  | publish info packetId =>
    cases info with
    | none => rfl
    | some info => exact absurd rfl (hcall info packetId)
  | subscribe list packetId => exact (mqttSubscribe_outcome c s list packetId).store_eq
  | unsubscribe list packetId => exact (mqttUnsubscribe_outcome c s list packetId).store_eq
  | ping =>
    obtain ⟨s₁, pingReqSendTimeMs, waitingForPingResp, houtcome, heq⟩ := mqttPing_outcome c s
    show (mqttPing c s).2.store = s.store
    rw [heq]
    exact houtcome.store_eq
  | disconnect =>
    show (mqttDisconnect c s).2.store = s.store
    rcases mqttDisconnect_outcome c s with ⟨-, heq⟩ | ⟨-, n, stop, hsent⟩
    · rw [heq]
    · exact hsent.kept.2
  | cancelCallback packetId =>
    show (mqttCancelCallback s packetId).2.store = s.store
    unfold mqttCancelCallback
    split
    · rfl
    · rfl
  | getPacketId => rfl

theorem handler_stores (c : Config) (s : Sys) (packet : PacketInfo) (manageKeepAlive : Bool)
    {operation : Operation} (hoperation : operation = .deliver packet manageKeepAlive ∨
      operation = .handle packet manageKeepAlive) :
    StoresRequested operation s (operation.run c s) := by
  rcases hoperation with rfl | rfl
  · cases hframe : callbackFrame (s.dispatching packet) packet manageKeepAlive with
    | none =>
      rw [run_deliver_none c hframe]
      exact .of_eq rfl
    | some frame =>
      have hcleared := callbackFrame_cleared hframe
      rw [run_deliver c hframe]
      exact .of_cleared hcleared
  · cases hframe : callbackFrame (s.dispatching packet) packet manageKeepAlive with
    | some frame =>
      rw [run_handle_some c hframe]
      exact .of_eq rfl
    | none =>
      rw [run_handle c hframe]
      rcases handlePacket_unheard c hframe with ⟨t, waiting, heq⟩ | ⟨t, packetId, state, heq, -⟩
      · rw [heq]
        exact .of_eq rfl
      · rw [heq]
        exact .of_eq (sendPublishAcks_store c _ packetId state)

theorem establish_stores (c : Config) (s : Sys) (info : ConnectInfo) (will : Option PublishInfo)
    (timeoutMs : UInt32) :
    let operation := Operation.establish info will timeoutMs
    StoresRequested operation s (operation.run c s) := by
  have hkept : (sendConnectWithoutCopy c s info will
      (mqttGetConnectPacketSize (some info) will).2.1).2.store = s.store := by
    rcases sendConnectWithoutCopy_spec c s info will (connectPacketSize_le (some info) will) with
      ⟨-, heq⟩ | ⟨_, _, _, hsent, -⟩
    · rw [heq]
    · exact hsent.kept.2
  unfold Operation.run FreeMqtt.establish
  dsimp only at hkept ⊢
  generalize sendConnectWithoutCopy c s info will
    (mqttGetConnectPacketSize (some info) will).2.1 = sent at hkept ⊢
  split
  · exact .of_eq hkept
  have hreads := received_receiveConnack c sent.2 timeoutMs info.cleanSession
  generalize receiveConnack c sent.2 timeoutMs info.cleanSession = connack at hreads ⊢
  have hstore := hreads.store.trans hkept
  split
  · exact .of_eq hstore
  split
  · refine .of_cleared fun id => ?_
    rw [← hstore]
    exact handleCleanSession_cleared connack.2.2 id
  · exact .of_eq hstore

/-- Every operation of a run. -/
theorem Operation.storesRequested (c : Config) (s : Sys) (operation : Operation) :
    StoresRequested operation s (operation.run c s) := by
  cases operation with
  | request call =>
    by_cases hcall : ∀ info packetId, call ≠ .publish (some info) packetId
    · exact .of_eq (request_store c s hcall)
    · obtain ⟨info, hcall⟩ := not_forall.1 hcall
      obtain ⟨packetId, hcall⟩ := not_forall.1 hcall
      rw [not_not.1 hcall]
      exact publish_stores c s info packetId
  | acknowledge packetId state => exact .of_eq (sendPublishAcks_store c s packetId state)
  | deliver packet manageKeepAlive => exact handler_stores c s packet manageKeepAlive (.inl rfl)
  | handle packet manageKeepAlive => exact handler_stores c s packet manageKeepAlive (.inr rfl)
  | establish info will timeoutMs => exact establish_stores c s info will timeoutMs
  | resend packetId =>
    obtain ⟨-, retrieveResults, heq⟩ := callRetrieve_spec s packetId
    unfold Operation.run
    dsimp only
    rw [heq]
    split
    · exact .of_eq rfl
    · obtain ⟨n, stop, hsent, -⟩ := sendPacket_spec c { s with retrieveResults }
        (.resend packetId) _
      exact .of_eq hsent.kept.2
  | giveUp => exact .of_eq rfl
  | startProcessLoop => exact .of_eq rfl
  | read => exact .of_eq (reads_readIntoBuffer c s).received.store
  | readClock => exact .of_eq rfl
  | discard packet => exact .of_eq (reads_discardStoredPacket c s packet).received.store
  | remove totalLength => exact .of_eq rfl
  | setLastPacketRxTime => exact .of_eq rfl
  | setUp call => exact .of_eq (congrArg World.store (setUp_world c s call))

end FreeMqtt

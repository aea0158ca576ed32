import FreeMqtt.Core.Answers
import FreeMqtt.Core.Receiver

/-!
# What an operation takes from a server

For every operation of a run: the messages that it gives to the application and the replies that it
puts on the connection, together with what it does to the incoming records
(`Operation.downlinkEffect`). A message is given to the application with a new record, which the
handler of a duplicate finds, and leaves with the acknowledgement.
-/

namespace FreeMqtt

open Handover KeyedList

/-- The live incoming record of a packet id. -/
def Sys.incoming (s : Sys) (packetId : UInt16) : Option PubAckInfo :=
  liveRecord s.incomingPublishRecords packetId

/-! ## Replies and messages -/

/-- The reply that an event puts on the connection. A packet that is not completely sent is none for
the server. -/
def Event.reply : Event → Option (UInt16 × Reply)
  | .sent (.ack packetType packetId) _ _ .complete => (serverReply packetType).map (Prod.mk packetId)
  | _ => none

/-- The message of a server that an event gives to the application. -/
def Event.message : Event → Option (UInt16 × Message)
  | .callback _ ⟨packetId, some info, _⟩ =>
      if info.qos = .qos0 then none else some (packetId, info.message)
  | _ => none

/-- Events with these replies and messages were added to the log. -/
def Exchanged (s s' : Sys) (replies : List (UInt16 × Reply)) (messages : List (UInt16 × Message)) :
    Prop :=
  ∃ events, s'.log = s.log ++ events ∧ events.filterMap Event.reply = replies ∧
    events.filterMap Event.message = messages

theorem Exchanged.of_log_eq {s s' : Sys} (h : s'.log = s.log) : Exchanged s s' [] [] :=
  ⟨[], by rw [h, List.append_nil], rfl, rfl⟩

theorem Exchanged.of_event {s s' : Sys} {e : Event} (h : s'.log = s.log ++ [e]) :
    Exchanged s s' e.reply.toList e.message.toList := by
  refine ⟨[e], h, ?_, ?_⟩
  · cases hreply : e.reply <;> simp [hreply]
  · cases hmessage : e.message <;> simp [hmessage]

theorem Exchanged.trans {s s' s'' : Sys} {replies more : List (UInt16 × Reply)}
    {messages rest : List (UInt16 × Message)} (h : Exchanged s s' replies messages)
    (h' : Exchanged s' s'' more rest) : Exchanged s s'' (replies ++ more) (messages ++ rest) := by
  obtain ⟨events, hlog, rfl, rfl⟩ := h
  obtain ⟨events', hlog', rfl, rfl⟩ := h'
  exact ⟨events ++ events', by rw [hlog', hlog, List.append_assoc], List.filterMap_append ..,
    List.filterMap_append ..⟩

/-- A packet that is no acknowledgement of a message. -/
theorem Exchanged.of_sent {s s' : Sys} {kind : PacketKind} {packet : List UInt8} {n : Nat}
    {stop : Stop} (h : s'.log = s.log ++ [.sent kind packet n stop])
    (hkind : Event.reply (.sent kind packet n stop) = none) : Exchanged s s' [] [] := by
  have hexchanged := Exchanged.of_event h
  rwa [hkind] at hexchanged

theorem reply_sent {packetType : PubAckType} {packetId : UInt16} {packet : List UInt8} {n : Nat}
    {stop : Stop} : Event.reply (.sent (.ack packetType packetId) packet n stop) =
      if stop = .complete then (serverReply packetType).map (Prod.mk packetId) else none := by
  cases stop <;> rfl

/-! ## Effects -/

/-- The request that an operation takes from the connection. -/
def Operation.received : Operation → Option (UInt16 × Request Message)
  | .deliver packet _ | .handle packet _ => packet.request
  | _ => none

/-- An operation sends an acknowledgement: after the callback, or because it gets a duplicate. -/
inductive Acknowledges (operation : Operation) (s : Sys) (packetType : PubAckType)
    (packetId : UInt16) : Prop
  | after (state : PublishState) (hoperation : operation = .acknowledge packetId state)
      (hack : ackToSend state = some packetType)
  | duplicate (message : Message) (hreceived : operation.received = some (packetId, .offer message))
      (hlive : s.incoming packetId ≠ none)
      (hack : ackToSend (mqttCalculateStatePublish .receive message.qos) = some packetType)

/-- What an operation does, with the replies and the messages. -/
inductive DownlinkEffect (operation : Operation) (s s' : Sys) :
    List (UInt16 × Reply) → List (UInt16 × Message) → Prop
  | none (hrecords : s'.incoming = s.incoming) : DownlinkEffect operation s s' [] []
  /-- a message is new, and given to the application -/
  | arrive (info : PublishInfo) (packetId : UInt16)
      (hreceived : operation.received = some (packetId, .offer info.message))
      (hqos : info.qos ≠ .qos0) (hnew : s.incoming packetId = .none)
      (hrecords : ∀ id, s'.incoming id =
        if id = packetId then some (firstRecord .incoming packetId info.qos) else s.incoming id) :
      DownlinkEffect operation s s' [] [(packetId, info.message)]
  | release (packetId : UInt16) (r : PubAckInfo)
      (hreceived : operation.received = some (packetId, .release)) (hqos : r.qos = .qos2)
      (hr : s.incoming packetId = some r)
      (hrecords : ∀ id, s'.incoming id =
        if id = packetId then some { r with publishState := .pubCompSend } else s.incoming id) :
      DownlinkEffect operation s s' [] []
  /-- an acknowledgement is completely sent -/
  | acknowledge (packetType : PubAckType) (packetId : UInt16) (reply : Reply)
      (hreply : serverReply packetType = some reply)
      (hacks : Acknowledges operation s packetType packetId)
      (hrecords : ∀ id, s'.incoming id =
        if id = packetId then ackRecord .incoming packetType (s.incoming id) else s.incoming id) :
      DownlinkEffect operation s s' [(packetId, reply)] []
  /-- a clean session -/
  | clean (hreconnects : operation.reconnects = true) (hrecords : ∀ id, s'.incoming id = .none) :
      DownlinkEffect operation s s' [] []

/-- The effect of an operation that is given its replies and messages. -/
def HasDownlinkEffect (operation : Operation) (s s' : Sys) : Prop :=
  Table .incoming s'.incomingPublishRecords ∧ ∃ replies messages,
    Exchanged s s' replies messages ∧ DownlinkEffect operation s s' replies messages

section Effects

variable {c : Config} {operation : Operation} {s s' : Sys}
  (htable : Table .incoming s.incomingPublishRecords)

include htable

/-- The incoming records are left alone, and there is neither a reply nor a message. -/
theorem HasDownlinkEffect.of_exchanged (h : Exchanged s s' [] [])
    (hrecords : s'.incomingPublishRecords = s.incomingPublishRecords) :
    HasDownlinkEffect operation s s' := by
  refine ⟨hrecords ▸ htable, [], [], h, .none ?_⟩
  unfold Sys.incoming
  rw [hrecords]

theorem HasDownlinkEffect.of_eq (hrecords : s'.incomingPublishRecords = s.incomingPublishRecords)
    (hlog : s'.log = s.log) : HasDownlinkEffect operation s s' :=
  .of_exchanged htable (.of_log_eq hlog) hrecords

end Effects

/-! ## Requests -/

/-- Requests of the application. -/
theorem Requests.exchanged {s s' : Sys} (h : Requests s s') :
    s'.incomingPublishRecords = s.incomingPublishRecords ∧ Exchanged s s' [] [] := by
  induction h with
  | refl => exact ⟨rfl, .of_log_eq rfl⟩
  | tail _ hstep ih =>
    obtain ⟨hrecords, hexchanged⟩ := ih
    cases hstep with
    | quiet h => exact ⟨h.incoming.trans hrecords, hexchanged.trans (.of_log_eq h.log)⟩
    | send kind packet n stop hkind _ hsent =>
      have hrecords' := congrArg PublishRecords.incomingPublishRecords hsent.records
      refine ⟨hrecords'.trans hrecords, hexchanged.trans (.of_sent hsent.log_eq ?_)⟩
      cases kind with
      | ack => exact absurd hkind id
      | _ => rfl
    | disconnect n stop _ hsent =>
      have hrecords' := congrArg PublishRecords.incomingPublishRecords hsent.records
      exact ⟨hrecords'.trans hrecords, hexchanged.trans (.of_sent hsent.log_eq rfl)⟩

/-! ## Acknowledgements -/

/-- An acknowledgement that an incoming record accepts. -/
theorem react_incoming_cases {r : PubAckInfo} (h : ValidRecord .incoming r)
    {packetType : PubAckType} (hreact : react .incoming r (.ack packetType) ≠ .illegal) :
    (packetType = .puback ∧ r.qos = .qos1 ∧
        (react .incoming r (.ack packetType)).apply r = none) ∨
      (packetType = .pubrec ∧ r.qos = .qos2 ∧
        (react .incoming r (.ack packetType)).apply r = some { r with publishState := .pubRelPending }) ∨
      (packetType = .pubrel ∧ r.qos = .qos2 ∧
        (react .incoming r (.ack packetType)).apply r = some { r with publishState := .pubCompSend }) ∨
      packetType = .pubcomp ∧ r.qos = .qos2 ∧
        (react .incoming r (.ack packetType)).apply r = none := by
  obtain ⟨packetId, qos, state⟩ := r
  change state ∈ phases .incoming qos at h
  revert h hreact
  cases qos <;> cases state <;> cases packetType <;>
    first
    | exact fun h => absurd h (by decide)
    | exact fun _ h => absurd rfl h
    | simp [react, trigger, repeated, next, phases, successor, Reaction.apply]

theorem ackToSend_packetType {state : PublishState} {packetType : PubAckType}
    (h : ackToSend state = some packetType) (hne : packetType ≠ .pubrel) :
    ackDirection packetType .send = .incoming ∧ ∃ reply, serverReply packetType = some reply := by
  cases packetType with
  | puback => exact ⟨rfl, _, rfl⟩
  | pubrec => exact ⟨rfl, _, rfl⟩
  | pubcomp => exact ⟨rfl, _, rfl⟩
  | pubrel => exact absurd rfl hne

/-- `sendPublishAcks`, for an operation that acknowledges just that. -/
theorem sendPublishAcks_downlink (c : Config) {operation : Operation} {s s₀ : Sys}
    (htable : Table .incoming s.incomingPublishRecords) {packetId : UInt16} {state : PublishState}
    (hlog : Exchanged s₀ s [] []) (hrecords : s.incoming = s₀.incoming)
    (hacks : ∀ packetType, ackToSend state = some packetType →
      Acknowledges operation s₀ packetType packetId) :
    HasDownlinkEffect operation s₀ (sendPublishAcks c s packetId state).2 := by
  by_cases hsend : packetId = 0 ∨ s.connectStatus ≠ .connected
  · rw [sendPublishAcks_unsent c state hsend]
    exact ⟨htable, [], [], hlog, .none hrecords⟩
  obtain ⟨hid, hconn⟩ := not_or.1 hsend
  rw [not_not] at hconn
  cases hack : ackToSend state with
  | none =>
    rw [sendPublishAcks_none c s packetId hack]
    exact ⟨htable, [], [], hlog, .none hrecords⟩
  | some packetType =>
    obtain ⟨s₁, n, stop, hsent, heq⟩ := sendPublishAcks_connected c hack hid hconn
    have hkept := congrArg PublishRecords.incomingPublishRecords hsent.records
    have hreply := @reply_sent packetType packetId (ackPacket packetType packetId) n stop
    rw [heq]
    split
    swap
    · rename_i hstop
      rw [if_neg hstop] at hreply
      refine ⟨hkept ▸ htable, [], [], hlog.trans (.of_sent hsent.log_eq hreply), .none ?_⟩
      refine Eq.trans ?_ hrecords
      funext id
      exact congrArg (liveRecord · id) hkept
    rename_i hstop
    rw [if_pos hstop] at hreply
    by_cases hrel : packetType = .pubrel
    · subst hrel
      have hincoming := mqttUpdateStateAck_incoming s.toPublishRecords packetId
        (show isPublishOutgoing .pubrel .send = true from rfl)
      refine ⟨?_, [], [], hlog.trans (.of_sent hsent.log_eq hreply), .none ?_⟩
      · show Table .incoming (mqttUpdateStateAck _ _ _ _).2.2.incomingPublishRecords
        rwa [hincoming]
      · refine Eq.trans ?_ hrecords
        funext id
        exact congrArg (liveRecord · id) hincoming
    obtain ⟨hdirection, reply, hserver⟩ := ackToSend_packetType hack hrel
    obtain ⟨records', hupdated, htable', -, hrecord⟩ := mqttUpdateStateAck_record
      (t := s.toPublishRecords) hid hdirection htable (.inl rfl)
    rw [hupdated]
    have hexchanged := Exchanged.of_event hsent.log_eq
    rw [hreply, hserver] at hexchanged
    refine ⟨htable', [(packetId, reply)], [], hlog.trans hexchanged,
      .acknowledge packetType packetId reply hserver (hacks packetType hack) fun id => ?_⟩
    show liveRecord records' id = _
    have hsame : ∀ id, liveRecord (s.toPublishRecords.table .incoming) id = s₀.incoming id :=
      fun id => congrFun hrecords id
    rw [hrecord, hsame, hsame]
    split
    · rename_i heq
      rw [heq]
    · rfl

/-! ## Received packets -/

/-- A publish of QoS 1 or 2 has a packet id. -/
theorem mqttDeserializePublish_packetId {packet : PacketInfo}
    (h : (mqttDeserializePublish packet).1 = .success)
    (hqos : (mqttDeserializePublish packet).2.2.qos ≠ .qos0) :
    (mqttDeserializePublish packet).2.1 = some ((mqttDeserializePublish packet).2.1.getD 0) := by
  revert h hqos
  unfold mqttDeserializePublish deserializePublish
  dsimp only
  split
  · exact fun h => nomatch h
  split
  · exact fun h => nomatch h
  split
  · exact fun h => nomatch h
  rename_i qos _
  split
  · exact fun h => nomatch h
  split
  · exact fun h => nomatch h
  intro h hqos
  have hne : qos ≠ .qos0 := by
    rintro rfl
    refine hqos ?_
    rw [apply_ite Prod.snd, apply_ite Prod.snd, apply_ite PublishInfo.qos]
    exact ite_self _
  simp only [if_neg hne] at h ⊢
  split at h
  · cases h
  · rename_i hid
    rw [if_neg hid]
    rfl

/-- No callback for another packet is followed by a reply. -/
def Unreplied (frame : CallbackFrame) : Prop :=
  ∀ packetId state, frame.reply = some (packetId, state) → (ackToSend state).bind serverReply = none

/-- What a packet that the callback gets has done to the incoming records, and what is sent after
the callback. -/
inductive Arrival (s : Sys) (packet : PacketInfo) (frame : CallbackFrame) : Prop
  | other (hrecords : frame.before.incomingPublishRecords = s.incomingPublishRecords)
      (hmessage : (Event.callback packet frame.info).message = none) (hreply : Unreplied frame)
  | publish (info : PublishInfo) (packetId : UInt16)
      (hrequest : packet.request = some (packetId, .offer info.message)) (hqos : info.qos ≠ .qos0)
      (hnew : s.incoming packetId = none)
      (hrecords : ∀ id, frame.before.incoming id =
        if id = packetId then some (firstRecord .incoming packetId info.qos) else s.incoming id)
      (hmessage : (Event.callback packet frame.info).message = some (packetId, info.message))
      (hreply : frame.reply = some (packetId, mqttCalculateStatePublish .receive info.qos))
  | pubrel (packetId : UInt16) (r : PubAckInfo)
      (hrequest : packet.request = some (packetId, .release)) (hqos : r.qos = .qos2)
      (hr : s.incoming packetId = some r)
      (hrecords : ∀ id, frame.before.incoming id =
        if id = packetId then some { r with publishState := .pubCompSend } else s.incoming id)
      (hmessage : (Event.callback packet frame.info).message = none)
      (hreply : frame.reply = some (packetId, .pubCompSend))

/-! ### PUBREL -/

theorem clearAcked_incoming (s : Sys) (packetId : UInt16) (ackType : PubAckType) :
    (clearAcked s packetId ackType).incomingPublishRecords = s.incomingPublishRecords := by
  unfold clearAcked
  split
  · rfl
  · rfl

theorem request_pubrel {packet : PacketInfo} (hack : isPublishAck packet.type = true)
    (hrel : getAckFromPacketType packet.type = .pubrel)
    (hdecoded : (mqttDeserializeAck packet true false).1 = .success)
    (hid : ackPacketId packet ≠ packetIdInvalid) :
    packet.request = some (ackPacketId packet, .release) := by
  have htype : packet.type = packetTypePubrel := by
    rcases of_decide_eq_true hack with heq | heq | heq | heq
    · rw [heq] at hrel
      cases hrel
    · rw [heq] at hrel
      cases hrel
    · exact heq
    · rw [heq] at hrel
      cases hrel
  have hpublish : packet.type &&& 0xF0 ≠ packetTypePublish := by rw [htype]; decide
  rw [PacketInfo.request, if_neg hpublish, if_pos htype]
  dsimp only
  rw [if_pos hdecoded]
  unfold ackPacketId at hid ⊢
  cases hpacketId : (mqttDeserializeAck packet true false).2.1 with
  | none =>
    rw [hpacketId] at hid
    exact absurd rfl hid
  | some packetId => rfl

/-- A PUBREL that is accepted. -/
theorem updateStateAck_pubrel {t : PublishRecords} (htable : Table .incoming t.incomingPublishRecords)
    {packetId : UInt16} (h : (mqttUpdateStateAck t packetId .pubrel .receive).1 = .success) :
    packetId ≠ packetIdInvalid ∧ ∃ r records', mqttUpdateStateAck t packetId .pubrel .receive =
        (.success, some .pubCompSend, t.setTable .incoming records') ∧
      Table .incoming records' ∧ liveRecord t.incomingPublishRecords packetId = some r ∧
      r.qos = .qos2 ∧ ∀ id, liveRecord records' id =
        if id = packetId then some { r with publishState := .pubCompSend }
        else liveRecord t.incomingPublishRecords id := by
  have hid : packetId ≠ packetIdInvalid := by
    rintro rfl
    rw [mqttUpdateStateAck, if_pos rfl] at h
    cases h
  obtain ⟨records', heq, htable', -, hrecords⟩ := mqttUpdateStateAck_record (t := t) hid
    (show ackDirection .pubrel .receive = .incoming from rfl) htable (.inl rfl)
  change ∀ id, liveRecord records' id = if id = packetId then ackRecord .incoming .pubrel
    (liveRecord t.incomingPublishRecords packetId) else liveRecord t.incomingPublishRecords id
    at hrecords
  change _ = (ackStatus .incoming .pubrel (liveRecord t.incomingPublishRecords packetId),
    (liveRecord t.incomingPublishRecords packetId).bind _, _) at heq
  refine ⟨hid, ?_⟩
  rw [heq] at h ⊢
  cases hr : liveRecord t.incomingPublishRecords packetId with
  | none =>
    rw [hr] at h
    cases h
  | some r =>
    rw [hr] at h hrecords
    have hreact : react .incoming r (.ack .pubrel) ≠ .illegal := by
      intro hillegal
      rw [ackStatus, if_pos hillegal] at h
      cases h
    rcases react_incoming_cases (htable.valid r (lookup_mem hr)) hreact with
      ⟨heq, -⟩ | ⟨heq, -⟩ | ⟨-, hqos, happly⟩ | ⟨heq, -⟩
    · cases heq
    · cases heq
    · refine ⟨r, records', ?_, htable', rfl, hqos, fun id => ?_⟩
      · rw [ackStatus, if_neg hreact, Option.bind_some, if_neg hreact, hqos]
        rfl
      · rw [hrecords, ackRecord, Option.bind_some, happly]
    · cases heq

/-! ### Callbacks -/

section Frames

variable {s : Sys} (htable : Table .incoming s.incomingPublishRecords) {packet : PacketInfo}
  {frame : CallbackFrame}

include htable

theorem publishFrame_arrival (hpublish : packet.type &&& 0xF0 = packetTypePublish)
    (h : publishFrame s packet = some frame) :
    Table .incoming frame.before.incomingPublishRecords ∧ Arrival s packet frame := by
  unfold publishFrame at h
  dsimp only at h
  split at h
  swap
  · cases h
  rename_i hcond
  obtain ⟨hdecoded, -, hupdated⟩ := hcond
  cases h
  dsimp only
  have hpacketId := mqttDeserializePublish_packetId hdecoded
  have hrequest : packet.request =
      (mqttDeserializePublish packet).2.1.map fun packetId =>
        (packetId, .offer (mqttDeserializePublish packet).2.2.message) := by
    rw [PacketInfo.request, if_pos hpublish]
    exact if_pos hdecoded
  generalize (mqttDeserializePublish packet).2.2 = info at *
  generalize (mqttDeserializePublish packet).2.1 = packetId at *
  by_cases hqos : info.qos = .qos0
  · have hsame : mqttUpdateStatePublish s.toPublishRecords (packetId.getD 0) .receive info.qos =
        (.success, some .publishDone, s.toPublishRecords) := if_pos hqos
    rw [hsame]
    refine ⟨htable, .other rfl (if_pos hqos) fun id state hreply => ?_⟩
    cases hreply
    rfl
  rw [hpacketId hqos] at hrequest
  by_cases hid : packetId.getD 0 = packetIdInvalid
  · rw [mqttUpdateStatePublish, if_neg hqos, if_pos hid] at hupdated
    cases hupdated
  obtain ⟨status, records', heq, htable', -, hadded⟩ :=
    mqttUpdateStatePublish_receive_spec (t := s.toPublishRecords) hid htable hqos
  rw [heq] at hupdated ⊢
  obtain rfl : status = .success := hupdated
  have hstate : (firstRecord .incoming (packetId.getD 0) info.qos).publishState =
      mqttCalculateStatePublish .receive info.qos := (receiveState_eq hqos).1
  refine ⟨htable', .publish info (packetId.getD 0) hrequest hqos hadded.liveRecord_eq_none ?_
    (if_neg hqos) ?_⟩
  · intro id
    show liveRecord records' id = _
    rw [hadded.liveRecord_eq]
    exact if_congr (and_iff_right rfl) rfl rfl
  · rw [if_pos rfl, hstate]
    rfl

theorem publishAckFrame_arrival (hack : isPublishAck packet.type = true)
    (h : publishAckFrame s packet = some frame) :
    Table .incoming frame.before.incomingPublishRecords ∧ Arrival s packet frame := by
  unfold publishAckFrame at h
  dsimp only at h
  split at h
  swap
  · cases h
  rename_i hcond
  obtain ⟨hdecoded, hupdated⟩ := hcond
  cases h
  change (mqttUpdateStateAck s.toPublishRecords (ackPacketId packet) _ .receive).1 = _ at hupdated
  by_cases hrel : getAckFromPacketType packet.type = .pubrel
  · rw [hrel] at hupdated
    obtain ⟨hid, r, records', heq, htable', hr, hqos, hrecords⟩ := updateStateAck_pubrel htable hupdated
    have hincoming := clearAcked_incoming
      (s.setRecords (s.toPublishRecords.setTable .incoming records')) (ackPacketId packet) .pubrel
    change mqttUpdateStateAck s.toPublishRecords
      ((mqttDeserializeAck packet true false).2.1.getD 0) .pubrel .receive = _ at heq
    rw [hrel, heq]
    refine ⟨hincoming.symm ▸ htable', .pubrel (ackPacketId packet) r
      (request_pubrel hack hrel hdecoded hid) hqos hr (fun id => ?_) rfl rfl⟩
    exact (congrArg (liveRecord · id) hincoming).trans (hrecords id)
  · have hside : isPublishOutgoing (getAckFromPacketType packet.type) .receive = true := by
      revert hrel
      cases getAckFromPacketType packet.type <;> decide
    have hincoming := (clearAcked_incoming (s.setRecords (mqttUpdateStateAck s.toPublishRecords
      (ackPacketId packet) (getAckFromPacketType packet.type) .receive).2.2) (ackPacketId packet)
      (getAckFromPacketType packet.type)).trans (mqttUpdateStateAck_incoming _ _ hside)
    refine ⟨hincoming.symm ▸ htable, .other hincoming rfl fun packetId state hreply => ?_⟩
    obtain ⟨-, rfl⟩ := Prod.mk.inj (Option.some.inj hreply)
    rcases mqttUpdateStateAck_newState s.toPublishRecords
      ((mqttDeserializeAck packet true false).2.1.getD 0) (getAckFromPacketType packet.type)
      .receive with hnew | ⟨qos, hnew⟩
    · rw [hnew]
      rfl
    · rw [hnew, Option.getD_some]
      revert hrel
      cases getAckFromPacketType packet.type <;> cases qos <;> decide

theorem callbackFrame_arrival {manageKeepAlive : Bool}
    (h : callbackFrame s packet manageKeepAlive = some frame) :
    Table .incoming frame.before.incomingPublishRecords ∧ Arrival s packet frame := by
  unfold callbackFrame at h
  split at h
  · rename_i hpublish
    exact publishFrame_arrival htable hpublish h
  unfold ackFrame at h
  dsimp only at h
  split_ifs at h with hack
  · exact publishAckFrame_arrival htable hack h
  · cases h
    exact ⟨htable, .other rfl rfl fun _ _ hreply => nomatch hreply⟩
  · cases h
    exact ⟨htable, .other rfl rfl fun _ _ hreply => nomatch hreply⟩

end Frames

/-! ## Handlers -/

/-- An acknowledgement that is refused changes no incoming record. -/
theorem updateStateAck_refused {t : PublishRecords} (htable : Table .incoming t.incomingPublishRecords)
    {packetId : UInt16} {packetType : PubAckType}
    (h : (mqttUpdateStateAck t packetId packetType .receive).1 ≠ .success) :
    let records' := (mqttUpdateStateAck t packetId packetType .receive).2.2.incomingPublishRecords
    Table .incoming records' ∧
      ∀ id, liveRecord records' id = liveRecord t.incomingPublishRecords id := by
  dsimp only
  by_cases hrel : packetType = .pubrel
  swap
  · have hside : isPublishOutgoing packetType .receive = true := by
      revert hrel
      cases packetType <;> decide
    rw [mqttUpdateStateAck_incoming t packetId hside]
    exact ⟨htable, fun _ => rfl⟩
  subst hrel
  by_cases hid : packetId = packetIdInvalid
  · rw [mqttUpdateStateAck, if_pos hid]
    exact ⟨htable, fun _ => rfl⟩
  obtain ⟨records', heq, htable', -, hrecords⟩ := mqttUpdateStateAck_record (t := t) hid
    (show ackDirection .pubrel .receive = .incoming from rfl) htable (.inl rfl)
  rw [heq] at h ⊢
  refine ⟨htable', fun id => (hrecords id).trans ?_⟩
  split
  swap
  · rfl
  rename_i heq
  subst heq
  change _ = liveRecord (t.table .incoming) id
  cases hr : liveRecord (t.table .incoming) id with
  | none => rfl
  | some r =>
    rw [hr] at h
    have hillegal : react .incoming r (.ack .pubrel) = .illegal := by
      by_contra hreact
      exact h (if_neg hreact)
    rw [ackRecord, Option.bind_some, hillegal]
    rfl

section Handlers

variable (c : Config) {s : Sys} (htable : Table .incoming s.incomingPublishRecords)
  (packet : PacketInfo) (manageKeepAlive : Bool)

theorem exchanged_dispatching : Exchanged s (s.dispatching packet) [] [] := ⟨_, rfl, rfl, rfl⟩

/-- Up to the callback nothing is sent. -/
theorem deliver_exchanged {frame : CallbackFrame}
    (hframe : callbackFrame (s.dispatching packet) packet manageKeepAlive = some frame) :
    Exchanged s (Operation.run c s (.deliver packet manageKeepAlive)) []
      (Event.callback packet frame.info).message.toList := by
  have hlog : frame.before.log = (s.dispatching packet).log := by
    obtain ⟨t, store, hbefore⟩ := callbackFrame_before hframe
    rw [hbefore]
    rfl
  rw [run_deliver c hframe]
  refine (exchanged_dispatching packet).trans (.of_event (e := .callback packet frame.info) ?_)
  exact congrArg (· ++ [Event.callback packet frame.info]) hlog

include htable

theorem deliver_downlink :
    let operation := Operation.deliver packet manageKeepAlive
    HasDownlinkEffect operation s (operation.run c s) := by
  dsimp only
  cases hframe : callbackFrame (s.dispatching packet) packet manageKeepAlive with
  | none =>
    rw [run_deliver_none c hframe]
    exact .of_eq htable rfl rfl
  | some frame =>
    obtain ⟨htable', harrival⟩ := callbackFrame_arrival (s := s.dispatching packet) htable hframe
    have hcalled := deliver_exchanged c packet manageKeepAlive hframe
    rw [run_deliver c hframe] at hcalled ⊢
    cases harrival with
    | other hrecords hmessage _ =>
      rw [hmessage] at hcalled
      exact .of_exchanged htable hcalled hrecords
    | publish info packetId hrequest hqos hnew hrecords hmessage _ =>
      rw [hmessage] at hcalled
      exact ⟨htable', _, _, hcalled, .arrive info packetId hrequest hqos hnew hrecords⟩
    | pubrel packetId r hrequest hqos hr hrecords hmessage _ =>
      rw [hmessage] at hcalled
      exact ⟨htable', _, _, hcalled, .release packetId r hrequest hqos hr hrecords⟩

/-- A PUBLISH that does not reach the callback. -/
theorem unheardPublish_downlink (hpublish : packet.type &&& 0xF0 = packetTypePublish)
    (h : publishFrame (s.dispatching packet) packet = none) :
    HasDownlinkEffect (.handle packet manageKeepAlive) s
      (handleIncomingPublish c (s.dispatching packet) packet).2 := by
  have hdispatched := exchanged_dispatching (s := s) packet
  rcases handleIncomingPublish_unheard c h with heq | ⟨hdecoded, hfailed, heq⟩
  · rw [heq]
    exact .of_exchanged htable hdispatched rfl
  have hpacketId := mqttDeserializePublish_packetId hdecoded
  have hrequest : packet.request =
      (mqttDeserializePublish packet).2.1.map fun packetId =>
        (packetId, .offer (mqttDeserializePublish packet).2.2.message) := by
    rw [PacketInfo.request, if_pos hpublish]
    exact if_pos hdecoded
  rw [heq]
  change (mqttUpdateStatePublish s.toPublishRecords _ _ _).1 ≠ _ at hfailed
  change HasDownlinkEffect _ s (if (mqttUpdateStatePublish s.toPublishRecords _ _ _).1 = _ then
    (sendPublishAcks c ((s.dispatching packet).setRecords
      (mqttUpdateStatePublish s.toPublishRecords _ _ _).2.2) _ _).2
    else (s.dispatching packet).setRecords (mqttUpdateStatePublish s.toPublishRecords _ _ _).2.2)
  generalize (mqttDeserializePublish packet).2.2 = info at *
  by_cases hqos : info.qos = .qos0
  · rw [mqttUpdateStatePublish, if_pos hqos] at hfailed
    exact absurd rfl hfailed
  rw [hpacketId hqos] at hrequest
  generalize (mqttDeserializePublish packet).2.1.getD 0 = packetId at *
  by_cases hid : packetId = packetIdInvalid
  · rw [mqttUpdateStatePublish, if_neg hqos, if_pos hid, if_neg (by simp)]
    exact .of_exchanged htable hdispatched rfl
  obtain ⟨status, records', hupdated, htable', -, hadded⟩ :=
    mqttUpdateStatePublish_receive_spec (t := s.toPublishRecords) hid htable hqos
  rw [hupdated] at hfailed ⊢
  have hrecords : ∀ id, liveRecord records' id = s.incoming id := by
    intro id
    rw [hadded.liveRecord_eq, if_neg fun hok => hfailed hok.1]
    rfl
  have hset : Exchanged s ((s.dispatching packet).setRecords
      (s.toPublishRecords.setTable .incoming records')) [] [] := hdispatched
  dsimp only
  split
  swap
  · exact ⟨htable', [], [], hset, .none (funext hrecords)⟩
  rename_i hcollision
  subst hcollision
  refine sendPublishAcks_downlink c htable' hset (funext hrecords) fun packetType hack => ?_
  obtain ⟨r, hr⟩ := hadded.liveRecord_of_collision
  exact .duplicate info.message hrequest (Option.ne_none_iff_exists'.2 ⟨r, hr⟩) hack

theorem handle_downlink :
    let operation := Operation.handle packet manageKeepAlive
    HasDownlinkEffect operation s (operation.run c s) := by
  dsimp only
  cases hframe : callbackFrame (s.dispatching packet) packet manageKeepAlive with
  | some frame =>
    rw [run_handle_some c hframe]
    exact .of_eq htable rfl rfl
  | none =>
    rw [run_handle c hframe]
    have hdispatched := exchanged_dispatching (s := s) packet
    unfold callbackFrame at hframe
    show HasDownlinkEffect _ s (if packet.type &&& 0xF0 = packetTypePublish then
      handleIncomingPublish c (s.dispatching packet) packet
      else handleIncomingAck c (s.dispatching packet) packet manageKeepAlive).2
    split at hframe
    · rename_i hpublish
      rw [if_pos hpublish]
      exact unheardPublish_downlink c htable packet manageKeepAlive hpublish hframe
    rename_i hpublish
    rw [if_neg hpublish]
    rcases handleIncomingAck_unheard c hframe with ⟨waitingForPingResp, heq⟩ | ⟨hrefused, heq⟩
    · rw [heq]
      exact .of_exchanged htable hdispatched rfl
    · obtain ⟨htable', hrecords⟩ := updateStateAck_refused (t := s.toPublishRecords) htable hrefused
      rw [heq]
      exact ⟨htable', [], [], hdispatched, .none (funext hrecords)⟩

end Handlers

/-! ## Other operations -/

section Others

variable (c : Config) {s : Sys} (htable : Table .incoming s.incomingPublishRecords)

include htable

theorem resend_downlink (packetId : UInt16) :
    let operation := Operation.resend packetId
    HasDownlinkEffect operation s (operation.run c s) := by
  obtain ⟨-, retrieveResults, heq⟩ := callRetrieve_spec s packetId
  unfold Operation.run
  dsimp only
  rw [heq]
  split
  · exact .of_eq htable rfl rfl
  · rename_i packet _
    obtain ⟨n, stop, hsent, -⟩ := sendPacket_spec c { s with retrieveResults } (.resend packetId)
      packet
    exact .of_exchanged htable (.of_sent (s := s) hsent.log_eq rfl)
      (congrArg PublishRecords.incomingPublishRecords hsent.records)

theorem establish_downlink (info : ConnectInfo) (will : Option PublishInfo) (timeoutMs : UInt32) :
    let operation := Operation.establish info will timeoutMs
    HasDownlinkEffect operation s (operation.run c s) := by
  have hsize := connectPacketSize_le (some info) will
  have hkept : ∀ sent, sent = sendConnectWithoutCopy c s info will
      (mqttGetConnectPacketSize (some info) will).2.1 →
      Exchanged s sent.2 [] [] ∧ sent.2.incomingPublishRecords = s.incomingPublishRecords := by
    rintro sent rfl
    rcases sendConnectWithoutCopy_spec c s info will hsize with ⟨-, heq⟩ | ⟨_, _, _, hsent, -⟩
    · rw [heq]
      exact ⟨.of_log_eq rfl, rfl⟩
    · exact ⟨.of_sent hsent.log_eq rfl,
        congrArg PublishRecords.incomingPublishRecords hsent.records⟩
  unfold Operation.run FreeMqtt.establish
  dsimp only
  generalize sendConnectWithoutCopy c s info will
    (mqttGetConnectPacketSize (some info) will).2.1 = sent at hkept
  obtain ⟨hexchanged, hrecords⟩ := hkept sent rfl
  split
  · exact .of_exchanged htable hexchanged hrecords
  have hreads := (reads_receiveConnack c sent.2 timeoutMs info.cleanSession).received
  generalize receiveConnack c sent.2 timeoutMs info.cleanSession = connack at hreads
  replace hexchanged := hexchanged.trans (.of_log_eq hreads.log)
  have hrecords' := (congrArg PublishRecords.incomingPublishRecords hreads.records).trans hrecords
  split
  · exact .of_exchanged htable hexchanged hrecords'
  split
  · obtain ⟨store, heq⟩ := handleCleanSession_eq connack.2.2
    rw [heq]
    refine ⟨table_holes .incoming _, [], [], hexchanged, .clean rfl fun id => ?_⟩
    show lookup PubAckInfo.packetId id (live (holes _)) = none
    rw [live_holes]
    rfl
  · exact .of_exchanged htable hexchanged hrecords'

theorem setUp_downlink {call : ApiCall} (hsets : ¬ call.SetsRecords) :
    let operation := Operation.setUp call
    HasDownlinkEffect operation s (operation.run c s) := by
  cases call with
  | init _ _ _ _ => exact absurd trivial hsets
  | initStatefulQoS _ _ _ _ => exact absurd trivial hsets
  | initRetransmits storeFunction retrieveFunction clearFunction =>
    unfold Operation.run ApiCall.run mqttInitRetransmits
    dsimp only
    split_ifs
    · exact .of_eq htable rfl rfl
    · exact .of_eq htable rfl rfl
    · exact .of_eq htable rfl rfl
    · exact .of_eq htable rfl rfl
  | _ => exact .of_eq htable rfl rfl

/-- Every operation of a run. -/
theorem Operation.downlinkEffect {operation : Operation} (hsets : ¬ operation.SetsRecords) :
    HasDownlinkEffect operation s (operation.run c s) := by
  have hreads : ∀ {s'}, Reads s s' → HasDownlinkEffect operation s s' := fun h =>
    .of_eq htable (congrArg PublishRecords.incomingPublishRecords h.received.records) h.received.log
  cases operation with
  | request call =>
    obtain ⟨hrecords, hexchanged⟩ := (call.requests c s).exchanged
    exact .of_exchanged htable hexchanged hrecords
  | acknowledge packetId state =>
    exact sendPublishAcks_downlink c htable (.of_log_eq rfl) rfl fun packetType hack =>
      .after state rfl hack
  | deliver packet manageKeepAlive => exact deliver_downlink c htable packet manageKeepAlive
  | handle packet manageKeepAlive => exact handle_downlink c htable packet manageKeepAlive
  | establish info will timeoutMs => exact establish_downlink c htable info will timeoutMs
  | resend packetId => exact resend_downlink c htable packetId
  | read => exact hreads (reads_readIntoBuffer c s)
  | discard packet => exact hreads (reads_discardStoredPacket c s packet)
  | setUp call => exact setUp_downlink c htable hsets
  | _ => exact .of_eq htable rfl rfl

end Others

end FreeMqtt

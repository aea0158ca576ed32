import FreeMqtt.Core.PublishTrace
import FreeMqtt.Core.ServerPackets
import FreeMqtt.Core.StoredCopies

/-!
# What an operation puts on the connection

For every operation of a run: the requests that it puts on the connection, together with what it
does to the outgoing records and the stored copies (`Operation.uplinkEffect`). A PUBLISH comes from
a new record or from the store, a PUBREL from `sendPublishAcks`, and an acknowledgement of the
server changes its own record only.
-/

namespace FreeMqtt

open Handover KeyedList

/-- The acknowledgement of an outgoing publish that an operation takes. -/
def Operation.acks : Operation → Option (UInt16 × PubAckType)
  | .deliver packet _ | .handle packet _ =>
      (outgoingAckType packet.type).map fun packetType => (ackPacketId packet, packetType)
  | _ => none

/-- What an operation does, with the requests that it puts on the connection. -/
inductive UplinkEffect (operation : Operation) (s s' : Sys) :
    List (UInt16 × Request Message) → Prop
  | none (hrecords : s'.outgoing = s.outgoing) (hstore : s'.store = s.store) :
      UplinkEffect operation s s' []
  /-- a new message, with its stored copy -/
  | start (info : PublishInfo) (packetId : UInt16) (r : PubAckInfo) (copy : List UInt8)
      (hoperation : operation = .request (.publish (some info) packetId))
      (hnew : s.outgoing packetId = .none) (hr : s'.outgoing packetId = some r)
      (hstate : r.publishState ∈ publishStates)
      (hothers : ∀ id, id ≠ packetId → s'.outgoing id = s.outgoing id)
      (hcopy : serverPacket copy = some (packetId, .offer info.message))
      (hstore : s'.store = fun id => if id = packetId then some copy else s.store id)
      {requests : List (UInt16 × Request Message)}
      (hrequests : requests = [] ∨ requests = [(packetId, .offer info.message)]) :
      UplinkEffect operation s s' requests
  /-- a record is cancelled, or lost by the move to the end of a full array -/
  | drop (packetId : UInt16)
      (hrecords : ∀ id, s'.outgoing id = if id = packetId then .none else s.outgoing id)
      (hstore : s'.store = s.store) : UplinkEffect operation s s' []
  | acked (packetType : PubAckType) (packetId : UInt16) (r : PubAckInfo)
      (hacks : operation.acks = some (packetId, packetType)) (htype : packetType ≠ .pubrel)
      (hr : s.outgoing packetId = some r) (hreact : react .outgoing r (.ack packetType) ≠ .illegal)
      (hrecords : ∀ id, s'.outgoing id =
        if id = packetId then (react .outgoing r (.ack packetType)).apply r else s.outgoing id)
      (hstore : ∀ id, id ≠ packetId → s'.store id = s.store id) : UplinkEffect operation s s' []
  /-- a PUBREL is tried; the record goes on to wait for PUBCOMP when it is completely sent -/
  | release (packetId : UInt16) (state : PublishState)
      (hoperation : operation = .acknowledge packetId state) (hack : ackToSend state = some .pubrel)
      (hothers : ∀ id, id ≠ packetId → s'.outgoing id = s.outgoing id)
      (hrecord : s'.outgoing packetId = s.outgoing packetId ∨
        ∃ r, s'.outgoing packetId = some r ∧ r.publishState ∈ pubrelStates)
      (hstore : s'.store = s.store) {requests : List (UInt16 × Request Message)}
      (hrequests : requests = [] ∨ requests = [(packetId, .release)]) :
      UplinkEffect operation s s' requests
  | resend (packetId : UInt16) (hoperation : operation = .resend packetId)
      (hrecords : s'.outgoing = s.outgoing) (hstore : s'.store = s.store)
      {requests : List (UInt16 × Request Message)}
      (hrequests : requests = [] ∨ requests = ((s.store packetId).bind serverPacket).toList) :
      UplinkEffect operation s s' requests
  /-- a clean session -/
  | clean (hrecords : ∀ id, s'.outgoing id = .none) : UplinkEffect operation s s' []

/-- The effect of an operation that is given its requests. -/
def HasEffect (operation : Operation) (s s' : Sys) : Prop :=
  ∃ requests, Requested s s' requests ∧ UplinkEffect operation s s' requests

theorem HasEffect.of_eq {operation : Operation} {s s' : Sys}
    (hrecords : s'.outgoingPublishRecords = s.outgoingPublishRecords) (hstore : s'.store = s.store)
    (hlog : s'.log = s.log) : HasEffect operation s s' :=
  ⟨[], .of_log_eq hlog, .none (by unfold Sys.outgoing; rw [hrecords]) hstore⟩

/-- Packets that are no requests. -/
theorem HasEffect.of_requested {operation : Operation} {s s' : Sys} (h : Requested s s' [])
    (hrecords : s'.outgoingPublishRecords = s.outgoingPublishRecords) (hstore : s'.store = s.store) :
    HasEffect operation s s' :=
  ⟨[], h, .none (by unfold Sys.outgoing; rw [hrecords]) hstore⟩

/-- What a packet leaves alone. -/
theorem Sent.kept {s s' : Sys} {kind : PacketKind} {packet : List UInt8} {n : Nat} {stop : Stop}
    (h : Sent s s' kind packet n stop) :
    s'.outgoingPublishRecords = s.outgoingPublishRecords ∧ s'.store = s.store := by
  obtain ⟨-, -, ticks, sends, lastTx, rfl⟩ := h
  exact ⟨rfl, rfl⟩

theorem HasEffect.of_sent {operation : Operation} {s s' : Sys} {kind : PacketKind}
    {packet : List UInt8} {n : Nat} {stop : Stop} (h : Sent s s' kind packet n stop)
    (hpacket : serverPacket packet = none) : HasEffect operation s s' :=
  .of_requested (.of_silent h.log_eq hpacket) h.kept.1 h.kept.2

/-! ## Publishes -/

/-- From the reserved record on: the copy is stored, and the packet is handed to the transport. -/
theorem publishReserved_hands (c : Config) {s : Sys} {info : PublishInfo} {packetId : UInt16}
    (hqos : info.qos ≠ .qos0) (hstores : storesCopy s = true)
    (hsize : (mqttGetPublishPacketSize info).1 = .success) :
    let s' := (publishReserved c s info packetId).2
    s'.store = (fun id => if id = packetId then
      some (publishCopy info (mqttGetPublishPacketSize info).2.1 packetId) else s.store id) ∧
    ∃ n stop, s'.log = s.log ++ [.sent (.publish packetId info.qos)
      (publishMessage info (mqttGetPublishPacketSize info).2.1 packetId).flatten n stop] := by
  obtain ⟨hfunction, hresult⟩ := of_decide_eq_true hstores
  refine publishReserved_copy c hqos hfunction hsize (.inr ?_)
  obtain ⟨store, storeResults, heq⟩ := @publishReserved_stored c s info packetId hqos
    fun hfails : StoreFails s => hresult hfails.2
  obtain ⟨n, stop, hsent, -⟩ := sendVectors_spec c { s with store, storeResults } hsize packetId
  have hlog := hsent.log_eq
  rw [heq]
  split
  · intro hsame
    exact absurd (hlog.symm.trans hsame) (by simp)
  · intro hsame
    exact absurd (hlog.symm.trans hsame) (by simp)

/-- A publish that has a record is stored, and its packet is handed to the transport. -/
theorem mqttPublish_hands (c : Config) {s : Sys}
    (htable : Table .outgoing s.outgoingPublishRecords) {info : PublishInfo} {packetId : UInt16}
    (h : Publishable s info packetId) {r : PubAckInfo}
    (hr : publishedRecord s info packetId = some r) (hstores : storesCopy s = true) :
    let s' := (mqttPublish c s (some info) packetId).2
    s'.store = (fun id => if id = packetId then
      some (publishCopy info (mqttGetPublishPacketSize info).2.1 packetId) else s.store id) ∧
    ∃ n stop, s'.log = s.log ++ [.sent (.publish packetId info.qos)
      (publishMessage info (mqttGetPublishPacketSize info).2.1 packetId).flatten n stop] := by
  have hreserved := reserve_publishedRecord htable h.packetId_ne h.2.2.2
  rw [hr] at hreserved
  have houtcome := mqttPublish_cases c s info packetId
  generalize mqttPublish c s (some info) packetId = published at houtcome
  cases houtcome with
  | rejected hchecks => exact absurd ⟨h.1, h.2.1, h.2.2.1⟩ hchecks
  | unreserved _ hfail => exact absurd hreserved.2.2.1 hfail
  | reserved hchecks _ => exact publishReserved_hands c h.2.2.2 hstores hchecks.size

/-- The stored copy, as a server reads it. -/
theorem serverPacket_publishCopy {s : Sys} {info : PublishInfo} {packetId : UInt16}
    (h : Publishable s info packetId) :
    serverPacket (publishCopy info (mqttGetPublishPacketSize info).2.1 packetId) =
      some (packetId, .offer info.message) := by
  have hpacket := @serverPacket_publish { info with dup := true } h.2.1 packetId
    fun _ => h.packetId_ne
  rwa [if_neg h.2.2.2] at hpacket

/-- A new message is reserved, stored and sent. -/
theorem mqttPublish_start (c : Config) {s : Sys}
    (htable : Table .outgoing s.outgoingPublishRecords) {info : PublishInfo} {packetId : UInt16}
    (h : Publishable s info packetId) {r : PubAckInfo}
    (hr : publishedRecord s info packetId = some r) (hstores : storesCopy s = true)
    (hnew : s.outgoing packetId = none) :
    HasEffect (.request (.publish (some info) packetId)) s
      (mqttPublish c s (some info) packetId).2 := by
  obtain ⟨hpublishes, -⟩ := mqttPublish_publishes c htable h hr
  obtain ⟨hstore, n, stop, hlog⟩ := mqttPublish_hands c htable h hr hstores
  obtain ⟨requests, hrequested, hrequests⟩ := Requested.of_packet hlog
  rw [serverPacket_publish h.2.1 fun _ => h.packetId_ne, if_neg h.2.2.2] at hrequests
  have hstate : r.publishState ∈ publishStates := by
    obtain ⟨-, rfl⟩ := (publishedRecord_of_new hnew).1 hr
    rw [firstRecord_outgoing packetId h.2.2.2]
    simp [publishStates]
  obtain ⟨r', hr', -, hstate'⟩ := hpublishes.outgoing_eq
  exact ⟨requests, hrequested, .start info packetId r' _ rfl hnew hr' (hstate'.2 hstate)
    hpublishes.others (serverPacket_publishCopy h) hstore hrequests⟩

theorem mqttPublish_uplink (c : Config) {s : Sys}
    (htable : Table .outgoing s.outgoingPublishRecords) {info : PublishInfo} {packetId : UInt16}
    (hstores : info.qos ≠ .qos0 → storesCopy s = true)
    (hnew : info.qos ≠ .qos0 → info.dup = true → s.outgoing packetId = none) :
    HasEffect (.request (.publish (some info) packetId)) s
      (mqttPublish c s (some info) packetId).2 := by
  rcases publishedRecord_cases s info packetId with ⟨r, h, hr⟩ | hnone
  · have hqos := h.2.2.2
    refine mqttPublish_start c htable h hr (hstores hqos) ?_
    by_contra hlive
    obtain ⟨r', hr'⟩ := Option.ne_none_iff_exists'.1 hlive
    obtain ⟨hdup, -⟩ := (publishedRecord_of_live hr').1 hr
    exact hlive (hnew hqos hdup)
  by_cases hqos : info.qos = .qos0
  · rcases mqttPublish_qos0 c hqos with hsame | ⟨hsize, n, stop, hsent⟩
    · rw [hsame]
      exact .of_eq rfl rfl rfl
    · refine .of_sent hsent ?_
      rw [serverPacket_publish hsize fun h => absurd hqos h, if_pos hqos]
  · obtain ⟨t, heq, hrecords, -⟩ := mqttPublish_unrecorded c htable hqos hnone
    rw [heq]
    exact ⟨[], .of_log_eq rfl, .none hrecords rfl⟩

/-! ## Acknowledgements -/

/-- No acknowledgement but PUBREL is a request, or changes an outgoing record. -/
theorem sendPublishAcks_silent (c : Config) {s : Sys}
    (htable : Table .outgoing s.outgoingPublishRecords) (packetId : UInt16) {state : PublishState}
    (h : ackToSend state ≠ some .pubrel) :
    let s' := (sendPublishAcks c s packetId state).2
    Requested s s' [] ∧ s'.outgoing = s.outgoing ∧ s'.store = s.store := by
  dsimp only
  by_cases hsend : packetId = 0 ∨ s.connectStatus ≠ .connected
  · rw [sendPublishAcks_unsent c state hsend]
    exact ⟨.of_log_eq rfl, rfl, rfl⟩
  obtain ⟨hid, hconn⟩ := not_or.1 hsend
  rw [not_not] at hconn
  cases hack : ackToSend state with
  | none =>
    rw [sendPublishAcks_none c s packetId hack]
    exact ⟨.of_log_eq rfl, rfl, rfl⟩
  | some packetType =>
    obtain ⟨s₁, n, stop, hsent, heq⟩ := sendPublishAcks_connected c hack hid hconn
    have hne : packetType ≠ .pubrel := by
      rintro rfl
      exact h hack
    have hrequested : Requested s s₁ [] := by
      refine .of_silent hsent.log_eq ?_
      rw [serverPacket_ack packetType hid, if_neg hne]
    have hrecords := congrArg PublishRecords.outgoingPublishRecords hsent.records
    have hstore : s₁.store = s.store := by
      obtain ⟨-, -, ticks, sends, lastTx, hs₁⟩ := hsent
      rw [hs₁]
    rw [heq]
    split
    swap
    · exact ⟨hrequested, funext fun id => congrArg (liveRecord · id) hrecords, hstore⟩
    refine ⟨hrequested, funext fun id => ?_, hstore⟩
    have hincoming : ackDirection packetType .send ≠ .outgoing := by
      cases packetType with
      | pubrel => exact absurd rfl hne
      | _ => exact nofun
    obtain ⟨-, heffect⟩ := mqttUpdateStateAck_effect htable packetId packetType .send
    cases heffect with
    | none hsame _ => exact hsame id
    | lost hdirection => exact absurd hdirection hincoming
    | accepted _ hdirection => exact absurd hdirection hincoming

theorem sendPublishAcks_uplink (c : Config) {s : Sys}
    (htable : Table .outgoing s.outgoingPublishRecords) (packetId : UInt16) (state : PublishState) :
    HasEffect (.acknowledge packetId state) s (sendPublishAcks c s packetId state).2 := by
  by_cases hack : ackToSend state = some .pubrel
  swap
  · obtain ⟨hrequested, hrecords, hstore⟩ := sendPublishAcks_silent c htable packetId hack
    exact ⟨[], hrequested, .none hrecords hstore⟩
  by_cases hsend : packetId = 0 ∨ s.connectStatus ≠ .connected
  · rw [sendPublishAcks_unsent c state hsend]
    exact .of_eq rfl rfl rfl
  obtain ⟨hid, hconn⟩ := not_or.1 hsend
  obtain ⟨s₁, n, stop, hsent, heq⟩ := sendPublishAcks_connected c hack hid (not_not.1 hconn)
  obtain ⟨requests, hrequested, hrequests⟩ := Requested.of_packet hsent.log_eq
  rw [serverPacket_ack .pubrel hid, if_pos rfl] at hrequests
  have hrecords := congrArg PublishRecords.outgoingPublishRecords hsent.records
  have hstore : s₁.store = s.store := by
    obtain ⟨-, -, ticks, sends, lastTx, hs₁⟩ := hsent
    rw [hs₁]
  refine ⟨requests, ?_⟩
  rw [heq]
  split
  swap
  · have hsame : ∀ id, s₁.outgoing id = s.outgoing id := fun id =>
      congrArg (liveRecord · id) hrecords
    exact ⟨hrequested, .release packetId state rfl hack (fun id _ => hsame id) (.inl (hsame packetId))
      hstore hrequests⟩
  obtain ⟨-, heffect⟩ := mqttUpdateStateAck_effect htable packetId .pubrel .send
  refine ⟨hrequested, .release packetId state rfl hack (fun id hne => ?_) ?_ ?_ hrequests⟩
  · cases heffect with
    | none hsame _ => exact hsame id
    | lost _ htype _ _ => exact nomatch htype
    | accepted r _ hr hreact hchanged _ => exact (hchanged id).trans (if_neg hne)
  · cases heffect with
    | none hsame _ => exact .inl (hsame packetId)
    | lost _ htype _ _ => exact nomatch htype
    | accepted r _ hr hreact hchanged _ =>
      have hchanged' := (hchanged packetId).trans (if_pos rfl)
      rcases react_outgoing_cases (htable.valid r (lookup_mem hr)) hreact with
        ⟨heq, -⟩ | ⟨heq, -⟩ | ⟨-, -, -, hpending⟩ | ⟨heq, -⟩
      · cases heq
      · cases heq
      · exact .inr ⟨_, hchanged'.trans hpending, by simp [pubrelStates]⟩
      · cases heq
  · exact hstore

/-! ## Handlers -/

theorem outgoingAckType_publishAck {packet : PacketInfo} {packetType : PubAckType}
    (h : outgoingAckType packet.type = some packetType) : isPublishAck packet.type = true := by
  unfold outgoingAckType at h
  split at h
  · rename_i hack
    exact hack.1
  · cases h

/-- The packet id that the callback gets. -/
theorem callbackFrame_packetId {s : Sys} {packet : PacketInfo} {manageKeepAlive : Bool}
    {frame : CallbackFrame} (h : callbackFrame s packet manageKeepAlive = some frame)
    (hack : isPublishAck packet.type = true) :
    frame.info.packetIdentifier = ackPacketId packet := by
  unfold callbackFrame at h
  split at h
  · rename_i hpublish
    exact absurd (isPublishAck_publish hpublish) (by simp [hack])
  unfold ackFrame at h
  dsimp only at h
  rw [if_pos hack] at h
  unfold publishAckFrame at h
  dsimp only at h
  split at h
  · cases h
    rfl
  · cases h

theorem deliver_uplink (c : Config) {s : Sys} (htable : Table .outgoing s.outgoingPublishRecords)
    (packet : PacketInfo) (manageKeepAlive : Bool) :
    let operation := Operation.deliver packet manageKeepAlive
    HasEffect operation s (operation.run c s) := by
  dsimp only
  cases hframe : callbackFrame (s.dispatching packet) packet manageKeepAlive with
  | none =>
    rw [run_deliver_none c hframe]
    exact .of_eq rfl rfl rfl
  | some frame =>
    obtain ⟨t, store, hbefore, -, heffect⟩ := callbackFrame_effect (s := s.dispatching packet)
      htable hframe
    rw [run_deliver c hframe, hbefore]
    have hdispatched : Requested s (s.dispatching packet) [] := ⟨_, rfl, rfl⟩
    refine ⟨[], hdispatched.trans ⟨[.callback packet frame.info], rfl, rfl⟩, ?_⟩
    cases heffect with
    | none _ hrecords hstore => exact .none (funext hrecords) hstore
    | acked packetType r htype hne hr hreact hrecords hstore =>
      have hid := callbackFrame_packetId hframe (outgoingAckType_publishAck htype)
      rw [hid] at hr hrecords hstore
      refine .acked packetType (ackPacketId packet) r ?_ hne hr hreact hrecords fun id hne =>
        (hstore id).resolve_right fun h => hne h.1
      show (outgoingAckType packet.type).map _ = _
      rw [htype]
      rfl

theorem handle_uplink (c : Config) {s : Sys} (htable : Table .outgoing s.outgoingPublishRecords)
    (packet : PacketInfo) (manageKeepAlive : Bool) :
    let operation := Operation.handle packet manageKeepAlive
    HasEffect operation s (operation.run c s) := by
  dsimp only
  cases hframe : callbackFrame (s.dispatching packet) packet manageKeepAlive with
  | some frame =>
    rw [run_handle_some c hframe]
    exact .of_eq rfl rfl rfl
  | none =>
    rw [run_handle c hframe]
    have hdispatched : Requested s (s.dispatching packet) [] := ⟨_, rfl, rfl⟩
    have houtcome := handlePacket_silent c hframe
    generalize handlePacket c manageKeepAlive packet s = result at houtcome
    cases houtcome with
    | refused _ => exact ⟨[], hdispatched, .none rfl rfl⟩
    | pingresp => exact ⟨[], hdispatched, .none rfl rfl⟩
    | @publish _ _ t qos packetId hupdated _ =>
      have hrecords := mqttUpdateStatePublish_receive_outgoing s.toPublishRecords packetId qos
      change mqttUpdateStatePublish s.toPublishRecords packetId .receive qos = _ at hupdated
      rw [hupdated] at hrecords
      exact ⟨[], hdispatched, .none (funext fun id => congrArg (liveRecord · id) hrecords) rfl⟩
    | @duplicate _ t qos packetId hupdated =>
      have hrecords := mqttUpdateStatePublish_receive_outgoing s.toPublishRecords packetId qos
      change mqttUpdateStatePublish s.toPublishRecords packetId .receive qos = _ at hupdated
      rw [hupdated] at hrecords
      -- only PUBACK and PUBREC answer a duplicate
      have hack : ackToSend (mqttCalculateStatePublish .receive qos) ≠ some .pubrel := by
        cases qos <;> decide
      obtain ⟨hrequested, hrecords', hstore⟩ := sendPublishAcks_silent c
        (s := (s.dispatching packet).setRecords t) (hrecords ▸ htable) packetId hack
      have hsame : ((s.dispatching packet).setRecords t).outgoing = s.outgoing :=
        funext fun id => congrArg (liveRecord · id) hrecords
      exact ⟨[], hdispatched.trans hrequested, .none (hrecords'.trans hsame) hstore⟩
    | @ack status _ t packetId hupdated hstatus =>
      obtain ⟨htable', heffect⟩ := mqttUpdateStateAck_effect htable packetId
        (getAckFromPacketType packet.type) .receive
      change mqttUpdateStateAck s.toPublishRecords _ _ _ = _ at hupdated
      rw [hupdated] at htable' heffect
      cases heffect with
      | none hrecords _ => exact ⟨[], hdispatched, .none (funext hrecords) rfl⟩
      | lost _ _ hrecords _ => exact ⟨[], hdispatched, .drop packetId hrecords rfl⟩
      | accepted _ _ _ _ _ hok => exact absurd hok hstatus

/-! ## Other operations -/

theorem serverPacket_subscribe (remainingLength : Nat) (packetId : UInt16) (rest : List UInt8) :
    serverPacket (mqttSerializeSubscribeHeader remainingLength packetId ++ rest) = none :=
  serverPacket_invalid (by decide)

theorem serverPacket_unsubscribe (remainingLength : Nat) (packetId : UInt16) (rest : List UInt8) :
    serverPacket (mqttSerializeUnsubscribeHeader remainingLength packetId ++ rest) = none :=
  serverPacket_invalid (by decide)

theorem request_uplink (c : Config) {s : Sys} (htable : Table .outgoing s.outgoingPublishRecords)
    (call : SendCall)
    (hpublish : ∀ publish ∈ (Operation.request call).published, publish.1.qos ≠ .qos0 →
      storesCopy s = true ∧ (publish.1.dup = true → s.outgoing publish.2 = none)) :
    let operation := Operation.request call
    HasEffect operation s (operation.run c s) := by
  dsimp only
  cases call with
  | publish info packetId =>
    cases info with
    | none => exact .of_eq rfl rfl rfl
    | some info =>
      have h := hpublish (info, packetId) rfl
      exact mqttPublish_uplink c htable (fun hqos => (h hqos).1) fun hqos => (h hqos).2
  | subscribe list packetId =>
    show HasEffect _ s (mqttSubscribe c s list packetId).2
    unfold mqttSubscribe
    dsimp only
    split_ifs with hvalid hsize hconn
    · exact .of_eq rfl rfl rfl
    · exact .of_eq rfl rfl rfl
    · exact .of_eq rfl rfl rfl
    · obtain ⟨n, stop, hsent⟩ := sendTopicPacket_spec (topicVectors_subscribe c) s .subscribe
        (length_topicHeader_le packetId (getSubscribePacketSize_le (not_not.1 hsize)))
        (list.getD [])
      exact .of_sent hsent (serverPacket_subscribe ..)
  | unsubscribe list packetId =>
    show HasEffect _ s (mqttUnsubscribe c s list packetId).2
    unfold mqttUnsubscribe
    dsimp only
    split_ifs with hvalid hsize hconn
    · exact .of_eq rfl rfl rfl
    · exact .of_eq rfl rfl rfl
    · exact .of_eq rfl rfl rfl
    · obtain ⟨n, stop, hsent⟩ := sendTopicPacket_spec (topicVectors_unsubscribe c) s .unsubscribe
        (length_topicHeader_le packetId (getUnsubscribePacketSize_le (not_not.1 hsize)))
        (list.getD [])
      exact .of_sent hsent (serverPacket_unsubscribe ..)
  | ping =>
    show HasEffect _ s (mqttPing c s).2
    unfold mqttPing
    split
    · exact .of_eq rfl rfl rfl
    · obtain ⟨n, stop, hsent, -⟩ := sendPacket_spec c s .pingreq mqttSerializePingreq
      have hrequested : Requested s (sendPacket c s .pingreq mqttSerializePingreq).2 [] :=
        .of_silent hsent.log_eq (serverPacket_invalid (by decide))
      dsimp only
      split
      · exact .of_requested hrequested hsent.kept.1 hsent.kept.2
      · exact .of_requested hrequested hsent.kept.1 hsent.kept.2
  | disconnect =>
    show HasEffect _ s (mqttDisconnect c s).2
    rcases mqttDisconnect_outcome c s with ⟨-, heq⟩ | ⟨-, n, stop, hsent⟩
    · rw [heq]
      exact .of_eq rfl rfl rfl
    · have hrequested : Requested s (mqttDisconnect c s).2 [] :=
        .of_silent hsent.log_eq (serverPacket_invalid (by decide))
      exact .of_requested hrequested hsent.kept.1 hsent.kept.2
  | cancelCallback packetId =>
    obtain ⟨records', heq, -, hrecords⟩ := mqttCancelCallback_spec htable packetId
    show HasEffect _ s (mqttCancelCallback s packetId).2
    rw [heq]
    exact ⟨[], .of_log_eq rfl, .drop packetId hrecords rfl⟩
  | getPacketId => exact .of_eq rfl rfl rfl

theorem resend_uplink (c : Config) (s : Sys) (packetId : UInt16) :
    let operation := Operation.resend packetId
    HasEffect operation s (operation.run c s) := by
  obtain ⟨hretrieved, retrieveResults, heq⟩ := callRetrieve_spec s packetId
  unfold Operation.run
  dsimp only
  rw [heq]
  split
  · exact .of_eq rfl rfl rfl
  · rename_i packet hpacket
    have hstored : s.store packetId = some packet := by
      rw [hpacket] at hretrieved
      exact (List.mem_singleton.1 ((List.mem_cons.1 hretrieved).resolve_left nofun)).symm
    obtain ⟨n, stop, hsent, -⟩ := sendPacket_spec c { s with retrieveResults } (.resend packetId)
      packet
    have hlog := hsent.log_eq
    obtain ⟨hrecords, hstore⟩ := hsent.kept
    generalize (sendPacket c { s with retrieveResults } (.resend packetId) packet).2 = s' at *
    obtain ⟨requests, hrequested, hrequests⟩ := Requested.of_packet (s := s) hlog
    have hsame : s'.outgoing = s.outgoing := funext fun id => congrArg (liveRecord · id) hrecords
    refine ⟨requests, hrequested, .resend packetId rfl hsame hstore ?_⟩
    rwa [hstored, Option.bind_some]

/-- The first byte of a CONNECT. -/
theorem sendConnectWithoutCopy_requested (c : Config) (s : Sys) (info : ConnectInfo)
    (will : Option PublishInfo) {remainingLength : Nat} (h : remainingLength ≤ maxRemainingLength) :
    let s' := (sendConnectWithoutCopy c s info will remainingLength).2
    Requested s s' [] := by
  unfold sendConnectWithoutCopy
  dsimp only
  split
  · exact .of_log_eq rfl
  · obtain ⟨-, hshort⟩ := shortVectors_connect info will h
    obtain ⟨n, stop, hsent, -⟩ := (sendMessageVector_spec c s
      fun v hv => Nat.lt_of_le_of_lt (hshort v hv) (by decide)).recordSent .connect
    exact .of_silent hsent.log_eq (serverPacket_invalid (by decide))

theorem establish_uplink (c : Config) (s : Sys) (info : ConnectInfo) (will : Option PublishInfo)
    (timeoutMs : UInt32) :
    let operation := Operation.establish info will timeoutMs
    HasEffect operation s (operation.run c s) := by
  have hsize := connectPacketSize_le (some info) will
  have hrequested := sendConnectWithoutCopy_requested c s info will hsize
  have hkept : ∀ sent, sent = (sendConnectWithoutCopy c s info will
      (mqttGetConnectPacketSize (some info) will).2.1).2 →
      sent.outgoingPublishRecords = s.outgoingPublishRecords ∧ sent.store = s.store := by
    rintro sent rfl
    rcases sendConnectWithoutCopy_spec c s info will hsize with ⟨-, heq⟩ | ⟨_, _, _, hsent, -⟩
    · rw [heq]
      exact ⟨rfl, rfl⟩
    · exact hsent.kept
  unfold Operation.run FreeMqtt.establish
  dsimp only at hrequested ⊢
  generalize sendConnectWithoutCopy c s info will
    (mqttGetConnectPacketSize (some info) will).2.1 = sent at hrequested hkept
  obtain ⟨hrecords, hstore⟩ := hkept sent.2 rfl
  split
  · exact .of_requested hrequested hrecords hstore
  have hreads := (reads_receiveConnack c sent.2 timeoutMs info.cleanSession).received
  generalize receiveConnack c sent.2 timeoutMs info.cleanSession = connack at hreads
  replace hrequested := hrequested.trans (.of_log_eq hreads.log)
  have hrecords' := (congrArg PublishRecords.outgoingPublishRecords hreads.records).trans hrecords
  have hstore' := hreads.store.trans hstore
  split
  · exact .of_requested hrequested hrecords' hstore'
  split
  · obtain ⟨store, heq⟩ := handleCleanSession_eq connack.2.2
    rw [heq]
    refine ⟨[], hrequested, .clean fun id => ?_⟩
    show lookup PubAckInfo.packetId id (live (holes _)) = none
    rw [live_holes]
    rfl
  · exact .of_requested hrequested hrecords' hstore'

/-- Every operation of a run. -/
theorem Operation.uplinkEffect (c : Config) {s : Sys}
    (htable : Table .outgoing s.outgoingPublishRecords) {operation : Operation}
    (hsets : ¬ operation.SetsRecords)
    (hpublish : ∀ publish ∈ operation.published, publish.1.qos ≠ .qos0 →
      storesCopy s = true ∧ (publish.1.dup = true → s.outgoing publish.2 = none)) :
    HasEffect operation s (operation.run c s) := by
  have hreads : ∀ {s'}, Reads s s' → HasEffect operation s s' := by
    intro s' h
    exact .of_eq (congrArg PublishRecords.outgoingPublishRecords h.received.records) h.received.store
      h.received.log
  cases operation with
  | request call => exact request_uplink c htable call hpublish
  | acknowledge packetId state => exact sendPublishAcks_uplink c htable packetId state
  | deliver packet manageKeepAlive => exact deliver_uplink c htable packet manageKeepAlive
  | handle packet manageKeepAlive => exact handle_uplink c htable packet manageKeepAlive
  | establish info will timeoutMs => exact establish_uplink c s info will timeoutMs
  | resend packetId => exact resend_uplink c s packetId
  | giveUp => exact .of_eq rfl rfl rfl
  | startProcessLoop => exact .of_eq rfl rfl rfl
  | read => exact hreads (reads_readIntoBuffer c s)
  | readClock => exact .of_eq rfl rfl rfl
  | discard packet => exact hreads (reads_discardStoredPacket c s packet)
  | remove totalLength => exact .of_eq rfl rfl rfl
  | setLastPacketRxTime => exact .of_eq rfl rfl rfl
  | setUp call =>
    cases call with
    | init _ _ _ _ => exact absurd trivial hsets
    | initStatefulQoS _ _ _ _ => exact absurd trivial hsets
    | initRetransmits storeFunction retrieveFunction clearFunction =>
      unfold Operation.run ApiCall.run mqttInitRetransmits
      dsimp only
      split_ifs
      · exact .of_eq rfl rfl rfl
      · exact .of_eq rfl rfl rfl
      · exact .of_eq rfl rfl rfl
      · exact .of_eq rfl rfl rfl
    | _ => exact .of_eq rfl rfl rfl

end FreeMqtt

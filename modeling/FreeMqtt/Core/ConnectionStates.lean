import FreeMqtt.Core.Connack
import FreeMqtt.Core.Failures
import FreeMqtt.Core.Operations

/-!
# The connection status over a run

What the operations of a run do with `connectStatus`: a packet other than CONNECT and DISCONNECT is
begun on a connection, a connection is made by a CONNACK only, a negative result of the transport
ends it, and `MQTTDisconnectPending` is left by `MQTT_Disconnect` (`run_connectionRules`).
-/

namespace FreeMqtt

open Moments

/-! ## Packets -/

/-- `s'` is `s` after an operation that sends at most one packet, which needs a connection unless it
is a CONNECT or a DISCONNECT. -/
def Begins (s s' : Sys) : Prop :=
  ∃ quiet sent : List Event, s'.log = s.log ++ quiet ++ sent ∧ (∀ e ∈ quiet, ¬ e.IsSent) ∧
    (sent = [] ∨ ∃ kind bytes n stop, sent = [.sent kind bytes n stop] ∧
      (kind = .connect ∨ kind = .disconnect ∨ s.connectStatus = .connected))

theorem Begins.of_log_eq {s s' : Sys} (h : s'.log = s.log) : Begins s s' :=
  ⟨[], [], by simp [h], by simp, .inl rfl⟩

theorem Begins.of_quiet {s s' : Sys} {quiet : List Event} (h : s'.log = s.log ++ quiet)
    (hquiet : ∀ e ∈ quiet, ¬ e.IsSent) : Begins s s' :=
  ⟨quiet, [], by simp [h], hquiet, .inl rfl⟩

/-- Events and changes around the packet. -/
theorem Begins.around {s s₁ s₂ s' : Sys} {quiet : List Event} (h : Begins s₁ s₂)
    (hlog₁ : s₁.log = s.log ++ quiet) (hquiet : ∀ e ∈ quiet, ¬ e.IsSent)
    (hstatus : s₁.connectStatus = s.connectStatus) (hlog₂ : s'.log = s₂.log) : Begins s s' := by
  obtain ⟨quiet', sent, hlog, hquiet', hsent⟩ := h
  refine ⟨quiet ++ quiet', sent, ?_, ?_, ?_⟩
  · rw [hlog₂, hlog, hlog₁, List.append_assoc s.log]
  · exact fun e he => (List.mem_append.1 he).elim (hquiet e) (hquiet' e)
  · rwa [hstatus] at hsent

theorem Begins.within {s s₁ s₂ s' : Sys} (h : Begins s₁ s₂) (hlog₁ : s₁.log = s.log)
    (hstatus : s₁.connectStatus = s.connectStatus) (hlog₂ : s'.log = s₂.log) : Begins s s' :=
  h.around (by rw [hlog₁, List.append_nil]) (fun _ he => absurd he List.not_mem_nil) hstatus hlog₂

theorem Begins.of_sent {s s' : Sys} {kind : PacketKind} {packet : List UInt8} {n : Nat}
    {stop : Stop} (h : Sent s s' kind packet n stop)
    (hkind : kind = .connect ∨ kind = .disconnect ∨ s.connectStatus = .connected) : Begins s s' :=
  ⟨[], [.sent kind packet n stop], by simp [h.log_eq], by simp, .inr ⟨_, _, _, _, rfl, hkind⟩⟩

theorem SendOutcome.begins {kind : PacketKind} {s s' : Sys} (h : SendOutcome kind s s') :
    Begins s s' := by
  cases h with
  | unsent heq => exact .of_log_eq (by rw [heq])
  | sent packet n stop hconn hsent => exact .of_sent hsent (.inr (.inr hconn))

theorem SendCall.begins (c : Config) (s : Sys) (call : SendCall) : Begins s (call.run c s) := by
  cases call with
  | publish info packetId =>
    cases info with
    | none => exact .of_log_eq rfl
    | some info =>
      obtain ⟨t, store, storeResults, s₁, t', -, houtcome, -, heq⟩ :=
        mqttPublish_outcome c s info packetId
      show Begins s (mqttPublish c s (some info) packetId).2
      rw [heq]
      exact houtcome.begins.within rfl rfl rfl
  | subscribe list packetId => exact (mqttSubscribe_outcome c s list packetId).begins
  | unsubscribe list packetId => exact (mqttUnsubscribe_outcome c s list packetId).begins
  | ping =>
    obtain ⟨s₁, pingReqSendTimeMs, waitingForPingResp, houtcome, heq⟩ := mqttPing_outcome c s
    show Begins s (mqttPing c s).2
    rw [heq]
    exact houtcome.begins.within rfl rfl rfl
  | disconnect =>
    show Begins s (mqttDisconnect c s).2
    rcases mqttDisconnect_outcome c s with ⟨-, heq⟩ | ⟨-, n, stop, hsent⟩
    · exact .of_log_eq (by rw [heq])
    · have hlog : (mqttDisconnect c s).2.log =
          s.log ++ [.sent .disconnect mqttSerializeDisconnect n stop] := hsent.log_eq
      exact ⟨[], _, by rw [List.append_nil, hlog], by simp,
        .inr ⟨_, _, _, _, rfl, .inr (.inl rfl)⟩⟩
  | cancelCallback packetId =>
    show Begins s (mqttCancelCallback s packetId).2
    unfold mqttCancelCallback
    split
    · exact .of_log_eq rfl
    · exact .of_log_eq rfl
  | getPacketId => exact .of_log_eq rfl

theorem sendPublishAcks_begins (c : Config) (s : Sys) (packetId : UInt16) (state : PublishState) :
    Begins s (sendPublishAcks c s packetId state).2 := by
  by_cases hsend : packetId = 0 ∨ s.connectStatus ≠ .connected
  · exact .of_log_eq (by rw [sendPublishAcks_unsent c state hsend])
  · obtain ⟨hid, hconn⟩ := not_or.1 hsend
    rw [not_not] at hconn
    cases hack : ackToSend state with
    | none => exact .of_log_eq (by rw [sendPublishAcks_none c s packetId hack])
    | some packetType =>
      obtain ⟨s₁, n, stop, hsent, heq⟩ := sendPublishAcks_connected c hack hid hconn
      have hbegins := Begins.of_sent hsent (.inr (.inr hconn))
      rw [heq]
      split
      · exact hbegins.within rfl rfl rfl
      · exact hbegins

theorem SilentOutcome.begins {c : Config} {s : Sys} {packet : PacketInfo} {result : Status × Sys}
    (h : SilentOutcome c s packet result) : Begins s result.2 := by
  cases h with
  | refused _ => exact .of_log_eq rfl
  | pingresp => exact .of_log_eq rfl
  | publish qos packetId _ _ => exact .of_log_eq rfl
  | @duplicate _ t qos packetId _ =>
    have hack := sendPublishAcks_begins c (s.setRecords t) packetId
      (mqttCalculateStatePublish .receive qos)
    exact hack.within rfl rfl rfl
  | ack packetId _ _ => exact .of_log_eq rfl

/-! ## Operations -/

/-- `MQTT_Connect` up to the resumption of a session. -/
def Operation.Establishes : Operation → Prop
  | .establish _ _ _ => True
  | _ => False

/-- What leaves `MQTTDisconnectPending`: `MQTT_Disconnect` and `MQTT_Init`. -/
def Operation.EndsPending : Operation → Prop
  | .request call => call = .disconnect
  | .setUp (.init _ _ _ _) => True
  | _ => False

/-- The context after the first part of a handler that invokes the callback. -/
theorem deliver_spec (c : Config) (s : Sys) (packet : PacketInfo) (manageKeepAlive : Bool) :
    let s' := Operation.run c s (.deliver packet manageKeepAlive)
    s'.sends = s.sends ∧ s'.recvs = s.recvs ∧ s'.connectStatus = s.connectStatus ∧
      ∃ quiet, s'.log = s.log ++ quiet ∧ ∀ e ∈ quiet, ¬ e.IsSent := by
  cases hframe : callbackFrame (s.dispatching packet) packet manageKeepAlive with
  | none =>
    rw [run_deliver_none c hframe]
    exact ⟨rfl, rfl, rfl, [], by simp, by simp⟩
  | some frame =>
    obtain ⟨t, store, hbefore⟩ := callbackFrame_before hframe
    rw [run_deliver c hframe, hbefore]
    refine ⟨rfl, rfl, rfl, [.dispatched packet.type (readBytes packet.pRemainingData
      packet.remainingLength), .callback packet frame.info], ?_, by simp [Event.IsSent]⟩
    simp [Sys.setRecords, Sys.dispatching, Sys.record]

/-- The change that a call of an initializer makes. -/
theorem setUp_spec (c : Config) (s : Sys) (call : ApiCall) :
    let s' := Operation.run c s (.setUp call)
    s'.sends = s.sends ∧ s'.recvs = s.recvs ∧ s'.log = s.log ∧
      (s'.connectStatus = s.connectStatus ∨
        s'.connectStatus = .notConnected ∧ (Operation.setUp call).EndsPending) := by
  cases call with
  | init transport getTimeFunction userCallback buffer =>
    show (mqttInit s transport getTimeFunction userCallback buffer).2.sends = s.sends ∧ _
    unfold Operation.run ApiCall.run mqttInit
    dsimp only
    split
    · split_ifs
      · exact ⟨rfl, rfl, rfl, .inl rfl⟩
      · exact ⟨rfl, rfl, rfl, .inl rfl⟩
      · exact ⟨rfl, rfl, rfl, .inl rfl⟩
      · exact ⟨rfl, rfl, rfl, .inl rfl⟩
      · exact ⟨rfl, rfl, rfl, .inr ⟨rfl, trivial⟩⟩
    · exact ⟨rfl, rfl, rfl, .inl rfl⟩
  | initStatefulQoS outgoing outgoingCount incoming incomingCount =>
    unfold Operation.run ApiCall.run mqttInitStatefulQoS
    dsimp only
    split_ifs <;> exact ⟨rfl, rfl, rfl, .inl rfl⟩
  | initRetransmits store retrieve clear =>
    unfold Operation.run ApiCall.run mqttInitRetransmits
    dsimp only
    split_ifs <;> exact ⟨rfl, rfl, rfl, .inl rfl⟩
  | request call => exact ⟨rfl, rfl, rfl, .inl rfl⟩
  | processLoop => exact ⟨rfl, rfl, rfl, .inl rfl⟩
  | receiveLoop => exact ⟨rfl, rfl, rfl, .inl rfl⟩
  | checkConnectStatus => exact ⟨rfl, rfl, rfl, .inl rfl⟩

theorem Operation.consumes (c : Config) (s : Sys) {operation : Operation}
    (h : ¬ operation.Establishes) : Consumes s (operation.run c s) := by
  cases operation with
  | request call => exact call.consumes c s
  | acknowledge packetId state => exact consumes_sendPublishAcks c s packetId state
  | deliver packet manageKeepAlive =>
    obtain ⟨hsends, hrecvs, hstatus, -⟩ := deliver_spec c s packet manageKeepAlive
    exact .of_eq hsends hrecvs (by rw [hstatus])
  | handle packet manageKeepAlive =>
    cases hframe : callbackFrame (s.dispatching packet) packet manageKeepAlive with
    | some frame =>
      rw [run_handle_some c hframe]
      exact .refl s
    | none =>
      rw [run_handle c hframe]
      exact (consumes_record s _).trans (handlePacket_silent c hframe).consumes
  | establish info will timeoutMs => exact absurd trivial h
  | resend packetId =>
    obtain ⟨-, retrieveResults, hretrieve⟩ := callRetrieve_spec s packetId
    have hretrieved : Consumes s (callRetrieve s packetId).2 := by
      rw [hretrieve]
      exact .of_eq rfl rfl (Nat.le_refl _)
    unfold Operation.run
    dsimp only
    split
    · exact hretrieved
    · exact hretrieved.trans (consumes_sendPacket ..)
  | giveUp => exact .of_eq rfl rfl (received_networkError s).status
  | startProcessLoop => exact .of_eq rfl rfl (Nat.le_refl _)
  | read => exact consumes_readIntoBuffer c s
  | readClock => exact consumes_getTime s
  | discard packet => exact consumes_discardStoredPacket c s packet
  | remove totalLength => exact .of_eq rfl rfl (Nat.le_refl _)
  | setLastPacketRxTime => exact .of_eq rfl rfl (Nat.le_refl _)
  | setUp call =>
    obtain ⟨hsends, hrecvs, -, hstatus⟩ := setUp_spec c s call
    refine .of_eq hsends hrecvs ?_
    rcases hstatus with hstatus | ⟨hstatus, -⟩
    · rw [hstatus]
    · rw [hstatus]
      exact Nat.zero_le _

theorem Operation.begins (c : Config) {s : Sys} {operation : Operation}
    (h : ∀ packetId, operation = .resend packetId → s.connectStatus = .connected) :
    Begins s (operation.run c s) := by
  cases operation with
  | request call => exact call.begins c s
  | acknowledge packetId state => exact sendPublishAcks_begins c s packetId state
  | deliver packet manageKeepAlive =>
    obtain ⟨-, -, -, quiet, hlog, hquiet⟩ := deliver_spec c s packet manageKeepAlive
    exact .of_quiet hlog hquiet
  | handle packet manageKeepAlive =>
    cases hframe : callbackFrame (s.dispatching packet) packet manageKeepAlive with
    | some frame =>
      rw [run_handle_some c hframe]
      exact .of_log_eq rfl
    | none =>
      rw [run_handle c hframe]
      exact (handlePacket_silent c hframe).begins.around rfl (by simp [Event.IsSent]) rfl rfl
  | establish info will timeoutMs =>
    have houtcome := establish_outcome c s info will (connectPacketSize_le (some info) will)
      timeoutMs
    unfold Operation.run
    dsimp only
    generalize FreeMqtt.establish c s info will (mqttGetConnectPacketSize (some info) will).2.1
      timeoutMs = established at houtcome
    cases houtcome with
    | unsent _ => exact .of_log_eq rfl
    | refused hsent hreceived _ =>
      exact (Begins.of_sent hsent (.inl rfl)).within rfl rfl hreceived.log
    | accepted hsent _ hlog _ _ => exact (Begins.of_sent hsent (.inl rfl)).within rfl rfl hlog
  | resend packetId =>
    obtain ⟨-, retrieveResults, hretrieve⟩ := callRetrieve_spec s packetId
    unfold Operation.run
    dsimp only
    split
    · exact .of_log_eq (by rw [hretrieve])
    · rename_i packet _
      obtain ⟨n, stop, hsent, -⟩ := sendPacket_spec c (callRetrieve s packetId).2
        (.resend packetId) packet
      have hstatus : (callRetrieve s packetId).2.connectStatus = s.connectStatus := by rw [hretrieve]
      have hconn := hstatus.trans (h packetId rfl)
      exact (Begins.of_sent hsent (.inr (.inr hconn))).within (by rw [hretrieve]) hstatus rfl
  | giveUp => exact .of_log_eq rfl
  | startProcessLoop => exact .of_log_eq rfl
  | read => exact .of_log_eq (received_readIntoBuffer c s).log
  | readClock => exact .of_log_eq rfl
  | discard packet => exact .of_log_eq (received_discardStoredPacket c s packet).log
  | remove totalLength => exact .of_log_eq rfl
  | setLastPacketRxTime => exact .of_log_eq rfl
  | setUp call => exact .of_log_eq (setUp_spec c s call).2.2.1

/-- Only `MQTT_Disconnect` and `MQTT_Init` leave the connection, and only `MQTT_Connect` makes one. -/
theorem Operation.notConnected_iff (c : Config) (s : Sys) {operation : Operation}
    (hestablish : ¬ operation.Establishes) (hpending : ¬ operation.EndsPending) :
    (operation.run c s).connectStatus = .notConnected ↔ s.connectStatus = .notConnected := by
  cases operation with
  | request call => exact (call.bufferKept c s hpending).status
  | acknowledge packetId state =>
    exact (bufferKept_sendPreorder.sendPublishAcks c s packetId state).status
  | deliver packet manageKeepAlive =>
    obtain ⟨-, -, hstatus, -⟩ := deliver_spec c s packet manageKeepAlive
    rw [hstatus]
  | handle packet manageKeepAlive =>
    cases hframe : callbackFrame (s.dispatching packet) packet manageKeepAlive with
    | some frame => rw [run_handle_some c hframe]
    | none =>
      rw [run_handle c hframe]
      exact (handlePacket_silent_bufferKept c hframe).status
  | establish info will timeoutMs => exact absurd trivial hestablish
  | resend packetId =>
    obtain ⟨-, retrieveResults, hretrieve⟩ := callRetrieve_spec s packetId
    unfold Operation.run
    dsimp only
    split
    · rw [hretrieve]
    · rename_i packet _
      obtain ⟨n, stop, hsent, -⟩ := sendPacket_spec c (callRetrieve s packetId).2
        (.resend packetId) packet
      rw [hsent.bufferKept.status, hretrieve]
  | giveUp => exact (bufferKept_networkError s).status
  | startProcessLoop => exact .rfl
  | read =>
    obtain ⟨recvs, inbound, hrecv, -⟩ :=
      transportRecv_spec s (c.sizeSub s.networkBuffer.length s.index)
    show (readIntoBuffer c s).2.2.2.connectStatus = .notConnected ↔ _
    unfold readIntoBuffer
    dsimp only
    rw [hrecv]
    split
    · exact (bufferKept_networkError _).status
    split
    · exact .rfl
    · exact .rfl
  | readClock => exact .rfl
  | discard packet => exact (bufferKept_preorder.discardStoredLoop ..).status
  | remove totalLength => exact .rfl
  | setLastPacketRxTime => exact .rfl
  | setUp call =>
    rcases (setUp_spec c s call).2.2.2 with hstatus | ⟨-, hends⟩
    · rw [hstatus]
    · exact absurd hends hpending

/-! ## The operations of a call -/

/-- The operations that only `MQTT_Connect` performs. -/
def Operation.Connects : Operation → Prop
  | .establish _ _ _ => True
  | .resend _ => True
  | _ => False

/-- The operations that an iteration of a receive loop performs. -/
def Operation.Receives : Operation → Prop
  | .establish _ _ _ | .resend _ | .giveUp | .setUp _ => False
  | _ => True

theorem Operation.Receives.not_connects {operation : Operation} (h : operation.Receives) :
    ¬ operation.Connects := by
  cases operation with
  | establish info will timeoutMs => exact absurd h id
  | resend packetId => exact absurd h id
  | _ => exact id

theorem receives_handler {s : Sys} {packet : PacketInfo} {manageKeepAlive : Bool} :
    ∀ operation ∈ handlerOperations s packet manageKeepAlive, operation.Receives := by
  unfold handlerOperations
  intro operation hmem
  split at hmem
  · rcases List.mem_cons.1 hmem with rfl | hmem
    · trivial
    rcases List.mem_append.1 hmem with hmem | hmem
    · obtain ⟨call, -, rfl⟩ := List.mem_map.1 hmem
      trivial
    · obtain ⟨reply, -, rfl⟩ := List.mem_map.1 hmem
      trivial
  · rw [List.mem_singleton.1 hmem]
    trivial

theorem receives_iteration {c : Config} {s : Sys} {manageKeepAlive : Bool} :
    ∀ operation ∈ iterationOperations c s manageKeepAlive, operation.Receives := by
  have hping : ∀ s, ∀ operation ∈ keepAliveOperations c s, operation.Receives := by
    intro s operation hmem
    unfold keepAliveOperations at hmem
    rcases List.mem_cons.1 hmem with rfl | hmem
    · trivial
    · split at hmem
      · rw [List.mem_singleton.1 hmem]
        trivial
      · exact absurd hmem List.not_mem_nil
  have hdispatch : ∀ s packet, ∀ operation ∈ dispatchOperations c s packet manageKeepAlive,
      operation.Receives := by
    intro s packet operation hmem
    unfold dispatchOperations at hmem
    rcases List.mem_append.1 hmem with hmem | hmem
    · exact receives_handler operation hmem
    rcases List.mem_cons.1 hmem with rfl | hmem
    · trivial
    · split at hmem
      · rw [List.mem_singleton.1 hmem]
        trivial
      · exact absurd hmem List.not_mem_nil
  intro operation hmem
  unfold iterationOperations at hmem
  dsimp only at hmem
  rcases List.mem_cons.1 hmem with rfl | hmem
  · trivial
  rcases List.mem_append.1 hmem with hmem | hmem
  · split at hmem
    · exact hping _ operation hmem
    · exact absurd hmem List.not_mem_nil
  · split at hmem
    · exact hdispatch _ _ operation hmem
    · split at hmem
      · rw [List.mem_singleton.1 hmem]
        trivial
      · exact absurd hmem List.not_mem_nil

theorem not_connects_api {c : Config} {s : Sys} (call : ApiCall) :
    ∀ operation ∈ call.operations c s, ¬ operation.Connects := by
  intro operation hmem
  cases call with
  | processLoop =>
    rcases List.mem_cons.1 hmem with rfl | hmem
    · exact id
    · exact (receives_iteration operation hmem).not_connects
  | receiveLoop => exact (receives_iteration operation hmem).not_connects
  | _ =>
    rw [List.mem_singleton.1 hmem]
    exact id

theorem Operation.Establishes.connects {operation : Operation} (h : operation.Establishes) :
    operation.Connects := by
  cases operation with
  | establish info will timeoutMs => trivial
  | _ => exact absurd h id

theorem not_establishes_resumption {c : Config} {s : Sys} :
    ∀ operation ∈ resumptionOperations c s, ¬ operation.Establishes := by
  intro operation hmem
  obtain ⟨packetId, rfl | rfl⟩ := resumptionOperations_cases operation hmem
  · exact id
  · exact id

/-! ## Resending on a connection -/

theorem sendPublishAcks_connected_of_success (c : Config) {s : Sys} {packetId : UInt16}
    {state : PublishState} (hconn : s.connectStatus = .connected)
    (h : (sendPublishAcks c s packetId state).1 = .success) :
    (sendPublishAcks c s packetId state).2.connectStatus = .connected := by
  by_cases hid : packetId = 0
  · rw [sendPublishAcks_unsent c state (.inl hid)]
    exact hconn
  cases hack : ackToSend state with
  | none =>
    rw [sendPublishAcks_none c s packetId hack]
    exact hconn
  | some packetType =>
    obtain ⟨s₁, n, stop, hsent, heq⟩ := sendPublishAcks_connected c hack hid hconn
    rw [heq] at h ⊢
    split at h
    · rename_i hcomplete
      rw [if_pos hcomplete]
      have hstatus := hsent.connectStatus_eq
      rw [statusAfter_complete (by rw [hcomplete]; decide), hconn] at hstatus
      exact hstatus
    · exact absurd h (by simp)

theorem sendPacket_connected_of_length (c : Config) {s : Sys} {kind : PacketKind}
    {packet : List UInt8} (hconn : s.connectStatus = .connected)
    (h : (sendPacket c s kind packet).1 = int32Cast packet.length) :
    (sendPacket c s kind packet).2.connectStatus = .connected := by
  obtain ⟨n, stop, hsent, hreturned⟩ := sendPacket_spec c s kind packet
  by_cases hstop : stop = .networkError
  · -- a length that is negative as an `int32_t` ends the loop before it starts
    have hzero : ¬ 0 < int32Cast packet.length → (sendPacket c s kind packet).1 = 0 := by
      intro hlength
      unfold sendPacket sendBuffer sendBufferLoop
      dsimp only
      rw [if_neg fun hand => hlength hand.1]
    rcases hreturned with ⟨-, hneg⟩ | ⟨hne, -⟩
    · by_cases hlength : 0 < int32Cast packet.length
      · omega
      · rw [hzero hlength] at hneg
        exact absurd hneg (by decide)
    · exact absurd hstop hne
  · rw [hsent.connectStatus_eq, statusAfter_complete hstop, hconn]

theorem resendPubrels_connected (c : Config) {fuel : Nat} {packetId : UInt16} {cursor : Nat}
    {s : Sys} (hconn : s.connectStatus = .connected)
    (h : (resendPubrels c fuel packetId cursor s).1 = .success) :
    (resendPubrels c fuel packetId cursor s).2.connectStatus = .connected := by
  induction fuel generalizing packetId cursor s with
  | zero => exact hconn
  | succ fuel ih =>
    unfold resendPubrels at h ⊢
    dsimp only at h ⊢
    split at h
    · rename_i hend
      rw [if_pos hend]
      exact hconn
    rename_i hend
    rw [if_neg hend]
    split at h
    · rename_i hsent
      rw [if_pos hsent]
      exact ih (sendPublishAcks_connected_of_success c hconn hsent) h
    · rename_i hsent
      exact absurd h hsent

theorem publishOperations_connected (c : Config) {fuel cursor : Nat} {s : Sys}
    (hconn : s.connectStatus = .connected) :
    ∀ m ∈ moments (Operation.run c) s (publishOperations c fuel cursor s),
      m.before.connectStatus = .connected := by
  induction fuel generalizing cursor s with
  | zero => exact fun m hm => absurd hm List.not_mem_nil
  | succ fuel ih =>
    intro m hm
    unfold publishOperations at hm
    dsimp only at hm
    split at hm
    · exact absurd hm List.not_mem_nil
    rw [moments_cons] at hm
    rcases List.mem_cons.1 hm with rfl | hm
    · exact hconn
    generalize (mqttPublishToResend s.toPublishRecords cursor) = next at hm
    obtain ⟨-, retrieveResults, hretrieve⟩ := callRetrieve_spec s next.1
    split at hm
    · exact absurd hm List.not_mem_nil
    · rename_i packet hpacket
      split at hm
      · exact absurd hm List.not_mem_nil
      rename_i hsent
      have hrun : Operation.run c s (.resend next.1) =
          (sendPacket c (callRetrieve s next.1).2 (.resend next.1) packet).2 := by
        unfold Operation.run
        dsimp only
        rw [hpacket]
      rw [hrun] at hm
      exact ih (sendPacket_connected_of_length c (by rw [hretrieve]; exact hconn) (not_not.1 hsent))
        m hm

theorem resumptionOperations_connected (c : Config) {s : Sys} (hconn : s.connectStatus = .connected) :
    ∀ m ∈ moments (Operation.run c) s (resumptionOperations c s),
      ∀ packetId, m.operation = .resend packetId → m.before.connectStatus = .connected := by
  intro m hm packetId hresend
  unfold resumptionOperations at hm
  dsimp only at hm
  rw [moments_append] at hm
  rcases List.mem_append.1 hm with hm | hm
  · obtain ⟨front, rest, heq, -⟩ := exists_split hm
    obtain ⟨packetId', hack⟩ := pubrelOperations_eq m.operation (by rw [heq]; simp)
    rw [hack] at hresend
    cases hresend
  · split at hm
    · rename_i hpubrels
      rw [pubrelOperations_run] at hm
      exact publishOperations_connected c (resendPubrels_connected c hconn hpubrels.1) m hm
    · exact absurd hm List.not_mem_nil

theorem establish_connected (c : Config) (s : Sys) (info : ConnectInfo)
    (will : Option PublishInfo) (timeoutMs : UInt32)
    (h : (establish c s info will (mqttGetConnectPacketSize (some info) will).2.1
      timeoutMs).1 = .success) :
    (establish c s info will (mqttGetConnectPacketSize (some info) will).2.1
      timeoutMs).2.2.connectStatus = .connected := by
  have houtcome := establish_outcome c s info will (connectPacketSize_le (some info) will) timeoutMs
  generalize establish c s info will (mqttGetConnectPacketSize (some info) will).2.1
    timeoutMs = established at h houtcome
  cases houtcome with
  | unsent hstatus => exact absurd h hstatus
  | refused _ _ hstatus => exact absurd h hstatus
  | accepted _ _ _ hconnected _ => exact hconnected

/-- `establish` succeeds on an accepted CONNACK only. A new session starts with empty records and an
empty buffer. -/
theorem establish_connack (c : Config) {s : Sys} {info : ConnectInfo} {will : Option PublishInfo}
    {timeoutMs : UInt32} {remainingLength : Nat} (hlength : remainingLength ≤ maxRemainingLength)
    (h : (establish c s info will remainingLength timeoutMs).1 = .success) :
    let established := establish c s info will remainingLength timeoutMs
    ∃ sessionPresent, established.2.1 = some sessionPresent ∧
      (info.cleanSession = true → sessionPresent = false) ∧
      s.inbound = connackBytes sessionPresent ++ established.2.2.inbound ∧
      (sessionPresent = false → established.2.2.index = 0 ∧ ∃ n m,
        established.2.2.toPublishRecords = .zeroed n m) := by
  have hinbound : ∀ s, (handleCleanSession s).inbound = s.inbound ∧
      (handleCleanSession s).index = 0 := by
    intro s
    obtain ⟨store, heq⟩ := handleCleanSession_eq s
    rw [heq]
    exact ⟨rfl, rfl⟩
  have hsend := sendConnectWithoutCopy_spec c s info will hlength
  obtain ⟨hsent, hconnack, heq⟩ := establish_success h
  rw [heq]
  dsimp only at hsend ⊢
  generalize sendConnectWithoutCopy c s info will remainingLength = sent at hsend hsent hconnack ⊢
  have hsame : sent.2.inbound = s.inbound := by
    rcases hsend with ⟨hfail, -⟩ | ⟨packet, n, stop, ⟨-, -, ticks, sends, lastTx, hs⟩, -⟩
    · exact absurd hsent hfail
    · rw [hs]
  obtain ⟨sessionPresent, hclean, hpresent, hread⟩ := receiveConnack_takesIn c hconnack
  rw [hpresent]
  refine ⟨sessionPresent, rfl, hclean, ?_, ?_⟩
  · rw [← hsame, hread.inbound]
    split
    · rw [(hinbound _).1]
    · rfl
  · rintro rfl
    rw [if_pos (by simp)]
    exact ⟨(hinbound _).2, _, _, rfl⟩

/-- A connection is made by the first operation of an `MQTT_Connect` without a connection, or not at
all. -/
theorem Call.operations_cases (c : Config) (s : Sys) (call : Call) :
    (∀ operation ∈ call.operations c s, ¬ operation.Connects) ∨
      ∃ info will timeoutMs rest, s.connectStatus = .notConnected ∧
        call.operations c s = .establish info will timeoutMs :: rest ∧
        (∀ operation ∈ rest, ¬ operation.Establishes) ∧
        (∀ m ∈ moments (Operation.run c) (Operation.run c s (.establish info will timeoutMs)) rest,
          ∀ packetId, m.operation = .resend packetId → m.before.connectStatus = .connected) := by
  have hgiveUp : ∀ operation ∈ [Operation.giveUp], ¬ operation.Connects := by
    intro operation hmem
    rw [List.mem_singleton.1 hmem]
    exact id
  cases call with
  | api call => exact .inl (not_connects_api call)
  | connect info will timeoutMs =>
    show (∀ operation ∈ connectOperations c s info will timeoutMs, _) ∨ _
    unfold Call.operations connectOperations
    cases info with
    | none => exact .inl hgiveUp
    | some info =>
      dsimp only
      by_cases hsize : (mqttGetConnectPacketSize (some info) will).1 ≠ .success
      · rw [if_pos hsize]
        exact .inl hgiveUp
      rw [if_neg hsize]
      by_cases hconn : s.connectStatus ≠ .notConnected
      · rw [if_pos hconn]
        exact .inl fun operation hmem => absurd hmem List.not_mem_nil
      rw [if_neg hconn]
      refine .inr ⟨info, will, timeoutMs, _, not_not.1 hconn, rfl, ?_, ?_⟩
      · intro operation hmem
        split at hmem
        · exact fun h => hgiveUp operation hmem h.connects
        split at hmem
        · rcases List.mem_append.1 hmem with hmem | hmem
          · exact not_establishes_resumption operation hmem
          · split at hmem
            · exact absurd hmem List.not_mem_nil
            · exact fun h => hgiveUp operation hmem h.connects
        · exact absurd hmem List.not_mem_nil
      · have hend : ∀ s', ∀ m ∈ moments (Operation.run c) s' [.giveUp],
            ∀ packetId, m.operation = .resend packetId → m.before.connectStatus = .connected := by
          intro s' m hm packetId hresend
          rw [moments_cons, moments_nil, List.mem_singleton] at hm
          rw [hm] at hresend
          cases hresend
        intro m hm
        split at hm
        · exact hend _ m hm
        split at hm
        · rename_i hestablished _
          rw [moments_append] at hm
          rcases List.mem_append.1 hm with hm | hm
          · exact resumptionOperations_connected c
              (establish_connected c s info will timeoutMs (not_not.1 hestablished)) m hm
          · split at hm
            · exact absurd hm List.not_mem_nil
            · exact hend _ m hm
        · exact absurd hm List.not_mem_nil

/-! ## The connection status -/

/-- The events that the operation of a moment adds to the log. -/
def eventsOf (c : Config) (m : Moment Sys Operation) : List Event :=
  (m.after (Operation.run c)).log.drop m.before.log.length

/-- What the operation of a moment does with the connection status. -/
structure ConnectionRules (c : Config) (m : Moment Sys Operation) : Prop where
  /-- the operation hands at most one packet to the transport, the last of its events -/
  sent : ∃ quiet sent, eventsOf c m = quiet ++ sent ∧ (∀ e ∈ quiet, ¬ e.IsSent) ∧ sent.length ≤ 1
  /-- a packet other than CONNECT and DISCONNECT is begun on a connection -/
  begun : ∀ kind bytes n stop, .sent kind bytes n stop ∈ eventsOf c m → kind ≠ .connect →
    kind ≠ .disconnect → m.before.connectStatus = .connected
  /-- only `MQTT_Connect` makes a connection, from `MQTTNotConnected` and with a CONNACK that it read -/
  connected : m.before.connectStatus ≠ .connected →
    (m.after (Operation.run c)).connectStatus = .connected →
    m.before.connectStatus = .notConnected ∧ ∃ info will timeoutMs sessionPresent,
      m.operation = .establish info will timeoutMs ∧
      (info.cleanSession = true → sessionPresent = false) ∧
      m.before.inbound = connackBytes sessionPresent ++ (m.after (Operation.run c)).inbound
  /-- only `MQTT_Disconnect` and `MQTT_Init` leave `MQTTDisconnectPending` -/
  pending : m.before.connectStatus = .disconnectPending → ¬ m.operation.EndsPending →
    (m.after (Operation.run c)).connectStatus = .disconnectPending

theorem eq_disconnectPending {status : ConnectionStatus} (hlevel : status.level ≤ 1)
    (hne : status ≠ .notConnected) : status = .disconnectPending := by
  cases status with
  | notConnected => exact absurd rfl hne
  | disconnectPending => rfl
  | connected => exact absurd hlevel (by decide)

theorem sends_of_begins {c : Config} {m : Moment Sys Operation}
    (h : Begins m.before (m.after (Operation.run c))) :
    (∃ quiet sent, eventsOf c m = quiet ++ sent ∧ (∀ e ∈ quiet, ¬ e.IsSent) ∧ sent.length ≤ 1) ∧
      ∀ kind bytes n stop, .sent kind bytes n stop ∈ eventsOf c m → kind ≠ .connect →
        kind ≠ .disconnect → m.before.connectStatus = .connected := by
  obtain ⟨quiet, sent, hlog, hquiet, hsent⟩ := h
  have hevents : eventsOf c m = quiet ++ sent := by
    unfold eventsOf
    rw [hlog, List.append_assoc, List.drop_left]
  rw [hevents]
  refine ⟨⟨quiet, sent, rfl, hquiet, ?_⟩, ?_⟩
  · rcases hsent with rfl | ⟨_, _, _, _, rfl, -⟩
    · exact Nat.zero_le _
    · exact Nat.le_refl _
  · intro kind bytes n stop hmem hconnect hdisconnect
    rcases List.mem_append.1 hmem with hmem | hmem
    · exact absurd trivial (hquiet _ hmem)
    rcases hsent with rfl | ⟨_, _, _, _, rfl, hkind⟩
    · exact absurd hmem List.not_mem_nil
    · cases List.mem_singleton.1 hmem
      exact (hkind.resolve_left hconnect).resolve_left hdisconnect

/-- An operation other than `establish`. -/
theorem rules_of_not_establishes {c : Config} {m : Moment Sys Operation}
    (hestablish : ¬ m.operation.Establishes)
    (hresend : ∀ packetId, m.operation = .resend packetId → m.before.connectStatus = .connected) :
    ConnectionRules c m := by
  obtain ⟨hsent, hbegun⟩ := sends_of_begins (m.operation.begins c hresend)
  obtain ⟨-, -, -, -, -, hlevel⟩ := m.operation.consumes c m.before hestablish
  refine ⟨hsent, hbegun, fun hne heq => ?_, fun hpending hends => ?_⟩
  · exact absurd heq (ne_connected_of_level_le hlevel hne)
  · rw [hpending] at hlevel
    refine eq_disconnectPending hlevel fun hnot => ?_
    rw [Moment.after, m.operation.notConnected_iff c m.before hestablish hends, hpending] at hnot
    cases hnot

theorem rules_establish (c : Config) {s : Sys} (hconn : s.connectStatus = .notConnected)
    (info : ConnectInfo) (will : Option PublishInfo) (timeoutMs : UInt32) :
    ConnectionRules c ⟨s, .establish info will timeoutMs⟩ := by
  obtain ⟨hsent, hbegun⟩ := sends_of_begins (m := ⟨s, .establish info will timeoutMs⟩)
    (Operation.begins c fun packetId h => by cases h)
  refine ⟨hsent, hbegun, fun _ heq => ⟨hconn, ?_⟩, fun hpending => ?_⟩
  · have hlength := connectPacketSize_le (some info) will
    have houtcome := establish_outcome c s info will hlength timeoutMs
    have hconnack := @establish_connack c s info will timeoutMs _ hlength
    unfold Moment.after Operation.run at heq ⊢
    dsimp only at heq hconnack ⊢
    generalize establish c s info will (mqttGetConnectPacketSize (some info) will).2.1 timeoutMs =
      established at heq houtcome hconnack ⊢
    have hsuccess : established.1 = .success := by
      cases houtcome with
      | unsent _ =>
        rw [hconn] at heq
        cases heq
      | refused hsent hreceived _ =>
        have hstatus := hsent.connectStatus_eq
        rw [hconn] at hstatus
        have hnot := eq_notConnected_of_level_le hreceived.status
          (hstatus.trans ((statusAfter_eq_notConnected _ _).2 rfl))
        rw [hnot] at heq
        cases heq
      | accepted _ _ _ _ _ => rfl
    obtain ⟨sessionPresent, -, hclean, hinbound, -⟩ := hconnack hsuccess
    exact ⟨info, will, timeoutMs, sessionPresent, rfl, hclean, hinbound⟩
  · rw [hconn] at hpending
    cases hpending

theorem call_rules (c : Config) (s : Sys) (call : Call) :
    ∀ m ∈ moments (Operation.run c) s (call.operations c s), ConnectionRules c m := by
  intro m hm
  rcases call.operations_cases c s with
    hplain | ⟨info, will, timeoutMs, rest, hconn, heq, hrest, hresend⟩
  · obtain ⟨front, rest, heq, -⟩ := exists_split hm
    have hconnects := hplain m.operation (by rw [heq]; simp)
    refine rules_of_not_establishes (fun h => hconnects h.connects) fun packetId h => ?_
    rw [h] at hconnects
    exact absurd trivial hconnects
  · rw [heq, moments_cons] at hm
    rcases List.mem_cons.1 hm with rfl | hm
    · exact rules_establish c hconn info will timeoutMs
    · obtain ⟨front, back, hsplit, -⟩ := exists_split hm
      exact rules_of_not_establishes (hrest m.operation (by rw [hsplit]; simp)) (hresend m hm)

/-- A negative result on a connection, from any moment of a call on. -/
theorem call_not_connected (c : Config) (s : Sys) (call : Call) :
    ∀ m ∈ moments (Operation.run c) s (call.operations c s), m.before.connectStatus = .connected →
      negativeResult m.before (call.run c s) = true → (call.run c s).connectStatus ≠ .connected := by
  intro m hm hconn hneg
  have hfrom : ∀ (s' : Sys) (operations : List Operation),
      (∀ operation ∈ operations, ¬ operation.Establishes) →
      operations.foldl (Operation.run c) s' = call.run c s →
      m ∈ moments (Operation.run c) s' operations → (call.run c s).connectStatus ≠ .connected := by
    intro s' operations hplain hend hmem
    obtain ⟨front, rest, rfl, hbefore⟩ := exists_split hmem
    have hconsumes : Consumes m.before ((m.operation :: rest).foldl (Operation.run c) m.before) := by
      refine foldl_rel Consumes.refl Consumes.trans fun m' hm' => ?_
      obtain ⟨front', rest', heq, -⟩ := exists_split hm'
      refine m'.operation.consumes c m'.before (hplain m'.operation ?_)
      rw [heq]
      simp
    rw [List.foldl_append, ← hbefore] at hend
    rw [hend] at hconsumes
    exact hconsumes.not_connected hneg
  have hrun := call.operations_run c s
  rcases call.operations_cases c s with hplain | ⟨info, will, timeoutMs, rest, hnot, heq, hrest, -⟩
  · exact hfrom s _ (fun operation hmem h => hplain operation hmem h.connects) hrun hm
  · rw [heq] at hrun hm
    rcases List.mem_cons.1 hm with rfl | hm
    · rw [hnot] at hconn
      cases hconn
    · exact hfrom _ rest hrest hrun hm

/-- Any sequence of calls, from any context. -/
theorem run_connectionRules (c : Config) (s₀ : Sys) (calls : List Call) :
    (∀ m ∈ runMoments c s₀ calls, ConnectionRules c m) ∧
      ∀ front call rest, calls = front ++ call :: rest →
        let s := runAll c s₀ front
        ∀ m ∈ moments (Operation.run c) s (call.operations c s),
          m.before.connectStatus = .connected → negativeResult m.before (call.run c s) = true →
          (call.run c s).connectStatus ≠ .connected := by
  refine ⟨?_, fun front call rest _ => call_not_connected c _ call⟩
  induction calls generalizing s₀ with
  | nil => exact fun m hm => absurd hm List.not_mem_nil
  | cons call calls ih =>
    intro m hm
    rcases List.mem_append.1 hm with hm | hm
    · exact call_rules c s₀ call m hm
    · exact ih (call.run c s₀) m hm

end FreeMqtt

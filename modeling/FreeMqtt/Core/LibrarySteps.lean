import FreeMqtt.Core.Api
import FreeMqtt.Core.Steps

/-!
# The library as steps

Every public function other than `MQTT_Connect` is a sequence of steps that send a packet
while connected, disconnect, or hand nothing to the transport (`ApiCall.library`). Its
receiving half only reads from the transport: `Received` is what is left alone by it.
-/

namespace FreeMqtt

open Relation

/-- The statuses in the order in which a connection goes through them backwards. -/
def ConnectionStatus.level : ConnectionStatus → Nat
  | .notConnected => 0
  | .disconnectPending => 1
  | .connected => 2

theorem level_statusAfter_le (connectStatus : ConnectionStatus) (failed : Bool) :
    (statusAfter connectStatus failed).level ≤ connectStatus.level := by
  cases connectStatus <;> cases failed <;> decide

theorem ne_connected_of_level_le {status status' : ConnectionStatus}
    (h : status'.level ≤ status.level) (hne : status ≠ .connected) : status' ≠ .connected := by
  rintro rfl
  cases status with
  | connected => exact hne rfl
  | disconnectPending => exact absurd h (by decide)
  | notConnected => exact absurd h (by decide)

theorem eq_notConnected_of_level_le {status status' : ConnectionStatus}
    (h : status'.level ≤ status.level) (heq : status = .notConnected) :
    status' = .notConnected := by
  subst heq
  cases status' with
  | notConnected => rfl
  | connected => exact absurd h (by decide)
  | disconnectPending => exact absurd h (by decide)

/-- A packet handed to the transport. -/
def Event.IsSent : Event → Prop
  | .sent _ _ _ _ => True
  | _ => False

/-- Nothing is handed to the transport, and the connection status does not rise. -/
structure Silent (s s' : Sys) : Prop where
  wire : s'.wire = s.wire
  log : ∃ events, s'.log = s.log ++ events ∧ ∀ e ∈ events, ¬ e.IsSent
  status : s'.connectStatus.level ≤ s.connectStatus.level

theorem Silent.of_log_eq {s s' : Sys} (hwire : s'.wire = s.wire) (hlog : s'.log = s.log)
    (hstatus : s'.connectStatus.level ≤ s.connectStatus.level) : Silent s s' :=
  ⟨hwire, ⟨[], by simp [hlog]⟩, hstatus⟩

theorem Silent.refl (s : Sys) : Silent s s := .of_log_eq rfl rfl (Nat.le_refl _)

theorem Untouched.silent {s s' : Sys} (h : Untouched s s') : Silent s s' :=
  .of_log_eq h.wire h.log (Nat.le_of_eq (by rw [h.connectStatus]))

/-- A sequence of steps of the library. -/
def Library : Sys → Sys → Prop := ReflTransGen (Step Silent (· ≠ .disconnect))

theorem Library.silent {s s' : Sys} (h : Silent s s') : Library s s' := .single (.quiet h)

theorem Requests.library {s s' : Sys} (h : Requests s s') : Library s s' := by
  refine ReflTransGen.mono (fun s s' hstep => ?_) _ _ h
  cases hstep with
  | quiet h => exact .quiet h.silent
  | send kind packet n stop hkind hconn hsent =>
    exact .send kind packet n stop (by rintro rfl; exact hkind) hconn hsent
  | disconnect n stop hconn hsent => exact .disconnect n stop hconn hsent

/-- Requests of the application write nothing but packets to the log. -/
theorem Requests.sent_log {s s' : Sys} (h : Requests s s') :
    ∃ events, s'.log = s.log ++ events ∧ ∀ e ∈ events, e.IsSent := by
  induction h with
  | refl => exact ⟨[], by simp⟩
  | @tail s₁ s₂ _ hstep ih =>
    obtain ⟨events, hlog, hsent⟩ := ih
    have hmore : ∃ more, s₂.log = s₁.log ++ more ∧ ∀ e ∈ more, e.IsSent := by
      cases hstep with
      | quiet huntouched => exact ⟨[], by simp [huntouched.log]⟩
      | send kind packet n stop _ _ hsent => exact ⟨[_], hsent.log_eq, by simp [Event.IsSent]⟩
      | disconnect n stop _ hsent => exact ⟨[_], hsent.log_eq, by simp [Event.IsSent]⟩
    obtain ⟨more, hlog', hsent'⟩ := hmore
    refine ⟨events ++ more, by rw [hlog', hlog, List.append_assoc], ?_⟩
    exact List.forall_mem_append.2 ⟨hsent, hsent'⟩

/-- The log only grows. -/
theorem Library.log_extends {s s' : Sys} (h : Library s s') : ∃ events, s'.log = s.log ++ events := by
  induction h with
  | refl => exact ⟨[], by simp⟩
  | tail _ hstep ih =>
    obtain ⟨events, hlog⟩ := ih
    cases hstep with
    | quiet hsilent =>
      obtain ⟨more, hmore, -⟩ := hsilent.log
      exact ⟨events ++ more, by rw [hmore, hlog, List.append_assoc]⟩
    | send kind packet n stop _ _ hsent =>
      exact ⟨events ++ [_], by rw [hsent.log_eq, hlog, List.append_assoc]⟩
    | disconnect n stop _ hsent =>
      refine ⟨events ++ [.sent .disconnect mqttSerializeDisconnect n stop], hsent.log_eq.trans ?_⟩
      rw [← List.append_assoc, ← hlog]
      rfl

/-- Only `MQTT_Connect` makes a connection. -/
theorem Library.level_le {s s' : Sys} (h : Library s s') :
    s'.connectStatus.level ≤ s.connectStatus.level := by
  induction h with
  | refl => exact Nat.le_refl _
  | tail _ hstep ih =>
    cases hstep with
    | quiet hsilent => exact hsilent.status.trans ih
    | send kind packet n stop _ _ hsent =>
      rw [hsent.connectStatus_eq]
      exact (level_statusAfter_le _ _).trans ih
    | disconnect n stop _ hsent =>
      rw [hsent.connectStatus_eq]
      exact (level_statusAfter_le _ _).trans (Nat.zero_le _)

/-! ## Receiving -/

/-- What reading from the transport leaves alone. -/
structure Received (s s' : Sys) : Prop where
  wire : s'.wire = s.wire
  log : s'.log = s.log
  store : s'.store = s.store
  records : s'.toPublishRecords = s.toPublishRecords
  retrieve : s'.retrieveFunction = s.retrieveFunction
  status : s'.connectStatus.level ≤ s.connectStatus.level

theorem Received.refl (s : Sys) : Received s s := ⟨rfl, rfl, rfl, rfl, rfl, Nat.le_refl _⟩

theorem Received.trans {s s' s'' : Sys} (h : Received s s') (h' : Received s' s'') :
    Received s s'' :=
  ⟨h'.wire.trans h.wire, h'.log.trans h.log, h'.store.trans h.store,
    h'.records.trans h.records, h'.retrieve.trans h.retrieve, h'.status.trans h.status⟩

theorem Received.silent {s s' : Sys} (h : Received s s') : Silent s s' :=
  .of_log_eq h.wire h.log h.status

/-- A preorder that everything keeps to which reads from the transport and the clock. -/
structure ReadPreorder (r : Sys → Sys → Prop) : Prop where
  refl : ∀ s, r s s
  trans : ∀ {s s' s'' : Sys}, r s s' → r s' s'' → r s s''
  clock : ∀ s, r s (getTime s).2
  error : ∀ s, r s (networkError s)
  recv : ∀ s bytesToRecv, r s (transportRecv s bytesToRecv).2.2
  write : ∀ s offset bytes, r s { s with networkBuffer := writeAt s.networkBuffer offset bytes }

namespace ReadPreorder

variable {r : Sys → Sys → Prop} (h : ReadPreorder r) (c : Config)

include h

theorem recvExactLoop (fuel offset bytesRemaining : Nat) (totalBytesRecvd : Int)
    (lastDataRecvTimeMs : UInt32) (s : Sys) : r s (FreeMqtt.recvExactLoop c fuel offset
      bytesRemaining totalBytesRecvd lastDataRecvTimeMs s).2 := by
  induction fuel generalizing offset bytesRemaining totalBytesRecvd lastDataRecvTimeMs s with
  | zero => exact h.refl s
  | succ fuel ih =>
    have hread := h.trans (h.recv s bytesRemaining)
      (h.write _ offset (transportRecv s bytesRemaining).2.1)
    unfold FreeMqtt.recvExactLoop
    dsimp only at hread ⊢
    split
    swap
    · exact h.refl s
    split
    · exact h.trans hread (h.error _)
    split
    · exact h.trans (h.trans hread (h.clock _)) (ih ..)
    split
    · exact h.trans hread (h.clock _)
    · exact h.trans (h.trans hread (h.clock _)) (ih ..)

theorem recvExact (s : Sys) (bytesToRecv : Nat) : r s (FreeMqtt.recvExact c s bytesToRecv).2 :=
  h.trans (h.clock s) (h.recvExactLoop ..)

theorem discardStoredLoop (remainingLength fuel bytesToReceive totalBytesReceived : Nat) (s : Sys) :
    r s (FreeMqtt.discardStoredLoop c remainingLength fuel bytesToReceive totalBytesReceived s).2 := by
  induction fuel generalizing bytesToReceive totalBytesReceived s with
  | zero => exact h.refl s
  | succ fuel ih =>
    have hread := h.recvExact c s (min bytesToReceive (remainingLength - totalBytesReceived))
    unfold FreeMqtt.discardStoredLoop
    dsimp only
    split
    · split
      · exact hread
      · exact h.trans hread (ih ..)
    · exact h.refl s

theorem discardLoop (remainingLength : Nat) (timeoutMs entryTimeMs : UInt32)
    (fuel bytesToReceive totalBytesReceived : Nat) (s : Sys) : r s (FreeMqtt.discardLoop c
      remainingLength timeoutMs entryTimeMs fuel bytesToReceive totalBytesReceived s).2 := by
  induction fuel generalizing bytesToReceive totalBytesReceived s with
  | zero => exact h.refl s
  | succ fuel ih =>
    have hread := h.recvExact c s (min bytesToReceive (remainingLength - totalBytesReceived))
    unfold FreeMqtt.discardLoop
    dsimp only
    split
    swap
    · exact h.refl s
    split
    · exact hread
    split
    · exact h.trans hread (h.clock _)
    · exact h.trans (h.trans hread (h.clock _)) (ih ..)

theorem receivePacket (s : Sys) (packet : PacketInfo) (remainingTimeMs : UInt32) :
    r s (FreeMqtt.receivePacket c s packet remainingTimeMs).2 := by
  unfold FreeMqtt.receivePacket
  split
  · exact h.trans (h.clock s) (h.discardLoop ..)
  · exact h.recvExact c s _

end ReadPreorder

/-- `s'` is `s` after reads from the transport and the clock. -/
def Reads (s s' : Sys) : Prop :=
  ∃ ticks recvs inbound networkBuffer index connectStatus,
    connectStatus.level ≤ s.connectStatus.level ∧ s' = { s with
      ticks, recvs, inbound, networkBuffer, index, connectStatus }

theorem Reads.refl (s : Sys) : Reads s s := ⟨_, _, _, _, _, _, Nat.le_refl _, rfl⟩

theorem Reads.trans {s s' s'' : Sys} (h : Reads s s') (h' : Reads s' s'') : Reads s s'' := by
  obtain ⟨_, _, _, _, _, _, hlevel, rfl⟩ := h
  obtain ⟨ticks, recvs, inbound, networkBuffer, index, connectStatus, hlevel', rfl⟩ := h'
  exact ⟨ticks, recvs, inbound, networkBuffer, index, connectStatus, hlevel'.trans hlevel, rfl⟩

theorem Reads.received {s s' : Sys} (h : Reads s s') : Received s s' := by
  obtain ⟨_, _, _, _, _, _, hlevel, rfl⟩ := h
  exact ⟨rfl, rfl, rfl, rfl, rfl, hlevel⟩

theorem reads_getTime (s : Sys) : Reads s (getTime s).2 :=
  ⟨_, _, _, _, _, _, Nat.le_refl _, rfl⟩

theorem reads_buffer (s : Sys) (networkBuffer : List UInt8) (index : Nat) :
    Reads s { s with networkBuffer, index } := ⟨_, _, _, _, _, _, Nat.le_refl _, rfl⟩

theorem networkError_not_connected (s : Sys) : (networkError s).connectStatus ≠ .connected := by
  unfold networkError
  dsimp only
  split
  · simp
  · assumption

theorem reads_networkError (s : Sys) : Reads s (networkError s) := by
  refine ⟨_, _, _, _, _, _, ?_, rfl⟩
  split
  · rename_i h
    rw [h]
    decide
  · exact Nat.le_refl _

theorem reads_transportRecv (s : Sys) (bytesToRecv : Nat) :
    Reads s (transportRecv s bytesToRecv).2.2 := by
  unfold transportRecv
  split
  · exact ⟨_, _, _, _, _, _, Nat.le_refl _, rfl⟩
  dsimp only
  split
  · exact ⟨_, _, _, _, _, _, Nat.le_refl _, rfl⟩
  · exact ⟨_, _, _, _, _, _, Nat.le_refl _, rfl⟩

theorem reads_preorder : ReadPreorder Reads :=
  ⟨.refl, .trans, reads_getTime, reads_networkError, reads_transportRecv,
    fun s _ _ => reads_buffer s _ _⟩

theorem reads_discardStoredPacket (c : Config) (s : Sys) (packet : PacketInfo) :
    Reads s (discardStoredPacket c s packet).2 :=
  (reads_preorder.discardStoredLoop ..).trans (reads_buffer _ _ _)

theorem reads_readIntoBuffer (c : Config) (s : Sys) : Reads s (readIntoBuffer c s).2.2.2 := by
  have hread : ∀ networkBuffer index, Reads s
      { (transportRecv s (c.sizeSub s.networkBuffer.length s.index)).2.2 with
        networkBuffer, index } := fun networkBuffer index =>
    (reads_transportRecv s _).trans (reads_buffer _ networkBuffer index)
  unfold readIntoBuffer
  dsimp only
  split
  · exact (hread _ _).trans (reads_networkError _)
  · split
    · exact hread _ _
    · exact hread _ _

theorem received_networkError (s : Sys) : Received s (networkError s) :=
  (reads_networkError s).received

theorem received_getTime (s : Sys) : Received s (getTime s).2 := (reads_getTime s).received

theorem received_discardStoredPacket (c : Config) (s : Sys) (packet : PacketInfo) :
    Received s (discardStoredPacket c s packet).2 := (reads_discardStoredPacket c s packet).received

theorem received_readIntoBuffer (c : Config) (s : Sys) : Received s (readIntoBuffer c s).2.2.2 :=
  (reads_readIntoBuffer c s).received

/-! ## Handlers -/

theorem sendPublishAcks_library (c : Config) (s : Sys) (packetId : UInt16) (state : PublishState) :
    Library s (sendPublishAcks c s packetId state).2 := by
  by_cases hsend : packetId = 0 ∨ s.connectStatus ≠ .connected
  · rw [sendPublishAcks_unsent c state hsend]
    exact .refl
  · obtain ⟨hid, hconn⟩ := not_or.1 hsend
    rw [not_not] at hconn
    cases hack : ackToSend state with
    | none =>
      rw [sendPublishAcks_none c s packetId hack]
      exact .refl
    | some packetType =>
      obtain ⟨s₁, n, stop, hsent, heq⟩ := sendPublishAcks_connected c hack hid hconn
      have hstep : Library s s₁ := .single (.send _ _ n stop (by simp) hconn hsent)
      rw [heq]
      split
      · exact hstep.tail (.quiet (.of_log_eq rfl rfl (Nat.le_refl _)))
      · exact hstep

theorem library_record (s : Sys) {e : Event} (h : ¬ e.IsSent) : Library s (s.record e) :=
  .silent ⟨rfl, ⟨[e], rfl, by simpa using h⟩, Nat.le_refl _⟩

theorem appCallback_library (c : Config) (s : Sys) (packet : PacketInfo)
    (info : DeserializedInfo) : Library s (appCallback c s packet info) :=
  (library_record s id).trans (appCallback_requests c s packet info).library

theorem library_setRecords (s : Sys) (t : PublishRecords) : Library s (s.setRecords t) :=
  .silent (.of_log_eq rfl rfl (Nat.le_refl _))

/-- `handleKeepAlive` reads the clock, and may send a PINGREQ. -/
theorem handleKeepAlive_context (c : Config) (s : Sys) :
    (handleKeepAlive c s).2 = (getTime s).2 ∨
      (handleKeepAlive c s).2 = (mqttPing c (getTime s).2).2 := by
  unfold handleKeepAlive
  dsimp only
  split
  · exact .inl rfl
  split
  · exact .inr rfl
  split
  · exact .inr rfl
  · exact .inl rfl

theorem handleKeepAlive_library (c : Config) (s : Sys) : Library s (handleKeepAlive c s).2 := by
  have hclock : Library s (getTime s).2 := .silent (received_getTime s).silent
  rcases handleKeepAlive_context c s with heq | heq
  · rw [heq]
    exact hclock
  · rw [heq]
    exact hclock.trans (mqttPing_requests c (getTime s).2).library

theorem handleIncomingPublish_library (c : Config) (s : Sys) (packet : PacketInfo) :
    Library s (handleIncomingPublish c s packet).2 := by
  unfold handleIncomingPublish
  dsimp only
  split
  · exact .refl
  split
  · exact .refl
  split
  · exact ((library_setRecords s _).trans (appCallback_library ..)).trans
      (sendPublishAcks_library ..)
  split
  · exact (library_setRecords s _).trans (sendPublishAcks_library ..)
  · exact library_setRecords s _

theorem handlePublishAcks_library (c : Config) (s : Sys) (packet : PacketInfo) :
    Library s (handlePublishAcks c s packet).2 := by
  unfold handlePublishAcks
  dsimp only
  split
  · exact .refl
  split
  · exact library_setRecords s _
  · refine .trans ?_ (sendPublishAcks_library ..)
    refine .trans ?_ (appCallback_library ..)
    split
    · exact Library.silent (.of_log_eq rfl rfl (Nat.le_refl _))
    · exact library_setRecords s _

theorem handleIncomingAck_library (c : Config) (s : Sys) (packet : PacketInfo)
    (manageKeepAlive : Bool) : Library s (handleIncomingAck c s packet manageKeepAlive).2 := by
  unfold handleIncomingAck
  dsimp only
  split
  · exact handlePublishAcks_library c s packet
  split
  · split
    · exact .refl
    split
    · exact .silent (.of_log_eq rfl rfl (Nat.le_refl _))
    · exact appCallback_library ..
  split
  · split
    · exact appCallback_library ..
    · exact .refl
  · exact .refl

/-! ## Loops and calls -/

theorem checkComplete_received (c : Config) (status : Status) (packet : PacketInfo) (s : Sys) :
    Received s (checkComplete c status packet s).2 := by
  unfold checkComplete
  dsimp only
  split
  · exact .refl s
  split
  · exact received_discardStoredPacket c s packet
  split
  · exact .refl s
  · exact .refl s

theorem handlePacket_library (c : Config) (manageKeepAlive : Bool) (packet : PacketInfo) (s : Sys) :
    Library s (handlePacket c manageKeepAlive packet s).2 := by
  have hrecord := library_record s (e := .dispatched packet.type
    (readBytes packet.pRemainingData packet.remainingLength)) id
  unfold handlePacket
  dsimp only
  split
  · exact hrecord.trans (handleIncomingPublish_library ..)
  · exact hrecord.trans (handleIncomingAck_library ..)

theorem dispatchPacket_library (c : Config) (manageKeepAlive : Bool) (packet : PacketInfo)
    (s : Sys) : Library s (dispatchPacket c manageKeepAlive packet s).2 := by
  have hhandled := handlePacket_library c manageKeepAlive
    { packet with pRemainingData := some (s.networkBuffer.drop packet.headerLength) } s
  unfold dispatchPacket
  dsimp only
  split
  · exact hhandled.tail (.quiet (.of_log_eq rfl rfl (Nat.le_refl _)))
  · exact hhandled.tail (.quiet (.of_log_eq rfl rfl (Nat.le_refl _)))

theorem receiveSingleIteration_library (c : Config) (s : Sys) (manageKeepAlive : Bool) :
    Library s (receiveSingleIteration c s manageKeepAlive).2 := by
  have hread := Library.silent (received_readIntoBuffer c s).silent
  unfold receiveSingleIteration
  dsimp only
  have hkept : Library s (checkKeepAlive c (readIntoBuffer c s).1 manageKeepAlive
      (readIntoBuffer c s).2.1 (readIntoBuffer c s).2.2.2).2 := by
    unfold checkKeepAlive
    split
    · exact hread.trans (handleKeepAlive_library ..)
    · exact hread
  generalize checkKeepAlive c (readIntoBuffer c s).1 manageKeepAlive
      (readIntoBuffer c s).2.1 (readIntoBuffer c s).2.2.2 = kept at hkept
  have hcomplete := hkept.tail
    (.quiet (checkComplete_received c kept.1 (readIntoBuffer c s).2.2.1 kept.2).silent)
  split
  · exact hcomplete.trans (dispatchPacket_library ..)
  · exact hcomplete

theorem mqttInit_silent (s : Sys) (transport : Option TransportInterface)
    (getTimeFunction userCallback : Bool) (buffer : Option (List UInt8)) :
    Silent s (mqttInit s transport getTimeFunction userCallback buffer).2 := by
  unfold mqttInit
  split
  · split_ifs
    · exact .refl s
    · exact .refl s
    · exact .refl s
    · exact .refl s
    · exact .of_log_eq rfl rfl (Nat.zero_le _)
  · exact .refl s

theorem mqttInitStatefulQoS_silent (s : Sys) (outgoing : Option (List PubAckInfo))
    (outgoingCount : Nat) (incoming : Option (List PubAckInfo)) (incomingCount : Nat) :
    Silent s (mqttInitStatefulQoS s outgoing outgoingCount incoming incomingCount).2 := by
  unfold mqttInitStatefulQoS
  split_ifs
  · exact .refl s
  · exact .refl s
  · exact .of_log_eq rfl rfl (Nat.le_refl _)

theorem mqttInitRetransmits_silent (s : Sys)
    (storeFunction retrieveFunction clearFunction : Bool) :
    Silent s (mqttInitRetransmits s storeFunction retrieveFunction clearFunction).2 := by
  unfold mqttInitRetransmits
  split_ifs
  · exact .refl s
  · exact .refl s
  · exact .refl s
  · exact .of_log_eq rfl rfl (Nat.le_refl _)

/-- Every call is a sequence of steps. -/
theorem ApiCall.library (c : Config) (s : Sys) (call : ApiCall) : Library s (call.run c s) := by
  cases call with
  | init transport getTimeFunction userCallback buffer =>
    exact .silent (mqttInit_silent s transport getTimeFunction userCallback buffer)
  | initStatefulQoS outgoing outgoingCount incoming incomingCount =>
    exact .silent (mqttInitStatefulQoS_silent s outgoing outgoingCount incoming incomingCount)
  | initRetransmits storeFunction retrieveFunction clearFunction =>
    exact .silent (mqttInitRetransmits_silent s storeFunction retrieveFunction clearFunction)
  | request call => exact (call.requests c s).library
  | processLoop =>
    have hreset : Library s { s with controlPacketSent := false } :=
      .silent (.of_log_eq rfl rfl (Nat.le_refl _))
    exact hreset.trans (receiveSingleIteration_library c _ true)
  | receiveLoop => exact receiveSingleIteration_library c s false
  | checkConnectStatus => exact .refl

/-- A run is a sequence of steps. -/
theorem runApi_library (c : Config) (s : Sys) (calls : List ApiCall) :
    Library s (runApi c s calls) := by
  induction calls generalizing s with
  | nil => exact .refl
  | cons call calls ih => exact (call.library c s).trans (ih _)

end FreeMqtt

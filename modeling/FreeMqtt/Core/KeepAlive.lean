import FreeMqtt.Core.CallbackCalls
import FreeMqtt.Core.Framing

/-!
# The keep-alive under traffic

`MQTT_ProcessLoop` is to send something before the transmit interval is over. It looks at the time
only when its read returns no byte, and then only when it waits for no PINGRESP. So the interval is
over behind a successful call exactly when it was so before, the check was left out, and the packet
at hand made nobody send anything (`MissesKeepAlive`).
-/

namespace FreeMqtt

/-! ## Packets sent completely -/

/-- `packetTxTimeoutMs` of `handleKeepAlive`. -/
def transmitTimeout (c : Config) (s : Sys) : Nat :=
  min c.packetTxTimeoutMs (1000 * s.keepAliveIntervalSec.toNat)

section Stamps

variable {now : UInt32} {s s' : Sys}

theorem sendPacket_stamps (c : Config) (kind : PacketKind) (packet : List UInt8)
    (hclock : ∀ n, s.clock n = now) (h : 0 < (sendPacket c s kind packet).1) :
    (sendPacket c s kind packet).2.lastPacketTxTime = now := by
  obtain ⟨s₁, hbefore, hafter⟩ := (stamped_preorder now).sendPacket_stamps c h
  obtain ⟨hclock₁, -⟩ := hbefore hclock
  obtain ⟨-, hkept | hnow⟩ := hafter hclock₁
  · exact hkept.trans (hclock₁ s₁.ticks)
  · exact hnow

/-- An acknowledgement that succeeds was sent. -/
theorem sendPublishAcks_stamps (c : Config) {packetId : UInt16} {state : PublishState}
    (hack : ackToSend state ≠ none) (hclock : ∀ n, s.clock n = now)
    (h : (sendPublishAcks c s packetId state).1 = .success) :
    (sendPublishAcks c s packetId state).2.lastPacketTxTime = now := by
  obtain ⟨packetType, hsome⟩ := Option.ne_none_iff_exists'.1 hack
  have hsent := sendPacket_stamps c (.ack packetType packetId)
    (mqttSerializeAck packetType.toByte packetId).2 hclock
  unfold sendPublishAcks at h ⊢
  rw [getAckTypeToSend_eq, hsome] at h ⊢
  dsimp only at h ⊢
  rw [if_neg (toByte_ne_zero packetType), getAckFromPacketType_toByte] at h ⊢
  split at h
  · rename_i hserialize
    exact absurd h hserialize
  rename_i hserialize
  rw [if_neg hserialize]
  split at h
  · dsimp only at h
    unfold notConnectedStatus at h
    split at h <;> exact absurd h (by simp)
  rename_i hconn
  rw [if_neg hconn]
  split at h
  · exact absurd h (by simp)
  rename_i hcomplete
  rw [if_neg hcomplete]
  refine hsent (Int.lt_of_lt_of_le ?_ (Int.not_lt.1 hcomplete))
  decide

/-- A PINGREQ that succeeds was sent, and its PINGRESP is awaited. -/
theorem mqttPing_sent {c : Config} (h : (mqttPing c s).1 = .success) :
    let sent := sendPacket c s .pingreq mqttSerializePingreq
    0 < sent.1 ∧ (mqttPing c s).2 = { sent.2 with
      pingReqSendTimeMs := sent.2.lastPacketTxTime
      waitingForPingResp := true } := by
  unfold mqttPing at h ⊢
  dsimp only at h ⊢
  split at h
  · dsimp only at h
    unfold notConnectedStatus at h
    split at h <;> exact absurd h (by simp)
  rename_i hconn
  rw [if_neg hconn]
  split at h
  · exact absurd h (by simp)
  rename_i hcomplete
  rw [if_neg hcomplete]
  refine ⟨Int.lt_of_lt_of_le ?_ (Int.not_lt.1 hcomplete), rfl⟩
  decide

theorem mqttPing_success (c : Config) (hclock : ∀ n, s.clock n = now)
    (h : (mqttPing c s).1 = .success) : (mqttPing c s).2.lastPacketTxTime = now := by
  obtain ⟨hpos, heq⟩ := mqttPing_sent h
  rw [heq]
  exact sendPacket_stamps c .pingreq mqttSerializePingreq hclock hpos

theorem mqttPing_status (c : Config) (s : Sys) : (mqttPing c s).1 ∈ handlerStatuses := by
  unfold mqttPing
  dsimp only
  split
  · unfold notConnectedStatus
    split <;> simp [handlerStatuses]
  split
  · simp [handlerStatuses]
  · exact List.mem_cons_self

theorem Reads.stamps (h : Reads s s') : Stamped now s s' := by
  obtain ⟨_, _, _, _, _, _, -, rfl⟩ := h
  exact .of_eq rfl rfl

theorem Reads.waitingForPingResp (h : Reads s s') :
    s'.waitingForPingResp = s.waitingForPingResp := by
  obtain ⟨_, _, _, _, _, _, -, rfl⟩ := h
  rfl

end Stamps

/-! ## The keep-alive check -/

/-- The keep-alive check sends nothing: it is left out, or the PINGRESP is still in time. -/
def SendsNoPing (c : Config) (now : UInt32) (s : Sys) (recvBytes : Int) : Prop :=
  0 < recvBytes ∨ recvBytes = 0 ∧ s.waitingForPingResp = true ∧
    (calculateElapsedTime now s.pingReqSendTimeMs).toNat ≤ c.pingrespTimeoutMs

/-- The statuses behind which a call of the loop can still succeed. -/
def continuing : List Status := [.success, .needMoreBytes, .noDataAvailable]

theorem not_continuing : ∀ status ∈ handlerStatuses, status ≠ .success → status ∉ continuing := by
  decide

section Check

variable (c : Config) {now : UInt32} {s : Sys} {recvBytes : Int} {status : Status}

theorem checkKeepAlive_sendsNoPing (hclock : ∀ n, s.clock n = now)
    (h : SendsNoPing c now s recvBytes) :
    ∃ ticks, checkKeepAlive c recvBytes true status s = (status, { s with ticks }) := by
  unfold checkKeepAlive
  rcases h with hpos | ⟨rfl, hwaiting, htime⟩
  · exact ⟨s.ticks, if_neg fun h => absurd h.1 (by omega)⟩
  · have hkept : handleKeepAlive c s = (.success, (getTime s).2) := by
      unfold handleKeepAlive
      dsimp only
      have hnow : (getTime s).1 = now := hclock s.ticks
      have hwaits : (getTime s).2.waitingForPingResp = true := hwaiting
      have hping : (getTime s).2.pingReqSendTimeMs = s.pingReqSendTimeMs := rfl
      rw [if_pos hwaits, hnow, hping, if_neg (Nat.not_lt.2 htime)]
    rw [if_pos ⟨rfl, rfl⟩, hkept]
    dsimp only
    rw [if_pos rfl]
    exact ⟨s.ticks + 1, rfl⟩

/-- A check that is made in time for a PINGREQ sends it, or ends the call. -/
theorem checkKeepAlive_late (hclock : ∀ n, s.clock n = now)
    (hlate : transmitTimeout c s ≤ sinceTransmit now s) (hpos : 0 < transmitTimeout c s)
    (hread : recvBytes < 0 → status ∉ continuing) (h : ¬ SendsNoPing c now s recvBytes)
    (hkept : (checkKeepAlive c recvBytes true status s).1 ∈ continuing) :
    (checkKeepAlive c recvBytes true status s).2.lastPacketTxTime = now := by
  unfold checkKeepAlive at hkept ⊢
  have hle : recvBytes ≤ 0 := Int.not_lt.1 fun h' => h (.inl h')
  by_cases hzero : recvBytes = 0
  swap
  · rw [if_neg fun h => hzero h.1] at hkept
    exact absurd hkept (hread (by omega))
  rw [if_pos ⟨hzero, rfl⟩] at hkept ⊢
  have hnow : (getTime s).1 = now := hclock s.ticks
  have hping := @mqttPing_success now (getTime s).2 c hclock
  have hstatus := mqttPing_status c (getTime s).2
  unfold handleKeepAlive at hkept ⊢
  dsimp only at hkept ⊢
  rw [hnow] at hkept ⊢
  by_cases hwaiting : (getTime s).2.waitingForPingResp = true
  · have hover : c.pingrespTimeoutMs <
        (calculateElapsedTime now (getTime s).2.pingReqSendTimeMs).toNat :=
      Nat.not_le.1 fun htime => h (.inr ⟨hzero, hwaiting, htime⟩)
    rw [if_pos hwaiting, if_pos hover, if_neg (by simp)] at hkept
    exact absurd hkept (by simp [continuing])
  rw [if_neg hwaiting] at hkept ⊢
  have htransmit : min c.packetTxTimeoutMs (1000 * (getTime s).2.keepAliveIntervalSec.toNat) ≠ 0 ∧
      min c.packetTxTimeoutMs (1000 * (getTime s).2.keepAliveIntervalSec.toNat) ≤
        (calculateElapsedTime now (getTime s).2.lastPacketTxTime).toNat :=
    ⟨Nat.ne_of_gt hpos, hlate⟩
  rw [if_pos htransmit] at hkept ⊢
  split at hkept
  · rename_i hok
    exact hping hok
  · rename_i hfail
    exact absurd hkept (not_continuing _ hstatus hfail)

end Check

/-! ## The packet at hand -/

/-- The context in which the application makes the calls of a callback. -/
def CallbackFrame.calling (frame : CallbackFrame) (packet : PacketInfo) : Sys :=
  { frame.before.record (.callback packet frame.info) with
    callbacks := frame.before.callbacks.tail }

/-- The handler of a packet succeeds without sending anything, and no PINGRESP is awaited after it:
the packet is a PINGRESP, or it is given to the application, whose calls send nothing, and is not
acknowledged. -/
def StaysSilent (c : Config) (s : Sys) (packet : PacketInfo) : Prop :=
  match callbackFrame (s.dispatching packet) packet true with
  | some frame =>
      s.waitingForPingResp = false ∧
        ¬ SomeTransmits c (frame.calling packet) (s.callbacks.headD []) ∧
        ∀ reply ∈ frame.reply, ackToSend reply.2 = none
  | none => packet.type = packetTypePingresp ∧ (mqttDeserializeAck packet true false).1 = .success

section Handler

variable (c : Config) {now : UInt32} {timeout : Nat} {s : Sys} {packet : PacketInfo}

theorem handlePacket_pingresp (htype : packet.type = packetTypePingresp)
    (hdecoded : (mqttDeserializeAck packet true false).1 = .success) :
    handlePacket c true packet s =
      (.success, { s.dispatching packet with waitingForPingResp := false }) := by
  unfold handlePacket handleIncomingAck
  dsimp only
  rw [htype, if_neg (by decide), if_neg (by decide), if_pos rfl, if_neg (not_not_intro hdecoded),
    if_pos rfl, ← htype]
  rfl

/-- A publish that is handled without the callback is a duplicate, which is acknowledged. -/
theorem handleIncomingPublish_silent_success (h : publishFrame s packet = none)
    (hok : (handleIncomingPublish c s packet).1 = .success) :
    ∃ t packetId qos, qos ≠ .qos0 ∧ handleIncomingPublish c s packet =
      sendPublishAcks c (s.setRecords t) packetId (mqttCalculateStatePublish .receive qos) := by
  unfold publishFrame at h
  unfold handleIncomingPublish at hok ⊢
  dsimp only at h hok ⊢
  split at hok
  · rename_i hdecoded
    exact absurd hok hdecoded
  split at hok
  · exact absurd hok (by simp)
  rename_i hdecoded hrecords
  rw [if_neg hdecoded, if_neg hrecords]
  generalize hupdated : mqttUpdateStatePublish s.toPublishRecords
    ((mqttDeserializePublish packet).2.1.getD 0) .receive
    (mqttDeserializePublish packet).2.2.qos = updated at *
  split at hok
  · rename_i hsuccess
    rw [if_pos ⟨not_not.1 hdecoded, hrecords, hsuccess⟩] at h
    cases h
  rename_i hfail
  rw [if_neg hfail]
  split at hok
  · rename_i hcollision
    rw [if_pos hcollision]
    refine ⟨_, _, _, fun hqos => hfail ?_, rfl⟩
    rw [← hupdated, hqos]
    rfl
  · exact absurd hok hfail

theorem handlePublishAcks_silent_failed (h : publishAckFrame s packet = none) :
    (handlePublishAcks c s packet).1 ≠ .success := by
  intro hok
  unfold publishAckFrame at h
  unfold handlePublishAcks at hok
  dsimp only at h hok
  split at hok
  · rename_i hdecoded
    exact hdecoded hok
  rename_i hdecoded
  split at hok
  · rename_i hupdated
    exact hupdated hok
  · rename_i hupdated
    rw [if_pos ⟨not_not.1 hdecoded, not_not.1 hupdated⟩] at h
    cases h

/-- An acknowledgement that is handled without the callback is a PINGRESP. -/
theorem handleIncomingAck_silent_success (h : ackFrame s packet true = none)
    (hok : (handleIncomingAck c s packet true).1 = .success) :
    packet.type = packetTypePingresp ∧ (mqttDeserializeAck packet true false).1 = .success := by
  unfold ackFrame isPublishAck at h
  unfold handleIncomingAck at hok
  dsimp only at h hok
  simp only [decide_eq_true_eq] at h
  split at hok
  · rename_i hack
    rw [if_pos hack] at h
    exact absurd hok (handlePublishAcks_silent_failed c h)
  split at hok
  · rename_i hping
    refine ⟨hping, ?_⟩
    by_contra hdecoded
    rw [if_pos hdecoded] at hok
    exact hdecoded hok
  rename_i hack hping
  rw [if_neg hack, if_neg hping] at h
  split at hok
  · rename_i hsub
    rw [if_pos hsub] at h
    split at hok
    · rename_i hdecoded
      rw [if_pos hdecoded] at h
      cases h
    · rename_i hdecoded
      exact absurd (.inl hok) hdecoded
  · exact absurd hok (by simp)

/-- A handler that does not invoke the callback succeeds on a PINGRESP, and on a duplicate that it
acknowledges. -/
theorem handlePacket_silent_success (h : callbackFrame (s.dispatching packet) packet true = none)
    (hok : (handlePacket c true packet s).1 = .success) :
    packet.type = packetTypePingresp ∧ (mqttDeserializeAck packet true false).1 = .success ∨
      ∃ t packetId qos, qos ≠ .qos0 ∧ handlePacket c true packet s =
        sendPublishAcks c ((s.dispatching packet).setRecords t) packetId
          (mqttCalculateStatePublish .receive qos) := by
  unfold callbackFrame at h
  have hpacket : handlePacket c true packet s = if packet.type &&& 0xF0 = packetTypePublish then
      handleIncomingPublish c (s.dispatching packet) packet
      else handleIncomingAck c (s.dispatching packet) packet true := rfl
  rw [hpacket] at hok ⊢
  split at h
  · rename_i htype
    rw [if_pos htype] at hok ⊢
    exact .inr (handleIncomingPublish_silent_success c h hok)
  · rename_i htype
    rw [if_neg htype] at hok
    exact .inl (handleIncomingAck_silent_success c h hok)

theorem ackToSend_received {qos : QoS} (hqos : qos ≠ .qos0) :
    ackToSend (mqttCalculateStatePublish .receive qos) ≠ none := by
  cases qos with
  | qos0 => exact absurd rfl hqos
  | qos1 => exact fun h => nomatch h
  | qos2 => exact fun h => nomatch h

theorem callbackFrame_kept {frame : CallbackFrame}
    (hframe : callbackFrame (s.dispatching packet) packet true = some frame) :
    frame.before.callbacks = s.callbacks ∧ frame.before.clock = s.clock ∧
      frame.before.lastPacketTxTime = s.lastPacketTxTime ∧
      frame.before.waitingForPingResp = s.waitingForPingResp := by
  obtain ⟨t, store, hbefore⟩ := callbackFrame_before hframe
  rw [hbefore]
  exact ⟨rfl, rfl, rfl, rfl⟩

theorem not_late_of_stamped (hpos : 0 < timeout) {s' : Sys} (h : s'.lastPacketTxTime = now) :
    ¬ timeout ≤ sinceTransmit now s' := by
  rw [sinceTransmit_now h]
  exact Nat.not_le.2 hpos

/-- The application's calls leave the transmit interval running exactly if they transmit. -/
theorem calls_silent_iff {called : Sys} (hclock : ∀ n, called.clock n = now) (hpos : 0 < timeout)
    (hlate : timeout ≤ sinceTransmit now called) (calls : List SendCall) :
    let app := calls.foldl (SendCall.run c) called
    app.waitingForPingResp = false ∧ timeout ≤ sinceTransmit now app ↔
      called.waitingForPingResp = false ∧ ¬ SomeTransmits c called calls := by
  intro app
  by_cases hsome : SomeTransmits c called calls
  · have hstamped := foldl_run_transmits c hclock hsome
    exact iff_of_false (fun h => not_late_of_stamped hpos hstamped h.2) fun h => h.2 hsome
  · obtain ⟨hkept, hwaits⟩ := foldl_run_refused c hsome
    have hover : timeout ≤ sinceTransmit now app := by
      unfold sinceTransmit at hlate ⊢
      rwa [hkept]
    rw [hwaits]
    exact ⟨fun h => ⟨h.1, hsome⟩, fun h => ⟨h.1, hover⟩⟩

/-- The reply behind them ends the interval, if there is one. -/
theorem sendReply_silent_iff {app : Sys} (hclock : ∀ n, app.clock n = now) (hpos : 0 < timeout)
    (reply : Option (UInt16 × PublishState)) :
    (sendReply c app reply).1 = .success ∧ (sendReply c app reply).2.waitingForPingResp = false ∧
        timeout ≤ sinceTransmit now (sendReply c app reply).2 ↔
      (app.waitingForPingResp = false ∧ timeout ≤ sinceTransmit now app) ∧
        ∀ sent ∈ reply, ackToSend sent.2 = none := by
  cases reply with
  | none => simp [sendReply]
  | some reply =>
    obtain ⟨packetId, state⟩ := reply
    have hsent : sendReply c app (some (packetId, state)) = sendPublishAcks c app packetId state :=
      rfl
    rw [hsent]
    cases hack : ackToSend state with
    | none =>
      rw [sendPublishAcks_none c app packetId hack]
      simp [hack]
    | some packetType =>
      constructor
      · rintro ⟨hok, -, hover⟩
        have hstamped := sendPublishAcks_stamps c (by rw [hack]; simp) hclock hok
        exact absurd hover (not_late_of_stamped hpos hstamped)
      · rintro ⟨-, hunsent⟩
        have hnone := hunsent (packetId, state) rfl
        rw [hack] at hnone
        cases hnone

theorem staysSilent_iff (hclock : ∀ n, s.clock n = now) (hpos : 0 < timeout)
    (hlate : timeout ≤ sinceTransmit now s) :
    StaysSilent c s packet ↔
      (handlePacket c true packet s).1 = .success ∧
        (handlePacket c true packet s).2.waitingForPingResp = false ∧
        timeout ≤ sinceTransmit now (handlePacket c true packet s).2 := by
  unfold StaysSilent
  cases hframe : callbackFrame (s.dispatching packet) packet true with
  | none =>
    constructor
    · rintro ⟨htype, hdecoded⟩
      rw [handlePacket_pingresp c htype hdecoded]
      exact ⟨rfl, rfl, hlate⟩
    · rintro ⟨hok, -, hover⟩
      rcases handlePacket_silent_success c hframe hok with hping | ⟨t, packetId, qos, hqos, heq⟩
      · exact hping
      · rw [heq] at hok hover
        have hclock' : ∀ n, ((s.dispatching packet).setRecords t).clock n = now := hclock
        have hstamped := sendPublishAcks_stamps c (ackToSend_received hqos) hclock' hok
        exact absurd hover (not_late_of_stamped hpos hstamped)
  | some frame =>
    obtain ⟨hcallbacks, hclock₁, htime, hwaiting⟩ := callbackFrame_kept hframe
    have hcalling : ∀ n, (frame.calling packet).clock n = now := by
      show ∀ n, frame.before.clock n = now
      rw [hclock₁]
      exact hclock
    have hover : timeout ≤ sinceTransmit now (frame.calling packet) := by
      unfold sinceTransmit at hlate ⊢
      rwa [show (frame.calling packet).lastPacketTxTime = _ from htime]
    have happ : appCallback c frame.before packet frame.info =
        (s.callbacks.headD []).foldl (SendCall.run c) (frame.calling packet) := by
      rw [← hcallbacks]
      rfl
    have hsilent := calls_silent_iff c hcalling hpos hover (s.callbacks.headD [])
    have hstamps := foldl_run_stamps c (s.callbacks.headD []) (frame.calling packet) hcalling
    rw [show (frame.calling packet).waitingForPingResp = _ from hwaiting] at hsilent
    rw [handlePacket_callback c hframe, happ]
    dsimp only at hsilent ⊢
    rw [sendReply_silent_iff c hstamps.1 hpos, hsilent, and_assoc]

end Handler

/-! ## One call of the loop -/

/-- A successful call that waits for no PINGRESP leaves the transmit interval running. -/
def HonoursKeepAlive (c : Config) (now : UInt32) (s : Sys) : Prop :=
  let looped := mqttProcessLoop c s
  looped.1 = .success ∨ looped.1 = .needMoreBytes → looped.2.waitingForPingResp = false →
    sinceTransmit now looped.2 < transmitTimeout c s

/-- What an iteration dispatches (`next`) or drains (`drain`) makes nobody send anything: a handler
that stays silent, or no complete packet and no PINGRESP that is awaited, where the transport
supplies the bytes of a packet that is drained. -/
def NobodySends (c : Config) (waitingForPingResp : Bool) (status : Status)
    (next drain : Option (PacketInfo × Sys)) : Prop :=
  match next with
  | some (packet, s) => StaysSilent c s packet
  | none => waitingForPingResp = false ∧ status ∈ continuing ∧ ∀ d ∈ drain, DrainSupplied c d.2 d.1

/-- The transmit interval is over, the keep-alive check sends no PINGREQ, and nobody sends anything
for what the read brought. -/
def MissesKeepAlive (c : Config) (now : UInt32) (s : Sys) : Prop :=
  let started := { s with controlPacketSent := false }
  let read := readIntoBuffer c started
  transmitTimeout c s ≤ sinceTransmit now s ∧ SendsNoPing c now s read.1 ∧
    NobodySends c s.waitingForPingResp read.2.1 (dispatched c started true)
      (draining c started true)

section Loop

variable (c : Config) {now : UInt32} {s : Sys}

theorem readIntoBuffer_failed (h : (readIntoBuffer c s).1 < 0) :
    (readIntoBuffer c s).2.1 = .recvFailed := by
  unfold readIntoBuffer at h ⊢
  dsimp only at h ⊢
  generalize transportRecv s (c.sizeSub s.networkBuffer.length s.index) = received at h ⊢
  split at h
  · rename_i hneg
    rw [if_pos hneg]
  split at h
  · rename_i hneg _
    exact absurd h hneg
  · rename_i hneg _
    exact absurd h hneg

theorem readIntoBuffer_success (h : (readIntoBuffer c s).2.1 = .success) :
    mqttProcessIncomingPacketTypeAndLength (readIntoBuffer c s).2.2.2.networkBuffer
      (readIntoBuffer c s).2.2.2.index = (.success, (readIntoBuffer c s).2.2.1) := by
  unfold readIntoBuffer at h ⊢
  dsimp only at h ⊢
  split at h
  · exact absurd h (by simp)
  rename_i hneg
  split at h
  · exact absurd h (by simp)
  rename_i hnone
  rw [if_neg hneg, if_neg hnone]
  exact Prod.ext h rfl

/-- The buffer of a drain holds a byte at least, and is shorter than the longest packet. -/
theorem draining_bounds {manageKeepAlive : Bool} {packet : PacketInfo} {s₁ : Sys}
    (h : draining c s manageKeepAlive = some (packet, s₁)) :
    0 < s₁.networkBuffer.length ∧ s₁.networkBuffer.length < 2 ^ 31 := by
  unfold draining at h
  dsimp only at h
  split at h
  swap
  · cases h
  rename_i hlong
  cases h
  obtain ⟨hok, hlong⟩ := hlong
  have hheader := readIntoBuffer_success c (checkKeepAlive_success hok)
  have hkept := checkKeepAlive_streamKept c (readIntoBuffer c s).1 manageKeepAlive
    (readIntoBuffer c s).2.1 (readIntoBuffer c s).2.2.2
  obtain ⟨-, -, -, -, rest, htake⟩ := typeAndLength_success hheader
  have hcount := congrArg List.length htake
  rw [List.length_take, List.length_cons] at hcount
  have htotal := totalLength_lt hheader
  rw [hkept.networkBuffer] at hlong ⊢
  omega

/-- The interval is over behind a successful call that waits for no PINGRESP. -/
def EndsLate (now : UInt32) (timeout : Nat) (result : Status × Sys) : Prop :=
  (result.1 = .success ∨ result.1 = .needMoreBytes) ∧ result.2.waitingForPingResp = false ∧
    timeout ≤ sinceTransmit now result.2

theorem handlePacket_stamps (manageKeepAlive : Bool) (packet : PacketInfo) :
    Stamped now s (handlePacket c manageKeepAlive packet s).2 :=
  (stamped_preorder now).handlePacket c (sendCall_stamps c) (fun _ _ _ _ => .of_eq rfl rfl)
    (fun _ _ => .of_eq rfl rfl) (fun _ => .of_eq rfl rfl) manageKeepAlive packet s

theorem discardStoredPacket_status (s : Sys) (packet : PacketInfo) :
    (discardStoredPacket c s packet).1 = .noDataAvailable ∨
      (discardStoredPacket c s packet).1 = .recvFailed := by
  unfold discardStoredPacket
  dsimp only
  split
  · exact .inl rfl
  · exact .inr rfl

section Outcome

variable {c} {kept result : Status × Sys} {next drain : Option (PacketInfo × Sys)}
  {manageKeepAlive : Bool}

theorem IterationOutcome.stamps (h : IterationOutcome c manageKeepAlive kept next drain result) :
    Stamped now kept.2 result.2 := by
  cases h with
  | stopped => exact .of_eq rfl rfl
  | drained _ hdiscarded =>
    rw [← hdiscarded]
    exact (reads_discardStoredPacket ..).stamps
  | incomplete => exact .of_eq rfl rfl
  | @handled packet handled _ hhandled ticks index networkBuffer lastPacketRxTime =>
    have hafter := @handlePacket_stamps c now kept.2 manageKeepAlive packet
    rw [hhandled] at hafter
    exact hafter.trans (.of_eq rfl rfl)

theorem IterationOutcome.kept_continuing
    (h : IterationOutcome c manageKeepAlive kept next drain result)
    (hok : result.1 = .success ∨ result.1 = .needMoreBytes) : kept.1 ∈ continuing := by
  cases h with
  | stopped =>
    dsimp only at hok
    split at hok
    · rename_i hnone
      rw [hnone]
      simp [continuing]
    · rcases hok with hok | hok
      · simp [continuing, hok]
      · simp [continuing, hok]
  | drained hkept _ => simp [continuing, hkept]
  | incomplete hkept => simp [continuing, hkept]
  | handled hkept _ _ _ _ _ => simp [continuing, hkept]

end Outcome

/-- An iteration whose check sends nothing ends late when its packet stays silent. -/
theorem endsLate_iff {timeout ticks : Nat} {status : Status} {result : Status × Sys}
    {next drain : Option (PacketInfo × Sys)} (hclock : ∀ n, s.clock n = now) (hpos : 0 < timeout)
    (hlate : timeout ≤ sinceTransmit now s)
    (hdrain : ∀ d ∈ drain, 0 < d.2.networkBuffer.length ∧ d.2.networkBuffer.length < 2 ^ 31)
    (h : IterationOutcome c true (status, { s with ticks }) next drain result) :
    EndsLate now timeout result ↔ NobodySends c s.waitingForPingResp status next drain := by
  have hover : timeout ≤ sinceTransmit now { s with ticks } := hlate
  unfold EndsLate NobodySends
  cases h with
  | stopped hkept =>
    dsimp only at hkept ⊢
    cases status <;> simp [continuing, hover] at hkept ⊢
  | @drained packet discarded hkept hdiscarded =>
    obtain rfl : status = .success := hkept
    have hreads := reads_discardStoredPacket c { s with ticks } packet
    have hstatus := discardStoredPacket_status c { s with ticks } packet
    have hsince : sinceTransmit now (discardStoredPacket c { s with ticks } packet).2 =
        sinceTransmit now s := by
      obtain ⟨_, _, _, _, _, _, -, heq⟩ := hreads
      rw [heq]
      rfl
    have hwaiting := hreads.waitingForPingResp
    rw [hdiscarded] at hstatus hsince hwaiting
    dsimp only at hwaiting ⊢
    rw [hsince, hwaiting]
    have hbounds := hdrain _ rfl
    have hsupplied : (∀ d ∈ some (packet, { s with ticks }), DrainSupplied c d.2 d.1) ↔
        discarded.1 = .noDataAvailable := by
      have hclock' : ∀ n, ({ s with ticks } : Sys).clock n = now := hclock
      rw [← hdiscarded, discardStoredPacket_supplied hclock' hbounds.1 hbounds.2 packet]
      exact ⟨fun h => h _ rfl, fun h d hd => by cases hd; exact h⟩
    rw [hsupplied]
    rcases hstatus with hstatus | hstatus
    · simp [hstatus, hlate, continuing]
    · simp [hstatus]
  | incomplete hkept =>
    obtain rfl : status = .success := hkept
    simp [continuing, hover]
  | @handled packet handled hkept hhandled ticks' index networkBuffer lastPacketRxTime =>
    have hclock' : ∀ n, ({ s with ticks } : Sys).clock n = now := hclock
    have hstatus := handlePacket_status c true packet { s with ticks }
    dsimp only
    rw [staysSilent_iff c hclock' hpos hover, hhandled]
    rw [hhandled] at hstatus
    have hmore : handled.1 ≠ .needMoreBytes := ne_of_mem_of_not_mem hstatus (by decide)
    rw [or_iff_left hmore]
    rfl

theorem missesKeepAlive_iff (hclock : ∀ n, s.clock n = now) (hpos : 0 < transmitTimeout c s) :
    MissesKeepAlive c now s ↔ EndsLate now (transmitTimeout c s) (mqttProcessLoop c s) := by
  have hreads := reads_readIntoBuffer c { s with controlPacketSent := false }
  have houtcome := receiveSingleIteration_outcome c { s with controlPacketSent := false } true
  have hfailed := @readIntoBuffer_failed c { s with controlPacketSent := false }
  have hbounds : ∀ d ∈ draining c { s with controlPacketSent := false } true,
      0 < d.2.networkBuffer.length ∧ d.2.networkBuffer.length < 2 ^ 31 :=
    fun d hd => draining_bounds c hd
  unfold MissesKeepAlive mqttProcessLoop
  dsimp only at houtcome ⊢
  generalize readIntoBuffer c { s with controlPacketSent := false } = read at *
  generalize dispatched c { s with controlPacketSent := false } true = next at *
  generalize draining c { s with controlPacketSent := false } true = drain at *
  generalize receiveSingleIteration c { s with controlPacketSent := false } true = result at *
  obtain ⟨recvBytes, status, packet, s₁⟩ := read
  obtain ⟨hclock₁, hwaiting, htimeout, hsince, hping⟩ : (∀ n, s₁.clock n = now) ∧
      s₁.waitingForPingResp = s.waitingForPingResp ∧ transmitTimeout c s₁ = transmitTimeout c s ∧
      sinceTransmit now s₁ = sinceTransmit now s ∧
      (SendsNoPing c now s₁ recvBytes ↔ SendsNoPing c now s recvBytes) := by
    obtain ⟨_, _, _, _, _, _, -, heq⟩ := hreads
    dsimp only at heq
    subst heq
    exact ⟨hclock, rfl, rfl, rfl, .rfl⟩
  dsimp only at houtcome hfailed ⊢
  rw [← hsince, ← hping, ← hwaiting]
  have hsilent : transmitTimeout c s ≤ sinceTransmit now s₁ → SendsNoPing c now s₁ recvBytes →
      (EndsLate now (transmitTimeout c s) result ↔
        NobodySends c s₁.waitingForPingResp status next drain) := by
    intro hlate hsends
    obtain ⟨ticks, hkept⟩ := checkKeepAlive_sendsNoPing c hclock₁ hsends
    rw [hkept] at houtcome
    exact endsLate_iff c hclock₁ hpos hlate hbounds houtcome
  constructor
  · rintro ⟨hlate, hsends, hnobody⟩
    exact (hsilent hlate hsends).2 hnobody
  · intro hends
    have hpositive := Nat.lt_of_lt_of_le hpos hends.2.2
    -- nothing was sent in the whole call
    have hchecked :=
      (stamped_preorder now).checkKeepAlive c (mqttPing_stamps c) recvBytes true status s₁
    have hafter := houtcome.stamps.unsent (hchecked hclock₁).1 hpositive
    have hbefore := (hchecked.trans houtcome.stamps).unsent hclock₁ hpositive
    have hlate : transmitTimeout c s ≤ sinceTransmit now s₁ := by
      have hover := hends.2.2
      unfold sinceTransmit at hover ⊢
      rw [← hbefore]
      exact hover
    have hsends : SendsNoPing c now s₁ recvBytes := by
      by_contra hping
      have hnow := checkKeepAlive_late c hclock₁ (by rw [htimeout]; exact hlate)
        (by rw [htimeout]; exact hpos) (fun hneg => by rw [hfailed hneg]; decide) hping
        (houtcome.kept_continuing hends.1)
      rw [sinceTransmit_now (hafter.trans hnow)] at hpositive
      exact absurd hpositive (Nat.lt_irrefl 0)
    exact ⟨hlate, hsends, (hsilent hlate hsends).1 hends⟩

/-- `MQTT_ProcessLoop` lets the transmit interval pass exactly when it misses its keep-alive. -/
theorem honoursKeepAlive_iff (hinterval : 0 < s.keepAliveIntervalSec)
    (htimeout : 0 < c.packetTxTimeoutMs) (hclock : ∀ n, s.clock n = now) :
    HonoursKeepAlive c now s ↔ ¬ MissesKeepAlive c now s := by
  have hpos : 0 < transmitTimeout c s := by
    have hseconds : 0 < s.keepAliveIntervalSec.toNat := UInt16.lt_iff_toNat_lt.1 hinterval
    unfold transmitTimeout
    omega
  rw [missesKeepAlive_iff c hclock hpos]
  unfold HonoursKeepAlive EndsLate
  dsimp only
  constructor
  · rintro h ⟨hstatus, hwaiting, hlate⟩
    exact absurd (h hstatus hwaiting) (Nat.not_lt.2 hlate)
  · intro h hstatus hwaiting
    exact Nat.not_le.1 fun hlate => h ⟨hstatus, hwaiting, hlate⟩

end Loop

/-- A connection on which the transmit interval of one second has been over for a while, with what the
transport delivers next. -/
def idleConnection (inbound : List UInt8) : Sys :=
  { Sys.initialized { World.still inbound with clock := fun _ => 5000 } 16 1 with
    connectStatus := .connected, keepAliveIntervalSec := 1 }

/-- `honoursKeepAlive_iff` on a read that returns a PUBLISH of QoS 0. -/
theorem honoursKeepAlive_publish :
    HonoursKeepAlive .default 5000 (idleConnection [0x30, 3, 0, 1, 0x74]) ↔
      ¬ MissesKeepAlive .default 5000 (idleConnection [0x30, 3, 0, 1, 0x74]) :=
  honoursKeepAlive_iff .default (by decide) (by decide) fun _ => rfl

/-- The first bytes of a packet keep the check away: nothing is sent, and `MQTTNeedMoreBytes` says
that all is well. -/
theorem not_honoursKeepAlive :
    let s := idleConnection [0x30, 3]
    let looped := mqttProcessLoop .default s
    s.connectStatus = .connected ∧ 0 < s.keepAliveIntervalSec ∧ (∀ n, s.clock n = 5000) ∧
      looped.1 = .needMoreBytes ∧ looped.2.waitingForPingResp = false ∧ looped.2.wire = [] ∧
      ¬ HonoursKeepAlive .default 5000 s := by
  intro s looped
  refine ⟨rfl, by decide, fun _ => rfl, by decide, by decide, by decide, fun h => ?_⟩
  exact absurd (h (.inr (by decide)) (by decide)) (by decide)

end FreeMqtt

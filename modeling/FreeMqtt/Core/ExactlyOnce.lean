import FreeMqtt.Core.ConnectSpec
import FreeMqtt.Core.Operations
import FreeMqtt.Core.Receiver

/-!
# Exactly-once delivery of QoS 2 publishes

A session over any number of connections: packets are handled, requests made, connections
lost and established again with the session present. Each of these steps is one of the
receiver or leaves it alone, so between two deliveries of a packet id there is a complete
PUBCOMP (`session_delivers_once`).
-/

namespace FreeMqtt

open Delivery Relation

/-! ## Connections -/

theorem sendPublishAcks_pubrel_elsewhere (c : Config) (s : Sys) (packetId : UInt16) :
    Elsewhere s (sendPublishAcks c s packetId .pubRelSend).2 := by
  by_cases hsend : packetId = 0 ∨ s.connectStatus ≠ .connected
  · rw [sendPublishAcks_unsent c _ hsend]
    exact .refl s
  obtain ⟨hid, hconn⟩ := not_or.1 hsend
  rw [not_not] at hconn
  obtain ⟨s₁, n, stop, hsent, heq⟩ :=
    sendPublishAcks_connected c (show ackToSend .pubRelSend = some .pubrel from rfl) hid hconn
  have hrecords := hsent.records
  have helse := hsent.elsewhere rfl
  rw [heq]
  split
  · refine helse.trans (.of_eq ?_ rfl)
    refine (mqttUpdateStateAck_incoming s.toPublishRecords packetId
      (show isPublishOutgoing .pubrel .send = true from rfl)).trans ?_
    exact (congrArg PublishRecords.incomingPublishRecords hrecords).symm
  · exact helse

theorem resend_elsewhere (c : Config) (s : Sys) (packetId : UInt16) :
    Elsewhere s (Operation.run c s (.resend packetId)) := by
  obtain ⟨-, retrieveResults, heq⟩ := callRetrieve_spec s packetId
  unfold Operation.run
  dsimp only
  rw [heq]
  split
  · exact .of_eq rfl rfl
  · obtain ⟨n, stop, hsent, -⟩ := sendPacket_spec c { s with retrieveResults } (.resend packetId) _
    obtain ⟨hincoming, hlog⟩ := hsent.elsewhere rfl
    exact ⟨hincoming, hlog⟩

theorem resendPublishes_elsewhere (c : Config) (fuel cursor : Nat) (s : Sys) :
    Elsewhere s (resendPublishes c fuel cursor s).2 :=
  resendPublishes_rel .refl .trans (resend_elsewhere c) fuel cursor s

theorem handleUncleanSessionResumption_elsewhere (c : Config) (s : Sys) :
    Elsewhere s (handleUncleanSessionResumption c s).2 :=
  resumption_rel .refl .trans (resend_elsewhere c) (sendPublishAcks_pubrel_elsewhere c) s

/-- `MQTT_Connect` leaves the receiver alone, unless it starts a new session. -/
theorem mqttConnect_elsewhere (c : Config) (s : Sys) (pConnectInfo : Option ConnectInfo)
    (pWillInfo : Option PublishInfo) (timeoutMs : UInt32)
    (h : (mqttConnect c s pConnectInfo pWillInfo timeoutMs).1 = .success →
      (mqttConnect c s pConnectInfo pWillInfo timeoutMs).2.1 = some true) :
    Elsewhere s (mqttConnect c s pConnectInfo pWillInfo timeoutMs).2.2 := by
  revert h
  unfold mqttConnect
  cases pConnectInfo with
  | none => exact fun _ => .of_eq rfl rfl
  | some info =>
    dsimp only
    split
    · exact fun _ => .of_eq rfl rfl
    split
    · exact fun _ => .refl s
    have houtcome := establish_outcome c s info pWillInfo
      (connectPacketSize_le (some info) pWillInfo) timeoutMs
    generalize establish c s info pWillInfo _ timeoutMs = established at houtcome
    cases houtcome with
    | unsent hstatus =>
      rw [if_pos hstatus]
      exact fun _ => .of_eq rfl rfl
    | refused hsent hreceived hstatus =>
      rw [if_pos hstatus]
      obtain ⟨hincoming, hlog⟩ := hsent.elsewhere rfl
      refine fun _ => Elsewhere.trans ⟨hincoming, hlog⟩ (.of_eq ?_ hreceived.log)
      exact congrArg PublishRecords.incomingPublishRecords hreceived.records
    | @accepted packet s₁ s' sessionPresent hsent hwire hlog hconnected hresumed =>
      rw [if_neg (by simp)]
      by_cases hpresent : sessionPresent = some true
      · rw [if_pos hpresent]
        have hconnect : Elsewhere s s' := by
          obtain ⟨-, events, hevents, hforeign⟩ := hsent.elsewhere rfl
          exact ⟨congrArg PublishRecords.incomingPublishRecords (hresumed hpresent).2.1, events,
            hlog.trans hevents, hforeign⟩
        have hresume := hconnect.trans (handleUncleanSessionResumption_elsewhere c s')
        split
        · exact fun _ => hresume
        · exact fun _ => hresume.trans (.of_eq rfl rfl)
      · rw [if_neg hpresent]
        exact fun h => absurd (h rfl) hpresent

/-! ## Runs -/

/-- A step of a session: a packet is handled, or something else happens. -/
inductive SessionStep (c : Config) (allowed : Sys → PacketInfo → Prop) (s : Sys) : Sys → Prop
  | publish (pIncomingPacket : PacketInfo) (h : allowed s pIncomingPacket) :
      SessionStep c allowed s (handleIncomingPublish c s pIncomingPacket).2
  | ack (pIncomingPacket : PacketInfo) :
      SessionStep c allowed s (handlePublishAcks c s pIncomingPacket).2
  | request (call : SendCall) : SessionStep c allowed s (call.run c s)
  | connect (pConnectInfo : Option ConnectInfo) (pWillInfo : Option PublishInfo)
      (timeoutMs : UInt32)
      (h : (mqttConnect c s pConnectInfo pWillInfo timeoutMs).1 = .success →
        (mqttConnect c s pConnectInfo pWillInfo timeoutMs).2.1 = some true) :
      SessionStep c allowed s (mqttConnect c s pConnectInfo pWillInfo timeoutMs).2.2
  | elsewhere (s' : Sys) (h : Elsewhere s s') : SessionStep c allowed s s'

theorem SessionStep.receives {c : Config} {allowed : Sys → PacketInfo → Prop} {s s' : Sys}
    {acks : Bool} (h : SessionStep c allowed s s') (ht : Table .incoming s.incomingPublishRecords)
    (hallowed : acks = true → ∀ s packet, allowed s packet → NoReuse s packet) :
    Receives acks s s' := by
  cases h with
  | publish packet h => exact handleIncomingPublish_receives c ht fun hacks => hallowed hacks s packet h
  | ack packet => exact handlePublishAcks_receives c packet acks ht
  | request call => exact (call.requests c s).elsewhere.receives ht acks
  | connect info will timeoutMs h =>
    exact (mqttConnect_elsewhere c s info will timeoutMs h).receives ht acks
  | elsewhere _ h => exact h.receives ht acks

/-- A run of a session is a run of the receiver. -/
theorem session_receives {c : Config} {allowed : Sys → PacketInfo → Prop} {s s' : Sys}
    {acks : Bool} (h : ReflTransGen (SessionStep c allowed) s s')
    (ht : Table .incoming s.incomingPublishRecords)
    (hallowed : acks = true → ∀ s packet, allowed s packet → NoReuse s packet) :
    Receives acks s s' := by
  induction h with
  | refl => exact (Elsewhere.refl s).receives ht acks
  | tail _ hstep ih => exact ih.trans (hstep.receives ih.table hallowed)

theorem held_holes (n : Nat) : held (holes n) = ∅ := by
  ext id
  simp [held, liveRecord, KeyedList.lookup]

/-! ## Receiving calls as sessions -/

theorem Received.elsewhere {s s' : Sys} (h : Received s s') : Elsewhere s s' :=
  .of_eq (congrArg PublishRecords.incomingPublishRecords h.records) h.log

section Calls

variable (c : Config) {allowed : Sys → PacketInfo → Prop} (hallowed : ∀ s packet, allowed s packet)

theorem handleKeepAlive_elsewhere (s : Sys) : Elsewhere s (handleKeepAlive c s).2 := by
  have hclock : Elsewhere s (getTime s).2 := .of_eq rfl rfl
  rcases handleKeepAlive_context c s with heq | heq
  · rw [heq]
    exact hclock
  · rw [heq]
    exact hclock.trans (mqttPing_requests c (getTime s).2).elsewhere

theorem handleIncomingAck_session (s : Sys) (packet : PacketInfo) (manageKeepAlive : Bool) :
    ReflTransGen (SessionStep c allowed) s (handleIncomingAck c s packet manageKeepAlive).2 := by
  have hcallback : ∀ packetId status, ReflTransGen (SessionStep c allowed) s
      (appCallback c s packet ⟨packetId, none, status⟩) := fun packetId status =>
    .single (.elsewhere _ (elsewhere_appCallback c s packet _ rfl))
  unfold handleIncomingAck
  dsimp only
  split
  · exact .single (.ack packet)
  split
  · split
    · exact .refl
    split
    · exact .single (.elsewhere _ (.of_eq rfl rfl))
    · exact hcallback ..
  split
  · split
    · exact hcallback ..
    · exact .refl
  · exact .refl

include hallowed in
theorem dispatchPacket_session (manageKeepAlive : Bool) (packet : PacketInfo) (s : Sys) :
    ReflTransGen (SessionStep c allowed) s (dispatchPacket c manageKeepAlive packet s).2 := by
  have hhandled : ∀ packet, ReflTransGen (SessionStep c allowed) s
      (handlePacket c manageKeepAlive packet s).2 := by
    intro packet
    have hrecord : ReflTransGen (SessionStep c allowed) s (s.record (.dispatched packet.type
        (readBytes packet.pRemainingData packet.remainingLength))) :=
      .single (.elsewhere _ ⟨rfl, [_], rfl, by simp [Event.Foreign, deliveryLabel]⟩)
    unfold handlePacket
    dsimp only
    split
    · exact hrecord.tail (.publish packet (hallowed _ _))
    · exact hrecord.trans (handleIncomingAck_session c _ packet manageKeepAlive)
  unfold dispatchPacket
  dsimp only
  split
  · exact (hhandled _).tail (.elsewhere _ (.of_eq rfl rfl))
  · exact (hhandled _).tail (.elsewhere _ (.of_eq rfl rfl))

include hallowed in
/-- `MQTT_ProcessLoop` and `MQTT_ReceiveLoop` are steps of a session. -/
theorem receiveSingleIteration_session (s : Sys) (manageKeepAlive : Bool) :
    ReflTransGen (SessionStep c allowed) s (receiveSingleIteration c s manageKeepAlive).2 := by
  have hread := (received_readIntoBuffer c s).elsewhere
  unfold receiveSingleIteration
  dsimp only
  have hkept : Elsewhere s (checkKeepAlive c (readIntoBuffer c s).1 manageKeepAlive
      (readIntoBuffer c s).2.1 (readIntoBuffer c s).2.2.2).2 := by
    unfold checkKeepAlive
    split
    · exact hread.trans (handleKeepAlive_elsewhere ..)
    · exact hread
  generalize checkKeepAlive c (readIntoBuffer c s).1 manageKeepAlive
      (readIntoBuffer c s).2.1 (readIntoBuffer c s).2.2.2 = kept at hkept
  have hcomplete := hkept.trans
    (checkComplete_received c kept.1 (readIntoBuffer c s).2.2.1 kept.2).elsewhere
  split
  · exact (ReflTransGen.single (.elsewhere _ hcomplete)).trans (dispatchPacket_session c hallowed ..)
  · exact .single (.elsewhere _ hcomplete)

end Calls

/-! ## Deliveries -/

/-- Between two deliveries of a packet id to the application there is a complete PUBCOMP, in
every run of a session that starts with empty incoming records; and a PUBREC follows a
delivery that no PUBCOMP has completed, in every run in which no PUBLISH has the packet id of
a record of another QoS. -/
theorem session_delivers_once (c : Config) {s₀ s : Sys} {n : Nat}
    (hempty : s₀.incomingPublishRecords = List.replicate n .zero) :
    (ReflTransGen (SessionStep c fun _ _ => True) s₀ s → ∃ events, s.log = s₀.log ++ events ∧
      ∀ packetId, Separated (Event.Delivers packetId) (Event.CompletesPubcomp packetId) events) ∧
    (ReflTransGen (SessionStep c NoReuse) s₀ s → ∃ events, s.log = s₀.log ++ events ∧
      ∀ packetId, Guarded (Event.Delivers packetId) (Event.CompletesPubcomp packetId)
        (Event.SendsPubrec packetId) events) := by
  have ht : Table .incoming s₀.incomingPublishRecords := hempty ▸ table_holes .incoming n
  have hheld : held s₀.incomingPublishRecords = ∅ := hempty ▸ held_holes n
  constructor
  · intro h
    have hreceives : Receives false s₀ s := session_receives h ht (by simp)
    obtain ⟨events, hlog, hrun⟩ := hreceives.run
    rw [hheld] at hrun
    refine ⟨events, hlog, fun packetId => ?_⟩
    rw [← delivers_eq false, ← completes_eq false]
    exact hrun.separated packetId
  · intro h
    have hreceives : Receives true s₀ s := session_receives h ht fun _ _ _ h => h
    obtain ⟨events, hlog, hrun⟩ := hreceives.run
    rw [hheld] at hrun
    refine ⟨events, hlog, fun packetId => ?_⟩
    rw [← delivers_eq true, ← completes_eq true, ← acknowledges_eq]
    exact hrun.guarded packetId

/-- A PUBLISH of QoS 2 with packet id 1, and the PUBREL for it. -/
def publishOne : PacketInfo := ⟨0x34, some [0, 1, 0x74, 0, 1], 5, 2⟩

def pubrelOne : PacketInfo := ⟨0x62, some [0, 1], 2, 2⟩

/-- `session_delivers_once` on a publish, its duplicate, its PUBREL, and a new publish with the
same packet id, which is delivered again. -/
theorem session_delivers_once_again :
    let s₀ : Sys := { Sys.initialized (World.still []) 16 2 with connectStatus := .connected }
    let s₁ := (handleIncomingPublish .default s₀ publishOne).2
    let s₂ := (handleIncomingPublish .default s₁ publishOne).2
    let s₃ := (handlePublishAcks .default s₂ pubrelOne).2
    let s₄ := (handleIncomingPublish .default s₃ publishOne).2
    (∃ events, s₄.log = events ∧
      ∀ packetId, Separated (Event.Delivers packetId) (Event.CompletesPubcomp packetId) events) ∧
    (∃ events, s₁.log = events ∧ ∀ packetId, Guarded (Event.Delivers packetId)
      (Event.CompletesPubcomp packetId) (Event.SendsPubrec packetId) events) ∧
    s₁.log.length = 2 ∧ s₄.log.length = 7 :=
  ⟨(session_delivers_once .default (n := 2) rfl).1 ((((ReflTransGen.single
      (.publish publishOne trivial)).tail (.publish publishOne trivial)).tail
        (.ack pubrelOne)).tail (.publish publishOne trivial)),
    (session_delivers_once .default (n := 2) rfl).2
      (.single (.publish publishOne (by intro r hr; cases hr))),
    by decide, by decide⟩

end FreeMqtt

import FreeMqtt.Core.AckCallbacks
import FreeMqtt.Core.StoredPacket
import FreeMqtt.Lib.Handover

/-!
# What a server reads

The packets of the library as a server reads them, as far as its publishes of QoS 1 and 2 are
concerned: `serverPacket` decodes the bytes that were handed to the transport into a request, a
message that is offered (`serverPacket_publish`) or a PUBREL (`serverPacket_ack`), and no other packet
is mistaken for one of them. `Requested` says which requests were added to the log.
-/

namespace FreeMqtt

open Handover

/-! ## Messages -/

/-- What a publish says to its receiver. -/
structure Message where
  qos : QoS
  retain : Bool
  topicName : List UInt8
  payload : List UInt8
  deriving DecidableEq, Repr

def PublishInfo.message (info : PublishInfo) : Message where
  qos := info.qos
  retain := info.retain
  topicName := readBytes info.pTopicName info.topicNameLength.toNat
  payload := readBytes info.pPayload info.payloadLength

theorem PublishInfo.Same.message_eq {info info' : PublishInfo} (h : info.Same info') :
    info.message = info'.message := by
  unfold PublishInfo.message
  rw [h.qos, h.retain, h.topicName, h.payload]

/-- A message is to arrive once. -/
abbrev Message.Once (m : Message) : Prop := m.qos = .qos2

/-! ## Packets -/

/-- The request that a packet is. -/
def PacketInfo.request (packet : PacketInfo) : Option (UInt16 × Request Message) :=
  if packet.type &&& 0xF0 = packetTypePublish then
    let publish := mqttDeserializePublish packet
    if publish.1 = .success then publish.2.1.map fun packetId => (packetId, .offer publish.2.2.message)
    else none
  else if packet.type = packetTypePubrel then
    let ack := mqttDeserializeAck packet true false
    if ack.1 = .success then ack.2.1.map fun packetId => (packetId, .release) else none
  else none

/-- The request in a whole packet. -/
def serverPacket (bytes : List UInt8) : Option (UInt16 × Request Message) :=
  let decoded := mqttProcessIncomingPacketTypeAndLength bytes bytes.length
  if decoded.1 = .success then
    PacketInfo.request
      { decoded.2 with pRemainingData := some (bytes.drop decoded.2.headerLength) }
  else none

/-- Packets whose type no client receives. -/
theorem serverPacket_invalid {first : UInt8} {rest : List UInt8}
    (h : incomingPacketValid first = false) : serverPacket (first :: rest) = none := by
  have hdecoded : (mqttProcessIncomingPacketTypeAndLength (first :: rest)
      (first :: rest).length).1 ≠ .success := by
    unfold mqttProcessIncomingPacketTypeAndLength
    rw [if_neg (by simp), List.getD_cons_zero]
    dsimp only
    rw [h]
    exact nofun
  unfold serverPacket
  dsimp only
  rw [if_neg hdecoded]

/-- A PUBLISH. -/
theorem serverPacket_publish {info : PublishInfo}
    (hsize : (mqttGetPublishPacketSize info).1 = .success) {packetId : UInt16}
    (hid : info.qos ≠ .qos0 → packetId ≠ 0) :
    serverPacket (publishMessage info (mqttGetPublishPacketSize info).2.1 packetId).flatten =
      if info.qos = .qos0 then none else some (packetId, .offer info.message) := by
  obtain ⟨htopic, hmax, hremaining, -⟩ := mqttGetPublishPacketSize_success_iff.1
    (Prod.ext hsize rfl : mqttGetPublishPacketSize info = (.success, _, _))
  rw [publishMessage_flatten, hremaining]
  obtain ⟨packet, hpacket, -, decoded, hdecoded, hsame⟩ :=
    serializePublishCommon_decoded hmax htopic.2 hid []
  rw [List.append_nil] at hpacket hdecoded
  have htype : packet.type &&& 0xF0 = packetTypePublish := by
    by_contra hne
    unfold mqttDeserializePublish at hdecoded
    rw [if_pos hne] at hdecoded
    cases hdecoded
  unfold serverPacket PacketInfo.request
  dsimp only
  rw [hpacket, if_pos rfl]
  dsimp only
  rw [if_pos htype, hdecoded, if_pos rfl, hsame.message_eq]
  split
  · rfl
  · rfl

/-- The header of a packet with a length that fits. -/
theorem processTypeAndLength_encode {type : UInt8} (hvalid : incomingPacketValid type = true) {n : Nat}
    (h : n ≤ maxRemainingLength) (rest : List UInt8) {index : Nat}
    (hindex : 1 + remainingLengthEncodedSize n ≤ index) :
    mqttProcessIncomingPacketTypeAndLength (type :: (encodeRemainingLength n ++ rest)) index =
      (.success, ⟨type, none, n, 1 + remainingLengthEncodedSize n⟩) := by
  unfold mqttProcessIncomingPacketTypeAndLength
  rw [if_neg (by omega), List.getD_cons_zero]
  dsimp only
  rw [if_pos hvalid, processRemainingLength_encode h type rest hindex]

/-- An acknowledgement. -/
theorem serverPacket_ack (packetType : PubAckType) {packetId : UInt16} (hid : packetId ≠ 0) :
    serverPacket (ackPacket packetType packetId) =
      if packetType = .pubrel then some (packetId, .release) else none := by
  have hpacket : mqttProcessIncomingPacketTypeAndLength (ackPacket packetType packetId)
      (ackPacket packetType packetId).length = (.success, ⟨packetType.toByte, none, 2, 2⟩) :=
    @processTypeAndLength_encode packetType.toByte (by cases packetType <;> rfl) 2 (by decide)
      (uint16Bytes packetId) 4 (by decide)
  have hdecoded := mqttDeserializeAck_ackInfo packetType hid
  unfold ackInfo at hdecoded
  have hdata : (ackPacket packetType packetId).drop 2 = uint16Bytes packetId := rfl
  unfold serverPacket PacketInfo.request
  dsimp only
  rw [hpacket, if_pos rfl]
  dsimp only
  have hpublish : packetType.toByte &&& 0xF0 ≠ packetTypePublish := by cases packetType <;> decide
  have hpubrel : packetType.toByte = packetTypePubrel ↔ packetType = .pubrel := by
    cases packetType <;> decide
  rw [hdata, hdecoded, if_neg hpublish, if_pos rfl]
  simp only [hpubrel]
  rfl

/-! ## Requests on the connection -/

/-- The request that an event puts on the connection. A packet that is not completely sent is none
for the server. -/
def Event.request : Event → Option (UInt16 × Request Message)
  | .sent _ bytes _ .complete => serverPacket bytes
  | _ => none

/-- Events with these requests were added to the log. -/
def Requested (s s' : Sys) (requests : List (UInt16 × Request Message)) : Prop :=
  ∃ events, s'.log = s.log ++ events ∧ events.filterMap Event.request = requests

theorem Requested.of_log_eq {s s' : Sys} (h : s'.log = s.log) : Requested s s' [] :=
  ⟨[], by rw [h, List.append_nil], rfl⟩

theorem Requested.of_event {s s' : Sys} {e : Event} (h : s'.log = s.log ++ [e]) :
    Requested s s' e.request.toList :=
  ⟨[e], h, by cases hrequest : e.request <;> simp [hrequest]⟩

theorem Requested.trans {s s' s'' : Sys} {requests more : List (UInt16 × Request Message)}
    (h : Requested s s' requests) (h' : Requested s' s'' more) :
    Requested s s'' (requests ++ more) := by
  obtain ⟨events, hlog, rfl⟩ := h
  obtain ⟨events', hlog', rfl⟩ := h'
  exact ⟨events ++ events', by rw [hlog', hlog, List.append_assoc], List.filterMap_append ..⟩

/-- A packet that was handed to the transport, completely or not. -/
theorem Requested.of_packet {s s' : Sys} {kind : PacketKind} {packet : List UInt8} {n : Nat}
    {stop : Stop} (h : s'.log = s.log ++ [.sent kind packet n stop]) :
    ∃ requests, Requested s s' requests ∧
      (requests = [] ∨ requests = (serverPacket packet).toList) := by
  refine ⟨_, .of_event h, ?_⟩
  cases stop with
  | complete => exact .inr rfl
  | _ => exact .inl rfl

/-- A packet that is no request. -/
theorem Requested.of_silent {s s' : Sys} {kind : PacketKind} {packet : List UInt8} {n : Nat}
    {stop : Stop} (h : s'.log = s.log ++ [.sent kind packet n stop])
    (hpacket : serverPacket packet = none) : Requested s s' [] := by
  obtain ⟨requests, hrequested, hrequests⟩ := Requested.of_packet h
  rw [hpacket] at hrequests
  rwa [or_self_iff.1 hrequests] at hrequested

end FreeMqtt

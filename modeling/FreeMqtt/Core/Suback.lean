import FreeMqtt.Core.LibrarySteps
import FreeMqtt.Serializer.RoundTrip

/-!
# Acknowledged subscriptions

A SUBACK carries a status byte for each topic filter. The application is told of it if and only if
it is well formed, with a refusal wherever one of the bytes is one, and `MQTT_GetSubAckStatusCodes`
then finds the bytes (`handleIncomingAck_suback`).
-/

namespace FreeMqtt

/-- `MQTT_GetSubAckStatusCodes`: the status, and `*pPayloadStart` and `*pPayloadSize` when they are
written. The flags say which of the two output pointers are not `NULL`. -/
def mqttGetSubAckStatusCodes (pSubackPacket : Option PacketInfo)
    (pPayloadStart pPayloadSize : Bool) : Status × Option (Pointer × Nat) :=
  match pSubackPacket with
  | none => (.badParameter, none)
  | some packet =>
      if pPayloadStart = false then (.badParameter, none)
      else if pPayloadSize = false then (.badParameter, none)
      else if packet.type ≠ packetTypeSuback then (.badParameter, none)
      else if packet.pRemainingData = none then (.badParameter, none)
      else if packet.remainingLength < 3 then (.badParameter, none)
      else (.success, some (packet.pRemainingData.advance 2, packet.remainingLength - 2))

/-! ## Status bytes -/

/-- The status bytes of MQTT 3.1.1: a granted QoS, or a refusal. -/
def subackCodes : List UInt8 := [0x00, 0x01, 0x02, 0x80]

/-- A single refusal refuses the packet. -/
def subackResult (codes : List UInt8) : Status :=
  if 0x80 ∈ codes then .serverRefused else .success

/-- The fold over the status bytes: the first bad one ends it, a refusal stays. -/
theorem readSubackStatus_eq (codes : List UInt8) (status : Status) :
    readSubackStatus codes status =
      if codes.all (· ∈ subackCodes) then
        if 0x80 ∈ codes then .serverRefused else status
      else .badResponse := by
  induction codes generalizing status with
  | nil => rfl
  | cons code codes ih =>
    unfold readSubackStatus
    by_cases hgranted : code = 0x00 ∨ code = 0x01 ∨ code = 0x02
    · have hmem : code ∈ subackCodes := by
        rcases hgranted with rfl | rfl | rfl <;> decide
      have hne : (0x80 : UInt8) ≠ code := by
        rcases hgranted with rfl | rfl | rfl <;> decide
      rw [if_pos hgranted, ih]
      simp [hmem, hne]
    rw [if_neg hgranted]
    by_cases hrefused : code = 0x80
    · subst hrefused
      rw [if_pos rfl, ih]
      simp [subackCodes]
    · have hmem : code ∉ subackCodes := by
        intro h
        simp only [subackCodes, List.mem_cons, List.not_mem_nil, or_false] at h
        tauto
      rw [if_neg hrefused, List.all_cons, decide_eq_false hmem, Bool.false_and, if_neg (by simp)]

/-- The remaining data of a SUBACK that is accepted. -/
structure ValidSuback (body : List UInt8) : Prop where
  three_le : 3 ≤ body.length
  packetId_ne_zero : uint16Decode (some body) 0 ≠ 0
  codes : ∀ code ∈ body.drop 2, code ∈ subackCodes

theorem validSuback_iff {body : List UInt8} : ValidSuback body ↔
    3 ≤ body.length ∧ uint16Decode (some body) 0 ≠ 0 ∧
      (body.drop 2).all (· ∈ subackCodes) = true := by
  simp only [List.all_eq_true, decide_eq_true_eq]
  exact ⟨fun h => ⟨h.three_le, h.packetId_ne_zero, h.codes⟩, fun h => ⟨h.1, h.2.1, h.2.2⟩⟩

instance (body : List UInt8) : Decidable (ValidSuback body) :=
  decidable_of_iff' _ validSuback_iff

/-! ## The packet -/

/-- A SUBACK in the receive buffer, with other bytes behind it. -/
def subackPacket (body behind : List UInt8) (headerLength : Nat) : PacketInfo :=
  ⟨packetTypeSuback, some (body ++ behind), body.length, headerLength⟩

theorem uint16Decode_prefix {body behind : List UInt8} (h : 2 ≤ body.length) :
    uint16Decode (some (body ++ behind)) 0 = uint16Decode (some body) 0 := by
  obtain ⟨a, b, rest, rfl⟩ : ∃ a b rest, body = a :: b :: rest := by
    rcases body with _ | ⟨a, _ | ⟨b, rest⟩⟩
    · simp at h
    · simp at h
    · exact ⟨a, b, rest, rfl⟩
  rfl

theorem readBytes_codes {body : List UInt8} (behind : List UInt8) (h : 2 ≤ body.length) :
    readBytes (Pointer.advance (some (body ++ behind)) 2) (body.length - 2) = body.drop 2 := by
  have hadvance : Pointer.advance (some (body ++ behind)) 2 = some (body.drop 2 ++ behind) :=
    congrArg some (List.drop_append_of_le_length h)
  rw [hadvance, ← List.length_drop, readBytes_append]

/-- `MQTT_DeserializeAck` on a SUBACK. -/
theorem mqttDeserializeAck_suback (body behind : List UInt8) (headerLength : Nat) :
    (ValidSuback body →
      mqttDeserializeAck (subackPacket body behind headerLength) true false =
        (subackResult (body.drop 2), some (uint16Decode (some body) 0), none)) ∧
    (¬ ValidSuback body →
      (mqttDeserializeAck (subackPacket body behind headerLength) true false).1 = .badResponse) := by
  have hack : mqttDeserializeAck (subackPacket body behind headerLength) true false =
      ((deserializeSuback (subackPacket body behind headerLength)).1,
        (deserializeSuback (subackPacket body behind headerLength)).2, none) := rfl
  rw [hack, validSuback_iff]
  unfold deserializeSuback subackPacket
  dsimp only
  by_cases hshort : body.length < 3
  · rw [if_pos hshort]
    exact ⟨fun h => absurd h.1 (by omega), fun _ => rfl⟩
  rw [if_neg hshort, uint16Decode_prefix (by omega), readBytes_codes behind (by omega),
    readSubackStatus_eq]
  by_cases hzero : uint16Decode (some body) 0 = 0
  · rw [if_pos hzero]
    exact ⟨fun h => absurd hzero h.2.1, fun _ => rfl⟩
  rw [if_neg hzero]
  by_cases hcodes : (body.drop 2).all (· ∈ subackCodes) = true
  · rw [if_pos hcodes]
    exact ⟨fun _ => rfl, fun h => absurd ⟨by omega, hzero, hcodes⟩ h⟩
  · rw [if_neg hcodes]
    exact ⟨fun h => absurd h.2.2 hcodes, fun _ => rfl⟩

theorem mqttGetSubAckStatusCodes_suback {body : List UInt8} (behind : List UInt8)
    (headerLength : Nat) (h : 3 ≤ body.length) :
    mqttGetSubAckStatusCodes (some (subackPacket body behind headerLength)) true true =
      (.success, some (Pointer.advance (some (body ++ behind)) 2, body.length - 2)) := by
  unfold mqttGetSubAckStatusCodes subackPacket
  simp [h]

/-! ## The callback -/

/-- The arguments of the application callback. -/
def Event.callbackArguments : Event → Option (PacketInfo × DeserializedInfo)
  | .callback packet info => some (packet, info)
  | _ => none

theorem callbacks_of_isSent {events : List Event} (h : ∀ e ∈ events, e.IsSent) :
    events.filterMap Event.callbackArguments = [] := by
  rw [List.filterMap_eq_nil_iff]
  intro e he
  have hsent := h e he
  cases e with
  | sent kind bytes accepted stop => rfl
  | dispatched type data => exact hsent.elim
  | callback packet info => exact hsent.elim

/-- A callback is one event, with the packets behind it that the application sends. -/
theorem appCallback_callbacks (c : Config) (s : Sys) (packet : PacketInfo)
    (info : DeserializedInfo) : ∃ events, (appCallback c s packet info).log = s.log ++ events ∧
      events.filterMap Event.callbackArguments = [(packet, info)] := by
  obtain ⟨events, hlog, hsent⟩ := (appCallback_requests c s packet info).sent_log
  refine ⟨.callback packet info :: events, ?_, ?_⟩
  · rw [hlog]
    show s.log ++ [_] ++ events = _
    rw [List.append_assoc]
    rfl
  · show (packet, info) :: events.filterMap Event.callbackArguments = _
    rw [callbacks_of_isSent hsent]

/-- A SUBACK reaches the application if and only if it is long enough, names a packet and has only
status bytes of MQTT 3.1.1. The callback gets the refusal when one of the bytes is one, wherever it
is, and `MQTT_GetSubAckStatusCodes` finds the bytes in their order. -/
theorem handleIncomingAck_suback (c : Config) (s : Sys) (body behind : List UInt8)
    (headerLength : Nat) (manageKeepAlive : Bool) :
    let packet := subackPacket body behind headerLength
    let handled := handleIncomingAck c s packet manageKeepAlive
    (∃ events, handled.2.log = s.log ++ events ∧ events.filterMap Event.callbackArguments =
      if ValidSuback body then
        [(packet, ⟨uint16Decode (some body) 0, none, subackResult (body.drop 2)⟩)]
      else []) ∧
    handled.1 = (if ValidSuback body then .success else .badResponse) ∧
    (ValidSuback body → ∃ start size,
      mqttGetSubAckStatusCodes (some packet) true true = (.success, some (start, size)) ∧
        readBytes start size = body.drop 2) := by
  obtain ⟨hvalid, hinvalid⟩ := mqttDeserializeAck_suback body behind headerLength
  have hhandled : handleIncomingAck c s (subackPacket body behind headerLength) manageKeepAlive =
      let packet := mqttDeserializeAck (subackPacket body behind headerLength) true false
      if packet.1 = .success ∨ packet.1 = .serverRefused then
        (.success, appCallback c s (subackPacket body behind headerLength)
          ⟨packet.2.1.getD packetIdInvalid, none, packet.1⟩)
      else (packet.1, s) := rfl
  dsimp only at hhandled ⊢
  rw [hhandled]
  by_cases hbody : ValidSuback body
  · have hresult : subackResult (body.drop 2) = .success ∨
        subackResult (body.drop 2) = .serverRefused := by
      unfold subackResult
      split
      · exact .inr rfl
      · exact .inl rfl
    rw [hvalid hbody, if_pos hresult, if_pos hbody, if_pos hbody]
    refine ⟨appCallback_callbacks .., rfl, fun _ => ?_⟩
    exact ⟨_, _, mqttGetSubAckStatusCodes_suback behind headerLength hbody.three_le,
      readBytes_codes behind (Nat.le_of_succ_le hbody.three_le)⟩
  · rw [hinvalid hbody, if_neg (by decide), if_neg hbody, if_neg hbody]
    exact ⟨⟨[], by simp, rfl⟩, rfl, fun h => absurd h hbody⟩

end FreeMqtt

import FreeMqtt.Core.UplinkCalls

/-!
# Acknowledgements and what they answer

A received packet of a publish handshake has at most one answer (`PacketInfo.answer`). In every run
an acknowledgement is the answer to the packet that was just delivered, with nothing but the requests
of the application's callback in between, or a PUBREL that a resumed session sends for a record that
waits for PUBCOMP (`solicited_runMoments`).
-/

namespace FreeMqtt

open Moments

/-! ## The answer to a packet -/

/-- The acknowledgement that a received packet calls for. -/
def PacketInfo.answer (packet : PacketInfo) : Option (PubAckType × UInt16) :=
  if packet.type &&& 0xF0 = packetTypePublish then
    let decoded := mqttDeserializePublish packet
    match decoded.2.2.qos with
    | .qos0 => none
    | .qos1 => some (.puback, decoded.2.1.getD 0)
    | .qos2 => some (.pubrec, decoded.2.1.getD 0)
  else if packet.type = packetTypePubrec then some (.pubrel, ackPacketId packet)
  else if packet.type = packetTypePubrel then some (.pubcomp, ackPacketId packet)
  else none

theorem answer_publish {packet : PacketInfo} (hpublish : packet.type &&& 0xF0 = packetTypePublish)
    {packetType : PubAckType}
    (h : ackToSend (mqttCalculateStatePublish .receive (mqttDeserializePublish packet).2.2.qos) =
      some packetType) :
    packet.answer = some (packetType, (mqttDeserializePublish packet).2.1.getD 0) := by
  unfold PacketInfo.answer
  rw [if_pos hpublish]
  dsimp only
  revert h
  cases (mqttDeserializePublish packet).2.2.qos with
  | qos0 => exact fun h => nomatch h
  | qos1 => exact fun h => by cases h; rfl
  | qos2 => exact fun h => by cases h; rfl

theorem answer_ack {packet : PacketInfo} (hack : isPublishAck packet.type = true) {qos : QoS}
    {packetType : PubAckType}
    (h : ackToSend (mqttCalculateStateAck (getAckFromPacketType packet.type) .receive qos) =
      some packetType) : packet.answer = some (packetType, ackPacketId packet) := by
  have hpublish : packet.type &&& 0xF0 ≠ packetTypePublish := fun hpublish =>
    absurd (isPublishAck_publish hpublish) (by simp [hack])
  unfold PacketInfo.answer
  rw [if_neg hpublish]
  rcases of_decide_eq_true hack with htype | htype | htype | htype
  all_goals
    rw [htype] at h ⊢
    cases qos <;> cases h <;> rfl

/-- The acknowledgement after a callback answers the packet that was delivered. -/
theorem callbackFrame_answer {s : Sys} {packet : PacketInfo} {manageKeepAlive : Bool}
    {frame : CallbackFrame} (h : callbackFrame s packet manageKeepAlive = some frame)
    {packetId : UInt16} {state : PublishState} (hreply : frame.reply = some (packetId, state))
    {packetType : PubAckType} (hack : ackToSend state = some packetType) :
    packet.answer = some (packetType, packetId) := by
  unfold callbackFrame at h
  split at h
  · rename_i hpublish
    unfold publishFrame at h
    dsimp only at h
    split at h
    swap
    · cases h
    cases h
    obtain ⟨rfl, rfl⟩ := Prod.mk.inj (Option.some.inj hreply)
    refine answer_publish hpublish ?_
    have hmem := mqttUpdateStatePublish_newState s.toPublishRecords
      ((mqttDeserializePublish packet).2.1.getD 0) (mqttDeserializePublish packet).2.2.qos
    rcases List.mem_cons.1 hmem with heq | hmem
    · rw [heq] at hack
      cases hack
    rcases List.mem_cons.1 hmem with heq | hmem
    · rw [heq] at hack
      cases hack
    · rwa [List.mem_singleton.1 hmem] at hack
  unfold ackFrame at h
  dsimp only at h
  split_ifs at h with hpublish
  · unfold publishAckFrame at h
    dsimp only at h
    split at h
    swap
    · cases h
    cases h
    obtain ⟨rfl, rfl⟩ := Prod.mk.inj (Option.some.inj hreply)
    rcases mqttUpdateStateAck_newState s.toPublishRecords
      ((mqttDeserializeAck packet true false).2.1.getD 0) (getAckFromPacketType packet.type)
      .receive with hnew | ⟨qos, hnew⟩
    · rw [hnew] at hack
      cases hack
    · rw [hnew] at hack
      exact answer_ack hpublish hack
  · cases h
    cases hreply
  · cases h
    cases hreply

/-! ## Without a callback -/

/-- The packet is refused, or it is a PUBLISH that has been seen before. -/
theorem handleIncomingPublish_unheard (c : Config) {s : Sys} {packet : PacketInfo}
    (h : publishFrame s packet = none) :
    let decoded := mqttDeserializePublish packet
    let updated := mqttUpdateStatePublish s.toPublishRecords (decoded.2.1.getD 0) .receive
      decoded.2.2.qos
    (handleIncomingPublish c s packet).2 = s ∨ decoded.1 = .success ∧ updated.1 ≠ .success ∧
      (handleIncomingPublish c s packet).2 =
        if updated.1 = .stateCollision then (sendPublishAcks c (s.setRecords updated.2.2)
          (decoded.2.1.getD 0) (mqttCalculateStatePublish .receive decoded.2.2.qos)).2
        else s.setRecords updated.2.2 := by
  unfold publishFrame at h
  unfold handleIncomingPublish
  dsimp only at h ⊢
  split
  · exact .inl rfl
  rename_i hdecoded
  split
  · exact .inl rfl
  rename_i hrecords
  split
  · rename_i hupdated
    rw [if_pos ⟨not_not.1 hdecoded, hrecords, hupdated⟩] at h
    cases h
  rename_i hupdated
  refine .inr ⟨not_not.1 hdecoded, hupdated, ?_⟩
  split
  · rfl
  · rfl

/-- The acknowledgement is refused, or a PINGRESP that the library keeps to itself. -/
theorem handleIncomingAck_unheard (c : Config) {s : Sys} {packet : PacketInfo}
    {manageKeepAlive : Bool} (h : ackFrame s packet manageKeepAlive = none) :
    let updated := mqttUpdateStateAck s.toPublishRecords (ackPacketId packet)
      (getAckFromPacketType packet.type) .receive
    (∃ waitingForPingResp, (handleIncomingAck c s packet manageKeepAlive).2 =
        { s with waitingForPingResp }) ∨
      updated.1 ≠ .success ∧
        (handleIncomingAck c s packet manageKeepAlive).2 = s.setRecords updated.2.2 := by
  unfold ackFrame publishAckFrame at h
  unfold handleIncomingAck handlePublishAcks
  dsimp only at h ⊢
  by_cases hack : isPublishAck packet.type = true
  · rw [if_pos hack] at h
    rw [if_pos (of_decide_eq_true hack)]
    split
    · exact .inl ⟨s.waitingForPingResp, rfl⟩
    rename_i hdecoded
    split
    · rename_i hupdated
      exact .inr ⟨hupdated, rfl⟩
    · rename_i hupdated
      rw [if_pos ⟨not_not.1 hdecoded, not_not.1 hupdated⟩] at h
      cases h
  rw [if_neg hack] at h
  rw [if_neg fun hor => hack (decide_eq_true hor)]
  split at h
  · rename_i hping
    rw [if_pos hping]
    split
    · exact .inl ⟨s.waitingForPingResp, rfl⟩
    rename_i hdecoded
    split
    · exact .inl ⟨false, rfl⟩
    · rename_i hmanage
      rw [if_pos ⟨not_not.1 hdecoded, Bool.eq_false_iff.2 hmanage⟩] at h
      cases h
  rename_i hping
  rw [if_neg hping]
  split
  · rename_i hsub
    rw [if_pos hsub] at h
    split
    · rename_i hdecoded
      rw [if_pos hdecoded] at h
      cases h
    · exact .inl ⟨s.waitingForPingResp, rfl⟩
  · exact .inl ⟨s.waitingForPingResp, rfl⟩

/-- What a handler does without the callback: it changes the records or the wait for a PINGRESP, or
acknowledges a PUBLISH that it has seen before. -/
theorem handlePacket_unheard (c : Config) {s : Sys} {packet : PacketInfo} {manageKeepAlive : Bool}
    (h : callbackFrame (s.dispatching packet) packet manageKeepAlive = none) :
    (∃ t waitingForPingResp, (handlePacket c manageKeepAlive packet s).2 =
      { (s.dispatching packet).setRecords t with waitingForPingResp }) ∨
    ∃ t packetId state, (handlePacket c manageKeepAlive packet s).2 =
        (sendPublishAcks c ((s.dispatching packet).setRecords t) packetId state).2 ∧
      ∀ packetType, ackToSend state = some packetType → packet.answer = some (packetType, packetId) := by
  unfold callbackFrame at h
  unfold handlePacket
  dsimp only
  change (∃ t waitingForPingResp, (if packet.type &&& 0xF0 = packetTypePublish then
      handleIncomingPublish c (s.dispatching packet) packet
      else handleIncomingAck c (s.dispatching packet) packet manageKeepAlive).2 = _) ∨
    ∃ t packetId state, (if packet.type &&& 0xF0 = packetTypePublish then
      handleIncomingPublish c (s.dispatching packet) packet
      else handleIncomingAck c (s.dispatching packet) packet manageKeepAlive).2 = _ ∧ _
  split at h
  · rename_i hpublish
    rw [if_pos hpublish]
    rcases handleIncomingPublish_unheard c h with heq | ⟨-, -, heq⟩
    · exact .inl ⟨s.toPublishRecords, s.waitingForPingResp, heq⟩
    rw [heq]
    split
    · exact .inr ⟨_, _, _, rfl, fun packetType => answer_publish hpublish⟩
    · exact .inl ⟨_, s.waitingForPingResp, rfl⟩
  · rename_i hpublish
    rw [if_neg hpublish]
    rcases handleIncomingAck_unheard c h with ⟨waitingForPingResp, heq⟩ | ⟨-, heq⟩
    · exact .inl ⟨s.toPublishRecords, waitingForPingResp, heq⟩
    · exact .inl ⟨_, s.waitingForPingResp, heq⟩

/-! ## Acknowledgements in a run -/

/-- The packet that was delivered last is to be answered so, and only requests of the application
have been made since. -/
def AnswersDelivered (earlier : List (Moment Sys Operation)) (packetType : PubAckType)
    (packetId : UInt16) : Prop :=
  ∃ front m requests packet manageKeepAlive, earlier = front ++ m :: requests ∧
    m.operation = .deliver packet manageKeepAlive ∧ packet.answer = some (packetType, packetId) ∧
    ∀ m' ∈ requests, ∃ call, m'.operation = .request call

/-- A record waits for PUBCOMP. -/
def AwaitsPubcomp (s : Sys) (packetId : UInt16) : Prop :=
  ∃ r ∈ s.outgoingPublishRecords, r.packetId = packetId ∧ r.publishState ∈ pubrelStates

/-- An acknowledgement that the library may send. -/
def Solicited (earlier : List (Moment Sys Operation)) (s : Sys) (packetType : PubAckType)
    (packetId : UInt16) : Prop :=
  AnswersDelivered earlier packetType packetId ∨ packetType = .pubrel ∧ AwaitsPubcomp s packetId

/-- The acknowledgement of a moment, if there is one, may be sent. -/
def SolicitedAt (earlier : List (Moment Sys Operation)) (m : Moment Sys Operation) : Prop :=
  ∀ packetId state, m.operation = .acknowledge packetId state →
    ∀ packetType, ackToSend state = some packetType → Solicited earlier m.before packetType packetId

def Operation.IsAcknowledge : Operation → Prop
  | .acknowledge _ _ => True
  | _ => False

section Histories

variable {c : Config} {s : Sys} {earlier : List (Moment Sys Operation)}

theorem solicitedAt_of_not {m : Moment Sys Operation} (h : ¬ m.operation.IsAcknowledge) :
    SolicitedAt earlier m := by
  intro packetId state hoperation
  rw [hoperation] at h
  exact absurd trivial h

theorem solicited_of_not {operations : List Operation}
    (h : ∀ operation ∈ operations, ¬ operation.IsAcknowledge) :
    EachAfter SolicitedAt earlier (moments (Operation.run c) s operations) :=
  .of_forall (fun _ m hm => solicitedAt_of_not (h m.operation (operation_mem hm))) earlier

theorem solicited_handlerOperations (packet : PacketInfo) (manageKeepAlive : Bool) :
    EachAfter SolicitedAt earlier
      (moments (Operation.run c) s (handlerOperations s packet manageKeepAlive)) := by
  unfold handlerOperations
  cases hframe : callbackFrame (s.dispatching packet) packet manageKeepAlive with
  | none => exact solicited_of_not (List.forall_mem_singleton.2 id)
  | some frame =>
    dsimp only
    have hrequest : ∀ operation ∈ (frame.before.callbacks.headD []).map Operation.request,
        ∃ call, operation = .request call := by
      intro operation hmem
      obtain ⟨call, -, rfl⟩ := List.mem_map.1 hmem
      exact ⟨call, rfl⟩
    rw [moments_cons, moments_append]
    refine ⟨solicitedAt_of_not id, eachAfter_append.2 ⟨solicited_of_not fun operation hmem => ?_, ?_⟩⟩
    · obtain ⟨call, rfl⟩ := hrequest operation hmem
      exact id
    rcases hreply : frame.reply with _ | ⟨packetId, state⟩
    · trivial
    refine ⟨fun packetId' state' hoperation packetType hack => .inl ?_, trivial⟩
    cases hoperation
    refine ⟨earlier, _, _, packet, manageKeepAlive, List.append_assoc .., rfl,
      callbackFrame_answer hframe hreply hack, fun m' hm' => hrequest _ (operation_mem hm')⟩

/-- The cursor stops at a record that waits for PUBCOMP. -/
theorem mqttPubrelToResend_awaits {t : PublishRecords} {cursor : Nat}
    (h : (mqttPubrelToResend t cursor).1 ≠ packetIdInvalid) :
    ∃ r ∈ t.outgoingPublishRecords, r.packetId = (mqttPubrelToResend t cursor).1 ∧
      r.publishState ∈ pubrelStates := by
  obtain ⟨r, hmem, hid, hbit⟩ := stateSelectFrom_mem h
  rw [checkStateBit_pubrel] at hbit
  exact ⟨r, List.mem_of_mem_drop hmem, hid, of_decide_eq_true hbit⟩

theorem solicited_pubrelOperations {fuel : Nat} {packetId : UInt16} {cursor : Nat}
    (h : packetId ≠ packetIdInvalid → AwaitsPubcomp s packetId) :
    EachAfter SolicitedAt earlier
      (moments (Operation.run c) s (pubrelOperations c fuel packetId cursor s)) := by
  induction fuel generalizing s earlier packetId cursor with
  | zero => trivial
  | succ fuel ih =>
    rw [pubrelOperations]
    dsimp only
    split
    · trivial
    rename_i hid
    rw [moments_cons]
    refine ⟨fun packetId' state' hoperation packetType hack => .inr ?_, ?_⟩
    · cases hoperation
      cases hack
      exact ⟨rfl, h hid⟩
    split
    · exact ih fun hnext => mqttPubrelToResend_awaits hnext
    · trivial

theorem solicited_resumptionOperations :
    EachAfter SolicitedAt earlier (moments (Operation.run c) s (resumptionOperations c s)) := by
  unfold resumptionOperations
  dsimp only
  rw [moments_append]
  refine eachAfter_append.2
    ⟨solicited_pubrelOperations fun hfirst => mqttPubrelToResend_awaits hfirst, ?_⟩
  refine solicited_of_not fun operation hmem => ?_
  split at hmem
  · obtain ⟨packetId, rfl⟩ := publishOperations_eq operation hmem
    exact id
  · exact absurd hmem List.not_mem_nil

theorem solicited_connectOperations (info : Option ConnectInfo) (will : Option PublishInfo)
    (timeoutMs : UInt32) : EachAfter SolicitedAt earlier
      (moments (Operation.run c) s (connectOperations c s info will timeoutMs)) := by
  have hgiveUp : ∀ {earlier s}, EachAfter SolicitedAt earlier
      (moments (Operation.run c) s [.giveUp]) := solicited_of_not (List.forall_mem_singleton.2 id)
  have hend : ∀ (ok : Prop) [Decidable ok] {earlier s}, EachAfter SolicitedAt earlier
      (moments (Operation.run c) s (if ok then [] else [.giveUp])) := by
    intro ok _ earlier s
    split
    · trivial
    · exact hgiveUp
  unfold connectOperations
  cases info with
  | none => exact hgiveUp
  | some info =>
    dsimp only
    split
    · exact hgiveUp
    split
    · trivial
    have hrun : Operation.run c s (.establish info will timeoutMs) = (establish c s info will
        (mqttGetConnectPacketSize (some info) will).2.1 timeoutMs).2.2 := rfl
    rw [moments_cons, hrun]
    refine ⟨solicitedAt_of_not id, ?_⟩
    generalize earlier ++ _ = earlier'
    generalize establish c s info will _ timeoutMs = established
    split
    · exact hgiveUp
    split
    · rw [moments_append, eachAfter_append]
      exact ⟨solicited_resumptionOperations, hend _⟩
    · trivial

theorem Operation.IsHousekeeping.not_isAcknowledge {operation : Operation}
    (h : operation.IsHousekeeping) : ¬ operation.IsAcknowledge := by
  cases operation with
  | acknowledge => exact absurd h id
  | _ => exact id

theorem solicited_iterationOperations (manageKeepAlive : Bool) : EachAfter SolicitedAt earlier
    (moments (Operation.run c) s (iterationOperations c s manageKeepAlive)) := by
  rcases iterationOperations_cases c s manageKeepAlive with
    hhousekeeping | ⟨front, packet, back, heq, hfront, hback⟩
  · exact solicited_of_not fun operation hmem => (hhousekeeping operation hmem).not_isAcknowledge
  rw [heq, moments_append, moments_append]
  refine eachAfter_append.2 ⟨?_, eachAfter_append.2 ⟨?_, ?_⟩⟩
  · exact solicited_of_not fun operation hmem => (hfront operation hmem).not_isAcknowledge
  · exact solicited_handlerOperations packet manageKeepAlive
  · exact solicited_of_not fun operation hmem => (hback operation hmem).not_isAcknowledge

/-- Every acknowledgement of a run answers a packet, or is sent again. -/
theorem solicited_runMoments (calls : List Call) :
    EachAfter SolicitedAt earlier (runMoments c s calls) := by
  induction calls generalizing s earlier with
  | nil => trivial
  | cons call calls ih =>
    refine eachAfter_append.2 ⟨?_, ih⟩
    cases call with
    | connect info will timeoutMs => exact solicited_connectOperations info will timeoutMs
    | api call =>
      cases call with
      | processLoop => exact ⟨solicitedAt_of_not id, solicited_iterationOperations true⟩
      | receiveLoop => exact solicited_iterationOperations false
      | _ => exact solicited_of_not (List.forall_mem_singleton.2 id)

end Histories

end FreeMqtt

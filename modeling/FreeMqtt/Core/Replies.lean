import FreeMqtt.Core.Completion
import FreeMqtt.Core.Receiver
import FreeMqtt.Lib.FourWay

/-!
# The replies to a QoS 2 sender

The client as the receiver of the four-packet handshake: `stage` reads the stage of a message
off the incoming records, and a PUBLISH or PUBREL does to it what `FourWay.handle` says.
-/

namespace FreeMqtt

open FourWay KeyedList

/-! ## Stages -/

/-- The stage that a state of an incoming QoS 2 record stands for. -/
def stageOf : PublishState → Option Stage
  | .pubRecSend => some .received
  | .pubRelPending => some .confirmed
  | .pubCompSend => some .released
  | _ => none

/-- The stage of a message. -/
def stage (records : List PubAckInfo) (packetId : UInt16) : Option Stage :=
  (liveRecord records packetId).bind fun r => stageOf r.publishState

/-- Incoming records of QoS 2 publishes only. -/
structure QoS2Table (records : List PubAckInfo) : Prop extends Table .incoming records where
  qos2 : ∀ r ∈ live records, r.qos = .qos2

/-- The reply that an event hands to the transport completely. -/
def replyOf : Event → Option (UInt16 × Reply)
  | .sent (.ack .pubrec packetId) _ _ .complete => some (packetId, .confirm)
  | .sent (.ack .pubcomp packetId) _ _ .complete => some (packetId, .complete)
  | _ => none

theorem Event.Foreign.replyOf_eq {e : Event} (h : e.Foreign) : replyOf e = none := by
  unfold Event.Foreign deliveryLabel at h
  unfold replyOf
  grind

theorem QoS2Table.of_lookup {records : List PubAckInfo} (h : Table .incoming records)
    (hqos : ∀ packetId r, liveRecord records packetId = some r → r.qos = .qos2) :
    QoS2Table records :=
  ⟨h, fun r hr => hqos r.packetId r (lookup_of_mem h.nodup hr)⟩

theorem QoS2Table.qos_of_lookup {records : List PubAckInfo} (h : QoS2Table records)
    {packetId : UInt16} {r : PubAckInfo} (hr : liveRecord records packetId = some r) :
    r.qos = .qos2 :=
  h.qos2 r (lookup_mem hr)

/-- The records of messages are at a stage. -/
theorem QoS2Table.exists_stage {records : List PubAckInfo} (h : QoS2Table records)
    {packetId : UInt16} {r : PubAckInfo} (hr : liveRecord records packetId = some r) :
    ∃ stage', stageOf r.publishState = some stage' ∧ stage records packetId = some stage' := by
  have hvalid := h.valid r (lookup_mem hr)
  have hstage : stage records packetId = stageOf r.publishState := by
    rw [stage, hr, Option.bind_some]
  rw [hstage]
  unfold ValidRecord at hvalid
  rw [h.qos_of_lookup hr] at hvalid
  revert hvalid
  cases r.publishState <;> first
    | exact fun _ => ⟨_, rfl, rfl⟩
    | exact fun h => absurd h (by decide)

/-! ## Replies -/

/-- The acknowledgement that a reply is sent as. -/
def ackTypeOf : Reply → PubAckType
  | .confirm => .pubrec
  | .complete => .pubcomp

/-- The state that calls for a reply. -/
def replyState : Reply → PublishState
  | .confirm => .pubRecSend
  | .complete => .pubCompSend

/-- The stage after a reply. -/
def stageAfter : Reply → Option Stage
  | .confirm => some .confirmed
  | .complete => none

/-- From `s` on a call replied to a message, completely if `sent`, and left it at a stage. The
reply is handed to the transport when the client was `ready` or is connected in the end. -/
structure Replied (s : Sys) (result : Status × Sys) (packetId : UInt16) (reply : Reply)
    (sent : Bool) (stage' : Option Stage) (ready : Prop) : Prop where
  status : result.1 ∉ [Status.badResponse, .illegalState]
  table : QoS2Table result.2.incomingPublishRecords
  stage : ∀ id, stage result.2.incomingPublishRecords id =
    if id = packetId then stage' else FreeMqtt.stage s.incomingPublishRecords id
  log : ∃ events, result.2.log = s.log ++ events ∧
    events.filterMap replyOf = (if sent then [(packetId, reply)] else []) ∧
    (ready ∨ result.2.connectStatus = .connected → ∃ n stop,
      .sent (.ack (ackTypeOf reply) packetId) (ackPacket (ackTypeOf reply) packetId) n stop ∈ events)

/-- Changes of the record of the message, and events that are no replies, before the reply. -/
theorem Replied.after {s s₁ : Sys} {result : Status × Sys} {packetId : UInt16} {reply : Reply}
    {sent : Bool} {stage' : Option Stage} {ready ready₁ : Prop}
    (h : Replied s₁ result packetId reply sent stage' ready₁) (hready : ready → ready₁)
    (hstage : ∀ id, id ≠ packetId → FreeMqtt.stage s₁.incomingPublishRecords id =
      FreeMqtt.stage s.incomingPublishRecords id)
    (hlog : ∃ events, s₁.log = s.log ++ events ∧ events.filterMap replyOf = []) :
    Replied s result packetId reply sent stage' ready where
  status := h.status
  table := h.table
  stage id := by
    rw [h.stage]
    split
    · rfl
    · rename_i hne
      exact hstage id hne
  log := by
    obtain ⟨before, hbefore, hnone⟩ := hlog
    obtain ⟨events, hevents, hreply, htried⟩ := h.log
    refine ⟨before ++ events, ?_, ?_, fun hconn => ?_⟩
    · rw [hevents, hbefore, List.append_assoc]
    · rw [List.filterMap_append, hnone, hreply, List.nil_append]
    · obtain ⟨n, stop, hin⟩ := htried (hconn.imp_left hready)
      exact ⟨n, stop, List.mem_append_right _ hin⟩

theorem replyOf_sent (reply : Reply) (packetId : UInt16) (bytes : List UInt8) (n : Nat)
    (stop : Stop) : replyOf (.sent (.ack (ackTypeOf reply) packetId) bytes n stop) =
      if stop = .complete then some (packetId, reply) else none := by
  cases reply <;> cases stop <;> rfl

/-- What a complete reply does to the record of a message. -/
theorem ackRecord_reply {reply : Reply} {r : PubAckInfo} (hqos : r.qos = .qos2)
    (hstate : r.publishState = replyState reply ∨
      reply = .confirm ∧ r.publishState = .pubRelPending) :
    ackStatus .incoming (ackTypeOf reply) (some r) = .success ∧
      (ackRecord .incoming (ackTypeOf reply) (some r)).bind (fun r => stageOf r.publishState) =
        stageAfter reply := by
  obtain ⟨packetId, qos, state⟩ := r
  dsimp only at hqos hstate
  subst hqos
  rcases hstate with rfl | ⟨rfl, rfl⟩
  · cases reply <;> exact ⟨rfl, rfl⟩
  · exact ⟨rfl, rfl⟩

/-- `sendPublishAcks` as a reply. -/
theorem sendPublishAcks_replied (c : Config) {s : Sys} (ht : QoS2Table s.incomingPublishRecords)
    {packetId : UInt16} (hid : packetId ≠ 0) (reply : Reply) {r : PubAckInfo}
    (hr : liveRecord s.incomingPublishRecords packetId = some r)
    (hstate : r.publishState = replyState reply ∨
      reply = .confirm ∧ r.publishState = .pubRelPending) :
    ∃ sent : Bool, Replied s (sendPublishAcks c s packetId (replyState reply)) packetId reply sent
      (if sent then stageAfter reply else stageOf r.publishState) (s.connectStatus = .connected) := by
  have hsame : ∀ id, stage s.incomingPublishRecords id = if id = packetId then
      stageOf r.publishState else stage s.incomingPublishRecords id := by
    intro id
    split
    · rename_i heq
      rw [heq, stage, hr, Option.bind_some]
    · rfl
  have hack : ackToSend (replyState reply) = some (ackTypeOf reply) := by cases reply <;> rfl
  have hd : ackDirection (ackTypeOf reply) .send = .incoming := by cases reply <;> rfl
  by_cases hconn : s.connectStatus = .connected
  · obtain ⟨s₁, n, stop, hsent, heq⟩ := sendPublishAcks_connected c hack hid hconn
    rw [heq]
    have hreply := replyOf_sent reply packetId (ackPacket (ackTypeOf reply) packetId) n stop
    by_cases hstop : stop = .complete
    · obtain ⟨records', hupd, htab, -, hrecords⟩ :=
        mqttUpdateStateAck_record (t := s.toPublishRecords) hid hd ht.toTable (.inl rfl)
      change ∀ id, liveRecord records' id = if id = packetId then ackRecord .incoming
        (ackTypeOf reply) (liveRecord s.incomingPublishRecords packetId)
        else liveRecord s.incomingPublishRecords id at hrecords
      change mqttUpdateStateAck s.toPublishRecords packetId (ackTypeOf reply) .send =
        (ackStatus .incoming (ackTypeOf reply) (liveRecord s.incomingPublishRecords packetId),
          _, _) at hupd
      obtain ⟨hstatus, hstage⟩ := ackRecord_reply (ht.qos_of_lookup hr) hstate
      rw [hr] at hrecords hupd
      rw [if_pos hstop] at hreply ⊢
      rw [hupd, hstatus]
      refine ⟨true, ?_, ?_, fun id => ?_, ?_⟩
      · simp
      · refine .of_lookup htab fun id x hx => ?_
        change liveRecord records' id = some x at hx
        rw [hrecords] at hx
        split at hx
        · exact (qos_of_apply hx).trans (ht.qos_of_lookup hr)
        · exact ht.qos_of_lookup hx
      · change stage records' id = _
        unfold stage
        rw [hrecords]
        split
        · exact hstage
        · rfl
      · exact ⟨_, hsent.log_eq, by simp [hreply], fun _ => ⟨n, stop, List.mem_singleton.2 rfl⟩⟩
    · rw [if_neg hstop] at hreply ⊢
      have hrecords : s₁.incomingPublishRecords = s.incomingPublishRecords :=
        congrArg PublishRecords.incomingPublishRecords hsent.records
      refine ⟨false, by simp, hrecords ▸ ht, fun id => ?_,
        _, hsent.log_eq, by simp [hreply], fun _ => ⟨n, stop, List.mem_singleton.2 rfl⟩⟩
      rw [hrecords]
      exact hsame id
  · rw [sendPublishAcks_notConnected c hack hid hconn]
    refine ⟨false, ?_, ht, hsame, [], by simp, rfl, fun h => absurd (or_self_iff.1 h) hconn⟩
    unfold notConnectedStatus
    split <;> simp

/-! ## Requests -/

/-- The client is connected, and the application makes no calls from its next callback. -/
def Quiet (s : Sys) : Prop := s.connectStatus = .connected ∧ s.callbacks.headD [] = []

/-- The application callback leaves the incoming records alone and is no reply. -/
theorem appCallback_replies (c : Config) (s : Sys) (packet : PacketInfo) (info : DeserializedInfo) :
    (appCallback c s packet info).incomingPublishRecords = s.incomingPublishRecords ∧
      (Quiet s → (appCallback c s packet info).connectStatus = .connected) ∧
      ∃ events, (appCallback c s packet info).log = s.log ++ events ∧
        events.filterMap replyOf = [] := by
  obtain ⟨hincoming, events, hlog, hforeign⟩ := (appCallback_requests c s packet info).elsewhere
  refine ⟨hincoming, fun ⟨hconn, hquiet⟩ => ?_, .callback packet info :: events, ?_, ?_⟩
  · have hcalls : (s.record (.callback packet info)).callbacks.headD [] = [] := hquiet
    unfold appCallback
    dsimp only
    rw [hcalls]
    exact hconn
  · rw [hlog, Sys.record, List.append_assoc, List.singleton_append]
  · rw [List.filterMap_cons_none rfl, List.filterMap_eq_nil_iff]
    exact fun e he => (hforeign e he).replyOf_eq

/-- The receipt of a message that is new, or known but not released, is replied to. -/
theorem handleIncomingPublish_replied (c : Config) {s : Sys}
    (ht : QoS2Table s.incomingPublishRecords) {packetId : UInt16} (hid : packetId ≠ 0)
    {packet : PacketInfo} {info : PublishInfo}
    (hpacket : mqttDeserializePublish packet = (.success, some packetId, info))
    (hqos : info.qos = .qos2)
    (hroom : liveRecord s.incomingPublishRecords packetId = none → FreeSlot s.incomingPublishRecords)
    (hstage : stage s.incomingPublishRecords packetId ≠ some .released) :
    ∃ (sent : Bool) (stage' : Option Stage),
      FourWay.handle sent (stage s.incomingPublishRecords packetId) .offer = some stage' ∧
      Replied s (handleIncomingPublish c s packet) packetId .confirm sent stage' (Quiet s) := by
  have hqos2 : QoS.qos2 ≠ .qos0 := by decide
  have hne : s.incomingPublishRecords ≠ [] := by
    intro h
    rw [h] at hroom
    exact absurd (hroom rfl).1 (by simp)
  obtain ⟨status, records', hupd, htab, -, ho⟩ := mqttUpdateStatePublish_receive_spec
    (t := s.toPublishRecords) hid ht.toTable hqos2
  change AddOutcome s.incomingPublishRecords _ _ _ at ho
  unfold handleIncomingPublish
  rw [hpacket]
  simp only [ne_eq, not_true_eq_false, if_false, hne, false_and, Option.getD_some, hqos, hupd]
  have hrecords := ho.liveRecord_eq
  have hothers : ∀ id, id ≠ packetId → stage records' id = stage s.incomingPublishRecords id := by
    intro id hne
    rw [stage, hrecords, if_neg fun h => hne h.2, stage]
  have hsaved : QoS2Table records' := by
    refine .of_lookup htab fun id r hr => ?_
    rw [hrecords] at hr
    split at hr
    · rw [← Option.some.inj hr, firstRecord]
    · exact ht.qos_of_lookup hr
  cases hr : liveRecord s.incomingPublishRecords packetId with
  | none =>
    have hok := mqttUpdateStatePublish_receive_of_free (t := s.toPublishRecords) hid ht.toSlots
      (hroom hr) (lookup_eq_none_iff_notMem.1 hr) hqos2
    rw [hupd] at hok
    dsimp only at hok
    subst hok
    have hr' : liveRecord records' packetId = some (firstRecord .incoming packetId .qos2) := by
      rw [hrecords, if_pos ⟨rfl, rfl⟩]
    obtain ⟨hincoming, hready, hlog⟩ := appCallback_replies c
      (s.setRecords (s.toPublishRecords.setTable .incoming records')) packet
      ⟨packetId, some info, .success⟩
    change _ = records' at hincoming
    obtain ⟨sent, hreplied⟩ := sendPublishAcks_replied c (hincoming ▸ hsaved) hid
      .confirm (hincoming ▸ hr') (.inl rfl)
    refine ⟨sent, _, ?_, hreplied.after hready (fun id hne => ?_) hlog⟩
    · rw [stage, hr]
      cases sent <;> rfl
    · rw [hincoming]
      exact hothers id hne
  | some r =>
    obtain rfl : status = .stateCollision := ho.eq_collision hr
    obtain ⟨stage', hstageOf, hstage'⟩ := ht.exists_stage hr
    rw [hstage', ← hstageOf] at hstage
    have hr' : liveRecord records' packetId = some r := by
      rw [hrecords, if_neg (by simp), hr]
    have hstate : r.publishState = .pubRecSend ∨ r.publishState = .pubRelPending := by
      revert hstageOf hstage
      cases r.publishState <;> simp [stageOf]
    obtain ⟨sent, hreplied⟩ := sendPublishAcks_replied c
      (s := s.setRecords (s.toPublishRecords.setTable .incoming records')) hsaved hid
      .confirm hr' (hstate.imp id fun h => ⟨rfl, h⟩)
    refine ⟨sent, _, ?_, hreplied.after And.left hothers ⟨[], by simp [Sys.setRecords], rfl⟩⟩
    rw [stage, hr, Option.bind_some]
    rcases hstate with h | h <;> rw [h] <;> cases sent <;> rfl

/-- What PUBREL does to the record of a confirmed or released message. -/
theorem ackRecord_pubrel {r : PubAckInfo} (hqos : r.qos = .qos2)
    (hstate : r.publishState = .pubRelPending ∨ r.publishState = .pubCompSend) :
    react .incoming r (.ack .pubrel) ≠ .illegal ∧
      ackRecord .incoming .pubrel (some r) = some { r with publishState := .pubCompSend } := by
  obtain ⟨packetId, qos, state⟩ := r
  dsimp only at hqos hstate
  subst hqos
  rcases hstate with rfl | rfl
  · exact ⟨fun h => Reaction.noConfusion h, rfl⟩
  · exact ⟨fun h => Reaction.noConfusion h, rfl⟩

/-- The release of a confirmed message is replied to. -/
theorem handlePublishAcks_replied (c : Config) {s : Sys}
    (ht : QoS2Table s.incomingPublishRecords) {packetId : UInt16} (hid : packetId ≠ 0)
    (hstage : stage s.incomingPublishRecords packetId = some .confirmed ∨
      stage s.incomingPublishRecords packetId = some .released) :
    ∃ sent : Bool, Replied s (handlePublishAcks c s (ackInfo .pubrel packetId)) packetId .complete
      sent (if sent then none else some .released) (Quiet s) := by
  obtain ⟨r, hr, hstate⟩ : ∃ r, liveRecord s.incomingPublishRecords packetId = some r ∧
      (r.publishState = .pubRelPending ∨ r.publishState = .pubCompSend) := by
    unfold stage at hstage
    cases hr : liveRecord s.incomingPublishRecords packetId with
    | none => simp [hr] at hstage
    | some r =>
      refine ⟨r, rfl, ?_⟩
      rw [hr, Option.bind_some] at hstage
      revert hstage
      cases r.publishState <;> simp [stageOf]
  obtain ⟨hlegal, hrecord⟩ := ackRecord_pubrel (ht.qos_of_lookup hr) hstate
  have hd : ackDirection .pubrel .receive = .incoming := rfl
  obtain ⟨records', hupd, htab, -, hrecords⟩ :=
    mqttUpdateStateAck_record (t := s.toPublishRecords) hid hd ht.toTable (.inl rfl)
  change ∀ id, liveRecord records' id = if id = packetId then ackRecord .incoming .pubrel
    (liveRecord s.incomingPublishRecords packetId)
    else liveRecord s.incomingPublishRecords id at hrecords
  change mqttUpdateStateAck s.toPublishRecords packetId .pubrel .receive =
    (ackStatus .incoming .pubrel (liveRecord s.incomingPublishRecords packetId),
      (liveRecord s.incomingPublishRecords packetId).bind _, _) at hupd
  rw [hr, ackStatus, if_neg hlegal, Option.bind_some, if_neg hlegal, ht.qos_of_lookup hr] at hupd
  rw [handlePublishAcks_ackInfo c s .pubrel hid, hupd]
  have hsaved : QoS2Table records' := by
    refine .of_lookup htab fun id x hx => ?_
    rw [hrecords, hr, hrecord] at hx
    split at hx
    · have hqos : r.qos = .qos2 := ht.qos_of_lookup hr
      rw [← Option.some.inj hx]
      exact hqos
    · exact ht.qos_of_lookup hx
  have hr' : liveRecord records' packetId = some { r with publishState := .pubCompSend } := by
    rw [hrecords, if_pos rfl, hr, hrecord]
  obtain ⟨hincoming, hready, hlog⟩ := appCallback_replies c
    (s.setRecords (s.toPublishRecords.setTable .incoming records')) (ackInfo .pubrel packetId)
    ⟨packetId, none, .success⟩
  change _ = records' at hincoming
  obtain ⟨sent, hreplied⟩ := sendPublishAcks_replied c (hincoming ▸ hsaved) hid
    .complete (hincoming ▸ hr') (.inl rfl)
  refine ⟨sent, hreplied.after hready (fun id hne => ?_) hlog⟩
  rw [hincoming, stage, hrecords, if_neg hne, stage]

end FreeMqtt

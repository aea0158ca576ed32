import FreeMqtt.Core.Receive
import FreeMqtt.Core.Steps
import FreeMqtt.Lib.Delivery
import FreeMqtt.State.Records

/-!
# The client as a receiver of QoS 2 publishes

The client holds the packet ids of its live incoming QoS 2 records. The handlers deliver a
packet id to the application only when it is not held, and drop it only with a complete
PUBCOMP (`handleIncomingPublish_receives`, `handlePublishAcks_receives`); requests leave it
alone (`Requests.elsewhere`).
-/

namespace FreeMqtt

open Delivery KeyedList Relation

/-! ## Events -/

/-- The application callback is invoked for a QoS 2 PUBLISH. -/
def Event.Delivers (packetId : UInt16) : Event → Prop
  | .callback _ ⟨id, some info, _⟩ => id = packetId ∧ info.qos = .qos2
  | _ => False

/-- A PUBREC is handed to the transport. -/
def Event.SendsPubrec (packetId : UInt16) : Event → Prop
  | .sent kind _ _ _ => kind = .ack .pubrec packetId
  | _ => False

/-- A PUBCOMP is completely sent. -/
def Event.CompletesPubcomp (packetId : UInt16) : Event → Prop
  | .sent kind _ _ stop => kind = .ack .pubcomp packetId ∧ stop = .complete
  | _ => False

/-- What an event is to the receiver; PUBRECs count when `acks` is set. -/
def deliveryLabel (acks : Bool) : Event → Option (Label UInt16)
  | .callback _ ⟨id, some info, _⟩ => if info.qos = .qos2 then some (.deliver id) else none
  | .sent (.ack .pubrec id) _ _ _ => if acks then some (.acknowledge id) else none
  | .sent (.ack .pubcomp id) _ _ .complete => some (.complete id)
  | _ => none

theorem delivers_eq (acks : Bool) (packetId : UInt16) :
    Delivers (deliveryLabel acks) packetId = Event.Delivers packetId := by
  funext e
  unfold Delivers deliveryLabel Event.Delivers
  grind

theorem completes_eq (acks : Bool) (packetId : UInt16) :
    Completes (deliveryLabel acks) packetId = Event.CompletesPubcomp packetId := by
  funext e
  unfold Completes deliveryLabel Event.CompletesPubcomp
  grind

theorem acknowledges_eq (packetId : UInt16) :
    Acknowledges (deliveryLabel true) packetId = Event.SendsPubrec packetId := by
  funext e
  unfold Acknowledges deliveryLabel Event.SendsPubrec
  grind

/-- An event that is nothing to the receiver. -/
def Event.Foreign (e : Event) : Prop := deliveryLabel true e = none

theorem Event.Foreign.label_eq {e : Event} (h : e.Foreign) (acks : Bool) :
    deliveryLabel acks e = none := by
  unfold Event.Foreign deliveryLabel at *
  grind

/-! ## The receiver -/

/-- The packet ids of the live incoming QoS 2 records. -/
def held (records : List PubAckInfo) : Set UInt16 :=
  {packetId | ∃ r, liveRecord records packetId = some r ∧ r.qos = .qos2}

/-- From `s` to `s'` the client is a receiver. -/
structure Receives (acks : Bool) (s s' : Sys) : Prop where
  run : ∃ events, s'.log = s.log ++ events ∧
    Run (deliveryLabel acks) (held s.incomingPublishRecords) events
      (held s'.incomingPublishRecords)
  table : Table .incoming s'.incomingPublishRecords

theorem Receives.trans {acks : Bool} {s s' s'' : Sys} (h : Receives acks s s')
    (h' : Receives acks s' s'') : Receives acks s s'' := by
  obtain ⟨events, hlog, hrun⟩ := h.run
  obtain ⟨events', hlog', hrun'⟩ := h'.run
  exact ⟨⟨events ++ events', by rw [hlog', hlog, List.append_assoc], hrun.trans hrun'⟩, h'.table⟩

/-- The incoming records are left alone, and no event is one of the receiver's. -/
structure Elsewhere (s s' : Sys) : Prop where
  incoming : s'.incomingPublishRecords = s.incomingPublishRecords
  log : ∃ events, s'.log = s.log ++ events ∧ ∀ e ∈ events, e.Foreign

theorem Elsewhere.refl (s : Sys) : Elsewhere s s := ⟨rfl, [], by simp, by simp⟩

theorem Elsewhere.trans {s s' s'' : Sys} (h : Elsewhere s s') (h' : Elsewhere s' s'') :
    Elsewhere s s'' := by
  obtain ⟨events, hlog, hforeign⟩ := h.log
  obtain ⟨events', hlog', hforeign'⟩ := h'.log
  refine ⟨h'.incoming.trans h.incoming, events ++ events', ?_, fun e he => ?_⟩
  · rw [hlog', hlog, List.append_assoc]
  · exact (List.mem_append.1 he).elim (hforeign e) (hforeign' e)

theorem Elsewhere.receives {s s' : Sys} (h : Elsewhere s s')
    (ht : Table .incoming s.incomingPublishRecords) (acks : Bool) : Receives acks s s' := by
  obtain ⟨events, hlog, hforeign⟩ := h.log
  refine ⟨⟨events, hlog, ?_⟩, h.incoming ▸ ht⟩
  rw [h.incoming]
  exact .silent _ fun e he => (hforeign e he).label_eq acks

theorem Elsewhere.of_eq {s s' : Sys} (hincoming : s'.incomingPublishRecords = s.incomingPublishRecords)
    (hlog : s'.log = s.log) : Elsewhere s s' :=
  ⟨hincoming, [], by simp [hlog], by simp⟩

/-- A packet that is neither PUBREC nor a complete PUBCOMP. -/
theorem Sent.elsewhere {s s' : Sys} {kind : PacketKind} {packet : List UInt8} {n : Nat}
    {stop : Stop} (h : Sent s s' kind packet n stop)
    (hforeign : Event.Foreign (.sent kind packet n stop)) : Elsewhere s s' := by
  obtain ⟨-, -, ticks, sends, lastTx, rfl⟩ := h
  exact ⟨rfl, [_], rfl, by simpa using hforeign⟩

theorem Requests.elsewhere {s s' : Sys} (h : Requests s s') : Elsewhere s s' := by
  induction h with
  | refl => exact .refl s
  | tail _ hstep ih =>
    refine ih.trans ?_
    cases hstep with
    | quiet h => exact .of_eq h.incoming h.log
    | send kind packet n stop hkind hconn hsent =>
      refine hsent.elsewhere ?_
      cases kind with
      | ack => exact absurd hkind id
      | _ => rfl
    | disconnect n stop hconn hsent =>
      obtain ⟨hincoming, events, hlog, hforeign⟩ := hsent.elsewhere rfl
      exact ⟨hincoming, events, hlog, hforeign⟩

/-! ## Acknowledgements -/

/-- What an update of one incoming record makes of the held packet ids. -/
theorem mem_held_update {records records' : List PubAckInfo} {packetId : UInt16}
    {o : Option PubAckInfo}
    (h : ∀ id, liveRecord records' id = if id = packetId then o else liveRecord records id)
    (id : UInt16) : id ∈ held records' ↔
      if id = packetId then ∃ r, o = some r ∧ r.qos = .qos2 else id ∈ held records := by
  unfold held
  rw [Set.mem_ofPred_eq, Set.mem_ofPred_eq, h]
  split
  · rfl
  · rfl

/-- A record that only changes its state is held as before. -/
theorem held_eq_of_qos {records records' : List PubAckInfo} {packetId : UInt16}
    {o : Option PubAckInfo}
    (h : ∀ id, liveRecord records' id = if id = packetId then o else liveRecord records id)
    (hqos : (∃ r, o = some r ∧ r.qos = .qos2) ↔ packetId ∈ held records) :
    held records' = held records := by
  ext id
  rw [mem_held_update h]
  split
  · rename_i hid
    rw [hqos, hid]
  · rfl

theorem qos_of_apply {r r' : PubAckInfo} {reaction : Reaction} (h : reaction.apply r = some r') :
    r'.qos = r.qos := by
  cases reaction with
  | illegal => rw [← Option.some.inj h]
  | keep => rw [← Option.some.inj h]
  | advance state => rw [← Option.some.inj h]
  | complete => exact absurd h (by simp [Reaction.apply])

/-- The exchange of a QoS 2 record is completed by PUBCOMP only. -/
theorem react_incoming_ne_complete {r : PubAckInfo} (h : ValidRecord .incoming r)
    (hqos : r.qos = .qos2) {packetType : PubAckType} (hne : packetType ≠ .pubcomp) :
    react .incoming r (.ack packetType) ≠ .complete := by
  obtain ⟨packetId, qos, state⟩ := r
  dsimp only at hqos
  subst hqos
  change state ∈ phases .incoming .qos2 at h
  change react .incoming ⟨0, .qos2, state⟩ (.ack packetType) ≠ .complete
  revert h hne
  cases packetType <;> cases state <;> decide

/-- An acknowledgement other than PUBCOMP leaves a packet id held or not. -/
theorem ackRecord_qos2_iff {records : List PubAckInfo} (h : Table .incoming records)
    (packetId : UInt16) {packetType : PubAckType} (hne : packetType ≠ .pubcomp) :
    (∃ r, ackRecord .incoming packetType (liveRecord records packetId) = some r ∧ r.qos = .qos2) ↔
      packetId ∈ held records := by
  unfold ackRecord held
  rw [Set.mem_ofPred_eq]
  cases hr : liveRecord records packetId with
  | none => simp
  | some r =>
    have hvalid := h.valid r (lookup_mem hr)
    simp only [Option.bind_some, Option.some.injEq, exists_eq_left']
    constructor
    · rintro ⟨r', happly, hqos⟩
      rw [← qos_of_apply happly, hqos]
    · intro hqos
      have hreact := react_incoming_ne_complete hvalid hqos hne
      cases hreaction : react .incoming r (.ack packetType) with
      | illegal => exact ⟨r, rfl, hqos⟩
      | keep => exact ⟨r, rfl, hqos⟩
      | advance state => exact ⟨_, rfl, hqos⟩
      | complete => exact absurd hreaction hreact

/-- PUBCOMP drops the packet id of a record that waits for it. -/
theorem ackRecord_pubcomp {records : List PubAckInfo} {packetId : UInt16}
    (h : ∀ r, liveRecord records packetId = some r → r.qos = .qos2 →
      r.publishState = .pubCompSend) :
    ¬ ∃ r, ackRecord .incoming .pubcomp (liveRecord records packetId) = some r ∧ r.qos = .qos2 := by
  rintro ⟨r', hack, hqos⟩
  cases hr : liveRecord records packetId with
  | none => simp [hr, ackRecord] at hack
  | some r =>
    rw [hr] at hack
    have hqos' : r.qos = .qos2 := (qos_of_apply hack).symm.trans hqos
    have hreact : react .incoming r (.ack .pubcomp) = .complete := by
      unfold react
      rw [h r hr hqos', hqos']
      rfl
    rw [ackRecord, Option.bind_some, hreact] at hack
    exact absurd hack (by simp [Reaction.apply])

theorem mqttUpdateStateAck_incoming (t : PublishRecords) (packetId : UInt16)
    {packetType : PubAckType} {opType : StateOperation}
    (h : isPublishOutgoing packetType opType = true) :
    (mqttUpdateStateAck t packetId packetType opType).2.2.incomingPublishRecords =
      t.incomingPublishRecords := by
  unfold mqttUpdateStateAck
  split
  · rfl
  · dsimp only
    split
    · rfl
    · rw [PublishRecords.setSide, if_pos h]

theorem Receives.of_event {acks : Bool} {s s' : Sys} {e : Event} (hlog : s'.log = s.log ++ [e])
    (hstep : Delivery.Step (deliveryLabel acks) (held s.incomingPublishRecords) e
      (held s'.incomingPublishRecords))
    (ht : Table .incoming s'.incomingPublishRecords) : Receives acks s s' :=
  ⟨⟨[e], hlog, .single hstep⟩, ht⟩

/-- What the event of an acknowledgement is to the receiver, with the packet ids held after
it. -/
theorem step_ack {acks : Bool} {packetType : PubAckType} {packetId : UInt16} {bytes : List UInt8}
    {n : Nat} {stop : Stop} {set set' : Set UInt16}
    (hpubrec : acks = true → packetType = .pubrec → packetId ∈ set)
    (hset : set' = if packetType = .pubcomp ∧ stop = .complete then set \ {packetId} else set) :
    Delivery.Step (deliveryLabel acks) set (.sent (.ack packetType packetId) bytes n stop) set' := by
  subst hset
  cases packetType with
  | puback => exact .silent rfl
  | pubrel => exact .silent rfl
  | pubrec =>
    rw [if_neg (by simp)]
    cases acks with
    | false => exact .silent rfl
    | true => exact .acknowledge rfl (hpubrec rfl rfl)
  | pubcomp =>
    by_cases hstop : stop = .complete
    · rw [if_pos ⟨rfl, hstop⟩]
      subst hstop
      exact .complete rfl
    · rw [if_neg (by simp [hstop])]
      exact .silent (by cases stop <;> first | rfl | exact absurd rfl hstop)

/-- `sendPublishAcks` sends PUBREC for a held packet id and drops a packet id with its
PUBCOMP. -/
theorem sendPublishAcks_receives (c : Config) {s : Sys} (packetId : UInt16) (state : PublishState)
    {acks : Bool} (ht : Table .incoming s.incomingPublishRecords)
    (hpubrec : acks = true → state = .pubRecSend → packetId ∈ held s.incomingPublishRecords)
    (hpubcomp : state = .pubCompSend → ∀ r, liveRecord s.incomingPublishRecords packetId = some r →
      r.qos = .qos2 → r.publishState = .pubCompSend) :
    Receives acks s (sendPublishAcks c s packetId state).2 := by
  by_cases hsend : packetId = 0 ∨ s.connectStatus ≠ .connected
  · rw [sendPublishAcks_unsent c state hsend]
    exact (Elsewhere.refl s).receives ht acks
  obtain ⟨hid, hconn⟩ := not_or.1 hsend
  rw [not_not] at hconn
  cases hack : ackToSend state with
  | none =>
    rw [sendPublishAcks_none c s packetId hack]
    exact (Elsewhere.refl s).receives ht acks
  | some packetType =>
    obtain ⟨s₁, n, stop, hsent, heq⟩ := sendPublishAcks_connected c hack hid hconn
    have hrec : acks = true → packetType = .pubrec → packetId ∈ held s.incomingPublishRecords := by
      rintro hacks rfl
      refine hpubrec hacks ?_
      revert hack
      cases state <;> decide
    rw [heq]
    by_cases hstop : stop = .complete
    · rw [if_pos hstop]
      obtain ⟨-, -, ticks, sends, lastTx, rfl⟩ := hsent
      by_cases hrel : packetType = .pubrel
      · subst hrel
        have hincoming := mqttUpdateStateAck_incoming s.toPublishRecords packetId
          (show isPublishOutgoing .pubrel .send = true from rfl)
        refine .of_event rfl (step_ack hrec ?_) ?_
        · rw [if_neg (by simp)]
          exact congrArg held hincoming
        · change Table .incoming (mqttUpdateStateAck _ _ _ _).2.2.incomingPublishRecords
          rwa [hincoming]
      · have hd : ackDirection packetType .send = .incoming := by
          revert hrel
          cases packetType <;> decide
        obtain ⟨records', hupd, htab, -, hrecords⟩ := mqttUpdateStateAck_record
          (t := s.toPublishRecords) hid hd ht (.inl rfl)
        rw [hupd]
        refine .of_event rfl (step_ack hrec ?_) htab
        change held records' = _
        by_cases hcomp : packetType = .pubcomp
        · subst hcomp
          have hnone := ackRecord_pubcomp (hpubcomp (by revert hack; cases state <;> decide))
          rw [if_pos ⟨rfl, hstop⟩]
          ext id
          rw [mem_held_update hrecords, Set.mem_sdiff, Set.mem_singleton_iff]
          split
          · rename_i hid'
            exact ⟨fun h => absurd h hnone, fun h => absurd hid' h.2⟩
          · rename_i hid'
            exact ⟨fun h => ⟨h, hid'⟩, And.left⟩
        · rw [if_neg fun h => hcomp h.1]
          exact held_eq_of_qos hrecords (ackRecord_qos2_iff ht packetId hcomp)
    · rw [if_neg hstop]
      obtain ⟨-, -, ticks, sends, lastTx, rfl⟩ := hsent
      exact .of_event rfl (step_ack hrec (by simp [hstop])) ht

/-! ## Received publishes -/

/-- The PUBLISH has the QoS of the live incoming record with its packet id, if there is one. -/
def NoReuse (s : Sys) (pIncomingPacket : PacketInfo) : Prop :=
  ∀ r, liveRecord s.incomingPublishRecords
      ((mqttDeserializePublish pIncomingPacket).2.1.getD 0) = some r →
    r.qos = (mqttDeserializePublish pIncomingPacket).2.2.qos

/-- A new record, and its publish given to the application. -/
theorem receives_delivered {acks : Bool} {s : Sys} {records' : List PubAckInfo} {packetId : UInt16}
    {info : PublishInfo}
    (ho : AddOutcome s.incomingPublishRecords (firstRecord .incoming packetId info.qos) records'
      .success) (ht : Table .incoming records') (packet : PacketInfo) :
    Receives acks s ((s.setRecords (s.toPublishRecords.setTable .incoming records')).record
      (.callback packet ⟨packetId, some info, .success⟩)) := by
  have hrecords : ∀ id, liveRecord records' id = if id = packetId then
      some (firstRecord .incoming packetId info.qos)
      else liveRecord s.incomingPublishRecords id := by
    intro id
    rw [ho.liveRecord_eq id]
    exact if_congr ⟨And.right, fun h => ⟨rfl, h⟩⟩ rfl rfl
  have hnone : packetId ∉ held s.incomingPublishRecords := by
    rintro ⟨r, hr, -⟩
    exact absurd (hr.symm.trans ho.liveRecord_eq_none) (by simp)
  refine .of_event rfl ?_ ht
  change Delivery.Step _ _ _ (held records')
  by_cases hqos : info.qos = .qos2
  · have hheld : held records' = insert packetId (held s.incomingPublishRecords) := by
      ext id
      rw [mem_held_update hrecords, Set.mem_insert_iff]
      split
      · rename_i hid
        exact ⟨fun _ => .inl hid, fun _ => ⟨_, rfl, hqos⟩⟩
      · rename_i hid
        exact ⟨.inr, fun h => h.resolve_left hid⟩
    rw [hheld]
    exact .deliver (by simp [deliveryLabel, hqos]) hnone
  · rw [held_eq_of_qos hrecords]
    · exact .silent (by simp [deliveryLabel, hqos])
    · constructor
      · rintro ⟨r, hr, hqos'⟩
        rw [← Option.some.inj hr] at hqos'
        exact absurd hqos' hqos
      · exact fun h => absurd h hnone

/-- The callback for an event that is nothing to the receiver. -/
theorem elsewhere_appCallback (c : Config) (s : Sys) (packet : PacketInfo)
    (info : DeserializedInfo) (h : Event.Foreign (.callback packet info)) :
    Elsewhere s (appCallback c s packet info) := by
  refine Elsewhere.trans ?_ (appCallback_requests c s packet info).elsewhere
  exact ⟨rfl, [_], rfl, by simpa using h⟩

/-- The state in which a received publish starts. -/
theorem receiveState_eq {qos : QoS} (hq : qos ≠ .qos0) :
    (firstRecord .incoming 0 qos).publishState = mqttCalculateStatePublish .receive qos ∧
      mqttCalculateStatePublish .receive qos ≠ .pubCompSend ∧
      (mqttCalculateStatePublish .receive qos = .pubRecSend → qos = .qos2) := by
  revert hq
  cases qos <;> decide

/-- `handleIncomingPublish` delivers a packet id only when it is not held, and acknowledges it
only when it is held, unless a PUBLISH reuses the packet id of another QoS. -/
theorem handleIncomingPublish_receives (c : Config) {s : Sys} {pIncomingPacket : PacketInfo}
    {acks : Bool} (ht : Table .incoming s.incomingPublishRecords)
    (hreuse : acks = true → NoReuse s pIncomingPacket) :
    Receives acks s (handleIncomingPublish c s pIncomingPacket).2 := by
  have hrefl : Receives acks s s := (Elsewhere.refl s).receives ht acks
  unfold NoReuse at hreuse
  unfold handleIncomingPublish
  dsimp only
  generalize (mqttDeserializePublish pIncomingPacket).2.1.getD 0 = packetId at hreuse
  generalize (mqttDeserializePublish pIncomingPacket).2.2 = info at hreuse
  split
  · exact hrefl
  split
  · exact hrefl
  by_cases hq : info.qos = .qos0
  · have hupd : mqttUpdateStatePublish s.toPublishRecords packetId .receive info.qos =
        (.success, some .publishDone, s.toPublishRecords) := by
      rw [mqttUpdateStatePublish, if_pos hq]
    rw [hupd]
    dsimp only
    rw [if_pos rfl, Option.getD_some, sendPublishAcks_none c _ _ rfl]
    exact (elsewhere_appCallback c _ _ _ (by simp [Event.Foreign, deliveryLabel, hq])).receives ht acks
  by_cases hid : packetId = packetIdInvalid
  · have hupd : mqttUpdateStatePublish s.toPublishRecords packetId .receive info.qos =
        (.badParameter, none, s.toPublishRecords) := by
      rw [mqttUpdateStatePublish, if_neg hq, if_pos hid]
    rw [hupd]
    exact hrefl
  obtain ⟨status, records', heq, htab, -, ho⟩ :=
    mqttUpdateStatePublish_receive_spec (t := s.toPublishRecords) hid ht hq
  obtain ⟨hstate, hcomp, hrec⟩ := receiveState_eq hq
  rw [heq]
  dsimp only
  have hrecords := ho.liveRecord_eq
  by_cases hok : status = .success
  · subst hok
    rw [if_pos rfl, if_pos rfl, Option.getD_some]
    have hdelivered : Receives acks s _ := receives_delivered ho htab pIncomingPacket
    have hcalls := (appCallback_requests c
      (s.setRecords (s.toPublishRecords.setTable .incoming records')) pIncomingPacket
      ⟨packetId, some info, .success⟩).elsewhere
    have hcalled := hdelivered.trans (hcalls.receives htab acks)
    have hincoming : (appCallback c (s.setRecords (s.toPublishRecords.setTable .incoming records'))
        pIncomingPacket ⟨packetId, some info, .success⟩).incomingPublishRecords = records' :=
      hcalls.incoming
    refine hcalled.trans (sendPublishAcks_receives c packetId _ hcalled.table ?_ ?_)
    · intro _ hsend
      rw [hincoming]
      exact ⟨_, (hrecords packetId).trans (if_pos ⟨rfl, rfl⟩), hrec (hstate.symm.trans hsend)⟩
    · exact fun hsend => absurd (hstate.symm.trans hsend) hcomp
  rw [if_neg hok]
  have hsame : held records' = held s.incomingPublishRecords := by
    ext id
    unfold held
    rw [Set.mem_ofPred_eq, Set.mem_ofPred_eq, hrecords id, if_neg fun h => hok h.1]
    rfl
  have hset : Receives acks s (s.setRecords (s.toPublishRecords.setTable .incoming records')) := by
    refine ⟨⟨[], by simp [Sys.setRecords], ?_⟩, htab⟩
    change Run _ _ _ (held records')
    rw [hsame]
    exact .nil
  by_cases hcollision : status = .stateCollision
  · subst hcollision
    rw [if_pos rfl]
    refine hset.trans (sendPublishAcks_receives c packetId _ htab ?_ ?_)
    · intro hacks hsend
      obtain ⟨r, hr⟩ := ho.liveRecord_of_collision
      change packetId ∈ held records'
      rw [hsame]
      exact ⟨r, hr, (hreuse hacks r hr).trans (hrec hsend)⟩
    · exact fun hsend => absurd hsend hcomp
  · rw [if_neg hcollision]
    exact hset

/-! ## Received acknowledgements -/

theorem mqttUpdateStateAck_newState (t : PublishRecords) (packetId : UInt16)
    (packetType : PubAckType) (opType : StateOperation) :
    (mqttUpdateStateAck t packetId packetType opType).2.1 = none ∨ ∃ qos,
      (mqttUpdateStateAck t packetId packetType opType).2.1 =
        some (mqttCalculateStateAck packetType opType qos) := by
  unfold mqttUpdateStateAck
  split
  · exact .inl rfl
  · dsimp only
    split
    · exact .inl rfl
    · dsimp only
      split
      · exact .inr ⟨_, rfl⟩
      · exact .inl rfl

/-- No acknowledgement is answered by PUBREC, and only PUBREL by PUBCOMP. -/
theorem newState_ne (t : PublishRecords) (packetId : UInt16) (packetType : PubAckType) :
    let newState := (mqttUpdateStateAck t packetId packetType .receive).2.1.getD .null
    newState ≠ .pubRecSend ∧ (newState = .pubCompSend → packetType = .pubrel) := by
  rcases mqttUpdateStateAck_newState t packetId packetType .receive with h | ⟨qos, h⟩
  · rw [h]
    exact ⟨by simp, by simp⟩
  · rw [h, Option.getD_some]
    revert qos
    cases packetType <;> intro qos _ <;> cases qos <;> decide

/-- A record that takes a PUBREL waits for its PUBCOMP. -/
theorem publishState_of_pubrel {r r' : PubAckInfo} (h : ValidRecord .incoming r)
    (hlegal : react .incoming r (.ack .pubrel) ≠ .illegal)
    (happly : (react .incoming r (.ack .pubrel)).apply r = some r') :
    r'.publishState = .pubCompSend := by
  obtain ⟨packetId, qos, state⟩ := r
  change state ∈ phases .incoming qos at h
  cases qos <;> cases state <;>
    first
      | exact absurd h (by decide)
      | exact absurd rfl hlegal
      | exact congrArg PubAckInfo.publishState (Option.some.inj happly).symm

/-- A received PUBREL leaves the held packet ids alone, and when it is to be answered by
PUBCOMP, the record waits for that. -/
theorem pubrel_record {t : PublishRecords} {packetId : UInt16} (hid : packetId ≠ packetIdInvalid)
    (h : Table .incoming t.incomingPublishRecords) :
    ∃ status newState records', mqttUpdateStateAck t packetId .pubrel .receive =
        (status, newState, t.setTable .incoming records') ∧ Table .incoming records' ∧
      held records' = held t.incomingPublishRecords ∧
      (newState = some .pubCompSend → ∀ r, liveRecord records' packetId = some r →
        r.publishState = .pubCompSend) := by
  have hd : ackDirection .pubrel .receive = .incoming := rfl
  obtain ⟨records', heq, htab, -, hrecords⟩ :=
    mqttUpdateStateAck_record (t := t) hid hd h (.inl rfl)
  refine ⟨_, _, records', heq, htab,
    held_eq_of_qos hrecords (ackRecord_qos2_iff h packetId (by simp)), fun hnew r hr => ?_⟩
  rw [hrecords, if_pos rfl] at hr
  cases hlive : liveRecord (t.table .incoming) packetId with
  | none => simp [hlive] at hnew
  | some r₀ =>
    rw [hlive] at hr hnew
    refine publishState_of_pubrel (h.valid r₀ (lookup_mem hlive)) (fun hill => ?_) hr
    rw [Option.bind_some, if_pos hill] at hnew
    exact absurd hnew (by simp)

/-- `handlePublishAcks` drops a packet id only with its PUBCOMP. -/
theorem handlePublishAcks_receives (c : Config) {s : Sys} (pIncomingPacket : PacketInfo)
    (acks : Bool) (ht : Table .incoming s.incomingPublishRecords) :
    Receives acks s (handlePublishAcks c s pIncomingPacket).2 := by
  have hrefl : Receives acks s s := (Elsewhere.refl s).receives ht acks
  unfold handlePublishAcks
  dsimp only
  generalize (mqttDeserializeAck pIncomingPacket true false).2.1.getD 0 = packetId
  generalize getAckFromPacketType pIncomingPacket.type = ackType
  split
  · exact hrefl
  have hnew := newState_ne s.toPublishRecords packetId ackType
  have hupdated : Receives acks s
        (s.setRecords (mqttUpdateStateAck s.toPublishRecords packetId ackType .receive).2.2) ∧
      ((mqttUpdateStateAck s.toPublishRecords packetId ackType .receive).2.1.getD .null =
        .pubCompSend → ∀ r, liveRecord (mqttUpdateStateAck s.toPublishRecords packetId ackType
          .receive).2.2.incomingPublishRecords packetId = some r →
        r.publishState = .pubCompSend) := by
    by_cases hid : packetId = packetIdInvalid
    · have hupd : mqttUpdateStateAck s.toPublishRecords packetId ackType .receive =
          (.badParameter, none, s.toPublishRecords) := if_pos hid
      rw [hupd]
      exact ⟨hrefl, fun h => absurd h (by simp)⟩
    by_cases hrel : ackType = .pubrel
    · subst hrel
      obtain ⟨status, newState, records', heq, htab, hheld, hstate⟩ :=
        pubrel_record (t := s.toPublishRecords) hid ht
      rw [heq]
      refine ⟨⟨⟨[], by simp [Sys.setRecords], ?_⟩, htab⟩, fun h => hstate ?_⟩
      · change Run _ _ _ (held records')
        rw [hheld]
        exact .nil
      · cases newState with
        | none => exact absurd h (by simp)
        | some state => exact congrArg some h
    · have hincoming := mqttUpdateStateAck_incoming s.toPublishRecords packetId
        (show isPublishOutgoing ackType .receive = true by revert hrel; cases ackType <;> decide)
      refine ⟨Elsewhere.receives ?_ ht acks, fun h => absurd (hnew.2 h) hrel⟩
      exact .of_eq hincoming rfl
  generalize mqttUpdateStateAck s.toPublishRecords packetId ackType .receive = updated at hnew hupdated
  obtain ⟨hset, hwaits⟩ := hupdated
  split
  · exact hset
  have hcleared : Elsewhere (s.setRecords updated.2.2)
      (if (ackType = .puback ∨ ackType = .pubrec) ∧ (s.setRecords updated.2.2).clearFunction = true then
        callClear (s.setRecords updated.2.2) packetId
      else s.setRecords updated.2.2) := by
    split
    · exact .of_eq rfl rfl
    · exact .refl _
  generalize (if (ackType = .puback ∨ ackType = .pubrec) ∧
      (s.setRecords updated.2.2).clearFunction = true then
    callClear (s.setRecords updated.2.2) packetId else s.setRecords updated.2.2) = s₁ at hcleared
  have hcalled := hcleared.trans
    (elsewhere_appCallback c s₁ pIncomingPacket ⟨packetId, none, .success⟩ rfl)
  refine (hset.trans (hcalled.receives hset.table acks)).trans
    (sendPublishAcks_receives c packetId _ (hcalled.incoming ▸ hset.table) ?_ ?_)
  · exact fun _ h => absurd h hnew.1
  · intro h r hr _
    rw [hcalled.incoming] at hr
    exact hwaits h r hr

end FreeMqtt

import FreeMqtt.State.Engine

/-!
# The handshakes

What the publish state engine is for: a record of an outgoing or incoming publish runs
through the phases of its handshake, one packet after the other. `phases` lists them,
`trigger` is the packet that ends a phase and `repeated` the one that may come again in
it. `react` is the reaction of a record to a packet that follows from these tables.

`validateTransitionAck_eq` and `validateTransitionPublish_eq` say that on valid records
the checks of the source, which know neither the direction nor (for the most part) the
QoS, are exactly this reaction.
-/

namespace FreeMqtt

/-- The two record arrays by the direction of their publishes. -/
inductive Direction
  | outgoing
  | incoming
  deriving DecidableEq, Repr

/-- A packet of a publish handshake. -/
inductive Packet
  | publish
  | ack (packetType : PubAckType)
  deriving DecidableEq, Repr

/-! ## The protocol -/

/-- The states of a record in the order of the handshake; after the last one the record
is gone. -/
def phases : Direction → QoS → List PublishState
  | .outgoing, .qos1 => [.publishSend, .pubAckPending]
  | .outgoing, .qos2 => [.publishSend, .pubRecPending, .pubRelSend, .pubCompPending]
  | .incoming, .qos1 => [.pubAckSend]
  | .incoming, .qos2 => [.pubRecSend, .pubRelPending, .pubCompSend]
  | _, .qos0 => []

/-- The element after the first occurrence of `x`, if any. -/
def successor (x : PublishState) : List PublishState → Option PublishState
  | s :: t :: rest => if s = x then some t else successor x (t :: rest)
  | _ => none

/-- The phase after `state`, `none` when the handshake is complete. -/
def next (d : Direction) (qos : QoS) (state : PublishState) : Option PublishState :=
  successor state (phases d qos)

/-- The packet that ends a phase. -/
def trigger : PublishState → Option Packet
  | .publishSend => some .publish
  | .pubAckSend | .pubAckPending => some (.ack .puback)
  | .pubRecSend | .pubRecPending => some (.ack .pubrec)
  | .pubRelSend | .pubRelPending => some (.ack .pubrel)
  | .pubCompSend | .pubCompPending => some (.ack .pubcomp)
  | .null | .publishDone => none

/-- The packet of the phase before that is accepted once more and changes nothing. -/
def repeated : PublishState → Option Packet
  | .pubAckPending | .pubRecPending => some .publish
  | .pubRelPending => some (.ack .pubrec)
  | .pubCompSend | .pubCompPending => some (.ack .pubrel)
  | _ => none

/-- The direction of the publish that an acknowledgement belongs to: the sender of the publish sends
the PUBREL and receives the others. -/
def ackDirection : PubAckType → StateOperation → Direction
  | .puback, .receive | .pubrec, .receive | .pubrel, .send | .pubcomp, .receive => .outgoing
  | .puback, .send | .pubrec, .send | .pubrel, .receive | .pubcomp, .send => .incoming

/-- The state of a record is a phase of its handshake. -/
def ValidRecord (d : Direction) (r : PubAckInfo) : Prop := r.publishState ∈ phases d r.qos

instance (d : Direction) (r : PubAckInfo) : Decidable (ValidRecord d r) :=
  inferInstanceAs (Decidable (_ ∈ _))

/-- What a packet does to a record. -/
inductive Reaction
  | illegal
  | keep
  | advance (state : PublishState)
  | complete
  deriving DecidableEq, Repr

/-- The reaction of a record of direction `d` to a packet of its handshake. -/
def react (d : Direction) (r : PubAckInfo) (packet : Packet) : Reaction :=
  if trigger r.publishState = some packet then
    match next d r.qos r.publishState with
    | some state => .advance state
    | none => .complete
  else if repeated r.publishState = some packet then .keep
  else .illegal

/-- The record that a reserved or received publish starts with. -/
def firstRecord (d : Direction) (packetId : UInt16) (qos : QoS) : PubAckInfo :=
  ⟨packetId, qos, (phases d qos).headD .null⟩

/-- An outgoing publish starts before it is sent. -/
theorem firstRecord_outgoing (packetId : UInt16) {qos : QoS} (h : qos ≠ .qos0) :
    firstRecord .outgoing packetId qos = ⟨packetId, qos, .publishSend⟩ := by
  cases qos with
  | qos0 => exact absurd rfl h
  | _ => rfl

theorem validRecord_firstRecord (d : Direction) (packetId : UInt16) {qos : QoS}
    (h : qos ≠ .qos0) : ValidRecord d (firstRecord d packetId qos) := by
  cases d <;> cases qos <;> simp_all [ValidRecord, firstRecord, phases]

theorem ValidRecord.qos_ne {d : Direction} {r : PubAckInfo} (h : ValidRecord d r) :
    r.qos ≠ .qos0 := by
  intro hq
  cases d <;> simp [ValidRecord, hq, phases] at h

theorem ValidRecord.publishState_ne {d : Direction} {r : PubAckInfo} (h : ValidRecord d r) :
    r.publishState ≠ .null ∧ r.publishState ≠ .publishDone := by
  cases d <;> cases hq : r.qos <;> simp only [ValidRecord, hq, phases] at h <;>
    constructor <;> intro hs <;> simp [hs] at h

/-- The next phase is a phase. -/
theorem mem_phases_of_next {d : Direction} {qos : QoS} {state state' : PublishState}
    (h : next d qos state = some state') : state' ∈ phases d qos := by
  cases d <;> cases qos <;> simp only [next, phases, successor] at h ⊢ <;> grind

theorem validRecord_of_next {d : Direction} {r : PubAckInfo} {state : PublishState}
    (h : next d r.qos r.publishState = some state) :
    ValidRecord d { r with publishState := state } :=
  mem_phases_of_next h

theorem react_eq_advance {d : Direction} {r : PubAckInfo} {packet : Packet}
    {state : PublishState} (h : react d r packet = .advance state) :
    next d r.qos r.publishState = some state := by
  unfold react at h
  split at h
  · split at h
    · rename_i hn
      rw [hn, Reaction.advance.inj h]
    · exact absurd h (by simp)
  · split at h <;> exact absurd h (by simp)

theorem react_eq_complete {d : Direction} {r : PubAckInfo} {packet : Packet}
    (h : react d r packet = .complete) : next d r.qos r.publishState = none := by
  unfold react at h
  split at h
  · split at h
    · exact absurd h (by simp)
    · rename_i hn
      exact hn
  · split at h <;> exact absurd h (by simp)

/-! ## The checks of the source -/

/-- `isPublishOutgoing` tells the publishes of the protocol apart. -/
theorem ackDirection_eq (packetType : PubAckType) (opType : StateOperation) :
    ackDirection packetType opType =
      if isPublishOutgoing packetType opType then .outgoing else .incoming := by
  cases packetType <;> cases opType <;> rfl

/-- The new state that the engine computes for an acknowledgement, as a reaction. -/
def ackReaction (packetType : PubAckType) (opType : StateOperation) (r : PubAckInfo) :
    Reaction :=
  let newState := mqttCalculateStateAck packetType opType r.qos
  if validateTransitionAck r.publishState newState then
    if newState = r.publishState then .keep
    else if newState = .publishDone then .complete
    else .advance newState
  else .illegal

/-- `validateTransitionAck` together with the table chosen by `isPublishOutgoing` and the
QoS check of `MQTT_CalculateStateAck` is the reaction of the protocol. -/
theorem validateTransitionAck_eq (packetType : PubAckType) (opType : StateOperation)
    {r : PubAckInfo} (h : ValidRecord (ackDirection packetType opType) r) :
    ackReaction packetType opType r =
      react (ackDirection packetType opType) r (.ack packetType) := by
  obtain ⟨packetId, qos, state⟩ := r
  change state ∈ phases _ qos at h
  revert h
  cases packetType <;> cases opType <;> cases qos <;> cases state <;>
    first | exact fun _ => rfl | exact fun h => absurd h (by decide)

/-- `MQTT_CalculateStatePublish` and `validateTransitionPublish` for a sent publish. -/
theorem validateTransitionPublish_eq {r : PubAckInfo} (h : ValidRecord .outgoing r) :
    (if validateTransitionPublish r.publishState (mqttCalculateStatePublish .send r.qos) .send
        r.qos then
      if r.publishState = mqttCalculateStatePublish .send r.qos then .keep
      else .advance (mqttCalculateStatePublish .send r.qos)
    else .illegal) = react .outgoing r .publish := by
  obtain ⟨packetId, qos, state⟩ := r
  change state ∈ phases _ qos at h
  revert h
  cases qos <;> cases state <;>
    first | exact fun _ => rfl | exact fun h => absurd h (by decide)

/-- A received publish starts a record in the first phase. -/
theorem validateTransitionPublish_receive {qos : QoS} (h : qos ≠ .qos0) :
    validateTransitionPublish .null (mqttCalculateStatePublish .receive qos) .receive qos ∧
      mqttCalculateStatePublish .receive qos = (phases .incoming qos).headD .null := by
  cases qos
  · exact absurd rfl h
  · decide
  · decide

end FreeMqtt

import FreeMqtt.State.Engine
import FreeMqtt.Serializer.Decode

/-!
# The context and its environment

`MQTTContext_t`, with what the library calls but does not contain: the clock, the
transport, the application callback and the application's store of publishes. Their
behaviour is data of the state: a schedule of results that each call takes the next one
of. Every function of the library is then a function of the state.

`log` and `wire` are ghost fields that no function reads. `wire` is what the transport
accepted, `log` the packets handed to it and the calls to the application, in order.
-/

namespace FreeMqtt

/-- The configuration macros, and the width of the target's `size_t`. -/
structure Config where
  /-- `MQTT_SEND_TIMEOUT_MS` -/
  sendTimeoutMs : Nat
  /-- `MQTT_RECV_POLLING_TIMEOUT_MS` -/
  recvPollingTimeoutMs : Nat
  /-- `MQTT_PINGRESP_TIMEOUT_MS` -/
  pingrespTimeoutMs : Nat
  /-- `PACKET_TX_TIMEOUT_MS` -/
  packetTxTimeoutMs : Nat
  /-- `PACKET_RX_TIMEOUT_MS` -/
  packetRxTimeoutMs : Nat
  /-- `MQTT_MAX_CONNACK_RECEIVE_RETRY_COUNT` -/
  maxConnackReceiveRetryCount : Nat
  /-- `MQTT_SUB_UNSUB_MAX_VECTORS` -/
  subUnsubMaxVectors : Nat
  /-- what the assertions of the SUBSCRIBE and UNSUBSCRIBE paths require -/
  three_le_subUnsubMaxVectors : 3 ≤ subUnsubMaxVectors
  /-- the vectors are an array on the stack -/
  subUnsubMaxVectors_lt : subUnsubMaxVectors < 2 ^ 15
  sizeBits : Nat
  sizeBits_eq : sizeBits = 32 ∨ sizeBits = 64

/-- The values of `core_mqtt_config.h` and `core_mqtt_config_defaults.h`, on a target with
a 32-bit `size_t`. -/
def Config.default : Config where
  sendTimeoutMs := 20000
  recvPollingTimeoutMs := 0
  pingrespTimeoutMs := 10000
  packetTxTimeoutMs := 30000
  packetRxTimeoutMs := 30000
  maxConnackReceiveRetryCount := 5
  subUnsubMaxVectors := 4
  three_le_subUnsubMaxVectors := by decide
  subUnsubMaxVectors_lt := by decide
  sizeBits := 32
  sizeBits_eq := .inl rfl

/-- A subtraction of `size_t` values. -/
def Config.sizeSub (c : Config) (a b : Nat) : Nat := (a + 2 ^ c.sizeBits - b) % 2 ^ c.sizeBits

theorem Config.sizeSub_eq (c : Config) {a b : Nat} (hle : b ≤ a) (ha : a < 2 ^ c.sizeBits) :
    c.sizeSub a b = a - b := by
  unfold Config.sizeSub
  rw [Nat.sub_add_comm hle, Nat.add_mod_right]
  exact Nat.mod_eq_of_lt (by omega)

/-- `MQTTContext_t`. A function pointer that may be `NULL` is the flag that it is set. -/
structure Context extends PublishRecords where
  networkBuffer : List UInt8
  index : Nat
  nextPacketId : UInt16
  connectStatus : ConnectionStatus
  lastPacketTxTime : UInt32
  lastPacketRxTime : UInt32
  controlPacketSent : Bool
  keepAliveIntervalSec : UInt16
  pingReqSendTimeMs : UInt32
  waitingForPingResp : Bool
  /-- `transportInterface.writev` is set -/
  writev : Bool
  storeFunction : Bool
  retrieveFunction : Bool
  clearFunction : Bool

/-! ## Ghost log -/

/-- What a packet handed to the transport is. -/
inductive PacketKind
  | connect
  | publish (packetId : UInt16) (qos : QoS)
  | resend (packetId : UInt16)
  | ack (packetType : PubAckType) (packetId : UInt16)
  | subscribe
  | unsubscribe
  | pingreq
  | disconnect
  deriving DecidableEq, Repr

/-- How the sending of a packet ended: with its last byte, with a negative result of the
transport, or by giving up on the rest (`MQTT_SEND_TIMEOUT_MS`). -/
inductive Stop
  | complete
  | networkError
  | abandoned
  deriving DecidableEq, Repr

inductive Event
  /-- a packet was handed to the transport, which accepted its first bytes -/
  | sent (kind : PacketKind) (bytes : List UInt8) (accepted : Nat) (stop : Stop)
  /-- `handleIncomingPublish` or `handleIncomingAck` was called -/
  | dispatched (type : UInt8) (remainingData : List UInt8)
  /-- the application callback was invoked -/
  | callback (packet : PacketInfo) (info : DeserializedInfo)
  deriving DecidableEq, Repr

/-! ## Environment -/

/-- The library calls that an application makes from its callback. -/
inductive SendCall
  | publish (pPublishInfo : Option PublishInfo) (packetId : UInt16)
  | subscribe (pSubscriptionList : Option (List SubscribeInfo)) (packetId : UInt16)
  | unsubscribe (pSubscriptionList : Option (List SubscribeInfo)) (packetId : UInt16)
  | ping
  | disconnect
  | cancelCallback (packetId : UInt16)
  | getPacketId
  deriving DecidableEq, Repr

/-- The environment of a context. -/
structure World where
  /-- the result of the `n`-th call of `getTime` -/
  clock : Nat → UInt32
  ticks : Nat
  /-- the results of the next calls of `send` (or `writev`); no more than what is offered
  is accepted, and all of it when the list is used up -/
  sends : List Int
  /-- the results of the next calls of `recv`; no more than what is requested and there is
  delivered, and all of it when the list is used up -/
  recvs : List Int
  /-- the bytes that the transport still has to deliver -/
  inbound : List UInt8
  /-- the calls that the application makes in its next callbacks -/
  callbacks : List (List SendCall)
  /-- the publishes stored by the application -/
  store : UInt16 → Option (List UInt8)
  /-- whether the next calls of `storeFunction` and `retrieveFunction` succeed -/
  storeResults : List Bool
  retrieveResults : List Bool
  wire : List UInt8
  log : List Event

/-- A context in its environment. -/
structure Sys extends Context, World

/-! ## Calls of the environment -/

/-- `getTime`. -/
def getTime (s : Sys) : UInt32 × Sys := (s.clock s.ticks, { s with ticks := s.ticks + 1 })

/-- `calculateElapsedTime`. -/
def calculateElapsedTime (later start : UInt32) : UInt32 := later - start

/-- `transportInterface.send`, or `writev` on a vector array with these bytes. -/
def transportSend (s : Sys) (offered : List UInt8) : Int × Sys :=
  match s.sends with
  | [] => (offered.length, { s with wire := s.wire ++ offered })
  | result :: sends =>
      if result < 0 then (result, { s with sends })
      else
        let accepted := offered.take result.toNat
        (accepted.length, { s with sends, wire := s.wire ++ accepted })

/-- `transportInterface.recv`: the result, and the bytes written into the buffer. A transport
whose schedule is used up fails when there is nothing left to deliver. -/
def transportRecv (s : Sys) (bytesToRecv : Nat) : Int × List UInt8 × Sys :=
  match s.recvs with
  | [] =>
      let delivered := s.inbound.take bytesToRecv
      (if delivered = [] ∧ 0 < bytesToRecv then -1 else delivered.length, delivered,
        { s with inbound := s.inbound.drop bytesToRecv })
  | result :: recvs =>
      if result < 0 then (result, [], { s with recvs })
      else
        let count := min result.toNat bytesToRecv
        let delivered := s.inbound.take count
        (delivered.length, delivered, { s with recvs, inbound := s.inbound.drop count })

/-- A ghost event. -/
def Sys.record (s : Sys) (event : Event) : Sys := { s with log := s.log ++ [event] }

/-- The record arrays replaced by those that a function of the state engine returns. -/
def Sys.setRecords (s : Sys) (t : PublishRecords) : Sys :=
  { s with
    outgoingPublishRecords := t.outgoingPublishRecords
    incomingPublishRecords := t.incomingPublishRecords }

/-- `storeFunction` on a packet: a failed call stores nothing. -/
def callStore (s : Sys) (packetId : UInt16) (packet : List UInt8) : Bool × Sys :=
  match s.storeResults with
  | false :: storeResults => (false, { s with storeResults })
  | results =>
      (true, { s with
        storeResults := results.tail
        store := fun i => if i = packetId then some packet else s.store i })

/-- `retrieveFunction`: the stored packet, `none` for `false`. -/
def callRetrieve (s : Sys) (packetId : UInt16) : Option (List UInt8) × Sys :=
  match s.retrieveResults with
  | false :: retrieveResults => (none, { s with retrieveResults })
  | results => (s.store packetId, { s with retrieveResults := results.tail })

/-- `clearFunction`. -/
def callClear (s : Sys) (packetId : UInt16) : Sys :=
  { s with store := fun i => if i = packetId then none else s.store i }

end FreeMqtt

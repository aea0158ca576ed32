import Mathlib.Algebra.Group.Int.Defs
import Mathlib.Algebra.Group.Nat.Defs
import Mathlib.Data.List.Basic

/-!
# Types of the MQTT library

The enumerations and structures of `core_mqtt_serializer.h`, `core_mqtt.h` and
`core_mqtt_state.h`, under the source's words in camel case and without the prefix
`MQTT`. Fixed-width integers are Lean's, `size_t` is `Nat`.

A pointer argument is `Pointer`, the bytes it points to or `none` for `NULL`, and its
length is a field of its own, as in the source: `readBytes` is what a copy of that
length reads.
-/

namespace FreeMqtt

/-- `MQTTStatus_t`. -/
inductive Status
  | success
  | badParameter
  | noMemory
  | sendFailed
  | recvFailed
  | badResponse
  | serverRefused
  | noDataAvailable
  | illegalState
  | stateCollision
  | keepAliveTimeout
  | needMoreBytes
  | statusConnected
  | statusNotConnected
  | statusDisconnectPending
  | publishStoreFailed
  | publishRetrieveFailed
  deriving DecidableEq, Repr

/-- `MQTTQoS_t`. -/
inductive QoS
  | qos0
  | qos1
  | qos2
  deriving DecidableEq, Repr

/-- `MQTTConnectionStatus_t`. -/
inductive ConnectionStatus
  | notConnected
  | connected
  | disconnectPending
  deriving DecidableEq, Repr

/-- `MQTTPublishState_t`, in the order of the C enumeration. -/
inductive PublishState
  | null
  | publishSend
  | pubAckSend
  | pubRecSend
  | pubRelSend
  | pubCompSend
  | pubAckPending
  | pubRecPending
  | pubRelPending
  | pubCompPending
  | publishDone
  deriving DecidableEq, Repr

/-- The value of the C enumerator, the bit position in a search bitmap. -/
def PublishState.toNat : PublishState → Nat
  | .null => 0
  | .publishSend => 1
  | .pubAckSend => 2
  | .pubRecSend => 3
  | .pubRelSend => 4
  | .pubCompSend => 5
  | .pubAckPending => 6
  | .pubRecPending => 7
  | .pubRelPending => 8
  | .pubCompPending => 9
  | .publishDone => 10

/-- `MQTTPubAckType_t`. -/
inductive PubAckType
  | puback
  | pubrec
  | pubrel
  | pubcomp
  deriving DecidableEq, Repr

/-- `MQTTStateOperation_t`. -/
inductive StateOperation
  | send
  | receive
  deriving DecidableEq, Repr

/-- `MQTT_PACKET_ID_INVALID`. -/
def packetIdInvalid : UInt16 := 0

/-- `MQTTPubAckInfo_t`, one element of a record array. -/
structure PubAckInfo where
  packetId : UInt16
  qos : QoS
  publishState : PublishState
  deriving DecidableEq, Repr

/-- The record that `memset` to zero leaves in a slot. -/
def PubAckInfo.zero : PubAckInfo := ⟨packetIdInvalid, .qos0, .null⟩

instance : Inhabited PubAckInfo := ⟨.zero⟩

/-! ## Memory -/

/-- A pointer to bytes, `none` for `NULL`. -/
abbrev Pointer := Option (List UInt8)

/-- The `length` bytes read from `base`. Bytes past the known contents read as zero. -/
def readBytes (base : Pointer) (length : Nat) : List UInt8 :=
  (List.range length).map fun i => (base.getD []).getD i 0

@[simp] theorem length_readBytes (base : Pointer) (length : Nat) :
    (readBytes base length).length = length := by
  simp [readBytes]

theorem readBytes_some (bytes : List UInt8) : readBytes (some bytes) bytes.length = bytes := by
  apply List.ext_getElem
  · simp
  · intro i h₁ h₂
    simp [readBytes, List.getElem?_eq_getElem h₂]

/-! ## Packet descriptions -/

/-- `MQTTPublishInfo_t`. -/
structure PublishInfo where
  qos : QoS
  retain : Bool
  dup : Bool
  pTopicName : Pointer
  topicNameLength : UInt16
  pPayload : Pointer
  payloadLength : Nat
  deriving DecidableEq, Repr

/-- `MQTTSubscribeInfo_t`. -/
structure SubscribeInfo where
  qos : QoS
  pTopicFilter : Pointer
  topicFilterLength : UInt16
  deriving DecidableEq, Repr

/-- `MQTTConnectInfo_t`. -/
structure ConnectInfo where
  cleanSession : Bool
  keepAliveSeconds : UInt16
  pClientIdentifier : Pointer
  clientIdentifierLength : UInt16
  pUserName : Pointer
  userNameLength : UInt16
  pPassword : Pointer
  passwordLength : UInt16
  deriving DecidableEq, Repr

/-- `MQTTPacketInfo_t`; `pRemainingData` points to `remainingLength` bytes. -/
structure PacketInfo where
  type : UInt8
  pRemainingData : Pointer
  remainingLength : Nat
  headerLength : Nat
  deriving DecidableEq, Repr

/-- `MQTTDeserializedInfo_t`. -/
structure DeserializedInfo where
  packetIdentifier : UInt16
  pPublishInfo : Option PublishInfo
  deserializationResult : Status
  deriving DecidableEq, Repr

end FreeMqtt

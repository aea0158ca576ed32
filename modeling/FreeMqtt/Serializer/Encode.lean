import FreeMqtt.Types

/-!
# Serialized packets

The encoding half of `core_mqtt_serializer.c`. A function that writes behind a pointer and
returns the pointer past what it wrote is the list of the bytes written. `size_t` results
that can wrap around are taken modulo `2 ^ sizeBits`, the width of the target's `size_t`.
-/

namespace FreeMqtt

/-! ## Constants -/

def packetTypeConnect : UInt8 := 0x10
def packetTypeConnack : UInt8 := 0x20
def packetTypePublish : UInt8 := 0x30
def packetTypePuback : UInt8 := 0x40
def packetTypePubrec : UInt8 := 0x50
def packetTypePubrel : UInt8 := 0x62
def packetTypePubcomp : UInt8 := 0x70
def packetTypeSubscribe : UInt8 := 0x82
def packetTypeSuback : UInt8 := 0x90
def packetTypeUnsubscribe : UInt8 := 0xA2
def packetTypeUnsuback : UInt8 := 0xB0
def packetTypePingreq : UInt8 := 0xC0
def packetTypePingresp : UInt8 := 0xD0
def packetTypeDisconnect : UInt8 := 0xE0

/-- `MQTT_MAX_REMAINING_LENGTH`. -/
def maxRemainingLength : Nat := 268435455

/-- `MQTT_PUBLISH_ACK_PACKET_SIZE`. -/
def publishAckPacketSize : Nat := 4

/-- `UINT8_SET_BIT`. -/
def setBit (x : UInt8) (position : UInt8) : UInt8 := x ||| (1 <<< position)

/-- `UINT8_CLEAR_BIT`. -/
def clearBit (x : UInt8) (position : UInt8) : UInt8 := x &&& ~~~(1 <<< position)

/-- `UINT8_CHECK_BIT`. -/
def checkBit (x : UInt8) (position : UInt8) : Bool := (x &&& (1 <<< position)) == 1 <<< position

/-- `UINT16_HIGH_BYTE` and `UINT16_LOW_BYTE`. -/
def uint16Bytes (x : UInt16) : List UInt8 := [(x >>> 8).toUInt8, (x &&& 0x00ff).toUInt8]

/-- The byte that holds a QoS value. -/
def QoS.toByte : QoS → UInt8
  | .qos0 => 0
  | .qos1 => 1
  | .qos2 => 2

/-! ## Lengths and strings -/

/-- `remainingLengthEncodedSize`. -/
def remainingLengthEncodedSize (length : Nat) : Nat :=
  if length < 128 then 1
  else if length < 16384 then 2
  else if length < 2097152 then 3
  else 4

/-- The loop of `encodeRemainingLength`; `fuel` bounds its iterations. -/
def encodeRemainingLengthLoop : (fuel : Nat) → (remainingLength : Nat) → List UInt8
  | 0, _ => []
  | fuel + 1, remainingLength =>
      let lengthByte := UInt8.ofNat (remainingLength % 128)
      let rest := remainingLength / 128
      if 0 < rest then setBit lengthByte 7 :: encodeRemainingLengthLoop fuel rest
      else [lengthByte]

/-- `encodeRemainingLength`. -/
def encodeRemainingLength (length : Nat) : List UInt8 :=
  encodeRemainingLengthLoop (length + 1) length

/-- `encodeString`. Without a source the bytes of the string are left as they are; they
read as zero. -/
def encodeString (pSource : Pointer) (sourceLength : UInt16) : List UInt8 :=
  uint16Bytes sourceLength ++ readBytes pSource sourceLength.toNat

/-! ## PUBLISH -/

/-- `calculatePublishPacketSize`: the remaining length and the packet size, `none` for
`false`. -/
def calculatePublishPacketSize (pPublishInfo : PublishInfo) : Option (Nat × Nat) :=
  let packetSize := pPublishInfo.topicNameLength.toNat + 2
  let packetSize := if pPublishInfo.qos ≠ .qos0 then packetSize + 2 else packetSize
  let payloadLimit := maxRemainingLength - packetSize - 1
  if pPublishInfo.payloadLength > payloadLimit then none
  else
    let packetSize := packetSize + pPublishInfo.payloadLength
    let payloadLimit := payloadLimit - remainingLengthEncodedSize packetSize
    if pPublishInfo.payloadLength > payloadLimit then none
    else some (packetSize, packetSize + 1 + remainingLengthEncodedSize packetSize)

/-- `MQTT_GetPublishPacketSize`: the status, the remaining length and the packet size. -/
def mqttGetPublishPacketSize (pPublishInfo : PublishInfo) : Status × Nat × Nat :=
  if pPublishInfo.pTopicName = none ∨ pPublishInfo.topicNameLength = 0 then
    (.badParameter, 0, 0)
  else
    match calculatePublishPacketSize pPublishInfo with
    | none => (.badParameter, 0, 0)
    | some sizes => (.success, sizes)

/-- The first byte of a PUBLISH. -/
def publishFlags (pPublishInfo : PublishInfo) : UInt8 :=
  let flags := match pPublishInfo.qos with
    | .qos1 => setBit packetTypePublish 1
    | .qos2 => setBit packetTypePublish 2
    | .qos0 => packetTypePublish
  let flags := if pPublishInfo.retain then setBit flags 0 else flags
  if pPublishInfo.dup then setBit flags 3 else flags

/-- `MQTT_SerializePublishHeaderWithoutTopic`: the bytes written and `*headerSize`. -/
def mqttSerializePublishHeaderWithoutTopic (pPublishInfo : PublishInfo)
    (remainingLength : Nat) : List UInt8 × Nat :=
  ([publishFlags pPublishInfo] ++ encodeRemainingLength remainingLength ++
    uint16Bytes pPublishInfo.topicNameLength,
    1 + remainingLengthEncodedSize remainingLength + 2)

/-- `MQTT_UpdateDuplicatePublishFlag`. -/
def mqttUpdateDuplicatePublishFlag (header : List UInt8) (set : Bool) : Status × List UInt8 :=
  match header with
  | [] => (.badParameter, header)
  | first :: rest =>
      if first &&& 0xF0 ≠ packetTypePublish then (.badParameter, header)
      else (.success, (if set then setBit first 3 else clearBit first 3) :: rest)

/-! ## SUBSCRIBE and UNSUBSCRIBE -/

/-- `MQTTSubscriptionType_t`. -/
inductive SubscriptionType
  | subscribe
  | unsubscribe
  deriving DecidableEq, Repr

/-- The loop of `calculateSubscriptionPacketSize`: `packetSize` and whether every filter is
nonempty and not `NULL`. -/
def subscriptionSizes (sizeBits : Nat) (subscriptionType : SubscriptionType) :
    List SubscribeInfo → (packetSize : Nat) → (valid : Bool) → Nat × Bool
  | [], packetSize, valid => (packetSize, valid)
  | info :: rest, packetSize, valid =>
      let packetSize := (packetSize + (info.topicFilterLength.toNat + 2)) % 2 ^ sizeBits
      let packetSize :=
        if subscriptionType = .subscribe then (packetSize + 1) % 2 ^ sizeBits else packetSize
      subscriptionSizes sizeBits subscriptionType rest packetSize
        (if info.topicFilterLength = 0 ∨ info.pTopicFilter = none then false else valid)

/-- `calculateSubscriptionPacketSize`: the status, the remaining length and the packet
size. -/
def calculateSubscriptionPacketSize (sizeBits : Nat) (pSubscriptionList : List SubscribeInfo)
    (subscriptionType : SubscriptionType) : Status × Nat × Nat :=
  let sizes := subscriptionSizes sizeBits subscriptionType pSubscriptionList 2 true
  if sizes.1 > maxRemainingLength ∨ sizes.2 = false then (.badParameter, 0, 0)
  else (.success, sizes.1, sizes.1 + 1 + remainingLengthEncodedSize sizes.1)

/-- `MQTT_GetSubscribePacketSize`, `none` for a `NULL` list. -/
def mqttGetSubscribePacketSize (sizeBits : Nat)
    (pSubscriptionList : Option (List SubscribeInfo)) : Status × Nat × Nat :=
  match pSubscriptionList with
  | none => (.badParameter, 0, 0)
  | some [] => (.badParameter, 0, 0)
  | some list => calculateSubscriptionPacketSize sizeBits list .subscribe

/-- `MQTT_GetUnsubscribePacketSize`. -/
def mqttGetUnsubscribePacketSize (sizeBits : Nat)
    (pSubscriptionList : Option (List SubscribeInfo)) : Status × Nat × Nat :=
  match pSubscriptionList with
  | none => (.badParameter, 0, 0)
  | some [] => (.badParameter, 0, 0)
  | some list => calculateSubscriptionPacketSize sizeBits list .unsubscribe

/-- `MQTT_SerializeSubscribeHeader`. -/
def mqttSerializeSubscribeHeader (remainingLength : Nat) (packetId : UInt16) : List UInt8 :=
  [packetTypeSubscribe] ++ encodeRemainingLength remainingLength ++ uint16Bytes packetId

/-- `MQTT_SerializeUnsubscribeHeader`. -/
def mqttSerializeUnsubscribeHeader (remainingLength : Nat) (packetId : UInt16) : List UInt8 :=
  [packetTypeUnsubscribe] ++ encodeRemainingLength remainingLength ++ uint16Bytes packetId

/-! ## CONNECT -/

/-- `MQTT_GetConnectPacketSize`: the status, the remaining length and the packet size. -/
def mqttGetConnectPacketSize (pConnectInfo : Option ConnectInfo)
    (pWillInfo : Option PublishInfo) : Status × Nat × Nat :=
  match pConnectInfo with
  | none => (.badParameter, 0, 0)
  | some info =>
      if info.clientIdentifierLength = 0 ∨ info.pClientIdentifier = none then
        (.badParameter, 0, 0)
      else if pWillInfo.any fun will => 65535 < will.payloadLength then (.badParameter, 0, 0)
      else
        let size := 10 + (info.clientIdentifierLength.toNat + 2)
        let size := match pWillInfo with
          | none => size
          | some will => size + (will.topicNameLength.toNat + 2 + will.payloadLength + 2)
        let size :=
          if info.pUserName ≠ none then size + (info.userNameLength.toNat + 2) else size
        let size :=
          if info.pPassword ≠ none then size + (info.passwordLength.toNat + 2) else size
        (.success, size, size + 1 + remainingLengthEncodedSize size)

/-- The connect flags of `MQTT_SerializeConnectFixedHeader`. -/
def connectFlags (pConnectInfo : ConnectInfo) (pWillInfo : Option PublishInfo) : UInt8 :=
  let flags : UInt8 := if pConnectInfo.cleanSession then setBit 0 1 else 0
  let flags := if pConnectInfo.pUserName ≠ none then setBit flags 7 else flags
  let flags := if pConnectInfo.pPassword ≠ none then setBit flags 6 else flags
  match pWillInfo with
  | none => flags
  | some will =>
      let flags := setBit flags 2
      let flags := match will.qos with
        | .qos1 => setBit flags 3
        | .qos2 => setBit flags 4
        | .qos0 => flags
      if will.retain then setBit flags 5 else flags

/-- `MQTT_SerializeConnectFixedHeader`. -/
def mqttSerializeConnectFixedHeader (pConnectInfo : ConnectInfo)
    (pWillInfo : Option PublishInfo) (remainingLength : Nat) : List UInt8 :=
  [packetTypeConnect] ++ encodeRemainingLength remainingLength ++
    encodeString (some [0x4D, 0x51, 0x54, 0x54]) 4 ++ [4, connectFlags pConnectInfo pWillInfo] ++
    uint16Bytes pConnectInfo.keepAliveSeconds

/-! ## Packets of fixed size -/

/-- `MQTT_SerializeAck` into a buffer of `MQTT_PUBLISH_ACK_PACKET_SIZE` bytes. -/
def mqttSerializeAck (packetType : UInt8) (packetId : UInt16) : Status × List UInt8 :=
  if packetId = 0 then (.badParameter, [])
  else if packetType = packetTypePuback ∨ packetType = packetTypePubrec ∨
      packetType = packetTypePubrel ∨ packetType = packetTypePubcomp then
    (.success, [packetType, 2] ++ uint16Bytes packetId)
  else (.badParameter, [])

/-- `MQTT_SerializePingreq`. -/
def mqttSerializePingreq : List UInt8 := [packetTypePingreq, 0]

/-- `MQTT_SerializeDisconnect`. -/
def mqttSerializeDisconnect : List UInt8 := [packetTypeDisconnect, 0]

end FreeMqtt

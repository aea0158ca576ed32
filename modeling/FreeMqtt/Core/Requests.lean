import FreeMqtt.Core.Send

/-!
# Requests of the application

`MQTT_Publish`, `MQTT_Subscribe`, `MQTT_Unsubscribe`, `MQTT_Ping`, `MQTT_Disconnect`,
`MQTT_CancelCallback` and `MQTT_GetPacketId`, and the functions that hand their packets to
the transport without a copy. The context is never `NULL`; other pointers may be.
-/

namespace FreeMqtt

/-! ## SUBSCRIBE and UNSUBSCRIBE -/

/-- `validateSubscribeUnsubscribeParams`. -/
def validateSubscribeUnsubscribeParams (s : Sys)
    (pSubscriptionList : Option (List SubscribeInfo)) (packetId : UInt16) : Status :=
  match pSubscriptionList with
  | none => .badParameter
  | some list =>
      if list = [] then .badParameter
      else if packetId = 0 then .badParameter
      else if s.incomingPublishRecords = [] ∧ list.any fun info => info.qos ≠ .qos0 then
        .badParameter
      else .success

/-- `addEncodedStringToVector`: the vectors added. -/
def addEncodedStringToVector (string : Pointer) (length : UInt16) : List (List UInt8) :=
  if string ≠ none ∧ length ≠ 0 then [uint16Bytes length, readBytes string length.toNat]
  else [uint16Bytes length]

/-- The inner loop of `sendSubscribeWithoutCopy` and `sendUnsubscribeWithoutCopy`: topics
are added while `perTopic` vectors are free. -/
def fillVectors (c : Config) (perTopic : Nat) (topicVectors : SubscribeInfo → List (List UInt8)) :
    List SubscribeInfo → List (List UInt8) → List (List UInt8) × List SubscribeInfo
  | [], pIoVector => (pIoVector, [])
  | info :: rest, pIoVector =>
      if pIoVector.length ≤ c.subUnsubMaxVectors - perTopic then
        fillVectors c perTopic topicVectors rest (pIoVector ++ topicVectors info)
      else (pIoVector, info :: rest)

/-- The outer loop: one batch of vectors an iteration, from `pIoVector` on. Every batch but
the first takes a topic, so `fuel` bounds the iterations. -/
def sendTopics (c : Config) (perTopic : Nat) (topicVectors : SubscribeInfo → List (List UInt8)) :
    (fuel : Nat) → List SubscribeInfo → List (List UInt8) → Sys → Int → Status × Sys × Int
  | 0, _, _, s, result => (.success, s, result)
  | fuel + 1, subscriptions, pIoVector, s, result =>
      if subscriptions = [] then (.success, s, result)
      else
        let filled := fillVectors c perTopic topicVectors subscriptions pIoVector
        let sent := sendMessageVector c s filled.1
        if sent.1 ≠ int32Cast filled.1.flatten.length then (.sendFailed, sent.2, sent.1)
        else sendTopics c perTopic topicVectors fuel filled.2 [] sent.2 sent.1

/-- A packet with topics: the header and the topics in batches, one packet in the log. -/
def sendTopicPacket (c : Config) (s : Sys) (kind : PacketKind) (header : List UInt8)
    (perTopic : Nat) (topicVectors : SubscribeInfo → List (List UInt8))
    (subscriptions : List SubscribeInfo) : Status × Sys :=
  let sent := sendTopics c perTopic topicVectors (subscriptions.length + 1) subscriptions
    [header] s 0
  (sent.1, sent.2.1.recordSent s kind
    (header ++ (subscriptions.flatMap topicVectors).flatten) sent.2.2)

/-- `sendSubscribeWithoutCopy`. -/
def sendSubscribeWithoutCopy (c : Config) (s : Sys) (pSubscriptionList : List SubscribeInfo)
    (packetId : UInt16) (remainingLength : Nat) : Status × Sys :=
  sendTopicPacket c s .subscribe (mqttSerializeSubscribeHeader remainingLength packetId) 3
    (fun info =>
      addEncodedStringToVector info.pTopicFilter info.topicFilterLength ++ [[info.qos.toByte]])
    pSubscriptionList

/-- `sendUnsubscribeWithoutCopy`. -/
def sendUnsubscribeWithoutCopy (c : Config) (s : Sys)
    (pSubscriptionList : List SubscribeInfo) (packetId : UInt16) (remainingLength : Nat) :
    Status × Sys :=
  sendTopicPacket c s .unsubscribe (mqttSerializeUnsubscribeHeader remainingLength packetId) 2
    (fun info => addEncodedStringToVector info.pTopicFilter info.topicFilterLength)
    pSubscriptionList

/-- `MQTT_Subscribe`. -/
def mqttSubscribe (c : Config) (s : Sys) (pSubscriptionList : Option (List SubscribeInfo))
    (packetId : UInt16) : Status × Sys :=
  let valid := validateSubscribeUnsubscribeParams s pSubscriptionList packetId
  let sizes := mqttGetSubscribePacketSize c.sizeBits pSubscriptionList
  if valid ≠ .success then (valid, s)
  else if sizes.1 ≠ .success then (sizes.1, s)
  else if s.connectStatus ≠ .connected then (notConnectedStatus s.connectStatus, s)
  else sendSubscribeWithoutCopy c s (pSubscriptionList.getD []) packetId sizes.2.1

/-- `MQTT_Unsubscribe`. -/
def mqttUnsubscribe (c : Config) (s : Sys) (pSubscriptionList : Option (List SubscribeInfo))
    (packetId : UInt16) : Status × Sys :=
  let valid := validateSubscribeUnsubscribeParams s pSubscriptionList packetId
  let sizes := mqttGetUnsubscribePacketSize c.sizeBits pSubscriptionList
  if valid ≠ .success then (valid, s)
  else if sizes.1 ≠ .success then (sizes.1, s)
  else if s.connectStatus ≠ .connected then (notConnectedStatus s.connectStatus, s)
  else sendUnsubscribeWithoutCopy c s (pSubscriptionList.getD []) packetId sizes.2.1

/-! ## PUBLISH -/

/-- `validatePublishParams`. -/
def validatePublishParams (s : Sys) (pPublishInfo : Option PublishInfo) (packetId : UInt16) :
    Status :=
  match pPublishInfo with
  | none => .badParameter
  | some info =>
      if info.qos ≠ .qos0 ∧ packetId = 0 then .badParameter
      else if 0 < info.payloadLength ∧ info.pPayload = none then .badParameter
      else if s.outgoingPublishRecords = [] ∧ info.qos ≠ .qos0 then .badParameter
      else .success

/-- The vectors of `sendPublishWithoutCopy` behind the header. -/
def publishVectors (pPublishInfo : PublishInfo) (packetId : UInt16) : List (List UInt8) :=
  [readBytes pPublishInfo.pTopicName pPublishInfo.topicNameLength.toNat] ++
    (if pPublishInfo.qos ≠ .qos0 then [uint16Bytes packetId] else []) ++
    if 0 < pPublishInfo.payloadLength then
      [readBytes pPublishInfo.pPayload pPublishInfo.payloadLength]
    else []

/-- The part of `sendPublishWithoutCopy` that stores a copy of the publish with its dup flag
set: the status, and the header after it. -/
def storePublish (s : Sys) (pPublishInfo : PublishInfo) (pMqttHeader : List UInt8)
    (vectors : List (List UInt8)) (packetId : UInt16) : Status × List UInt8 × Sys :=
  let changed :=
    if pPublishInfo.dup then (.success, pMqttHeader)
    else mqttUpdateDuplicatePublishFlag pMqttHeader true
  if changed.1 ≠ .success then (changed.1, changed.2, s)
  else
    let stored := callStore s packetId (changed.2 :: vectors).flatten
    if stored.1 = false then (.publishStoreFailed, changed.2, stored.2)
    else if pPublishInfo.dup then (.success, changed.2, stored.2)
    else
      let restored := mqttUpdateDuplicatePublishFlag changed.2 false
      (restored.1, restored.2, stored.2)

/-- `sendPublishWithoutCopy`. -/
def sendPublishWithoutCopy (c : Config) (s : Sys) (pPublishInfo : PublishInfo)
    (pMqttHeader : List UInt8) (packetId : UInt16) : Status × Sys :=
  let vectors := publishVectors pPublishInfo packetId
  let stored :=
    if pPublishInfo.qos ≠ .qos0 ∧ s.storeFunction then
      storePublish s pPublishInfo pMqttHeader vectors packetId
    else (.success, pMqttHeader, s)
  if stored.1 ≠ .success then (stored.1, stored.2.2)
  else
    let pIoVector := stored.2.1 :: vectors
    let sent := sendMessageVector c stored.2.2 pIoVector
    let s := sent.2.recordSent stored.2.2 (.publish packetId pPublishInfo.qos) pIoVector.flatten
      sent.1
    (if sent.1 ≠ int32Cast pIoVector.flatten.length then .sendFailed else .success, s)

/-- `MQTT_Publish`. -/
def mqttPublish (c : Config) (s : Sys) (pPublishInfo : Option PublishInfo)
    (packetId : UInt16) : Status × Sys :=
  match pPublishInfo with
  | none => (validatePublishParams s none packetId, s)
  | some info =>
      let valid := validatePublishParams s pPublishInfo packetId
      let sizes := mqttGetPublishPacketSize info
      let mqttHeader := mqttSerializePublishHeaderWithoutTopic info sizes.2.1
      if valid ≠ .success then (valid, s)
      else if sizes.1 ≠ .success then (sizes.1, s)
      else if s.connectStatus ≠ .connected then (notConnectedStatus s.connectStatus, s)
      else
        let reserved :=
          if info.qos ≠ .qos0 then mqttReserveState s.toPublishRecords packetId info.qos
          else (.success, s.toPublishRecords)
        -- the state of a duplicate exists already
        let status :=
          if reserved.1 = .stateCollision ∧ info.dup then .success else reserved.1
        let s := s.setRecords reserved.2
        if status ≠ .success then (status, s)
        else
          let sent := sendPublishWithoutCopy c s info mqttHeader.1 packetId
          if sent.1 = .success ∧ info.qos ≠ .qos0 then
            let updated :=
              mqttUpdateStatePublish sent.2.toPublishRecords packetId .send info.qos
            (updated.1, sent.2.setRecords updated.2.2)
          else sent

/-! ## PINGREQ and DISCONNECT -/

/-- `MQTT_Ping`. -/
def mqttPing (c : Config) (s : Sys) : Status × Sys :=
  if s.connectStatus ≠ .connected then (notConnectedStatus s.connectStatus, s)
  else
    let sent := sendPacket c s .pingreq mqttSerializePingreq
    if sent.1 < mqttSerializePingreq.length then (.sendFailed, sent.2)
    else
      (.success, { sent.2 with
        pingReqSendTimeMs := sent.2.lastPacketTxTime
        waitingForPingResp := true })

/-- The buffer and the index reset. -/
def Sys.clearBuffer (s : Sys) : Sys :=
  { s with index := 0, networkBuffer := List.replicate s.networkBuffer.length 0 }

/-- `MQTT_Disconnect`. -/
def mqttDisconnect (c : Config) (s : Sys) : Status × Sys :=
  if s.connectStatus = .notConnected then (.statusNotConnected, s)
  else
    let s := { s with connectStatus := .notConnected }.clearBuffer
    let sent := sendPacket c s .disconnect mqttSerializeDisconnect
    (if sent.1 < mqttSerializeDisconnect.length then .sendFailed else .success, sent.2)

/-! ## Calls without a packet -/

/-- `MQTT_CancelCallback`. -/
def mqttCancelCallback (s : Sys) (packetId : UInt16) : Status × Sys :=
  if s.outgoingPublishRecords = [] then (.badParameter, s)
  else
    let removed := mqttRemoveStateRecord s.toPublishRecords packetId
    (removed.1, s.setRecords removed.2)

/-- `MQTT_CheckConnectStatus`. -/
def mqttCheckConnectStatus (s : Sys) : Status :=
  match s.connectStatus with
  | .connected => .statusConnected
  | .disconnectPending => .statusDisconnectPending
  | .notConnected => .statusNotConnected

/-- `MQTT_GetPacketId`. -/
def mqttGetPacketId (s : Sys) : UInt16 × Sys :=
  (s.nextPacketId,
    { s with nextPacketId := if s.nextPacketId = 65535 then 1 else s.nextPacketId + 1 })

/-! ## The application callback -/

/-- A call that the application makes from its callback. -/
def SendCall.run (c : Config) (s : Sys) : SendCall → Sys
  | .publish pPublishInfo packetId => (mqttPublish c s pPublishInfo packetId).2
  | .subscribe pSubscriptionList packetId => (mqttSubscribe c s pSubscriptionList packetId).2
  | .unsubscribe pSubscriptionList packetId => (mqttUnsubscribe c s pSubscriptionList packetId).2
  | .ping => (mqttPing c s).2
  | .disconnect => (mqttDisconnect c s).2
  | .cancelCallback packetId => (mqttCancelCallback s packetId).2
  | .getPacketId => (mqttGetPacketId s).2

/-- `appCallback`: the application makes the calls that are next in its schedule. -/
def appCallback (c : Config) (s : Sys) (packet : PacketInfo) (info : DeserializedInfo) : Sys :=
  let s := s.record (.callback packet info)
  (s.callbacks.headD []).foldl (SendCall.run c) { s with callbacks := s.callbacks.tail }

end FreeMqtt

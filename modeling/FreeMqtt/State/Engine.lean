import FreeMqtt.Types

/-!
# The publish state engine

`core_mqtt_state.c`, function by function. A record array is the list of its slots; a
slot whose `packetId` is `packetIdInvalid` is empty. A function that writes an array
returns the new list, together with its status and its output parameter.

The functions are those of a build with `NDEBUG`: the assertions of the source are not
part of them.
-/

namespace FreeMqtt

/-- The two record arrays of `MQTTContext_t`. `[]` stands for the `NULL` array with
count `0`, the only array of count `0` that `MQTT_InitStatefulQoS` lets through. -/
structure PublishRecords where
  outgoingPublishRecords : List PubAckInfo
  incomingPublishRecords : List PubAckInfo
  deriving DecidableEq, Repr

/-! ## State transitions -/

/-- `validateTransitionPublish`. -/
def validateTransitionPublish (currentState newState : PublishState) (opType : StateOperation)
    (qos : QoS) : Bool :=
  match currentState with
  | .null => opType == .receive && (newState == .pubAckSend || newState == .pubRecSend)
  | .publishSend =>
      match qos with
      | .qos1 => newState == .pubAckPending
      | .qos2 => newState == .pubRecPending
      | .qos0 => false
  -- resends of a publish when a session is reestablished
  | .pubAckPending => newState == .pubAckPending
  | .pubRecPending => newState == .pubRecPending
  | _ => false

/-- `validateTransitionAck`. -/
def validateTransitionAck (currentState newState : PublishState) : Bool :=
  match currentState with
  | .pubAckSend | .pubAckPending => newState == .publishDone
  | .pubRecSend => newState == .pubRelPending
  -- the second alternative is a duplicate QoS 2 publish after a lost PUBREC
  | .pubRelPending => newState == .pubCompSend || newState == .pubRelPending
  -- the second alternative is a duplicate PUBREL after a failed PUBCOMP
  | .pubCompSend => newState == .publishDone || newState == .pubCompSend
  | .pubRecPending => newState == .pubRelSend
  | .pubRelSend => newState == .pubCompPending
  -- the second alternative is a resent PUBREL
  | .pubCompPending => newState == .publishDone || newState == .pubCompPending
  | .null | .publishSend | .publishDone => false

/-- `isPublishOutgoing`. -/
def isPublishOutgoing (packetType : PubAckType) (opType : StateOperation) : Bool :=
  match packetType with
  | .puback | .pubrec | .pubcomp => opType == .receive
  | .pubrel => opType == .send

/-- `MQTT_CalculateStatePublish`. -/
def mqttCalculateStatePublish (opType : StateOperation) (qos : QoS) : PublishState :=
  match qos with
  | .qos0 => .publishDone
  | .qos1 => if opType = .send then .pubAckPending else .pubAckSend
  | .qos2 => if opType = .send then .pubRecPending else .pubRecSend

/-- `MQTT_CalculateStateAck`. -/
def mqttCalculateStateAck (packetType : PubAckType) (opType : StateOperation) (qos : QoS) :
    PublishState :=
  let qosValid : Bool := match packetType with
    | .puback => qos == .qos1
    | .pubrec | .pubrel | .pubcomp => qos == .qos2
  let calculatedState : PublishState := match packetType with
    | .puback => .publishDone
    | .pubrec => if opType = .send then .pubRelPending else .pubRelSend
    | .pubrel => if opType = .send then .pubCompPending else .pubCompSend
    | .pubcomp => .publishDone
  if qosValid then calculatedState else .null

/-! ## Record arrays -/

/-- `findInRecord`: the index of the first slot with the packet id (`none` is
`MQTT_INVALID_STATE_COUNT`), and the values of `*pQos` and `*pCurrentState` afterwards.
`*pQos` keeps its value `qos` when there is no such slot. -/
def findInRecord (records : List PubAckInfo) (packetId : UInt16) (qos : QoS) :
    Option Nat × QoS × PublishState :=
  match records.findIdx? (fun r => r.packetId == packetId) with
  | some index =>
      (some index, (records.getD index default).qos,
        (records.getD index default).publishState)
  | none => (none, qos, .null)

/-- The body of the loop of `compactRecords` at `index`; `emptyIndex` is `none` for
`MQTT_INVALID_STATE_COUNT`. -/
def compactStep (records : List PubAckInfo) (emptyIndex : Option Nat) (index : Nat) :
    List PubAckInfo × Option Nat :=
  if (records.getD index default).packetId = packetIdInvalid then
    (records, match emptyIndex with
      | none => some index
      | some e => some e)
  else
    match emptyIndex with
    | none => (records, none)
    | some e => ((records.set e (records.getD index default)).set index .zero, some (e + 1))

/-- The array and `emptyIndex` after the first `n` iterations of `compactRecords`. -/
def compactTo (records : List PubAckInfo) : Nat → List PubAckInfo × Option Nat
  | 0 => (records, none)
  | n + 1 => compactStep (compactTo records n).1 (compactTo records n).2 n

/-- `compactRecords`. -/
def compactRecords (records : List PubAckInfo) : List PubAckInfo :=
  (compactTo records records.length).1

/-- The loop of `addRecord`, from slot `index - 1` down to slot `0`: the status and
`availableIndex` it leaves. -/
def addRecordScan (records : List PubAckInfo) (packetId : UInt16) :
    (index : Nat) → (availableIndex : Nat) → (validEntryFound : Bool) → Status × Nat
  | 0, availableIndex, _ => (.noMemory, availableIndex)
  | index + 1, availableIndex, validEntryFound =>
      if (records.getD index default).packetId = packetIdInvalid then
        addRecordScan records packetId index
          (if validEntryFound then availableIndex else index) validEntryFound
      else if (records.getD index default).packetId = packetId then
        (.stateCollision, records.length)
      else
        addRecordScan records packetId index availableIndex true

/-- The C cast `( int32_t ) n` of a `size_t`. -/
def int32Cast (n : Nat) : Int :=
  if n % 2 ^ 32 < 2 ^ 31 then (n % 2 ^ 32 : Nat) else (n % 2 ^ 32 : Nat) - 2 ^ 32

/-- `addRecord`. The loop index is an `int32_t` that starts at
`( int32_t ) recordCount - 1`. -/
def addRecord (records : List PubAckInfo) (packetId : UInt16) (qos : QoS)
    (publishState : PublishState) : Status × List PubAckInfo :=
  let recordCount := records.length
  let records :=
    if (records.getD (recordCount - 1) default).packetId ≠ packetIdInvalid then
      compactRecords records
    else records
  let scan := addRecordScan records packetId (int32Cast recordCount).toNat recordCount false
  if scan.2 < recordCount then
    (.success, records.set scan.2 ⟨packetId, qos, publishState⟩)
  else (scan.1, records)

/-- `updateRecord`. -/
def updateRecord (records : List PubAckInfo) (recordIndex : Nat) (newState : PublishState)
    (shouldDelete : Bool) : List PubAckInfo :=
  if shouldDelete then records.set recordIndex .zero
  else
    records.set recordIndex
      { records.getD recordIndex default with publishState := newState }

/-- The `searchStates` bitmap with the bits of `states` set (`UINT16_SET_BIT`). -/
def stateBitmap (states : List PublishState) : UInt16 :=
  states.foldl (fun x state => x ||| (1 <<< (UInt16.ofNat state.toNat))) 0

/-- `UINT16_CHECK_BIT` at the position of a state. -/
def checkStateBit (searchStates : UInt16) (state : PublishState) : Bool :=
  (searchStates &&& (1 <<< (UInt16.ofNat state.toNat))) == 1 <<< (UInt16.ofNat state.toNat)

/-- `stateSelect` from the slots at and after the cursor: the packet id found, or
`packetIdInvalid`, and the new cursor. -/
def stateSelectFrom (searchStates : UInt16) : List PubAckInfo → Nat → UInt16 × Nat
  | [], cursor => (packetIdInvalid, cursor)
  | r :: rest, cursor =>
      if checkStateBit searchStates r.publishState then (r.packetId, cursor + 1)
      else stateSelectFrom searchStates rest (cursor + 1)

/-- `stateSelect`. -/
def stateSelect (t : PublishRecords) (searchStates : UInt16) (cursor : Nat) : UInt16 × Nat :=
  stateSelectFrom searchStates (t.outgoingPublishRecords.drop cursor) cursor

/-! ## Updates of one record -/

/-- `updateStateAck`. -/
def updateStateAck (records : List PubAckInfo) (recordIndex : Nat) (packetId : UInt16)
    (currentState newState : PublishState) : Status × List PubAckInfo :=
  let shouldDeleteRecord := newState == .publishDone || newState == .pubRelSend
  if validateTransitionAck currentState newState then
    if currentState ≠ newState then
      let records := updateRecord records recordIndex newState shouldDeleteRecord
      -- a record whose PUBREC arrived moves to the end, to keep the order of the PUBRELs
      if newState = .pubRelSend then addRecord records packetId .qos2 .pubRelSend
      else (.success, records)
    else (.success, records)
  else (.illegalState, records)

/-- `updateStatePublish`. -/
def updateStatePublish (t : PublishRecords) (recordIndex : Nat) (packetId : UInt16)
    (opType : StateOperation) (qos : QoS) (currentState newState : PublishState) :
    Status × PublishRecords :=
  if validateTransitionPublish currentState newState opType qos then
    if opType = .receive then
      let added := addRecord t.incomingPublishRecords packetId qos newState
      (added.1, { t with incomingPublishRecords := added.2 })
    else if currentState ≠ newState then
      (.success, { t with
        outgoingPublishRecords :=
          updateRecord t.outgoingPublishRecords recordIndex newState false })
    else (.success, t)
  else (.illegalState, t)

/-! ## The functions of `core_mqtt_state.h` -/

/-- `MQTT_ReserveState`. -/
def mqttReserveState (t : PublishRecords) (packetId : UInt16) (qos : QoS) :
    Status × PublishRecords :=
  if qos = .qos0 then (.success, t)
  else if packetId = packetIdInvalid then (.badParameter, t)
  else
    let added := addRecord t.outgoingPublishRecords packetId qos .publishSend
    (added.1, { t with outgoingPublishRecords := added.2 })

/-- `MQTT_UpdateStatePublish`; the second component is `*pNewState` when it is written. -/
def mqttUpdateStatePublish (t : PublishRecords) (packetId : UInt16) (opType : StateOperation)
    (qos : QoS) : Status × Option PublishState × PublishRecords :=
  if qos = .qos0 then (.success, some .publishDone, t)
  else if packetId = packetIdInvalid then (.badParameter, none, t)
  else
    let found : Option Nat × QoS × PublishState :=
      if opType = .send then findInRecord t.outgoingPublishRecords packetId .qos0
      else (none, .qos0, .null)
    if opType = .send ∧ (found.1 = none ∨ found.2.1 ≠ qos) then (.badParameter, none, t)
    else
      let newState := mqttCalculateStatePublish opType qos
      let updated := updateStatePublish t (found.1.getD 0) packetId opType qos found.2.2 newState
      (updated.1, if updated.1 = .success then some newState else none, updated.2)

/-- `MQTT_RemoveStateRecord`. -/
def mqttRemoveStateRecord (t : PublishRecords) (packetId : UInt16) : Status × PublishRecords :=
  if t.outgoingPublishRecords = [] then (.badParameter, t)
  else
    let found := findInRecord t.outgoingPublishRecords packetId .qos0
    if found.2.2 = .null then (.badParameter, t)
    else if found.2.1 ≠ .qos1 ∧ found.2.1 ≠ .qos2 then (.badParameter, t)
    else
      (.success, { t with
        outgoingPublishRecords :=
          updateRecord t.outgoingPublishRecords (found.1.getD 0) .null true })

/-- The array that an acknowledgement is looked up in. -/
def PublishRecords.side (t : PublishRecords) (outgoing : Bool) : List PubAckInfo :=
  if outgoing then t.outgoingPublishRecords else t.incomingPublishRecords

/-- The arrays with one of them replaced. -/
def PublishRecords.setSide (t : PublishRecords) (outgoing : Bool) (records : List PubAckInfo) :
    PublishRecords :=
  if outgoing then { t with outgoingPublishRecords := records }
  else { t with incomingPublishRecords := records }

/-- `MQTT_UpdateStateAck`; the second component is `*pNewState` when it is written. -/
def mqttUpdateStateAck (t : PublishRecords) (packetId : UInt16) (packetType : PubAckType)
    (opType : StateOperation) : Status × Option PublishState × PublishRecords :=
  if packetId = packetIdInvalid then (.badParameter, none, t)
  else
    let outgoing := isPublishOutgoing packetType opType
    let found := findInRecord (t.side outgoing) packetId .qos0
    match found.1 with
    | none => (.badResponse, none, t)
    | some recordIndex =>
        let newState := mqttCalculateStateAck packetType opType found.2.1
        let updated := updateStateAck (t.side outgoing) recordIndex packetId found.2.2 newState
        (updated.1, if updated.1 = .success then some newState else none,
          t.setSide outgoing updated.2)

/-- `MQTT_PubrelToResend`: the packet id, the new cursor, and `*pState` when it is
written. -/
def mqttPubrelToResend (t : PublishRecords) (cursor : Nat) :
    UInt16 × Nat × Option PublishState :=
  let selected := stateSelect t (stateBitmap [.pubCompPending, .pubRelSend]) cursor
  (selected.1, selected.2,
    if selected.1 ≠ packetIdInvalid then some .pubRelSend else none)

/-- `MQTT_PublishToResend`: the packet id and the new cursor. -/
def mqttPublishToResend (t : PublishRecords) (cursor : Nat) : UInt16 × Nat :=
  stateSelect t (stateBitmap [.publishSend, .pubAckPending, .pubRecPending]) cursor

/-! ## Runs of the engine -/

/-- The record arrays of a context whose arrays of these capacities were zeroed. -/
def PublishRecords.zeroed (outgoingCount incomingCount : Nat) : PublishRecords :=
  ⟨List.replicate outgoingCount .zero, List.replicate incomingCount .zero⟩

/-- A call of a function that changes the record arrays. -/
inductive EngineCall
  | reserveState (packetId : UInt16) (qos : QoS)
  | updateStatePublish (packetId : UInt16) (opType : StateOperation) (qos : QoS)
  | updateStateAck (packetId : UInt16) (packetType : PubAckType) (opType : StateOperation)
  | removeStateRecord (packetId : UInt16)
  deriving DecidableEq, Repr

def EngineCall.run (t : PublishRecords) : EngineCall → Status × PublishRecords
  | .reserveState packetId qos => mqttReserveState t packetId qos
  | .updateStatePublish packetId opType qos =>
      let updated := mqttUpdateStatePublish t packetId opType qos
      (updated.1, updated.2.2)
  | .updateStateAck packetId packetType opType =>
      let updated := mqttUpdateStateAck t packetId packetType opType
      (updated.1, updated.2.2)
  | .removeStateRecord packetId => mqttRemoveStateRecord t packetId

/-- The statuses of a sequence of calls, and the arrays after it. -/
def runCalls (t : PublishRecords) : List EngineCall → List Status × PublishRecords
  | [] => ([], t)
  | call :: calls =>
      let first := call.run t
      let rest := runCalls first.2 calls
      (first.1 :: rest.1, rest.2)

end FreeMqtt

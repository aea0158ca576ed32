import FreeMqtt.State.AnyRecords
import FreeMqtt.Lib.Audit

/-!
# The assertions of the state engine

`core_mqtt_state.c` once more, with the assertions that a build without `NDEBUG` checks. A context,
a cursor and an output parameter are never `NULL` here, so the assertions on these pointers are not
listed. On arrays that `MQTT_InitStatefulQoS` has set every function passes its assertions but
`MQTT_RemoveStateRecord`, which alone hands its packet id to `findInRecord` unchecked.
-/

namespace FreeMqtt

open Audit

/-! ## Assertions -/

/-- The condition of an assertion, with the values that it is about. -/
inductive Assertion
  /-- `packetId != MQTT_PACKET_ID_INVALID` -/
  | packetIdValid (packetId : UInt16)
  /-- `qos != MQTTQoS0` -/
  | qosStateful (qos : QoS)
  /-- `records != NULL` -/
  | recordsSet (records : List PubAckInfo)
  /-- `searchStates != 0U` -/
  | searchStatesSet (searchStates : UInt16)
  /-- `( outgoingStates & searchStates ) > 0U` -/
  | searchesOutgoing (searchStates : UInt16)
  /-- `( ~outgoingStates & searchStates ) == 0U` -/
  | searchesOnlyOutgoing (searchStates : UInt16)
  deriving DecidableEq, Repr

/-- `outgoingStates` of `stateSelect`. -/
def outgoingStates : UInt16 :=
  stateBitmap [.publishSend, .pubAckPending, .pubRecPending, .pubRelSend, .pubCompPending]

/-- The assertion does not fail. -/
def Assertion.Holds : Assertion → Prop
  | .packetIdValid packetId => packetId ≠ packetIdInvalid
  | .qosStateful qos => qos ≠ .qos0
  | .recordsSet records => records ≠ []
  | .searchStatesSet searchStates => searchStates ≠ 0
  | .searchesOutgoing searchStates => 0 < outgoingStates &&& searchStates
  | .searchesOnlyOutgoing searchStates => ~~~outgoingStates &&& searchStates = 0

instance (assertion : Assertion) : Decidable assertion.Holds :=
  match assertion with
  | .packetIdValid packetId => inferInstanceAs (Decidable (packetId ≠ packetIdInvalid))
  | .qosStateful qos => inferInstanceAs (Decidable (qos ≠ .qos0))
  | .recordsSet records => inferInstanceAs (Decidable (records ≠ []))
  | .searchStatesSet searchStates => inferInstanceAs (Decidable (searchStates ≠ 0))
  | .searchesOutgoing searchStates =>
      inferInstanceAs (Decidable (0 < outgoingStates &&& searchStates))
  | .searchesOnlyOutgoing searchStates =>
      inferInstanceAs (Decidable (~~~outgoingStates &&& searchStates = 0))

/-- What the audited functions report: an assertion that they check, or that `MQTT_CancelCallback`
is called. -/
inductive StateEvent
  | asserted (assertion : Assertion)
  | cancelCallback (packetId : UInt16)
  deriving DecidableEq, Repr

/-- The event is no failed assertion. -/
def StateEvent.Passed : StateEvent → Prop
  | .asserted assertion => assertion.Holds
  | .cancelCallback _ => True

/-- The event is no call of `MQTT_CancelCallback` without a packet id. -/
def StateEvent.NamesPacket : StateEvent → Prop
  | .asserted _ => True
  | .cancelCallback packetId => packetId ≠ packetIdInvalid

/-- `assert`. -/
def audit (assertion : Assertion) : Audit StateEvent Unit := report (.asserted assertion)

/-! ## The audited functions -/

/-- `findInRecord`, audited. -/
def auditedFindInRecord (records : List PubAckInfo) (packetId : UInt16) (qos : QoS) :
    Audit StateEvent (Option Nat × QoS × PublishState) := do
  audit (.packetIdValid packetId)
  pure (findInRecord records packetId qos)

/-- `compactRecords`, audited. -/
def auditedCompactRecords (records : List PubAckInfo) : Audit StateEvent (List PubAckInfo) := do
  audit (.recordsSet records)
  pure (compactRecords records)

/-- `addRecord`, audited. -/
def auditedAddRecord (records : List PubAckInfo) (packetId : UInt16) (qos : QoS)
    (publishState : PublishState) : Audit StateEvent (Status × List PubAckInfo) := do
  let recordCount := records.length
  audit (.packetIdValid packetId)
  audit (.qosStateful qos)
  let records ←
    (if (records.getD (recordCount - 1) default).packetId ≠ packetIdInvalid then
      auditedCompactRecords records
    else pure records)
  let scan := addRecordScan records packetId (int32Cast recordCount).toNat recordCount false
  pure (if scan.2 < recordCount then
    (.success, records.set scan.2 ⟨packetId, qos, publishState⟩)
  else (scan.1, records))

/-- `updateRecord`, audited. -/
def auditedUpdateRecord (records : List PubAckInfo) (recordIndex : Nat) (newState : PublishState)
    (shouldDelete : Bool) : Audit StateEvent (List PubAckInfo) := do
  audit (.recordsSet records)
  pure (updateRecord records recordIndex newState shouldDelete)

/-- `stateSelect`, audited. -/
def auditedStateSelect (t : PublishRecords) (searchStates : UInt16) (cursor : Nat) :
    Audit StateEvent (UInt16 × Nat) := do
  audit (.searchStatesSet searchStates)
  audit (.searchesOutgoing searchStates)
  audit (.searchesOnlyOutgoing searchStates)
  pure (stateSelect t searchStates cursor)

/-- `updateStateAck`, audited. -/
def auditedUpdateStateAck (records : List PubAckInfo) (recordIndex : Nat) (packetId : UInt16)
    (currentState newState : PublishState) : Audit StateEvent (Status × List PubAckInfo) := do
  audit (.recordsSet records)
  let shouldDeleteRecord := newState == .publishDone || newState == .pubRelSend
  if validateTransitionAck currentState newState then
    if currentState ≠ newState then do
      let records ← auditedUpdateRecord records recordIndex newState shouldDeleteRecord
      if newState = .pubRelSend then auditedAddRecord records packetId .qos2 .pubRelSend
      else pure (.success, records)
    else pure (.success, records)
  else pure (.illegalState, records)

/-- `updateStatePublish`, audited. -/
def auditedUpdateStatePublish (t : PublishRecords) (recordIndex : Nat) (packetId : UInt16)
    (opType : StateOperation) (qos : QoS) (currentState newState : PublishState) :
    Audit StateEvent (Status × PublishRecords) := do
  audit (.packetIdValid packetId)
  audit (.qosStateful qos)
  if validateTransitionPublish currentState newState opType qos then
    if opType = .receive then do
      let added ← auditedAddRecord t.incomingPublishRecords packetId qos newState
      pure (added.1, { t with incomingPublishRecords := added.2 })
    else if currentState ≠ newState then do
      let records ← auditedUpdateRecord t.outgoingPublishRecords recordIndex newState false
      pure (.success, { t with outgoingPublishRecords := records })
    else pure (.success, t)
  else pure (.illegalState, t)

/-- `MQTT_ReserveState`, audited. -/
def auditedMqttReserveState (t : PublishRecords) (packetId : UInt16) (qos : QoS) :
    Audit StateEvent (Status × PublishRecords) :=
  if qos = .qos0 then pure (.success, t)
  else if packetId = packetIdInvalid then pure (.badParameter, t)
  else do
    let added ← auditedAddRecord t.outgoingPublishRecords packetId qos .publishSend
    pure (added.1, { t with outgoingPublishRecords := added.2 })

/-- `MQTT_UpdateStatePublish`, audited. -/
def auditedMqttUpdateStatePublish (t : PublishRecords) (packetId : UInt16) (opType : StateOperation)
    (qos : QoS) : Audit StateEvent (Status × Option PublishState × PublishRecords) :=
  if qos = .qos0 then pure (.success, some .publishDone, t)
  else if packetId = packetIdInvalid then pure (.badParameter, none, t)
  else do
    let found ←
      (if opType = .send then auditedFindInRecord t.outgoingPublishRecords packetId .qos0
      else pure (none, .qos0, .null))
    if opType = .send ∧ (found.1 = none ∨ found.2.1 ≠ qos) then pure (.badParameter, none, t)
    else do
      let newState := mqttCalculateStatePublish opType qos
      let updated ←
        auditedUpdateStatePublish t (found.1.getD 0) packetId opType qos found.2.2 newState
      pure (updated.1, if updated.1 = .success then some newState else none, updated.2)

/-- `MQTT_RemoveStateRecord`, audited. -/
def auditedMqttRemoveStateRecord (t : PublishRecords) (packetId : UInt16) :
    Audit StateEvent (Status × PublishRecords) :=
  if t.outgoingPublishRecords = [] then pure (.badParameter, t)
  else do
    let found ← auditedFindInRecord t.outgoingPublishRecords packetId .qos0
    if found.2.2 = .null then pure (.badParameter, t)
    else if found.2.1 ≠ .qos1 ∧ found.2.1 ≠ .qos2 then pure (.badParameter, t)
    else do
      let records ←
        auditedUpdateRecord t.outgoingPublishRecords (found.1.getD 0) .null true
      pure (.success, { t with outgoingPublishRecords := records })

/-- `MQTT_UpdateStateAck`, audited. -/
def auditedMqttUpdateStateAck (t : PublishRecords) (packetId : UInt16) (packetType : PubAckType)
    (opType : StateOperation) : Audit StateEvent (Status × Option PublishState × PublishRecords) :=
  if packetId = packetIdInvalid then pure (.badParameter, none, t)
  else do
    let outgoing := isPublishOutgoing packetType opType
    let found ← auditedFindInRecord (t.side outgoing) packetId .qos0
    match found.1 with
    | none => pure (.badResponse, none, t)
    | some recordIndex => do
        let newState := mqttCalculateStateAck packetType opType found.2.1
        let updated ←
          auditedUpdateStateAck (t.side outgoing) recordIndex packetId found.2.2 newState
        pure (updated.1, if updated.1 = .success then some newState else none,
          t.setSide outgoing updated.2)

/-- `MQTT_PubrelToResend`, audited. -/
def auditedMqttPubrelToResend (t : PublishRecords) (cursor : Nat) :
    Audit StateEvent (UInt16 × Nat × Option PublishState) := do
  let selected ← auditedStateSelect t (stateBitmap [.pubCompPending, .pubRelSend]) cursor
  pure (selected.1, selected.2,
    if selected.1 ≠ packetIdInvalid then some .pubRelSend else none)

/-- `MQTT_PublishToResend`, audited. -/
def auditedMqttPublishToResend (t : PublishRecords) (cursor : Nat) :
    Audit StateEvent (UInt16 × Nat) :=
  auditedStateSelect t (stateBitmap [.publishSend, .pubAckPending, .pubRecPending]) cursor

/-! ## Set arrays -/

/-- Both arrays are there, as `MQTT_InitStatefulQoS` leaves them for positive counts. -/
structure PublishRecords.Stateful (t : PublishRecords) : Prop where
  outgoing : t.outgoingPublishRecords ≠ []
  incoming : t.incomingPublishRecords ≠ []

theorem PublishRecords.Stateful.side {t : PublishRecords} (h : t.Stateful) (outgoing : Bool) :
    t.side outgoing ≠ [] := by
  cases outgoing with
  | false => exact h.incoming
  | true => exact h.outgoing

theorem PublishRecords.Stateful.setSide {t : PublishRecords} (h : t.Stateful) (outgoing : Bool)
    {records : List PubAckInfo} (hrecords : records ≠ []) : (t.setSide outgoing records).Stateful := by
  cases outgoing with
  | false => exact ⟨h.outgoing, hrecords⟩
  | true => exact ⟨hrecords, h.incoming⟩

theorem stateful_zeroed {n m : Nat} (hn : 0 < n) (hm : 0 < m) :
    (PublishRecords.zeroed n m).Stateful := by
  constructor
  · exact List.ne_nil_of_length_pos (by rwa [PublishRecords.zeroed, List.length_replicate])
  · exact List.ne_nil_of_length_pos (by rwa [PublishRecords.zeroed, List.length_replicate])

theorem set_ne_nil {records : List PubAckInfo} (h : records ≠ []) (i : Nat) (r : PubAckInfo) :
    records.set i r ≠ [] := by
  intro hnil
  exact h ((List.set_eq_nil_iff ..).1 hnil)

theorem updateRecord_ne_nil {records : List PubAckInfo} (h : records ≠ []) (recordIndex : Nat)
    (newState : PublishState) (shouldDelete : Bool) :
    updateRecord records recordIndex newState shouldDelete ≠ [] := by
  unfold updateRecord
  split
  · exact set_ne_nil h _ _
  · exact set_ne_nil h _ _

/-! ## The assertions checked -/

/-- The audited computation of `a`, which satisfies `I`: an assertion fails only in a call of
`MQTT_CancelCallback` without a packet id, and then one does. -/
abbrev Checks {α : Type} (I : α → Prop) (x : Audit StateEvent α) (a : α) : Prop :=
  Agrees StateEvent.Passed StateEvent.NamesPacket I x a

theorem Checks.audit (assertion : Assertion) (h : assertion.Holds) :
    Checks (fun _ => True) (audit assertion) () := .report h trivial

theorem findInRecord_checks (records : List PubAckInfo) {packetId : UInt16}
    (hid : packetId ≠ packetIdInvalid) (qos : QoS) :
    Checks (fun _ => True) (auditedFindInRecord records packetId qos)
      (findInRecord records packetId qos) := by
  apply Agrees.bind (Checks.audit (.packetIdValid _) hid)
  intro _
  exact .pure trivial

theorem addRecord_checks {records : List PubAckInfo} (h : records ≠ []) {packetId : UInt16}
    (hid : packetId ≠ packetIdInvalid) {qos : QoS} (hqos : qos ≠ .qos0)
    (publishState : PublishState) :
    Checks (fun added => added.2 ≠ []) (auditedAddRecord records packetId qos publishState)
      (addRecord records packetId qos publishState) := by
  have hcompact : Checks (fun records => records ≠ []) (auditedCompactRecords records)
      (compactRecords records) := by
    apply Agrees.bind (Checks.audit (.recordsSet _) h)
    intro _
    refine .pure ?_
    rw [← List.length_pos_iff, (live_compactRecords records).2, List.length_pos_iff]
    exact h
  unfold addRecord
  dsimp only
  apply Agrees.bind (Checks.audit (.packetIdValid _) hid)
  intro _
  apply Agrees.bind (Checks.audit (.qosStateful _) hqos)
  intro _
  apply Agrees.bind (.ite (fun _ => hcompact) fun _ => .pure h)
  generalize (if (records.getD (records.length - 1) default).packetId ≠ packetIdInvalid then
    compactRecords records else records) = slots
  intro hslots
  refine .pure ?_
  split
  · exact set_ne_nil hslots _ _
  · exact hslots

theorem updateRecord_checks {records : List PubAckInfo} (h : records ≠ []) (recordIndex : Nat)
    (newState : PublishState) (shouldDelete : Bool) :
    Checks (fun records => records ≠ []) (auditedUpdateRecord records recordIndex newState shouldDelete)
      (updateRecord records recordIndex newState shouldDelete) := by
  apply Agrees.bind (Checks.audit (.recordsSet _) h)
  intro _
  exact .pure (updateRecord_ne_nil h _ _ _)

/-- What a search passes: it looks for states, and only for those of outgoing publishes. -/
structure SearchesOutgoing (searchStates : UInt16) : Prop where
  set : (Assertion.searchStatesSet searchStates).Holds
  outgoing : (Assertion.searchesOutgoing searchStates).Holds
  only : (Assertion.searchesOnlyOutgoing searchStates).Holds

theorem stateSelect_checks (t : PublishRecords) {searchStates : UInt16}
    (h : SearchesOutgoing searchStates) (cursor : Nat) :
    Checks (fun _ => True) (auditedStateSelect t searchStates cursor)
      (stateSelect t searchStates cursor) := by
  apply Agrees.bind (Checks.audit _ h.set)
  intro _
  apply Agrees.bind (Checks.audit _ h.outgoing)
  intro _
  apply Agrees.bind (Checks.audit _ h.only)
  intro _
  exact .pure trivial

theorem updateStateAck_checks {records : List PubAckInfo} (h : records ≠ []) (recordIndex : Nat)
    {packetId : UInt16} (hid : packetId ≠ packetIdInvalid) (currentState newState : PublishState) :
    Checks (fun updated => updated.2 ≠ [])
      (auditedUpdateStateAck records recordIndex packetId currentState newState)
      (updateStateAck records recordIndex packetId currentState newState) := by
  apply Agrees.bind (Checks.audit (.recordsSet _) h)
  intro _
  refine .ite (fun _ => ?_) fun _ => .pure h
  refine .ite (fun _ => ?_) fun _ => .pure h
  apply Agrees.bind (updateRecord_checks h ..)
  intro hrecords
  exact .ite (fun _ => addRecord_checks hrecords hid (by simp) _) fun _ => .pure hrecords

theorem updateStatePublish_checks {t : PublishRecords} (h : t.Stateful) (recordIndex : Nat)
    {packetId : UInt16} (hid : packetId ≠ packetIdInvalid) (opType : StateOperation) {qos : QoS}
    (hqos : qos ≠ .qos0) (currentState newState : PublishState) :
    Checks (fun updated => updated.2.Stateful)
      (auditedUpdateStatePublish t recordIndex packetId opType qos currentState newState)
      (updateStatePublish t recordIndex packetId opType qos currentState newState) := by
  apply Agrees.bind (Checks.audit (.packetIdValid _) hid)
  intro _
  apply Agrees.bind (Checks.audit (.qosStateful _) hqos)
  intro _
  refine .ite (fun _ => ?_) fun _ => .pure h
  refine .ite (fun _ => ?_) fun _ => .ite (fun _ => ?_) fun _ => .pure h
  · apply Agrees.bind (addRecord_checks h.incoming hid hqos _)
    intro hadded
    exact .pure ⟨h.outgoing, hadded⟩
  · apply Agrees.bind (updateRecord_checks h.outgoing ..)
    intro hrecords
    exact .pure ⟨hrecords, h.incoming⟩

theorem mqttReserveState_checks {t : PublishRecords} (h : t.Stateful) (packetId : UInt16)
    (qos : QoS) :
    Checks (fun reserved => reserved.2.Stateful) (auditedMqttReserveState t packetId qos)
      (mqttReserveState t packetId qos) := by
  refine .ite (fun _ => .pure h) fun hqos => .ite (fun _ => .pure h) fun hid => ?_
  apply Agrees.bind (addRecord_checks h.outgoing hid hqos _)
  intro hadded
  exact .pure ⟨hadded, h.incoming⟩

theorem mqttUpdateStatePublish_checks {t : PublishRecords} (h : t.Stateful) (packetId : UInt16)
    (opType : StateOperation) (qos : QoS) :
    Checks (fun updated => updated.2.2.Stateful)
      (auditedMqttUpdateStatePublish t packetId opType qos)
      (mqttUpdateStatePublish t packetId opType qos) := by
  refine .ite (fun _ => .pure h) fun hqos => .ite (fun _ => .pure h) fun hid => ?_
  apply Agrees.bind (.ite (fun _ => findInRecord_checks _ hid _) fun _ => .pure trivial)
  intro _
  refine .ite (fun _ => .pure h) fun _ => ?_
  apply Agrees.bind (updateStatePublish_checks h _ hid opType hqos ..)
  intro hupdated
  exact .pure hupdated

theorem mqttUpdateStateAck_checks {t : PublishRecords} (h : t.Stateful) (packetId : UInt16)
    (packetType : PubAckType) (opType : StateOperation) :
    Checks (fun updated => updated.2.2.Stateful)
      (auditedMqttUpdateStateAck t packetId packetType opType)
      (mqttUpdateStateAck t packetId packetType opType) := by
  refine .ite (fun _ => .pure h) fun hid => ?_
  apply Agrees.bind (findInRecord_checks _ hid _)
  intro _
  dsimp only
  generalize findInRecord (t.side (isPublishOutgoing packetType opType)) packetId .qos0 = found
  obtain ⟨_ | recordIndex, qos, currentState⟩ := found
  · refine .pure ?_
    exact h
  · apply Agrees.bind (updateStateAck_checks (h.side _) recordIndex hid ..)
    intro hrecords
    refine .pure ?_
    exact h.setSide _ hrecords

/-- With a packet id `MQTT_RemoveStateRecord` passes its assertions too. -/
theorem mqttRemoveStateRecord_checks {t : PublishRecords} (h : t.Stateful) {packetId : UInt16}
    (hid : packetId ≠ packetIdInvalid) :
    Checks (fun removed => removed.2.Stateful) (auditedMqttRemoveStateRecord t packetId)
      (mqttRemoveStateRecord t packetId) := by
  refine .ite (fun _ => .pure h) fun _ => ?_
  apply Agrees.bind (findInRecord_checks _ hid _)
  intro _
  refine .ite (fun _ => .pure h) fun _ => .ite (fun _ => .pure h) fun _ => ?_
  apply Agrees.bind (updateRecord_checks h.outgoing ..)
  intro hrecords
  exact .pure ⟨hrecords, h.incoming⟩

theorem mqttRemoveStateRecord_value (t : PublishRecords) (packetId : UInt16) :
    (auditedMqttRemoveStateRecord t packetId).value = mqttRemoveStateRecord t packetId := by
  unfold auditedMqttRemoveStateRecord mqttRemoveStateRecord auditedFindInRecord auditedUpdateRecord
  dsimp only
  split
  · rfl
  rw [value_bind, value_bind, value_pure]
  split
  · rfl
  split
  · rfl
  · rfl

theorem mqttRemoveStateRecord_stateful {t : PublishRecords} (h : t.Stateful) (packetId : UInt16) :
    (mqttRemoveStateRecord t packetId).2.Stateful := by
  unfold mqttRemoveStateRecord
  dsimp only
  split
  · exact h
  split
  · exact h
  split
  · exact h
  · constructor
    · dsimp only
      exact updateRecord_ne_nil h.outgoing _ _ _
    · exact h.incoming

/-- Without one its search fails an assertion. -/
theorem mqttRemoveStateRecord_fails {t : PublishRecords} (h : t.Stateful) :
    ¬ (auditedMqttRemoveStateRecord t packetIdInvalid).All StateEvent.Passed := by
  intro hall
  rw [auditedMqttRemoveStateRecord, if_neg h.outgoing] at hall
  have hfind := (all_bind.1 hall).1
  have hassert : StateEvent.Passed (.asserted (.packetIdValid packetIdInvalid)) :=
    all_report.1 (all_bind.1 hfind).1
  exact hassert rfl

theorem mqttPubrelToResend_checks (t : PublishRecords) (cursor : Nat) :
    Checks (fun _ => True) (auditedMqttPubrelToResend t cursor) (mqttPubrelToResend t cursor) := by
  apply Agrees.bind (stateSelect_checks t ⟨by decide, by decide, by decide⟩ cursor)
  intro _
  exact .pure trivial

theorem mqttPublishToResend_checks (t : PublishRecords) (cursor : Nat) :
    Checks (fun _ => True) (auditedMqttPublishToResend t cursor) (mqttPublishToResend t cursor) :=
  stateSelect_checks t ⟨by decide, by decide, by decide⟩ cursor

end FreeMqtt

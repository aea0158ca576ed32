import FreeMqtt.State.Tables

/-!
# The order of the outgoing records

What the array of outgoing records says about the past: the records whose PUBLISH is to be
sent again stand in the order in which they were reserved, and those whose PUBREL is to be
sent again in the order in which their PUBRECs were accepted (`runCalls_ordered`).
-/

namespace FreeMqtt

open KeyedList

/-! ## Records by their states -/

/-- The states of records whose PUBLISH is to be sent again. -/
def publishStates : List PublishState := [.publishSend, .pubAckPending, .pubRecPending]

/-- The states of records whose PUBREL is to be sent again. -/
def pubrelStates : List PublishState := [.pubRelSend, .pubCompPending]

/-- The packet ids of the records in some states, in order. -/
def idsIn (states : List PublishState) (records : List PubAckInfo) : List UInt16 :=
  (records.filter fun r => r.publishState ∈ states).map PubAckInfo.packetId

/-- Whether a packet id has a record in some states. -/
def inState (states : List PublishState) (records : List PubAckInfo) (packetId : UInt16) : Bool :=
  records.any fun r => r.packetId = packetId ∧ r.publishState ∈ states

theorem inState_iff {states : List PublishState} {records : List PubAckInfo} {packetId : UInt16} :
    inState states records packetId = true ↔ packetId ∈ idsIn states records := by
  simp [inState, idsIn, and_comm, and_left_comm]

theorem idsIn_append (states : List PublishState) (l l' : List PubAckInfo) :
    idsIn states (l ++ l') = idsIn states l ++ idsIn states l' := by
  simp [idsIn]

theorem idsIn_cons (states : List PublishState) (r : PubAckInfo) (l : List PubAckInfo) :
    idsIn states (r :: l) = if r.publishState ∈ states then r.packetId :: idsIn states l
      else idsIn states l := by
  unfold idsIn
  split <;> simp_all

theorem idsIn_singleton (states : List PublishState) (r : PubAckInfo) :
    idsIn states [r] = if r.publishState ∈ states then [r.packetId] else [] :=
  idsIn_cons states r []

theorem idsIn_remove_sublist (states : List PublishState) (packetId : UInt16)
    (l : List PubAckInfo) :
    (idsIn states (remove PubAckInfo.packetId packetId l)).Sublist (idsIn states l) :=
  (List.Sublist.filter _ List.filter_sublist).map _

/-- Changes of states within the states leave the packet ids alone. -/
theorem idsIn_modify {states : List PublishState} {packetId : UInt16} {state : PublishState}
    {l : List PubAckInfo} (h : ∀ r ∈ l, r.packetId = packetId →
      (r.publishState ∈ states ↔ state ∈ states)) :
    idsIn states (modify PubAckInfo.packetId packetId (fun r => { r with publishState := state }) l) =
      idsIn states l := by
  induction l with
  | nil => rfl
  | cons r l ih =>
    have ih := ih fun x hx => h x (List.mem_cons_of_mem r hx)
    unfold KeyedList.modify at ih ⊢
    rw [List.map_cons, idsIn_cons, idsIn_cons, ih]
    split
    · rename_i hid
      rw [if_congr (h r (by simp) hid) rfl rfl]
    · rfl

theorem idsIn_eq_nil {states : List PublishState} {l : List PubAckInfo} :
    idsIn states l = [] ↔ ∀ r ∈ l, r.publishState ∉ states := by
  simp [idsIn]

/-- The first record in some states. -/
theorem exists_first (states : List PublishState) (l : List PubAckInfo) :
    idsIn states l = [] ∨ ∃ front r rest, l = front ++ r :: rest ∧ idsIn states front = [] ∧
      r.publishState ∈ states := by
  induction l with
  | nil => exact .inl rfl
  | cons x l ih =>
    by_cases hx : x.publishState ∈ states
    · exact .inr ⟨[], x, l, rfl, rfl, hx⟩
    · rcases ih with hnil | ⟨front, r, rest, rfl, hfront, hr⟩
      · exact .inl (by rw [idsIn_cons, if_neg hx, hnil])
      · exact .inr ⟨x :: front, r, rest, rfl, by rw [idsIn_cons, if_neg hx, hfront], hr⟩

/-- Empty slots have no state to be sent again. -/
theorem idsIn_live {states : List PublishState} (hnull : .null ∉ states) {records : List PubAckInfo}
    (h : ∀ r ∈ records, r.packetId = packetIdInvalid → r = .zero) :
    idsIn states (live records) = idsIn states records := by
  unfold idsIn live
  rw [List.filter_filter]
  congr 1
  refine List.filter_congr fun r hr => ?_
  by_cases hid : r.packetId = packetIdInvalid
  · have hstate : r.publishState = .null := by rw [h r hr hid]; rfl
    simp [hid, hstate, hnull]
  · simp [hid]

/-! ## Accepted packets -/

/-- The packet id that a call reserves. -/
def acceptedReservation : EngineCall × Status → Option UInt16
  | (.reserveState packetId qos, .success) => if qos = .qos0 then none else some packetId
  | _ => none

/-- The packet id of a PUBREC that a call accepts. -/
def acceptedPubrec : EngineCall × Status → Option UInt16
  | (.updateStateAck packetId .pubrec .receive, .success) => some packetId
  | _ => none

/-- The records stand in the order of the reservations and of the PUBRECs. -/
structure Ordered (reservations pubrecs : List UInt16) (records : List PubAckInfo) : Prop where
  table : Table .outgoing records
  publishes : (idsIn publishStates (live records)).Sublist (latest reservations)
  pubrels : (idsIn pubrelStates (live records)).Sublist (latest pubrecs)

theorem ordered_holes (n : Nat) : Ordered [] [] (holes n) :=
  ⟨table_holes .outgoing n, by simp [idsIn], by simp [idsIn]⟩

section

variable {reservations pubrecs : List UInt16} {records records' : List PubAckInfo}

theorem Ordered.of_live_eq (h : Ordered reservations pubrecs records) (ht : Table .outgoing records')
    (hlive : live records' = live records) : Ordered reservations pubrecs records' :=
  ⟨ht, hlive ▸ h.publishes, hlive ▸ h.pubrels⟩

/-- A record that is gone. -/
theorem Ordered.removed (h : Ordered reservations pubrecs records) (ht : Table .outgoing records')
    {packetId : UInt16} (hlive : live records' = remove PubAckInfo.packetId packetId (live records)) :
    Ordered reservations pubrecs records' :=
  ⟨ht, hlive ▸ (idsIn_remove_sublist ..).trans h.publishes,
    hlive ▸ (idsIn_remove_sublist ..).trans h.pubrels⟩

/-- A record that is reserved. -/
theorem Ordered.reserved (h : Ordered reservations pubrecs records) (ht : Table .outgoing records')
    {packetId : UInt16} {qos : QoS} (hq : qos ≠ .qos0)
    (hmem : packetId ∉ (live records).map PubAckInfo.packetId)
    (hlive : live records' = live records ++ [firstRecord .outgoing packetId qos]) :
    Ordered (reservations ++ [packetId]) pubrecs records' := by
  have hstate : (firstRecord .outgoing packetId qos).publishState = .publishSend := by
    rw [firstRecord_outgoing packetId hq]
  refine ⟨ht, ?_, ?_⟩
  · rw [hlive, idsIn_append, idsIn_singleton, hstate, if_pos (by decide)]
    refine sublist_latest_concat h.publishes fun hin => hmem ?_
    exact (List.filter_sublist.map PubAckInfo.packetId).subset hin
  · rw [hlive, idsIn_append, idsIn_singleton, hstate, if_neg (by decide), List.append_nil]
    exact h.pubrels

/-- A record whose PUBREC is accepted. -/
theorem Ordered.pubrec (h : Ordered reservations pubrecs records) (ht : Table .outgoing records')
    {r : PubAckInfo} (hlive : live records' = remove PubAckInfo.packetId r.packetId (live records) ++
      [{ r with publishState := .pubRelSend }]) :
    Ordered reservations (pubrecs ++ [r.packetId]) records' := by
  have hremoved : ∀ states, (idsIn states (remove PubAckInfo.packetId r.packetId (live records))).Sublist
      (idsIn states (live records)) := fun states => idsIn_remove_sublist ..
  refine ⟨ht, ?_, ?_⟩
  · rw [hlive, idsIn_append, idsIn_singleton, if_neg (by simp [publishStates]), List.append_nil]
    exact (hremoved _).trans h.publishes
  · rw [hlive, idsIn_append, idsIn_singleton, if_pos (by simp [pubrelStates])]
    refine sublist_latest_concat ((hremoved _).trans h.pubrels) fun hin => ?_
    exact notMem_keys_remove ((List.filter_sublist.map PubAckInfo.packetId).subset hin)

/-- A record that goes on to a state of the same kind. -/
theorem Ordered.modified (h : Ordered reservations pubrecs records) (ht : Table .outgoing records')
    {packetId : UInt16} {state : PublishState}
    (hlive : live records' = modify PubAckInfo.packetId packetId
      (fun r => { r with publishState := state }) (live records))
    (hkind : ∀ r ∈ live records, r.packetId = packetId →
      (r.publishState ∈ publishStates ↔ state ∈ publishStates) ∧
        (r.publishState ∈ pubrelStates ↔ state ∈ pubrelStates)) :
    Ordered reservations pubrecs records' := by
  refine ⟨ht, ?_, ?_⟩
  · rw [hlive, idsIn_modify fun r hr hid => (hkind r hr hid).1]
    exact h.publishes
  · rw [hlive, idsIn_modify fun r hr hid => (hkind r hr hid).2]
    exact h.pubrels

/-- An outgoing record is moved to the end by PUBREC, and by nothing else. -/
theorem react_outgoing {r : PubAckInfo} (h : ValidRecord .outgoing r) (packet : Packet) :
    react .outgoing r packet = .illegal ∨
      (packet = .ack .pubrec ∧ react .outgoing r packet = .advance .pubRelSend) ∨
      packet ≠ .ack .pubrec ∧ (react .outgoing r packet = .keep ∨
        react .outgoing r packet = .complete ∨
        ∃ state, react .outgoing r packet = .advance state ∧ state ≠ .pubRelSend ∧
          (r.publishState ∈ publishStates ↔ state ∈ publishStates) ∧
          (r.publishState ∈ pubrelStates ↔ state ∈ pubrelStates)) := by
  obtain ⟨packetId, qos, state⟩ := r
  change state ∈ phases .outgoing qos at h
  cases qos <;> cases state <;> first
    | exact absurd h (by decide)
    | rcases packet with _ | packetType
      · first
          | exact .inl rfl
          | exact .inr (.inr ⟨by decide, .inl rfl⟩)
          | exact .inr (.inr ⟨by decide, .inr (.inr ⟨_, rfl, by decide, by simp [publishStates],
              by simp [pubrelStates]⟩)⟩)
      · cases packetType <;> first
          | exact .inl rfl
          | exact .inr (.inl ⟨rfl, rfl⟩)
          | exact .inr (.inr ⟨by decide, .inl rfl⟩)
          | exact .inr (.inr ⟨by decide, .inr (.inl rfl)⟩)
          | exact .inr (.inr ⟨by decide, .inr (.inr ⟨_, rfl, by decide, by simp [publishStates],
              by simp [pubrelStates]⟩)⟩)

/-- A packet for a record that is found. -/
theorem Ordered.handled (h : Ordered reservations pubrecs records) (ht : Table .outgoing records')
    {packetId : UInt16} {packet : Packet} {r : PubAckInfo} {status : Status}
    (hr : liveRecord records packetId = some r)
    (hh : (status, live records') = handleEntry .outgoing packet r (live records)) :
    Ordered reservations
      (if packet = .ack .pubrec ∧ status = .success then pubrecs ++ [packetId] else pubrecs)
      records' := by
  obtain rfl : r.packetId = packetId := lookup_key hr
  have hstatus := congrArg Prod.fst hh
  have hlive := congrArg Prod.snd hh
  dsimp only at hstatus hlive
  rw [handleEntry_status] at hstatus
  unfold handleEntry at hlive
  rcases react_outgoing (h.table.valid r (lookup_mem hr)) packet with
    hill | ⟨hpacket, hadv⟩ | ⟨hpacket, hkeep | hdone | ⟨state, hadv, hne, hkind⟩⟩
  · rw [if_pos hill] at hstatus
    rw [hill] at hlive
    rw [if_neg (by simp [hstatus])]
    exact h.of_live_eq ht hlive
  · rw [hadv, if_neg (by simp)] at hstatus
    rw [hadv] at hlive
    rw [if_pos ⟨hpacket, hstatus⟩]
    exact h.pubrec ht hlive
  · rw [hkeep] at hlive
    rw [if_neg fun hp => hpacket hp.1]
    exact h.of_live_eq ht hlive
  · rw [hdone] at hlive
    rw [if_neg fun hp => hpacket hp.1]
    exact h.removed ht hlive
  · rw [hadv] at hlive
    dsimp only at hlive
    rw [if_neg hne] at hlive
    rw [if_neg fun hp => hpacket hp.1]
    refine h.modified ht hlive fun x hx hid => ?_
    rwa [List.inj_on_of_nodup_map h.table.nodup hx (lookup_mem hr) hid]

end

/-! ## Runs -/

theorem mqttUpdateStatePublish_receive_outgoing (t : PublishRecords) (packetId : UInt16)
    (qos : QoS) : (mqttUpdateStatePublish t packetId .receive qos).2.2.outgoingPublishRecords =
      t.outgoingPublishRecords := by
  unfold mqttUpdateStatePublish updateStatePublish
  simp only [reduceCtorEq, if_false, false_and, if_true]
  split_ifs <;> rfl

theorem mqttUpdateStateAck_outgoing (t : PublishRecords) (packetId : UInt16)
    {packetType : PubAckType} {opType : StateOperation}
    (h : isPublishOutgoing packetType opType = false) :
    (mqttUpdateStateAck t packetId packetType opType).2.2.outgoingPublishRecords =
      t.outgoingPublishRecords := by
  unfold mqttUpdateStateAck
  split
  · rfl
  · dsimp only
    split
    · rfl
    · rw [h]
      rfl

theorem acceptedPubrec_ack (packetId : UInt16) (packetType : PubAckType) (opType : StateOperation)
    (status : Status) :
    acceptedPubrec (.updateStateAck packetId packetType opType, status) =
      if packetType = .pubrec ∧ opType = .receive ∧ status = .success then some packetId
      else none := by
  cases packetType <;> cases opType <;> cases status <;> rfl

/-- A call keeps the order. -/
def KeepsOrder (t : PublishRecords) (call : EngineCall) : Prop :=
  ∀ reservations pubrecs : List UInt16, Ordered reservations pubrecs t.outgoingPublishRecords →
    Ordered (reservations ++ (acceptedReservation (call, (call.run t).1)).toList)
      (pubrecs ++ (acceptedPubrec (call, (call.run t).1)).toList)
      (call.run t).2.outgoingPublishRecords

section KeepsOrder

variable {t : PublishRecords}

/-- A call that leaves the outgoing records alone, and accepts nothing. -/
theorem keepsOrder_of_eq (call : EngineCall) (result : Status × PublishRecords)
    (hrun : call.run t = result)
    (hrecords : result.2.outgoingPublishRecords = t.outgoingPublishRecords)
    (hres : acceptedReservation (call, result.1) = none)
    (hrec : acceptedPubrec (call, result.1) = none) : KeepsOrder t call := by
  intro reservations pubrecs h
  rw [hrun, hres, hrec, hrecords]
  simpa using h

theorem keepsOrder_reserveState (packetId : UInt16) (qos : QoS) :
    KeepsOrder t (.reserveState packetId qos) := by
  by_cases hq : qos = .qos0
  · exact keepsOrder_of_eq _ (.success, t) (if_pos hq) rfl (by simp [acceptedReservation, hq]) rfl
  by_cases hid : packetId = packetIdInvalid
  · exact keepsOrder_of_eq _ (.badParameter, t) ((if_neg hq).trans (if_pos hid)) rfl rfl rfl
  intro reservations pubrecs h
  have ht : Table .outgoing (t.table .outgoing) := h.table
  obtain ⟨status, records', heq, htab, -, ho⟩ := mqttReserveState_spec hid ht hq
  have hrun : (EngineCall.reserveState packetId qos).run t = _ := heq
  rw [hrun]
  cases ho with
  | collision _ hlive => simpa [acceptedReservation, acceptedPubrec] using h.of_live_eq htab hlive
  | full _ hlive => simpa [acceptedReservation, acceptedPubrec] using h.of_live_eq htab hlive
  | added hmem hlive =>
    have hmem' : packetId ∉ (live t.outgoingPublishRecords).map PubAckInfo.packetId := hmem
    simpa [acceptedReservation, acceptedPubrec, hq] using h.reserved htab hq hmem' hlive

theorem keepsOrder_updateStatePublish (packetId : UInt16) (opType : StateOperation) (qos : QoS) :
    KeepsOrder t (.updateStatePublish packetId opType qos) := by
  intro reservations pubrecs h
  have ht : Table .outgoing (t.table .outgoing) := h.table
  have hres : ∀ status,
      acceptedReservation (.updateStatePublish packetId opType qos, status) = none := fun _ => rfl
  have hrec : ∀ status, acceptedPubrec (.updateStatePublish packetId opType qos, status) = none :=
    fun _ => rfl
  rw [hres, hrec]
  change Ordered _ _ (mqttUpdateStatePublish t packetId opType qos).2.2.outgoingPublishRecords
  simp only [Option.toList_none, List.append_nil]
  by_cases hq : qos = .qos0
  · rw [mqttUpdateStatePublish, if_pos hq]
    exact h
  by_cases hid : packetId = packetIdInvalid
  · rw [mqttUpdateStatePublish, if_neg hq, if_pos hid]
    exact h
  cases opType with
  | receive =>
    rw [mqttUpdateStatePublish_receive_outgoing]
    exact h
  | send =>
    by_cases hr : ∃ r, liveRecord (t.table .outgoing) packetId = some r ∧ r.qos = qos
    · obtain ⟨r, hr, hrq⟩ := hr
      obtain ⟨status, records', heq, htab, -, hh⟩ :=
        mqttUpdateStatePublish_send_some hid ht hq hr hrq
      rw [heq]
      have hhandled := h.handled htab hr hh
      rwa [if_neg (by simp)] at hhandled
    · rw [mqttUpdateStatePublish_send_none hid ht hq fun r hr' hrq => hr ⟨r, hr', hrq⟩]
      exact h

/-- An acknowledgement of an outgoing publish that has a record. -/
theorem keepsOrder_ack_some {packetId : UInt16} {packetType : PubAckType} {opType : StateOperation}
    (hid : packetId ≠ packetIdInvalid) (hout : isPublishOutgoing packetType opType = true)
    {r : PubAckInfo} (hr : liveRecord (t.table .outgoing) packetId = some r) :
    KeepsOrder t (.updateStateAck packetId packetType opType) := by
  intro reservations pubrecs h
  have ht : Table .outgoing (t.table .outgoing) := h.table
  have hd : ackDirection packetType opType = .outgoing :=
    (ackDirection_eq packetType opType).trans (if_pos hout)
  have hres : ∀ status, acceptedReservation (.updateStateAck packetId packetType opType, status) =
    none := fun _ => rfl
  obtain ⟨status, records', heq, htab, -, hcases⟩ :=
    mqttUpdateStateAck_some hid (hd ▸ ht) (hd ▸ hr)
  rw [hd] at heq htab hcases
  have hrun : (EngineCall.updateStateAck packetId packetType opType).run t =
      (status, t.setTable .outgoing records') := by rw [EngineCall.run, heq]
  rw [hrun, hres, acceptedPubrec_ack]
  simp only [Option.toList_none, List.append_nil]
  rcases hcases with hh | ⟨-, -, -, rfl, hlive⟩
  · have hhandled := h.handled htab hr hh
    have hreceive : packetType = .pubrec → opType = .receive := by
      rintro rfl
      revert hout
      cases opType <;> decide
    by_cases hpubrec : packetType = .pubrec ∧ status = .success
    · obtain ⟨rfl, rfl⟩ := hpubrec
      rw [if_pos ⟨rfl, hreceive rfl, rfl⟩]
      rwa [if_pos ⟨rfl, rfl⟩] at hhandled
    · rw [if_neg fun h => hpubrec ⟨h.1, h.2.2⟩, Option.toList_none, List.append_nil]
      rwa [if_neg fun h => hpubrec ⟨by simpa using h.1, h.2⟩] at hhandled
  · rw [if_neg (by simp)]
    simpa using h.removed htab hlive

theorem keepsOrder_updateStateAck (packetId : UInt16) (packetType : PubAckType)
    (opType : StateOperation) : KeepsOrder t (.updateStateAck packetId packetType opType) := by
  by_cases hid : packetId = packetIdInvalid
  · exact keepsOrder_of_eq _ (.badParameter, t)
      (by rw [EngineCall.run, mqttUpdateStateAck, if_pos hid]) rfl rfl
      (by rw [acceptedPubrec_ack, if_neg (by simp)])
  cases hout : isPublishOutgoing packetType opType with
  | false =>
    refine keepsOrder_of_eq _ _ rfl (mqttUpdateStateAck_outgoing t packetId hout) rfl ?_
    rw [acceptedPubrec_ack, if_neg]
    rintro ⟨rfl, rfl, -⟩
    exact absurd hout (by decide)
  | true =>
    have hd : ackDirection packetType opType = .outgoing :=
      (ackDirection_eq packetType opType).trans (if_pos hout)
    cases hr : liveRecord (t.table .outgoing) packetId with
    | none =>
      refine keepsOrder_of_eq _ (.badResponse, t) ?_ rfl rfl ?_
      · rw [EngineCall.run, mqttUpdateStateAck_none hid (hd ▸ hr)]
      · rw [acceptedPubrec_ack, if_neg (by simp)]
    | some r => exact keepsOrder_ack_some hid hout hr

theorem keepsOrder_removeStateRecord (packetId : UInt16) :
    KeepsOrder t (.removeStateRecord packetId) := by
  intro reservations pubrecs h
  have ht : Table .outgoing (t.table .outgoing) := h.table
  by_cases hid : packetId = packetIdInvalid
  · subst hid
    exact keepsOrder_of_eq (.removeStateRecord packetIdInvalid) _
      (mqttRemoveStateRecord_invalid ht.toSlots) rfl rfl rfl _ _ h
  cases hr : liveRecord (t.table .outgoing) packetId with
  | none =>
    exact keepsOrder_of_eq (.removeStateRecord packetId) _ (mqttRemoveStateRecord_none hid hr) rfl
      rfl rfl _ _ h
  | some r =>
    obtain ⟨records', heq, htab, -, hlive⟩ := mqttRemoveStateRecord_some ht hr
    have hrun : (EngineCall.removeStateRecord packetId).run t = _ := heq
    rw [hrun]
    simpa [acceptedReservation, acceptedPubrec] using h.removed htab hlive

end KeepsOrder

/-- Every call keeps the order. -/
theorem Ordered.run {reservations pubrecs : List UInt16} {t : PublishRecords}
    (h : Ordered reservations pubrecs t.outgoingPublishRecords) (call : EngineCall) :
    Ordered (reservations ++ (acceptedReservation (call, (call.run t).1)).toList)
      (pubrecs ++ (acceptedPubrec (call, (call.run t).1)).toList)
      (call.run t).2.outgoingPublishRecords := by
  cases call with
  | reserveState packetId qos => exact keepsOrder_reserveState packetId qos _ _ h
  | updateStatePublish packetId opType qos =>
    exact keepsOrder_updateStatePublish packetId opType qos _ _ h
  | updateStateAck packetId packetType opType =>
    exact keepsOrder_updateStateAck packetId packetType opType _ _ h
  | removeStateRecord packetId => exact keepsOrder_removeStateRecord packetId _ _ h

/-- The packet ids that a run reserves, in order. -/
def acceptedReservations (calls : List EngineCall) (statuses : List Status) : List UInt16 :=
  (calls.zip statuses).filterMap acceptedReservation

/-- The packet ids of the PUBRECs that a run accepts, in order. -/
def acceptedPubrecs (calls : List EngineCall) (statuses : List Status) : List UInt16 :=
  (calls.zip statuses).filterMap acceptedPubrec

theorem filterMap_cons_toList {α β : Type*} (f : α → Option β) (a : α) (l : List α) :
    (a :: l).filterMap f = (f a).toList ++ l.filterMap f := by
  cases h : f a <;> simp [h]

theorem Ordered.runCalls {reservations pubrecs : List UInt16} {t : PublishRecords}
    (h : Ordered reservations pubrecs t.outgoingPublishRecords) (calls : List EngineCall) :
    Ordered (reservations ++ acceptedReservations calls (runCalls t calls).1)
      (pubrecs ++ acceptedPubrecs calls (runCalls t calls).1)
      (FreeMqtt.runCalls t calls).2.outgoingPublishRecords := by
  induction calls generalizing t reservations pubrecs with
  | nil => simpa [FreeMqtt.runCalls, acceptedReservations, acceptedPubrecs] using h
  | cons call calls ih =>
    have hrest := ih (h.run call)
    unfold acceptedReservations acceptedPubrecs at hrest ⊢
    rw [FreeMqtt.runCalls]
    dsimp only
    rw [List.zip_cons_cons, filterMap_cons_toList, filterMap_cons_toList, ← List.append_assoc,
      ← List.append_assoc]
    exact hrest

/-- After every run the records to be sent again are the ones of the last reservations and of
the last PUBRECs of their packet ids, in the order of these. -/
theorem runCalls_ordered (n m : Nat) (calls : List EngineCall) :
    let run := runCalls (.zeroed n m) calls
    let records := run.2.outgoingPublishRecords
    Table .outgoing records ∧
      idsIn publishStates records =
        (latest (acceptedReservations calls run.1)).filter (inState publishStates records) ∧
      idsIn pubrelStates records =
        (latest (acceptedPubrecs calls run.1)).filter (inState pubrelStates records) := by
  have h := (ordered_holes n).runCalls (t := .zeroed n m) calls
  rw [List.nil_append, List.nil_append] at h
  dsimp only
  refine ⟨h.table, ?_, ?_⟩
  · refine eq_filter_of_sublist ?_ (nodup_latest _) fun id _ => inState_iff
    rw [← idsIn_live (by decide) h.table.zero]
    exact h.publishes
  · refine eq_filter_of_sublist ?_ (nodup_latest _) fun id _ => inState_iff
    rw [← idsIn_live (by decide) h.table.zero]
    exact h.pubrels

end FreeMqtt

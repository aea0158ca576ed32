import FreeMqtt.State.Refinement

/-!
# The discipline of the record states

How the record of one packet id moves in one call, whatever the call is: it stays, starts
in the first phase, advances to the next phase, or is gone after the last one or by
`MQTT_RemoveStateRecord`. This holds for every capacity, except that a PUBREC can lose
its record when the loop of `addRecord` visits at least two slots but not all of them.
-/

namespace FreeMqtt

open KeyedList

/-- What a call may do to the record of `packetId` in the array of direction `d`. -/
inductive Moves (d : Direction) (packetId : UInt16) (call : EngineCall) :
    Option PubAckInfo → Option PubAckInfo → Prop
  | stay (o : Option PubAckInfo) : Moves d packetId call o o
  | start {qos : QoS} (hq : qos ≠ .qos0) :
      Moves d packetId call none (some (firstRecord d packetId qos))
  | advance {r : PubAckInfo} {state : PublishState}
      (h : next d r.qos r.publishState = some state) :
      Moves d packetId call (some r) (some { r with publishState := state })
  | complete {r : PubAckInfo} (h : next d r.qos r.publishState = none) :
      Moves d packetId call (some r) none
  | cancel {r : PubAckInfo} (hd : d = .outgoing) (hc : call = .removeStateRecord packetId) :
      Moves d packetId call (some r) none

/-- The outgoing array that `addRecord` visits in part, with room for two records. -/
def PartlyVisited (records : List PubAckInfo) : Prop :=
  2 ≤ scanBound records ∧ scanBound records < records.length

/-! ## One array -/

section

variable {d : Direction} {call : EngineCall} {records records' : List PubAckInfo}

theorem moves_of_added {r : PubAckInfo} {status : Status}
    (ho : AddOutcome records r records' status) {qos : QoS} (hq : qos ≠ .qos0)
    (hr : r = firstRecord d r.packetId qos) (packetId : UInt16) :
    Moves d packetId call (liveRecord records packetId) (liveRecord records' packetId) := by
  unfold liveRecord
  cases ho with
  | collision _ hlive => rw [hlive]; exact .stay _
  | full _ hlive => rw [hlive]; exact .stay _
  | added hmem hlive =>
    rw [hlive, lookup_append, lookup_singleton]
    by_cases hid : r.packetId = packetId
    · rw [lookup_eq_none_iff_notMem.2 (hid ▸ hmem), if_pos hid, hr, hid]
      exact .start hq
    · rw [if_neg hid, Option.or_none]
      exact .stay _

theorem moves_of_handled {packet : Packet} {packetId' : UInt16} {r : PubAckInfo}
    (hr : liveRecord records packetId' = some r) {status : Status}
    (hh : (status, live records') = handleEntry d packet r (live records)) (packetId : UInt16) :
    Moves d packetId call (liveRecord records packetId) (liveRecord records' packetId) := by
  obtain rfl : r.packetId = packetId' := lookup_key hr
  unfold liveRecord at hr ⊢
  rw [show live records' = (handleEntry d packet r (live records)).2 from congrArg Prod.snd hh,
    lookup_handleEntry d packet hr]
  split
  · rename_i hp
    rw [hp, hr]
    cases hreact : react d r packet with
    | illegal => exact .stay _
    | keep => exact .stay _
    | complete => exact .complete (react_eq_complete hreact)
    | advance state => exact .advance (react_eq_advance hreact)
  · exact .stay _

end

/-! ## One call -/

theorem moves_setTable {t : PublishRecords} {d : Direction} {call : EngineCall}
    {records : List PubAckInfo} (packetId : UInt16)
    (h : Moves d packetId call (liveRecord (t.table d) packetId) (liveRecord records packetId))
    (d' : Direction) :
    Moves d' packetId call (liveRecord (t.table d') packetId)
      (liveRecord ((t.setTable d records).table d') packetId) := by
  by_cases hd : d' = d
  · subst hd
    rwa [table_setTable]
  · rw [table_setTable_of_ne t hd]
    exact .stay _

theorem scanBound_setTable {t : PublishRecords} {d : Direction} {records : List PubAckInfo}
    (hlen : records.length = (t.table d).length) (d' : Direction) :
    ((t.setTable d records).table d').length = (t.table d').length := by
  by_cases hd : d' = d
  · subst hd
    rwa [table_setTable]
  · rw [table_setTable_of_ne t hd]

/-- A call keeps the invariant and the capacities, and moves every record along its handshake. -/
structure MovesRecords (t : PublishRecords) (call : EngineCall) : Prop where
  tables : Tables (call.run t).2
  length : ∀ d, ((call.run t).2.table d).length = (t.table d).length
  moves : ∀ d packetId, Moves d packetId call (liveRecord (t.table d) packetId)
    (liveRecord ((call.run t).2.table d) packetId)

section MovesRecords

variable {t : PublishRecords} {call : EngineCall}

theorem movesRecords_of_eq (h : Tables t) (hrun : (call.run t).2 = t) : MovesRecords t call := by
  refine ⟨?_, fun d => ?_, fun d packetId => ?_⟩
  · rw [hrun]
    exact h
  · rw [hrun]
  · rw [hrun]
    exact .stay _

/-- A call that changes one of the arrays. -/
theorem movesRecords_of_setTable (h : Tables t) {d : Direction} {records : List PubAckInfo}
    (hrun : (call.run t).2 = t.setTable d records) (htab : Table d records)
    (hlen : records.length = (t.table d).length)
    (hmoves : ∀ packetId, Moves d packetId call (liveRecord (t.table d) packetId)
      (liveRecord records packetId)) : MovesRecords t call := by
  refine ⟨?_, ?_, ?_⟩
  · rw [hrun]
    exact h.setTable htab
  · rw [hrun]
    exact scanBound_setTable hlen
  · rw [hrun]
    exact fun d' packetId => moves_setTable packetId (hmoves packetId) d'

theorem movesRecords_reserveState (h : Tables t) (packetId : UInt16) (qos : QoS) :
    MovesRecords t (.reserveState packetId qos) := by
  by_cases hq : qos = .qos0
  · exact movesRecords_of_eq h (by rw [EngineCall.run, mqttReserveState, if_pos hq])
  by_cases hid : packetId = packetIdInvalid
  · exact movesRecords_of_eq h (by rw [EngineCall.run, mqttReserveState, if_neg hq, if_pos hid])
  obtain ⟨status, records', heq, htab, hlen, ho⟩ := mqttReserveState_spec hid (h .outgoing) hq
  exact movesRecords_of_setTable h (by rw [EngineCall.run, heq]) htab hlen (moves_of_added ho hq rfl)

theorem movesRecords_updateStatePublish (h : Tables t) (packetId : UInt16) (opType : StateOperation)
    (qos : QoS) : MovesRecords t (.updateStatePublish packetId opType qos) := by
  by_cases hq : qos = .qos0
  · exact movesRecords_of_eq h (by simp [EngineCall.run, mqttUpdateStatePublish, hq])
  by_cases hid : packetId = packetIdInvalid
  · exact movesRecords_of_eq h (by simp [EngineCall.run, mqttUpdateStatePublish, hq, hid])
  cases opType with
  | receive =>
    obtain ⟨status, records', heq, htab, hlen, ho⟩ :=
      mqttUpdateStatePublish_receive_spec hid (h .incoming) hq
    exact movesRecords_of_setTable h (congrArg (fun x => x.2.2) heq) htab hlen
      (moves_of_added ho hq rfl)
  | send =>
    by_cases hfound : ∃ r, liveRecord (t.table .outgoing) packetId = some r ∧ r.qos = qos
    · obtain ⟨r, hr, hrq⟩ := hfound
      obtain ⟨status, records', heq, htab, hlen, hhandle⟩ :=
        mqttUpdateStatePublish_send_some hid (h .outgoing) hq hr hrq
      exact movesRecords_of_setTable h (congrArg (fun x => x.2.2) heq) htab hlen
        (moves_of_handled hr hhandle)
    · exact movesRecords_of_eq h (congrArg (fun x => x.2.2)
        (mqttUpdateStatePublish_send_none hid (h .outgoing) hq
          fun r hr hrq => hfound ⟨r, hr, hrq⟩))

/-- An acknowledgement, when the outgoing array is not visited in part. -/
theorem movesRecords_updateStateAck (h : Tables t) (hv : ¬ PartlyVisited (t.table .outgoing))
    (packetId : UInt16) (packetType : PubAckType) (opType : StateOperation) :
    MovesRecords t (.updateStateAck packetId packetType opType) := by
  by_cases hid : packetId = packetIdInvalid
  · exact movesRecords_of_eq h (by simp [EngineCall.run, mqttUpdateStateAck, hid])
  cases hr : liveRecord (t.table (ackDirection packetType opType)) packetId with
  | none =>
    exact movesRecords_of_eq h (congrArg (fun x => x.2.2) (mqttUpdateStateAck_none hid hr))
  | some r =>
    obtain ⟨status, records', heq, htab, hlen, hhandle | hlost⟩ :=
      mqttUpdateStateAck_some hid (h _) hr
    · exact movesRecords_of_setTable h (congrArg (fun x => x.2.2) heq) htab hlen
        (moves_of_handled hr hhandle)
    · -- only outgoing records reach the state after a PUBREC
      have hd : ackDirection packetType opType = .outgoing := by
        have hreact := mem_phases_of_next (react_eq_advance hlost.2.2.1)
        revert hreact
        cases ackDirection packetType opType <;> cases r.qos <;> simp [phases]
      rw [hd] at hlost
      exact absurd ⟨hlost.1, hlost.2.1⟩ hv

theorem movesRecords_removeStateRecord (h : Tables t) (packetId : UInt16) :
    MovesRecords t (.removeStateRecord packetId) := by
  by_cases hid : packetId = packetIdInvalid
  · exact movesRecords_of_eq h
      (congrArg Prod.snd (hid ▸ mqttRemoveStateRecord_invalid (h .outgoing).toSlots))
  cases hr : liveRecord (t.table .outgoing) packetId with
  | none => exact movesRecords_of_eq h (congrArg Prod.snd (mqttRemoveStateRecord_none hid hr))
  | some r =>
    obtain ⟨records', heq, htab, hlen, hlive⟩ := mqttRemoveStateRecord_some (h .outgoing) hr
    refine movesRecords_of_setTable h (by rw [EngineCall.run, heq]) htab hlen fun packetId' => ?_
    rw [liveRecord, liveRecord, hlive, lookup_remove]
    by_cases hp : packetId' = packetId
    · rw [if_pos hp, hp]
      rw [liveRecord] at hr
      rw [hr]
      exact .cancel rfl rfl
    · rw [if_neg hp]
      exact .stay _

end MovesRecords

/-- Every call moves the records along their handshakes, when the outgoing array is not visited in
part. -/
theorem run_moves {t : PublishRecords} (h : Tables t)
    (hv : ¬ PartlyVisited (t.table .outgoing)) (call : EngineCall) : MovesRecords t call := by
  cases call with
  | reserveState packetId qos => exact movesRecords_reserveState h packetId qos
  | updateStatePublish packetId opType qos =>
    exact movesRecords_updateStatePublish h packetId opType qos
  | updateStateAck packetId packetType opType =>
    exact movesRecords_updateStateAck h hv packetId packetType opType
  | removeStateRecord packetId => exact movesRecords_removeStateRecord h packetId

/-! ## Runs -/

theorem run_moves_runCalls {t : PublishRecords} (h : Tables t)
    (hv : ¬ PartlyVisited (t.table .outgoing)) (calls : List EngineCall) :
    Tables (runCalls t calls).2 ∧ ¬ PartlyVisited ((runCalls t calls).2.table .outgoing) := by
  induction calls generalizing t with
  | nil => exact ⟨h, hv⟩
  | cons call calls ih =>
    obtain ⟨hnext, hlen, -⟩ := run_moves h hv call
    refine ih hnext ?_
    unfold PartlyVisited at hv ⊢
    rwa [hlen, scanBound_congr (hlen .outgoing)]

/-- Every reachable record is in a phase of the handshake of its direction and QoS, packet
ids are not live twice, and every call moves every record along its handshake. -/
def Disciplined (count : Direction → Nat) : Prop :=
  ∀ (calls : List EngineCall) (d : Direction),
    let t := (runCalls (.zero count) calls).2
    (∀ r ∈ live (t.table d), ValidRecord d r) ∧
      ((live (t.table d)).map PubAckInfo.packetId).Nodup ∧
      ∀ (call : EngineCall) (packetId : UInt16),
        Moves d packetId call (liveRecord (t.table d) packetId)
          (liveRecord ((call.run t).2.table d) packetId)

/-- The discipline holds for every capacity up to the range of the `int32_t` index of
`addRecord`, and beyond it when the index visits at most one slot. Nothing is said by this about
the code for a capacity of `2 ^ 31` modulo `2 ^ 32`: there `(int32_t)recordCount - 1` is a signed
overflow, undefined in C, while here it is a difference of integers. -/
theorem disciplined_of_int32Cast {count : Direction → Nat}
    (h : int32Cast (count .outgoing) = count .outgoing ∨ int32Cast (count .outgoing) ≤ 1) :
    Disciplined count := by
  have hv : ¬ PartlyVisited ((PublishRecords.zero count).table .outgoing) := by
    unfold PartlyVisited scanBound
    rw [table_zero, length_holes]
    omega
  intro calls d
  obtain ⟨ht, hv'⟩ := run_moves_runCalls (tables_zero count) hv calls
  exact ⟨(ht d).valid, (ht d).nodup, fun call => (run_moves ht hv' call).moves d⟩

theorem disciplined_of_int32Cast_ten : Disciplined fun _ => 10 :=
  disciplined_of_int32Cast (.inl (by decide))

/-! ## A PUBREC that loses its record -/

/-- `addRecord` for a record with a new packet id, when its index visits two slots. -/
theorem addRecord_two {f : List PubAckInfo} {k : Nat}
    (hb : int32Cast (f ++ holes (k + 1)).length = 2)
    (hlast : ∀ r, f.getLast? = some r → r.packetId ≠ packetIdInvalid)
    (hle : f.length ≤ 2) (r : PubAckInfo)
    (hr : r.packetId ∉ (live f).map PubAckInfo.packetId) :
    addRecord (f ++ holes (k + 1)) r.packetId r.qos r.publishState =
      if f.length = 2 then (.noMemory, f ++ holes (k + 1))
      else (.success, f ++ r :: holes k) := by
  have hbound : scanBound (f ++ holes (k + 1)) = 2 := by
    rw [scanBound, hb]
    rfl
  rw [addRecord_holes hlast (by omega), if_neg hr, hbound]
  simp only [eq_comm]

/-- Two QoS 2 publishes in an array of which `addRecord` visits two slots: the PUBREC for
the first deletes its record and finds no slot behind the second. -/
theorem pubrec_noMemory (count : Direction → Nat) {k : Nat} (hk : count .outgoing = k + 3)
    (hb : int32Cast (k + 3) = 2) :
    let t := (runCalls (.zero count) [.reserveState 1 .qos2, .reserveState 2 .qos2,
      .updateStatePublish 1 .send .qos2]).2
    liveRecord (t.table .outgoing) 1 = some ⟨1, .qos2, .pubRecPending⟩ ∧
      (mqttUpdateStateAck t 1 .pubrec .receive).1 = .noMemory ∧
      liveRecord ((mqttUpdateStateAck t 1 .pubrec .receive).2.2.table .outgoing) 1 = none := by
  have hadd₁ : addRecord (holes (k + 3)) 1 .qos2 .publishSend =
      (.success, ⟨1, .qos2, .publishSend⟩ :: holes (k + 2)) :=
    addRecord_two (f := []) (by simpa using hb) (by simp) (by simp)
      ⟨1, .qos2, .publishSend⟩ (by simp)
  have hadd₂ : addRecord (⟨1, .qos2, .publishSend⟩ :: holes (k + 2)) 2 .qos2 .publishSend =
      (.success, ⟨1, .qos2, .publishSend⟩ :: ⟨2, .qos2, .publishSend⟩ :: holes (k + 1)) :=
    addRecord_two (f := [⟨1, .qos2, .publishSend⟩]) (by simpa using hb) (by simp; decide)
      (by simp) ⟨2, .qos2, .publishSend⟩ (by decide)
  have hadd₃ : addRecord (.zero :: ⟨2, .qos2, .publishSend⟩ :: holes (k + 1)) 1 .qos2
      .pubRelSend = (.noMemory, .zero :: ⟨2, .qos2, .publishSend⟩ :: holes (k + 1)) :=
    addRecord_two (f := [.zero, ⟨2, .qos2, .publishSend⟩]) (by simpa using hb)
      (by simp; decide) (by simp) ⟨1, .qos2, .pubRelSend⟩ (by decide)
  have hzero : PublishRecords.zero count = ⟨holes (k + 3), holes (count .incoming)⟩ := by
    rw [PublishRecords.zero, hk]
    rfl
  have h₁ : mqttReserveState (.zero count) 1 .qos2 =
      (.success, ⟨⟨1, .qos2, .publishSend⟩ :: holes (k + 2), holes (count .incoming)⟩) := by
    simp only [mqttReserveState, hzero, hadd₁]
    rfl
  have h₂ : mqttReserveState ⟨⟨1, .qos2, .publishSend⟩ :: holes (k + 2), holes (count .incoming)⟩
      2 .qos2 = (.success, ⟨⟨1, .qos2, .publishSend⟩ :: ⟨2, .qos2, .publishSend⟩ ::
        holes (k + 1), holes (count .incoming)⟩) := by
    simp only [mqttReserveState, hadd₂]
    rfl
  have h₃ : ∀ l m, mqttUpdateStatePublish ⟨⟨1, .qos2, .publishSend⟩ :: l, m⟩ 1 .send .qos2 =
      (.success, some .pubRecPending, ⟨⟨1, .qos2, .pubRecPending⟩ :: l, m⟩) := fun _ _ => rfl
  have hf : ∀ l, findInRecord (⟨1, .qos2, .pubRecPending⟩ :: l) 1 .qos0 =
      (some 0, .qos2, .pubRecPending) := fun _ => rfl
  have h₄ : mqttUpdateStateAck ⟨⟨1, .qos2, .pubRecPending⟩ :: ⟨2, .qos2, .publishSend⟩ ::
      holes (k + 1), holes (count .incoming)⟩ 1 .pubrec .receive =
      (.noMemory, none, ⟨.zero :: ⟨2, .qos2, .publishSend⟩ :: holes (k + 1),
        holes (count .incoming)⟩) := by
    simp [mqttUpdateStateAck, isPublishOutgoing, PublishRecords.side, PublishRecords.setSide, hf,
      mqttCalculateStateAck, updateStateAck, validateTransitionAck, updateRecord, hadd₃,
      packetIdInvalid]
  simp only [runCalls, EngineCall.run, h₁, h₂, h₃, h₄]
  refine ⟨rfl, trivial, ?_⟩
  rw [liveRecord, lookup_eq_none]
  change ∀ r ∈ live (.zero :: ⟨2, .qos2, .publishSend⟩ :: holes (k + 1)), _
  rw [live_cons_of_eq rfl, live_cons_of_ne (by decide), live_holes]
  simp

theorem not_moves_of_noMemory {t : PublishRecords}
    (hbefore : liveRecord (t.table .outgoing) 1 = some ⟨1, .qos2, .pubRecPending⟩)
    (hafter : liveRecord ((mqttUpdateStateAck t 1 .pubrec .receive).2.2.table .outgoing) 1 = none) :
    ¬ Moves .outgoing 1 (.updateStateAck 1 .pubrec .receive) (liveRecord (t.table .outgoing) 1)
      (liveRecord ((EngineCall.run t (.updateStateAck 1 .pubrec .receive)).2.table .outgoing) 1) := by
  intro hm
  rw [hbefore, EngineCall.run, hafter] at hm
  cases hm with
  | complete hnext => exact absurd hnext (by decide)
  | cancel _ hc => exact absurd hc (by decide)

theorem not_disciplined_of_pubrec {count : Direction → Nat} {k : Nat}
    (hk : count .outgoing = k + 3) (hb : int32Cast (k + 3) = 2) : ¬ Disciplined count := by
  intro h
  obtain ⟨hbefore, -, hafter⟩ := pubrec_noMemory count hk hb
  exact not_moves_of_noMemory hbefore hafter ((h _ .outgoing).2.2 _ 1)

/-- With `2 ^ 32 + 2` slots a record in `MQTTPubRecPending` is lost. -/
theorem not_disciplined_large : ¬ Disciplined fun _ => 4294967298 :=
  not_disciplined_of_pubrec (k := 4294967295) (by decide) (by decide)

end FreeMqtt

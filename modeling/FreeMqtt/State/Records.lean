import FreeMqtt.State.Tables

/-!
# The engine on one record

What a call of the engine does to the record of each packet id, without the slots: a
received publish starts a record unless one is live, and an acknowledgement makes the
record of its packet id react.
-/

namespace FreeMqtt

open KeyedList

/-- `addRecord` visits every slot, or the record cannot be one that a PUBREC moves. -/
def Visited (d : Direction) (records : List PubAckInfo) : Prop :=
  d = .incoming ∨ scanBound records = records.length

theorem Visited.not_reAddLost {d : Direction} {packet : Packet} {r : PubAckInfo}
    {records records' : List PubAckInfo} {status : Status} (h : Visited d records) :
    ¬ ReAddLost d packet r records status records' := by
  rintro ⟨-, hlt, hreact, -⟩
  rcases h with rfl | heq
  · have hphase := mem_phases_of_next (react_eq_advance hreact)
    revert hphase
    cases r.qos <;> decide
  · omega

/-! ## New records -/

/-- A new record is found under its packet id, and no other lookup changes. -/
theorem AddOutcome.liveRecord_eq {records records' : List PubAckInfo} {r : PubAckInfo}
    {status : Status} (ho : AddOutcome records r records' status) (packetId : UInt16) :
    liveRecord records' packetId =
      if status = .success ∧ packetId = r.packetId then some r
      else liveRecord records packetId := by
  unfold liveRecord
  cases ho with
  | collision _ hlive => rw [hlive, if_neg (by simp)]
  | full _ hlive => rw [hlive, if_neg (by simp)]
  | added hmem hlive =>
    rw [hlive, lookup_append, lookup_singleton]
    by_cases hp : packetId = r.packetId
    · rw [if_pos hp.symm, if_pos ⟨rfl, hp⟩, hp, lookup_eq_none_iff_notMem.2 hmem, Option.none_or]
    · rw [if_neg (Ne.symm hp), if_neg fun h => hp h.2, Option.or_none]

/-- Only a packet id that is not live is added. -/
theorem AddOutcome.liveRecord_eq_none {records records' : List PubAckInfo} {r : PubAckInfo}
    (ho : AddOutcome records r records' .success) : liveRecord records r.packetId = none := by
  cases ho with
  | added hmem => exact lookup_eq_none_iff_notMem.2 hmem

theorem AddOutcome.liveRecord_of_collision {records records' : List PubAckInfo} {r : PubAckInfo}
    (ho : AddOutcome records r records' .stateCollision) :
    ∃ r', liveRecord records r.packetId = some r' := by
  cases ho with
  | collision hmem =>
    rw [← Option.isSome_iff_exists, Option.isSome_iff_ne_none]
    exact fun h => lookup_eq_none_iff_notMem.1 h hmem

/-- A live packet id is not added once more. -/
theorem AddOutcome.eq_collision {records records' : List PubAckInfo} {r r' : PubAckInfo}
    {status : Status} (ho : AddOutcome records r records' status)
    (hr' : liveRecord records r.packetId = some r') : status = .stateCollision := by
  have hmem : r.packetId ∈ (live records).map PubAckInfo.packetId :=
    List.mem_map.2 ⟨r', lookup_mem hr', lookup_key hr'⟩
  cases ho with
  | collision => rfl
  | full hmem' => exact absurd hmem hmem'
  | added hmem' => exact absurd hmem hmem'

/-! ## Acknowledgements -/

/-- The status of an acknowledgement for the record found. -/
def ackStatus (d : Direction) (packetType : PubAckType) : Option PubAckInfo → Status
  | none => .badResponse
  | some r => if react d r (.ack packetType) = .illegal then .illegalState else .success

/-- The record found after an acknowledgement. -/
def ackRecord (d : Direction) (packetType : PubAckType) (o : Option PubAckInfo) :
    Option PubAckInfo :=
  o.bind fun r => (react d r (.ack packetType)).apply r

/-- `MQTT_UpdateStateAck` on the record of its packet id. -/
theorem mqttUpdateStateAck_record {t : PublishRecords} {packetId : UInt16}
    (hid : packetId ≠ packetIdInvalid) {packetType : PubAckType} {opType : StateOperation}
    {d : Direction} (hd : ackDirection packetType opType = d) (h : Table d (t.table d))
    (hv : Visited d (t.table d)) :
    ∃ records', mqttUpdateStateAck t packetId packetType opType =
        (ackStatus d packetType (liveRecord (t.table d) packetId),
          (liveRecord (t.table d) packetId).bind (fun r =>
            if react d r (.ack packetType) = .illegal then none
            else some (mqttCalculateStateAck packetType opType r.qos)),
          t.setTable d records') ∧
      Table d records' ∧ records'.length = (t.table d).length ∧
      ∀ packetId', liveRecord records' packetId' =
        if packetId' = packetId then ackRecord d packetType (liveRecord (t.table d) packetId)
        else liveRecord (t.table d) packetId' := by
  subst hd
  cases hr : liveRecord (t.table (ackDirection packetType opType)) packetId with
  | none =>
    refine ⟨t.table (ackDirection packetType opType), ?_, h, rfl, fun packetId' => ?_⟩
    · rw [mqttUpdateStateAck_none hid hr, setTable_self]
      rfl
    · split
      · rename_i hp
        rw [hp, hr]
        rfl
      · rfl
  | some r =>
    obtain ⟨status, records', heq, htab, hlen, hhandled | hlost⟩ :=
      mqttUpdateStateAck_some hid h hr
    · obtain rfl : r.packetId = packetId := lookup_key hr
      have hlive : live records' = (handleEntry _ (.ack packetType) r (live (t.table _))).2 :=
        congrArg Prod.snd hhandled
      obtain rfl : status = (handleEntry _ (.ack packetType) r (live (t.table _))).1 :=
        congrArg Prod.fst hhandled
      refine ⟨records', ?_, htab, hlen, fun packetId' => ?_⟩
      · rw [heq, handleEntry_status]
        by_cases hill : react (ackDirection packetType opType) r (.ack packetType) = .illegal
        · simp [ackStatus, hill]
        · simp [ackStatus, hill]
      · rw [liveRecord, hlive, lookup_handleEntry _ _ hr]
        rfl
    · exact absurd hlost hv.not_reAddLost

end FreeMqtt

import FreeMqtt.State.Tables

/-!
# Record arrays without an invariant

What `addRecord` and `findInRecord` do to the live records of any array at all, also when packet ids
occur twice or empty slots are not zero.
-/

namespace FreeMqtt

open KeyedList

/-! ## `compactRecords` -/

/-- One iteration at the slot `r`, behind `front` and the empty slots `gap`. -/
theorem compactStep_gap (front gap : List PubAckInfo) (r : PubAckInfo) (rest : List PubAckInfo) :
    compactStep (front ++ gap ++ r :: rest) (if gap = [] then none else some front.length)
        (front.length + gap.length) =
      if r.packetId = packetIdInvalid then
        (front ++ (gap ++ [r]) ++ rest, some front.length)
      else (front ++ [r] ++ (gap ++ [PubAckInfo.zero]).tail ++ rest,
        if gap = [] then none else some (front.length + 1)) := by
  have hget : (front ++ gap ++ r :: rest).getD (front.length + gap.length) default = r := by
    simp [List.getD_eq_getElem?_getD]
  unfold compactStep
  rw [hget]
  by_cases hid : r.packetId = packetIdInvalid
  · rw [if_pos hid, if_pos hid]
    cases gap <;> simp
  · rw [if_neg hid, if_neg hid]
    cases gap with
    | nil => simp
    | cons g gap =>
      have hfill : (front ++ g :: gap ++ r :: rest).set front.length r =
          (front ++ [r] ++ gap) ++ r :: rest := by simp
      have hclear : ((front ++ [r] ++ gap) ++ r :: rest).set (front.length + (gap.length + 1)) .zero =
          front ++ [r] ++ gap ++ .zero :: rest := by
        have hzero : front.length + (gap.length + 1) - (front ++ [r] ++ gap).length = 0 := by
          simp only [List.length_append, List.length_singleton]
          omega
        rw [List.set_append_right _ _ (by simp), hzero, List.set_cons_zero]
      simp only [reduceCtorEq, if_false, List.length_cons]
      rw [hfill, hclear]
      simp

/-- The array after `n` iterations of `compactRecords`: live records, empty slots, and the slots not
yet visited. -/
theorem compactTo_gap (records : List PubAckInfo) {n : Nat} (hn : n ≤ records.length) :
    ∃ gap, (live (records.take n)).length + gap.length = n ∧ live gap = [] ∧
      compactTo records n = (live (records.take n) ++ gap ++ records.drop n,
        if gap = [] then none else some (live (records.take n)).length) := by
  induction n with
  | zero => exact ⟨[], by simp, rfl, by simp [compactTo]⟩
  | succ n ih =>
    obtain ⟨gap, hlength, hempty, heq⟩ := ih (by omega)
    have hlt : n < records.length := hn
    rw [List.drop_eq_getElem_cons hlt] at heq
    rw [compactTo, heq, ← List.take_append_getElem hlt, live_append]
    dsimp only
    generalize live (records.take n) = front at hlength ⊢
    have hstep := compactStep_gap front gap records[n] (records.drop (n + 1))
    rw [hlength] at hstep
    rw [hstep]
    by_cases hid : records[n].packetId = packetIdInvalid
    · rw [if_pos hid, live_cons_of_eq hid]
      refine ⟨gap ++ [records[n]], by simp; omega, ?_, by simp⟩
      rw [live_append, hempty, live_cons_of_eq hid]
      rfl
    · rw [if_neg hid, live_cons_of_ne hid]
      cases gap with
      | nil => exact ⟨[], by simpa using hlength, rfl, by simp⟩
      | cons g gap =>
        have hgap : live gap = [] := by
          rw [live_eq_nil] at hempty ⊢
          exact fun r hr => hempty r (List.mem_cons_of_mem _ hr)
        refine ⟨gap ++ [.zero], by simp at hlength ⊢; omega, ?_, by simp⟩
        rw [live_append, hgap]
        rfl

theorem live_compactRecords (records : List PubAckInfo) :
    live (compactRecords records) = live records ∧
      (compactRecords records).length = records.length := by
  obtain ⟨gap, hlength, hempty, heq⟩ := compactTo_gap records (Nat.le_refl _)
  rw [List.take_length, List.drop_length, List.append_nil] at heq
  rw [List.take_length] at hlength
  rw [compactRecords, heq]
  refine ⟨?_, ?_⟩
  · rw [live_append, hempty, List.append_nil, live_live]
  · rw [List.length_append, hlength]

theorem live_compacted (records : List PubAckInfo) : live (compacted records) = live records ∧
    (compacted records).length = records.length := by
  unfold compacted
  split
  · exact live_compactRecords records
  · exact ⟨rfl, rfl⟩

/-! ## `addRecord` -/

/-- The loop of `addRecord` says what is wrong when it finds no slot. -/
theorem addRecordScan_status (records : List PubAckInfo) (packetId : UInt16)
    (index availableIndex : Nat) (validEntryFound : Bool) :
    (addRecordScan records packetId index availableIndex validEntryFound).1 = .noMemory ∨
      (addRecordScan records packetId index availableIndex validEntryFound).1 = .stateCollision := by
  induction index generalizing availableIndex validEntryFound with
  | zero => exact .inl rfl
  | succ index ih =>
    unfold addRecordScan
    split
    · exact ih ..
    split
    · exact .inr rfl
    · exact ih ..

theorem addRecordScan_ne_success (records : List PubAckInfo) (packetId : UInt16)
    (index availableIndex : Nat) (validEntryFound : Bool) :
    (addRecordScan records packetId index availableIndex validEntryFound).1 ≠ .success := by
  rcases addRecordScan_status records packetId index availableIndex validEntryFound with h | h
  · rw [h]
    simp
  · rw [h]
    simp

/-- A slot that the loop of `addRecord` finds is empty, and it meets no slot with the packet id. -/
theorem addRecordScan_found {records : List PubAckInfo} {packetId : UInt16} {n availableIndex : Nat}
    {validEntryFound : Bool} (hn : n ≤ records.length)
    (havailable : availableIndex < records.length →
      (records.getD availableIndex default).packetId = packetIdInvalid)
    (h : (addRecordScan records packetId n availableIndex validEntryFound).2 < records.length) :
    let available := (addRecordScan records packetId n availableIndex validEntryFound).2
    (records.getD available default).packetId = packetIdInvalid ∧
      (available < n ∨ available = availableIndex) ∧
      ∀ i < n, (records.getD i default).packetId ≠ packetId ∨
        (records.getD i default).packetId = packetIdInvalid := by
  induction n generalizing availableIndex validEntryFound with
  | zero => exact ⟨havailable h, .inr rfl, fun i hi => absurd hi (Nat.not_lt_zero i)⟩
  | succ n ih =>
    unfold addRecordScan at h ⊢
    by_cases hempty : (records.getD n default).packetId = packetIdInvalid
    · rw [if_pos hempty] at h ⊢
      obtain ⟨hslot, hwhere, hbefore⟩ := ih (by omega) (fun hlt => by
        split
        · rename_i hfound
          rw [if_pos hfound] at hlt
          exact havailable hlt
        · exact hempty) h
      refine ⟨hslot, ?_, fun i hi => ?_⟩
      · rcases hwhere with hwhere | hwhere
        · exact .inl (by omega)
        · rw [hwhere]
          split
          · exact .inr rfl
          · exact .inl (Nat.lt_succ_self n)
      · rcases Nat.lt_succ_iff_lt_or_eq.1 hi with hi | rfl
        · exact hbefore i hi
        · exact .inr hempty
    rw [if_neg hempty] at h ⊢
    by_cases hcollision : (records.getD n default).packetId = packetId
    · rw [if_pos hcollision] at h
      exact absurd h (Nat.lt_irrefl _)
    rw [if_neg hcollision] at h ⊢
    obtain ⟨hslot, hwhere, hbefore⟩ := ih (by omega) havailable h
    refine ⟨hslot, hwhere.imp_left fun hlt => by omega, fun i hi => ?_⟩
    rcases Nat.lt_succ_iff_lt_or_eq.1 hi with hi | rfl
    · exact hbefore i hi
    · exact .inl hcollision

/-- A new record changes the live records, and it is the first one with its packet id. Otherwise they
are the same. -/
theorem addRecord_any (records : List PubAckInfo) {packetId : UInt16} (hid : packetId ≠ packetIdInvalid)
    (qos : QoS) (publishState : PublishState) :
    let added := addRecord records packetId qos publishState
    (added.1 ≠ .success → live added.2 = live records) ∧
      (added.1 = .success → live added.2 ≠ live records ∧
        ∃ index, ∀ q, findInRecord added.2 packetId q = (some index, qos, publishState)) := by
  obtain ⟨hlive, hlength⟩ := live_compacted records
  have hadd : addRecord records packetId qos publishState =
      addAt records.length (compacted records) (addRecordScan (compacted records) packetId
        (scanBound records) records.length false) ⟨packetId, qos, publishState⟩ := rfl
  rw [hadd, ← hlive, ← hlength]
  have hbound : scanBound records ≤ (compacted records).length := by
    rw [hlength]
    exact scanBound_le records
  generalize compacted records = slots at hbound ⊢
  have hfound := @addRecordScan_found slots packetId (scanBound records) slots.length false hbound
    fun hlt => absurd hlt (Nat.lt_irrefl _)
  have hstatus := addRecordScan_ne_success slots packetId (scanBound records) slots.length false
  unfold addAt
  dsimp only at hfound ⊢
  generalize addRecordScan slots packetId (scanBound records) slots.length false = scan
    at hfound hstatus ⊢
  split
  · rename_i hlt
    obtain ⟨hempty, hwhere, hbefore⟩ := hfound hlt
    have hinside := hwhere.resolve_right (Nat.ne_of_lt hlt)
    refine ⟨fun h => absurd rfl h, fun _ => ?_⟩
    have hget : slots.getD scan.2 default = slots[scan.2] := by
      simp [List.getD_eq_getElem?_getD, List.getElem?_eq_getElem hlt]
    rw [hget] at hempty
    have hsplit : slots = slots.take scan.2 ++ slots[scan.2] :: slots.drop (scan.2 + 1) := by
      rw [← List.drop_eq_getElem_cons hlt, List.take_append_drop]
    have hset : slots.set scan.2 ⟨packetId, qos, publishState⟩ =
        slots.take scan.2 ++ ⟨packetId, qos, publishState⟩ :: slots.drop (scan.2 + 1) :=
      List.set_eq_take_append_cons_drop.trans (if_pos hlt)
    have hlengthTake : (slots.take scan.2).length = scan.2 := List.length_take_of_le (Nat.le_of_lt hlt)
    rw [hset]
    refine ⟨fun heq => ?_, scan.2, fun q => ?_⟩
    · have hold : live slots = live (slots.take scan.2) ++ live (slots.drop (scan.2 + 1)) := by
        refine (congrArg live hsplit).trans ?_
        rw [live_append, live_cons_of_eq hempty]
      rw [hold, live_append, live_cons_of_ne (r := ⟨packetId, qos, publishState⟩) hid] at heq
      exact absurd (List.append_cancel_left heq) (List.cons_ne_self _ _)
    · have hfind := @findInRecord_split (slots.take scan.2) (slots.drop (scan.2 + 1))
        ⟨packetId, qos, publishState⟩ ?_ q
      · rw [hlengthTake] at hfind
        exact hfind
      · intro x hx
        obtain ⟨i, hi, rfl⟩ := List.mem_take_iff_getElem.1 hx
        have hi' : i < scanBound records := by omega
        have hlt' : i < slots.length := by omega
        have hgetI : slots.getD i default = slots[i] := by
          simp [List.getD_eq_getElem?_getD, List.getElem?_eq_getElem hlt']
        rcases hbefore i hi' with hne | hzero
        · rwa [hgetI] at hne
        · rw [hgetI] at hzero
          exact fun heq => hid (heq.symm.trans hzero)
  · exact ⟨fun _ => rfl, fun h => absurd h hstatus⟩

/-- A collision is one with a slot of the packet id. -/
theorem addRecordScan_collision {records : List PubAckInfo} {packetId : UInt16}
    {index availableIndex : Nat} {validEntryFound : Bool}
    (h : (addRecordScan records packetId index availableIndex validEntryFound).1 = .stateCollision) :
    ∃ r ∈ live records, r.packetId = packetId := by
  induction index generalizing availableIndex validEntryFound with
  | zero => exact absurd h (by simp [addRecordScan])
  | succ index ih =>
    unfold addRecordScan at h
    split at h
    · exact ih h
    rename_i hlive
    split at h
    · rename_i hid
      refine ⟨_, mem_live.2 ⟨?_, hlive⟩, hid⟩
      by_cases hlt : index < records.length
      · rw [List.getD_eq_getElem?_getD, List.getElem?_eq_getElem hlt]
        exact List.getElem_mem hlt
      · rw [List.getD_eq_getElem?_getD, List.getElem?_eq_none (Nat.not_lt.1 hlt)] at hlive
        exact absurd rfl hlive
    · exact ih h

theorem addRecord_collision {records : List PubAckInfo} {packetId : UInt16} {qos : QoS}
    {publishState : PublishState}
    (h : (addRecord records packetId qos publishState).1 = .stateCollision) :
    ∃ r, liveRecord records packetId = some r := by
  have hscan : (addRecordScan (compacted records) packetId (scanBound records) records.length
      false).1 = .stateCollision := by
    change (addAt records.length (compacted records) (addRecordScan (compacted records) packetId
      (scanBound records) records.length false) ⟨packetId, qos, publishState⟩).1 = _ at h
    generalize addRecordScan (compacted records) packetId (scanBound records) records.length false =
      scan at h ⊢
    unfold addAt at h
    split at h
    · exact absurd h (by simp)
    · exact h
  obtain ⟨r, hmem, hid⟩ := addRecordScan_collision hscan
  rw [(live_compacted records).1] at hmem
  refine Option.ne_none_iff_exists'.1 fun hnone => ?_
  exact lookup_eq_none.1 hnone r hmem hid

/-! ## `findInRecord` -/

theorem findInRecord_live {records : List PubAckInfo} {packetId : UInt16} {r : PubAckInfo}
    (h : liveRecord records packetId = some r) (qos : QoS) :
    ∃ index, findInRecord records packetId qos = (some index, r.qos, r.publishState) := by
  obtain rfl : r.packetId = packetId := lookup_key h
  have hne := (mem_live.1 (lookup_mem h)).2
  have hfind : records.find? (fun x => x.packetId == r.packetId) = some r := by
    rw [← (show (live records).find? _ = some r from h), live, List.find?_filter]
    congr 1
    funext x
    by_cases hx : x.packetId = r.packetId
    · simp [hx, hne]
    · simp [hx]
  obtain ⟨hkey, front, rest, rfl, hfront⟩ := List.find?_eq_some_iff_append.1 hfind
  exact ⟨front.length, findInRecord_split (fun x hx => by simpa using hfront x hx) qos⟩

/-! ## `MQTT_UpdateStatePublish` -/

/-- The record that was found for a publish that is sent decides: one of another QoS is refused. -/
theorem mqttUpdateStatePublish_found {t : PublishRecords} {packetId : UInt16} {qos found : QoS}
    {index : Nat} {state : PublishState} (hid : packetId ≠ packetIdInvalid) (hqos : qos ≠ .qos0)
    (h : findInRecord t.outgoingPublishRecords packetId .qos0 = (some index, found, state)) :
    if found = qos then (mqttUpdateStatePublish t packetId .send qos).1 ∈ [.success, .illegalState]
    else mqttUpdateStatePublish t packetId .send qos = (.badParameter, none, t) := by
  unfold mqttUpdateStatePublish
  rw [if_neg hqos, if_neg hid]
  dsimp only
  rw [if_pos rfl, h]
  split
  · rename_i hsame
    rw [if_neg (by simp [hsame])]
    dsimp only
    unfold updateStatePublish
    split
    · rw [if_neg (by simp)]
      split <;> simp
    · simp
  · rename_i hother
    rw [if_pos ⟨rfl, .inr hother⟩]

/-! ## Packet ids -/

/-- The packet ids of the live records of an array. -/
def liveIds (records : List PubAckInfo) : List UInt16 := (live records).map PubAckInfo.packetId

theorem mem_liveIds {id : UInt16} {records : List PubAckInfo} :
    id ∈ liveIds records ↔ id ≠ packetIdInvalid ∧ ∃ r ∈ records, r.packetId = id := by
  constructor
  · intro h
    obtain ⟨r, hr, rfl⟩ := List.mem_map.1 h
    obtain ⟨hmem, hne⟩ := mem_live.1 hr
    exact ⟨hne, r, hmem, rfl⟩
  · rintro ⟨hne, r, hmem, rfl⟩
    exact List.mem_map.2 ⟨r, mem_live.2 ⟨hmem, hne⟩, rfl⟩

theorem mem_liveIds_set {id : UInt16} {records : List PubAckInfo} {index : Nat} {r : PubAckInfo}
    (h : id ∈ liveIds (records.set index r)) : id = r.packetId ∨ id ∈ liveIds records := by
  obtain ⟨hne, r', hmem, rfl⟩ := mem_liveIds.1 h
  rcases List.mem_or_eq_of_mem_set hmem with hmem | rfl
  · exact .inr (mem_liveIds.2 ⟨hne, r', hmem, rfl⟩)
  · exact .inl rfl

theorem mem_liveIds_addRecord {id packetId : UInt16} {records : List PubAckInfo} {qos : QoS}
    {publishState : PublishState} (h : id ∈ liveIds (addRecord records packetId qos publishState).2) :
    id = packetId ∨ id ∈ liveIds records := by
  have hcompacted : liveIds (compacted records) = liveIds records :=
    congrArg (List.map _) (live_compacted records).1
  change id ∈ liveIds (addAt records.length (compacted records) (addRecordScan (compacted records)
    packetId (scanBound records) records.length false) ⟨packetId, qos, publishState⟩).2 at h
  unfold addAt at h
  split at h
  · rw [← hcompacted]
    exact mem_liveIds_set h
  · exact .inr (hcompacted ▸ h)

theorem mem_liveIds_updateRecord {id : UInt16} {records : List PubAckInfo} {recordIndex : Nat}
    {newState : PublishState} {shouldDelete : Bool}
    (h : id ∈ liveIds (updateRecord records recordIndex newState shouldDelete)) :
    id ∈ liveIds records := by
  have hne := (mem_liveIds.1 h).1
  unfold updateRecord at h
  split at h
  · exact (mem_liveIds_set h).resolve_left hne
  by_cases hlt : recordIndex < records.length
  swap
  · rwa [List.set_eq_of_length_le (Nat.not_lt.1 hlt)] at h
  rcases mem_liveIds_set h with rfl | h
  · refine mem_liveIds.2 ⟨hne, _, List.getElem_mem hlt, ?_⟩
    simp [List.getD_eq_getElem?_getD, List.getElem?_eq_getElem hlt]
  · exact h

/-- The packet id that a call of the engine reserves. -/
def EngineCall.reservedId : EngineCall → Option UInt16
  | .reserveState packetId qos => if qos ≠ .qos0 then some packetId else none
  | _ => none

theorem findInRecord_mem {records : List PubAckInfo} {packetId : UInt16} {qos : QoS} {index : Nat}
    (h : (findInRecord records packetId qos).1 = some index) :
    ∃ r ∈ records, r.packetId = packetId := by
  unfold findInRecord at h
  split at h
  · rename_i found hfound
    obtain ⟨hlt, hid, -⟩ := List.findIdx?_eq_some_iff_getElem.1 hfound
    exact ⟨_, List.getElem_mem hlt, by simpa using hid⟩
  · cases h

theorem mem_liveIds_updateStatePublish {t : PublishRecords} {recordIndex : Nat} {packetId id : UInt16}
    {opType : StateOperation} {qos : QoS} {currentState newState : PublishState}
    (h : id ∈ liveIds (updateStatePublish t recordIndex packetId opType qos currentState
      newState).2.outgoingPublishRecords) : id ∈ liveIds t.outgoingPublishRecords := by
  unfold updateStatePublish at h
  dsimp only at h
  split at h
  swap
  · exact h
  split at h
  · exact h
  split at h
  · dsimp only at h
    exact mem_liveIds_updateRecord h
  · exact h

/-- The record that moves to the end keeps its packet id. -/
theorem mem_liveIds_updateStateAck {records : List PubAckInfo} {recordIndex : Nat}
    {packetId id : UInt16} {currentState newState : PublishState}
    (h : id ∈ liveIds (updateStateAck records recordIndex packetId currentState newState).2) :
    id = packetId ∨ id ∈ liveIds records := by
  unfold updateStateAck at h
  dsimp only at h
  split at h
  swap
  · exact .inr h
  split at h
  swap
  · exact .inr h
  split at h
  · exact (mem_liveIds_addRecord h).imp_right mem_liveIds_updateRecord
  · exact .inr (mem_liveIds_updateRecord h)

theorem mem_liveIds_mqttUpdateStateAck {t : PublishRecords} {packetId id : UInt16}
    {packetType : PubAckType} {opType : StateOperation}
    (h : id ∈ liveIds (mqttUpdateStateAck t packetId packetType opType).2.2.outgoingPublishRecords) :
    id ∈ liveIds t.outgoingPublishRecords := by
  unfold mqttUpdateStateAck at h
  split at h
  · exact h
  rename_i hid
  dsimp only at h
  split at h
  · exact h
  rename_i index hfound
  cases hside : isPublishOutgoing packetType opType with
  | false =>
    rw [hside] at h
    exact h
  | true =>
    rw [hside] at h hfound
    rcases mem_liveIds_updateStateAck h with rfl | h
    · exact mem_liveIds.2 ⟨hid, findInRecord_mem hfound⟩
    · exact h

/-- Whatever the arrays are, an outgoing packet id is new only where it is reserved. -/
theorem mem_liveIds_run {t : PublishRecords} {call : EngineCall} {id : UInt16}
    (h : id ∈ liveIds (call.run t).2.outgoingPublishRecords) :
    id ∈ call.reservedId ∨ id ∈ liveIds t.outgoingPublishRecords := by
  cases call with
  | reserveState packetId qos =>
    change id ∈ liveIds (mqttReserveState t packetId qos).2.outgoingPublishRecords at h
    unfold mqttReserveState at h
    split at h
    · exact .inr h
    rename_i hqos
    split at h
    · exact .inr h
    rcases mem_liveIds_addRecord h with rfl | h
    · exact .inl (if_pos hqos)
    · exact .inr h
  | updateStatePublish packetId opType qos =>
    refine .inr ?_
    change id ∈ liveIds (mqttUpdateStatePublish t packetId opType qos).2.2.outgoingPublishRecords at h
    unfold mqttUpdateStatePublish at h
    dsimp only at h
    split at h
    · exact h
    split at h
    · exact h
    generalize (if opType = .send then findInRecord t.outgoingPublishRecords packetId .qos0
      else (none, .qos0, .null)) = found at h
    split at h
    · exact h
    · exact mem_liveIds_updateStatePublish h
  | removeStateRecord packetId =>
    refine .inr ?_
    change id ∈ liveIds (mqttRemoveStateRecord t packetId).2.outgoingPublishRecords at h
    unfold mqttRemoveStateRecord at h
    dsimp only at h
    split at h
    · exact h
    split at h
    · exact h
    split at h
    · exact h
    · dsimp only at h
      exact mem_liveIds_updateRecord h
  | updateStateAck packetId packetType opType => exact .inr (mem_liveIds_mqttUpdateStateAck h)

/-! ## Statuses -/

/-- The statuses of the state engine. -/
def engineStatuses : List Status :=
  [.success, .badParameter, .badResponse, .illegalState, .noMemory, .stateCollision]

theorem addRecord_status (records : List PubAckInfo) (packetId : UInt16) (qos : QoS)
    (publishState : PublishState) :
    (addRecord records packetId qos publishState).1 ∈ engineStatuses := by
  unfold addRecord
  dsimp only
  generalize (if (records.getD (records.length - 1) default).packetId ≠ packetIdInvalid then
    compactRecords records else records) = records'
  split
  · exact List.mem_cons_self
  · rcases addRecordScan_status records' packetId (int32Cast records.length).toNat records.length
      false with h | h
    · rw [h]
      simp [engineStatuses]
    · rw [h]
      simp [engineStatuses]

theorem mqttUpdateStateAck_status (t : PublishRecords) (packetId : UInt16) (packetType : PubAckType)
    (opType : StateOperation) :
    (mqttUpdateStateAck t packetId packetType opType).1 ∈ engineStatuses := by
  have hupdate : ∀ records recordIndex currentState newState,
      (updateStateAck records recordIndex packetId currentState newState).1 ∈ engineStatuses := by
    intro records recordIndex currentState newState
    unfold updateStateAck
    dsimp only
    split_ifs
    · exact addRecord_status ..
    · exact List.mem_cons_self
    · exact List.mem_cons_self
    · simp [engineStatuses]
  unfold mqttUpdateStateAck
  dsimp only
  split
  · simp [engineStatuses]
  split
  · simp [engineStatuses]
  · exact hupdate ..

/-- A publish that was sent does not collide. -/
theorem mqttUpdateStatePublish_send_status (t : PublishRecords) (packetId : UInt16) (qos : QoS) :
    (mqttUpdateStatePublish t packetId .send qos).1 ∈
      [Status.success, .badParameter, .illegalState] := by
  unfold mqttUpdateStatePublish
  dsimp only
  split
  · simp
  split
  · simp
  rw [if_pos rfl]
  split
  · simp
  dsimp only
  unfold updateStatePublish
  split
  · rw [if_neg (by simp)]
    split <;> simp
  · simp

theorem mqttUpdateStatePublish_status (t : PublishRecords) (packetId : UInt16)
    (opType : StateOperation) (qos : QoS) :
    (mqttUpdateStatePublish t packetId opType qos).1 ∈ engineStatuses := by
  have hupdate : ∀ recordIndex currentState newState, (updateStatePublish t recordIndex packetId
      opType qos currentState newState).1 ∈ engineStatuses := by
    intro recordIndex currentState newState
    unfold updateStatePublish
    dsimp only
    split_ifs
    · exact addRecord_status ..
    · exact List.mem_cons_self
    · exact List.mem_cons_self
    · simp [engineStatuses]
  unfold mqttUpdateStatePublish
  dsimp only
  split
  · exact List.mem_cons_self
  split
  · simp [engineStatuses]
  generalize (if opType = .send then findInRecord t.outgoingPublishRecords packetId .qos0
    else (none, .qos0, .null)) = found
  split
  · simp [engineStatuses]
  · exact hupdate ..

end FreeMqtt

import FreeMqtt.State.Compaction
import FreeMqtt.State.OrderedLists

/-!
# The engine on one record array

What a call does to the live records of the array it works on: `findInRecord` is a lookup
by packet id, `updateRecord` a deletion or a change in place, and a transition accepted by
`updateStateAck` or `updateStatePublish` is the reaction of the handshake
(`Table.updateStateAck`, `Table.updateStatePublish`).

The one deviation is `ReAddLost`: an array whose count does not fit the `int32_t` index of
`addRecord` can lose the record that a PUBREC moves to the end.
-/

namespace FreeMqtt

open KeyedList

/-- A record array whose live records are in phases of their handshakes. -/
structure Table (d : Direction) (records : List PubAckInfo) : Prop extends Slots records where
  valid : ∀ r ∈ live records, ValidRecord d r

/-- The array of one direction. -/
def PublishRecords.table (t : PublishRecords) : Direction → List PubAckInfo
  | .outgoing => t.outgoingPublishRecords
  | .incoming => t.incomingPublishRecords

/-- The arrays with the array of one direction replaced. -/
def PublishRecords.setTable (t : PublishRecords) (d : Direction) (records : List PubAckInfo) :
    PublishRecords :=
  match d with
  | .outgoing => { t with outgoingPublishRecords := records }
  | .incoming => { t with incomingPublishRecords := records }

/-- Both arrays satisfy the invariant. -/
def Tables (t : PublishRecords) : Prop := ∀ d, Table d (t.table d)

@[simp] theorem table_setTable (t : PublishRecords) (d : Direction)
    (records : List PubAckInfo) : (t.setTable d records).table d = records := by
  cases d <;> rfl

@[simp] theorem outgoing_setTable_outgoing (t : PublishRecords) (records : List PubAckInfo) :
    (t.setTable .outgoing records).outgoingPublishRecords = records := rfl

@[simp] theorem outgoing_setTable_incoming (t : PublishRecords) (records : List PubAckInfo) :
    (t.setTable .incoming records).outgoingPublishRecords = t.outgoingPublishRecords := rfl

theorem table_setTable_of_ne (t : PublishRecords) {d d' : Direction} (h : d' ≠ d)
    (records : List PubAckInfo) : (t.setTable d records).table d' = t.table d' := by
  cases d <;> cases d' <;> first | rfl | exact absurd rfl h

@[simp] theorem setTable_self (t : PublishRecords) (d : Direction) :
    t.setTable d (t.table d) = t := by
  cases d <;> rfl

theorem Tables.setTable {t : PublishRecords} (h : Tables t) {d : Direction}
    {records : List PubAckInfo} (hr : Table d records) : Tables (t.setTable d records) := by
  intro d'
  by_cases hd : d' = d
  · subst hd
    rwa [table_setTable]
  · rw [table_setTable_of_ne t hd]
    exact h d'

theorem side_eq (t : PublishRecords) (packetType : PubAckType) (opType : StateOperation) :
    t.side (isPublishOutgoing packetType opType) = t.table (ackDirection packetType opType) := by
  rw [ackDirection_eq]
  unfold PublishRecords.side
  split <;> rfl

theorem setSide_eq (t : PublishRecords) (packetType : PubAckType) (opType : StateOperation)
    (records : List PubAckInfo) :
    t.setSide (isPublishOutgoing packetType opType) records =
      t.setTable (ackDirection packetType opType) records := by
  rw [ackDirection_eq]
  unfold PublishRecords.setSide
  split <;> rfl

/-- Zeroed arrays of `count d` slots. -/
def PublishRecords.zero (count : Direction → Nat) : PublishRecords :=
  .zeroed (count .outgoing) (count .incoming)

theorem table_zero (count : Direction → Nat) (d : Direction) :
    (PublishRecords.zero count).table d = holes (count d) := by
  cases d <;> rfl

theorem table_holes (d : Direction) (n : Nat) : Table d (holes n) := by
  have hzero : ∀ r ∈ holes n, r = .zero := fun r hr => List.eq_of_mem_replicate hr
  refine ⟨⟨fun r hr _ => hzero r hr, by simp, fun r hr => ?_⟩, by simp⟩
  rw [hzero r (List.mem_of_mem_drop hr)]
  rfl

theorem tables_zero (count : Direction → Nat) : Tables (.zero count) := by
  intro d
  rw [table_zero]
  exact table_holes d _

/-! ## Lookup -/

/-- The live record with a packet id. -/
def liveRecord (records : List PubAckInfo) (packetId : UInt16) : Option PubAckInfo :=
  lookup PubAckInfo.packetId packetId (live records)

theorem findInRecord_eq_none {records : List PubAckInfo} {packetId : UInt16}
    (h : liveRecord records packetId = none) (hid : packetId ≠ packetIdInvalid) (qos : QoS) :
    findInRecord records packetId qos = (none, qos, .null) := by
  have hnone : records.findIdx? (fun r => r.packetId == packetId) = none := by
    rw [List.findIdx?_eq_none_iff]
    intro r hr
    rw [liveRecord, lookup_eq_none] at h
    by_contra hne
    have heq : r.packetId = packetId := by simpa using hne
    exact h r (mem_live.2 ⟨hr, heq ▸ hid⟩) heq
  rw [findInRecord, hnone]

/-- The slots around a live record have other packet ids. -/
theorem Slots.packetId_ne {front rest : List PubAckInfo} {r : PubAckInfo}
    (hs : Slots (front ++ r :: rest)) (hne : r.packetId ≠ packetIdInvalid) :
    (∀ x ∈ front, x.packetId ≠ r.packetId) ∧ ∀ x ∈ rest, x.packetId ≠ r.packetId := by
  have hnd := hs.nodup
  rw [live_append, live_cons_of_ne hne, List.map_append, List.map_cons, List.nodup_middle,
    List.nodup_cons, List.mem_append, not_or] at hnd
  have other : ∀ l : List PubAckInfo, r.packetId ∉ (live l).map PubAckInfo.packetId →
      ∀ x ∈ l, x.packetId ≠ r.packetId := by
    intro l hl x hx hxe
    exact hl (List.mem_map.2 ⟨x, mem_live.2 ⟨hx, hxe ▸ hne⟩, hxe⟩)
  exact ⟨other front hnd.1.1, other rest hnd.1.2⟩

/-- The search for the packet id of a slot that no slot in front of it has. -/
theorem findInRecord_split {front rest : List PubAckInfo} {r : PubAckInfo}
    (hfront : ∀ x ∈ front, x.packetId ≠ r.packetId) (qos : QoS) :
    findInRecord (front ++ r :: rest) r.packetId qos = (some front.length, r.qos, r.publishState) := by
  have hidx : (front ++ r :: rest).findIdx? (fun x => x.packetId == r.packetId) =
      some front.length := by
    have hnone : front.findIdx? (fun x => x.packetId == r.packetId) = none := by
      rw [List.findIdx?_eq_none_iff]
      intro x hx
      simpa using hfront x hx
    rw [List.findIdx?_append, hnone, List.findIdx?_cons]
    simp
  have hget : (front ++ r :: rest).getD front.length default = r := by
    simp [List.getD_eq_getElem?_getD]
  rw [findInRecord, hidx]
  simp only [hget]

/-- A live record that is found, with the slots around it. -/
theorem findInRecord_eq_some {records : List PubAckInfo} (hs : Slots records)
    {packetId : UInt16} {r : PubAckInfo} (h : liveRecord records packetId = some r) (qos : QoS) :
    ∃ front rest, records = front ++ r :: rest ∧ r.packetId = packetId ∧
      r.packetId ≠ packetIdInvalid ∧
      (∀ x ∈ front, x.packetId ≠ packetId) ∧ (∀ x ∈ rest, x.packetId ≠ packetId) ∧
      findInRecord records packetId qos = (some front.length, r.qos, r.publishState) := by
  obtain rfl : r.packetId = packetId := lookup_key h
  obtain ⟨hr, hne⟩ := mem_live.1 (lookup_mem h)
  obtain ⟨front, rest, rfl⟩ := List.append_of_mem hr
  obtain ⟨hfront, hrest⟩ := hs.packetId_ne hne
  exact ⟨front, rest, rfl, rfl, hne, hfront, hrest, findInRecord_split hfront qos⟩

/-- The search for `packetIdInvalid` finds an empty slot, if anything. -/
theorem findInRecord_invalid {records : List PubAckInfo} (hs : Slots records) (qos : QoS) :
    (findInRecord records packetIdInvalid qos).2.2 = .null := by
  unfold findInRecord
  cases h : records.findIdx? fun r => r.packetId == packetIdInvalid with
  | none => rfl
  | some index =>
    obtain ⟨hlt, hid, -⟩ := List.findIdx?_eq_some_iff_getElem.1 h
    have hzero := hs.zero records[index] (List.getElem_mem hlt) (by simpa using hid)
    simp [List.getD_eq_getElem?_getD, List.getElem?_eq_getElem hlt, hzero, PubAckInfo.zero]

/-! ## Changes of one slot -/

/-- A live record lies in the slots that `addRecord` visits. -/
theorem Slots.length_lt_scanBound {front rest : List PubAckInfo} {r : PubAckInfo}
    (h : Slots (front ++ r :: rest)) (hid : r.packetId ≠ packetIdInvalid) :
    front.length < scanBound (front ++ r :: rest) := by
  by_contra hle
  refine hid (h.scanned r ?_)
  rw [List.drop_append_of_le_length (by omega)]
  simp

theorem getD_replace (front rest : List PubAckInfo) (r r' : PubAckInfo) (i : Nat) :
    (front ++ r' :: rest).getD i default =
      if i = front.length then r' else (front ++ r :: rest).getD i default := by
  have hset : front ++ r' :: rest = (front ++ r :: rest).set front.length r' := by simp
  rw [hset, List.getD_eq_getElem?_getD, List.getElem?_set]
  by_cases hi : i = front.length
  · simp [hi]
  · rw [if_neg (Ne.symm hi), if_neg hi, List.getD_eq_getElem?_getD]

/-- A slot may be cleared or get another record with the same packet id. -/
theorem Slots.replace {front rest : List PubAckInfo} {r : PubAckInfo}
    (h : Slots (front ++ r :: rest)) (hr : r.packetId ≠ packetIdInvalid) {r' : PubAckInfo}
    (hr' : r' = .zero ∨ r'.packetId = r.packetId) : Slots (front ++ r' :: rest) := by
  have hlen : (front ++ r' :: rest).length = (front ++ r :: rest).length := by simp
  have hbound := h.length_lt_scanBound hr
  refine ⟨?_, ?_, ?_⟩
  · intro x hx he
    rcases List.mem_append.1 hx with hx | hx
    · exact h.zero x (by simp [hx]) he
    · rcases List.mem_cons.1 hx with rfl | hx
      · rcases hr' with h0 | hk
        · exact h0
        · exact absurd (hk.symm.trans he) hr
      · exact h.zero x (by simp [hx]) he
  · have hnd := h.nodup
    rw [live_append, live_cons_of_ne hr, List.map_append, List.map_cons] at hnd
    rcases hr' with rfl | hk
    · rw [live_append, live_cons_of_eq rfl, List.map_append]
      exact (List.Sublist.append_left (List.sublist_cons_self ..) _).nodup hnd
    · rw [live_append, live_cons_of_ne (hk ▸ hr), List.map_append, List.map_cons, hk]
      exact hnd
  · have hb : scanBound (front ++ r' :: rest) = scanBound (front ++ r :: rest) :=
      scanBound_congr hlen
    obtain ⟨j, hj⟩ : ∃ j, scanBound (front ++ r :: rest) - front.length = j + 1 :=
      ⟨scanBound (front ++ r :: rest) - front.length - 1, by omega⟩
    have hs := h.scanned
    rw [List.drop_append, hj, List.drop_succ_cons, List.drop_eq_nil_of_le (by omega)] at hs
    rw [hb, List.drop_append, hj, List.drop_succ_cons, List.drop_eq_nil_of_le (by omega)]
    exact hs

theorem updateRecord_delete (front rest : List PubAckInfo) (r : PubAckInfo)
    (newState : PublishState) :
    updateRecord (front ++ r :: rest) front.length newState true =
      front ++ .zero :: rest := by
  simp [updateRecord]

theorem updateRecord_change (front rest : List PubAckInfo) (r : PubAckInfo)
    (newState : PublishState) :
    updateRecord (front ++ r :: rest) front.length newState false =
      front ++ { r with publishState := newState } :: rest := by
  simp [updateRecord, List.getD_eq_getElem?_getD]

theorem live_clear {front rest : List PubAckInfo} {r : PubAckInfo} {packetId : UInt16}
    (hid : r.packetId = packetId) (hne : r.packetId ≠ packetIdInvalid)
    (hfront : ∀ x ∈ front, x.packetId ≠ packetId) (hrest : ∀ x ∈ rest, x.packetId ≠ packetId) :
    live (front ++ .zero :: rest) =
      remove PubAckInfo.packetId packetId (live (front ++ r :: rest)) := by
  rw [live_append, live_append, live_cons_of_eq rfl, live_cons_of_ne hne,
    remove_split hid (fun x hx => hfront x (mem_live.1 hx).1)
      fun x hx => hrest x (mem_live.1 hx).1]

theorem live_change {front rest : List PubAckInfo} {r : PubAckInfo} {packetId : UInt16}
    (hid : r.packetId = packetId) (hne : r.packetId ≠ packetIdInvalid)
    (hfront : ∀ x ∈ front, x.packetId ≠ packetId) (hrest : ∀ x ∈ rest, x.packetId ≠ packetId)
    (newState : PublishState) :
    live (front ++ { r with publishState := newState } :: rest) =
      modify PubAckInfo.packetId packetId (fun x => { x with publishState := newState })
        (live (front ++ r :: rest)) := by
  rw [live_append, live_append, live_cons_of_ne hne,
    live_cons_of_ne (r := { r with publishState := newState }) hne,
    modify_split hid (fun x hx => hfront x (mem_live.1 hx).1)
      fun x hx => hrest x (mem_live.1 hx).1]

/-! ## Valid records -/

theorem valid_remove {d : Direction} {l : List PubAckInfo} (h : ∀ r ∈ l, ValidRecord d r)
    (packetId : UInt16) : ∀ r ∈ remove PubAckInfo.packetId packetId l, ValidRecord d r :=
  fun r hr => h r (List.mem_of_mem_filter hr)

theorem valid_append {d : Direction} {l : List PubAckInfo} (h : ∀ r ∈ l, ValidRecord d r)
    {x : PubAckInfo} (hx : ValidRecord d x) : ∀ r ∈ l ++ [x], ValidRecord d r := by
  intro r hr
  rcases List.mem_append.1 hr with hr | hr
  · exact h r hr
  · rw [List.mem_singleton.1 hr]
    exact hx

theorem AddOutcome.valid {d : Direction} {records records' : List PubAckInfo} {r : PubAckInfo}
    {status : Status} (ho : AddOutcome records r records' status)
    (h : ∀ x ∈ live records, ValidRecord d x) (hr : ValidRecord d r) :
    ∀ x ∈ live records', ValidRecord d x := by
  cases ho with
  | collision _ hlive => exact hlive ▸ h
  | full _ hlive => exact hlive ▸ h
  | added _ hlive => exact hlive ▸ valid_append h hr

/-- The reaction of the handshake keeps every entry in a phase of its own. -/
theorem valid_handleEntry {d : Direction} {l : List PubAckInfo} {r : PubAckInfo}
    (hl : (l.map PubAckInfo.packetId).Nodup) (h : ∀ x ∈ l, ValidRecord d x) (hr : r ∈ l)
    (packet : Packet) : ∀ x ∈ (handleEntry d packet r l).2, ValidRecord d x := by
  unfold handleEntry
  split
  · exact h
  · exact h
  · exact valid_remove h _
  · rename_i state hreact
    have hnext := validRecord_of_next (react_eq_advance hreact)
    split
    · exact valid_append (valid_remove h _) hnext
    · intro x hx
      obtain ⟨y, hy, rfl⟩ := List.mem_map.1 hx
      split
      · rename_i hk
        rw [List.inj_on_of_nodup_map hl hy hr hk]
        exact hnext
      · exact h y hy

/-! ## Transitions -/

/-- The outcome of a PUBREC on an array in which `addRecord` does not visit all slots: the
record is deleted and finds no slot behind the others. -/
def ReAddLost (d : Direction) (packet : Packet) (r : PubAckInfo) (records : List PubAckInfo)
    (status : Status) (records' : List PubAckInfo) : Prop :=
  2 ≤ scanBound records ∧ scanBound records < records.length ∧
    react d r packet = .advance .pubRelSend ∧ status = .noMemory ∧
    live records' = remove PubAckInfo.packetId r.packetId (live records)

/-- The live records lie in the slots that `addRecord` visits. -/
theorem Slots.length_live_le {records : List PubAckInfo} (h : Slots records) :
    (live records).length ≤ scanBound records := by
  have hsplit : live records = live (records.take (scanBound records)) := by
    conv_lhs => rw [← List.take_append_drop (scanBound records) records]
    rw [live_append, live_eq_nil.2 h.scanned, List.append_nil]
  rw [hsplit]
  exact (FreeMqtt.length_live_le _).trans (List.length_take_le ..)

theorem qos_of_pubRelSend {packetType : PubAckType} {opType : StateOperation} {qos : QoS}
    (h : mqttCalculateStateAck packetType opType qos = .pubRelSend) : qos = .qos2 := by
  cases packetType <;> cases opType <;> cases qos <;> first | rfl | exact absurd h (by decide)

/-- `updateStateAck` by the reaction of the record. -/
theorem updateStateAck_eq (packetType : PubAckType) (opType : StateOperation)
    (records : List PubAckInfo) (recordIndex : Nat) (packetId : UInt16) (r : PubAckInfo) :
    updateStateAck records recordIndex packetId r.publishState
        (mqttCalculateStateAck packetType opType r.qos) =
      match ackReaction packetType opType r with
      | .illegal => (.illegalState, records)
      | .keep => (.success, records)
      | .complete => (.success, updateRecord records recordIndex .publishDone true)
      | .advance state =>
          if state = .pubRelSend then
            addRecord (updateRecord records recordIndex state true) packetId .qos2 .pubRelSend
          else (.success, updateRecord records recordIndex state false) := by
  unfold updateStateAck ackReaction
  generalize mqttCalculateStateAck packetType opType r.qos = newState
  by_cases hv : validateTransitionAck r.publishState newState
  · by_cases hcur : newState = r.publishState
    · subst hcur
      simp [hv]
    · by_cases hdone : newState = .publishDone
      · subst hdone
        simp [hv, hcur, Ne.symm hcur]
      · by_cases hrel : newState = .pubRelSend
        · subst hrel
          simp [hv, hcur, Ne.symm hcur]
        · have hdel : (newState == .publishDone || newState == .pubRelSend) = false := by
            simp [hdone, hrel]
          simp [hv, hcur, Ne.symm hcur, hdone, hrel, hdel]
  · simp [hv]

theorem ackReaction_eq_advance {packetType : PubAckType} {opType : StateOperation}
    {r : PubAckInfo} {state : PublishState}
    (h : ackReaction packetType opType r = .advance state) :
    mqttCalculateStateAck packetType opType r.qos = state := by
  unfold ackReaction at h
  dsimp only at h
  split at h
  · split at h
    · exact absurd h (by simp)
    · split at h
      · exact absurd h (by simp)
      · exact Reaction.advance.inj h
  · exact absurd h (by simp)

/-- `updateStateAck` on the record found for a packet id. -/
theorem Table.updateStateAck {packetType : PubAckType} {opType : StateOperation}
    {front rest : List PubAckInfo} {r : PubAckInfo} {packetId : UInt16}
    (h : Table (ackDirection packetType opType) (front ++ r :: rest)) (hid : r.packetId = packetId)
    (hne : r.packetId ≠ packetIdInvalid) (hfront : ∀ x ∈ front, x.packetId ≠ packetId)
    (hrest : ∀ x ∈ rest, x.packetId ≠ packetId) :
    ∃ status records',
      FreeMqtt.updateStateAck (front ++ r :: rest) front.length packetId r.publishState
        (mqttCalculateStateAck packetType opType r.qos) = (status, records') ∧
      Table (ackDirection packetType opType) records' ∧
      records'.length = (front ++ r :: rest).length ∧
      ((status, live records') =
          handleEntry (ackDirection packetType opType) (.ack packetType) r
            (live (front ++ r :: rest)) ∨
        ReAddLost (ackDirection packetType opType) (.ack packetType) r (front ++ r :: rest)
          status records') := by
  have hs := h.toSlots
  have hrl : r ∈ live (front ++ r :: rest) := mem_live.2 ⟨by simp, hne⟩
  have hvalid := valid_handleEntry h.nodup h.valid hrl (.ack packetType)
  have hreact := validateTransitionAck_eq packetType opType (h.valid r hrl)
  have hclear : Slots (front ++ .zero :: rest) := hs.replace hne (.inl rfl)
  have hids := live_clear hid hne hfront hrest
  rw [updateStateAck_eq]
  unfold handleEntry at hvalid ⊢
  unfold ReAddLost
  rw [← hreact, hid] at hvalid ⊢
  cases hr : ackReaction packetType opType r with
  | illegal => exact ⟨_, _, rfl, h, rfl, .inl rfl⟩
  | keep => exact ⟨_, _, rfl, h, rfl, .inl rfl⟩
  | complete =>
    simp only [hr] at hvalid ⊢
    rw [← hids] at hvalid ⊢
    rw [updateRecord_delete]
    exact ⟨_, _, rfl, ⟨hclear, hvalid⟩, by simp, .inl rfl⟩
  | advance state =>
    simp only [hr] at hvalid ⊢
    by_cases hrel : state = .pubRelSend
    · subst hrel
      have hqos := qos_of_pubRelSend (ackReaction_eq_advance hr)
      have hnotin : packetId ∉ (live (front ++ .zero :: rest)).map PubAckInfo.packetId := by
        rw [hids]
        exact notMem_keys_remove
      simp only [if_true] at hvalid ⊢
      rw [← hids, hqos] at hvalid ⊢
      rw [updateRecord_delete]
      obtain ⟨status, records', hadd, hs', hlen', hcases⟩ :=
        addRecord_cases hclear (hid ▸ hne) .qos2 .pubRelSend
      rw [hadd]
      refine ⟨status, records', rfl, ?_⟩
      have hlen : (front ++ PubAckInfo.zero :: rest).length = (front ++ r :: rest).length := by
        simp
      cases hcases with
      | collision hin => exact absurd hin hnotin
      | full _ hlive hfull hempty =>
        -- the slot that the record had is free, so the loop stopped short of it
        have hb := scanBound_congr hlen
        have hlt := length_remove_lt (List.mem_map.2 ⟨r, hrl, hid⟩)
        rw [← hids] at hlt
        have hle := hs.length_live_le
        have hle' := FreeMqtt.length_live_le (front ++ r :: rest)
        have hpos : 0 < (live (front ++ PubAckInfo.zero :: rest)).length := by
          rw [List.length_pos_iff]
          intro hnil
          have := hempty hnil
          omega
        refine ⟨⟨hs', fun x hx => hvalid x (List.mem_append_left _ (hlive ▸ hx))⟩,
          hlen'.trans hlen, .inr ⟨by omega, ?_, trivial, rfl, hlive⟩⟩
        refine Nat.lt_of_le_of_ne (scanBound_le _) fun heq => ?_
        have := hfull (by rw [hb, heq, hlen])
        omega
      | added _ hlive => exact ⟨⟨hs', hlive ▸ hvalid⟩, hlen'.trans hlen, .inl (by rw [hlive])⟩
    · simp only [hrel, if_false] at hvalid ⊢
      rw [← live_change hid hne hfront hrest] at hvalid ⊢
      rw [updateRecord_change]
      exact ⟨_, _, rfl, ⟨hs.replace hne (.inr rfl), hvalid⟩, by simp, .inl rfl⟩

/-- `updateStatePublish` on the outgoing record found for a packet id. -/
theorem Table.updateStatePublish {t : PublishRecords} {front rest : List PubAckInfo}
    {r : PubAckInfo} {packetId : UInt16} (ht : t.outgoingPublishRecords = front ++ r :: rest)
    (h : Table .outgoing (front ++ r :: rest)) (hid : r.packetId = packetId)
    (hne : r.packetId ≠ packetIdInvalid) (hfront : ∀ x ∈ front, x.packetId ≠ packetId)
    (hrest : ∀ x ∈ rest, x.packetId ≠ packetId) :
    ∃ status records',
      FreeMqtt.updateStatePublish t front.length packetId .send r.qos r.publishState
        (mqttCalculateStatePublish .send r.qos) =
          (status, { t with outgoingPublishRecords := records' }) ∧
      Table .outgoing records' ∧ records'.length = (front ++ r :: rest).length ∧
      (status, live records') =
        handleEntry .outgoing .publish r (live (front ++ r :: rest)) := by
  have hs := h.toSlots
  have hrl : r ∈ live (front ++ r :: rest) := mem_live.2 ⟨by simp, hne⟩
  have hvalid := valid_handleEntry h.nodup h.valid hrl .publish
  have hreact := validateTransitionPublish_eq (h.valid r hrl)
  have hself : ({ t with outgoingPublishRecords := front ++ r :: rest } : PublishRecords) = t := by
    rw [← ht]
  unfold handleEntry at hvalid ⊢
  rw [← hreact, hid] at hvalid ⊢
  unfold FreeMqtt.updateStatePublish
  have hrel : mqttCalculateStatePublish .send r.qos ≠ .pubRelSend := by
    cases r.qos <;> decide
  generalize mqttCalculateStatePublish .send r.qos = newState at hvalid hrel ⊢
  by_cases hv : validateTransitionPublish r.publishState newState .send r.qos
  · by_cases hcur : r.publishState = newState
    · subst hcur
      simp only [hv, if_true, reduceCtorEq, if_false, ne_eq, not_true]
      exact ⟨.success, front ++ r :: rest, by rw [hself], h, rfl, rfl⟩
    · simp only [hv, hcur, if_true, reduceCtorEq, if_false, ne_eq, not_false_eq_true, hrel]
        at hvalid ⊢
      rw [← live_change hid hne hfront hrest] at hvalid ⊢
      rw [ht, updateRecord_change]
      exact ⟨_, _, rfl, ⟨hs.replace hne (.inr rfl), hvalid⟩, by simp, rfl⟩
  · simp only [hv, Bool.false_eq_true, if_false]
    exact ⟨.illegalState, front ++ r :: rest, by rw [hself], h, rfl, rfl⟩

/-! ## The functions of `core_mqtt_state.h` -/

section Calls

variable {t : PublishRecords} {packetId : UInt16} (hid : packetId ≠ packetIdInvalid)

include hid

theorem mqttReserveState_spec (h : Table .outgoing (t.table .outgoing)) {qos : QoS} (hq : qos ≠ .qos0) :
    ∃ status records', mqttReserveState t packetId qos = (status, t.setTable .outgoing records') ∧
      Table .outgoing records' ∧ records'.length = (t.table .outgoing).length ∧
      AddOutcome (t.table .outgoing) (firstRecord .outgoing packetId qos) records' status := by
  have hfirst := firstRecord_outgoing packetId hq
  obtain ⟨status, records', hadd, hs, hlen, hcases⟩ :=
    addRecord_cases h.toSlots hid qos .publishSend
  refine ⟨status, records', ?_, ⟨hs, ?_⟩, hlen, hfirst ▸ hcases⟩
  · change addRecord t.outgoingPublishRecords packetId qos .publishSend = _ at hadd
    rw [mqttReserveState, if_neg hq, if_neg hid, hadd]
    rfl
  · exact hcases.valid h.valid (hfirst ▸ validRecord_firstRecord .outgoing packetId hq)

theorem mqttUpdateStatePublish_receive_spec (h : Table .incoming (t.table .incoming))
    {qos : QoS} (hq : qos ≠ .qos0) :
    ∃ status records', mqttUpdateStatePublish t packetId .receive qos =
        (status,
          if status = .success then some (firstRecord .incoming packetId qos).publishState
          else none,
          t.setTable .incoming records') ∧
      Table .incoming records' ∧ records'.length = (t.table .incoming).length ∧
      AddOutcome (t.table .incoming) (firstRecord .incoming packetId qos) records' status := by
  obtain ⟨htrans, hstate⟩ := validateTransitionPublish_receive hq
  obtain ⟨status, records', hadd, hs, hlen, hcases⟩ :=
    addRecord_cases h.toSlots hid qos (mqttCalculateStatePublish .receive qos)
  have hfirst : firstRecord .incoming packetId qos =
      ⟨packetId, qos, mqttCalculateStatePublish .receive qos⟩ := by
    rw [firstRecord, hstate]
  refine ⟨status, records', ?_, ⟨hs, ?_⟩, hlen, hfirst ▸ hcases⟩
  · have hupd : updateStatePublish t 0 packetId .receive qos .null
        (mqttCalculateStatePublish .receive qos) = (status, t.setTable .incoming records') := by
      change addRecord t.incomingPublishRecords packetId qos _ = _ at hadd
      simp only [updateStatePublish, htrans, if_true, hadd]
      rfl
    simp only [mqttUpdateStatePublish, if_neg hq, if_neg hid, reduceCtorEq, if_false, false_and,
      Option.getD_none, hupd, hfirst]
  · exact hcases.valid h.valid (hfirst ▸ validRecord_firstRecord .incoming packetId hq)

/-- A received publish that is new fits into a free slot. -/
theorem mqttUpdateStatePublish_receive_of_free (h : Slots t.incomingPublishRecords)
    (hfree : FreeSlot t.incomingPublishRecords)
    (hmem : packetId ∉ (live t.incomingPublishRecords).map PubAckInfo.packetId) {qos : QoS}
    (hq : qos ≠ .qos0) : (mqttUpdateStatePublish t packetId .receive qos).1 = .success := by
  have hadd := addRecord_success_of_free h hfree hid hmem qos
    (mqttCalculateStatePublish .receive qos)
  obtain ⟨htrans, -⟩ := validateTransitionPublish_receive hq
  simp only [mqttUpdateStatePublish, if_neg hq, if_neg hid, reduceCtorEq, if_false, false_and,
    Option.getD_none, updateStatePublish, htrans, if_true]
  exact hadd

theorem mqttUpdateStatePublish_send_none (h : Table .outgoing (t.table .outgoing)) {qos : QoS}
    (hq : qos ≠ .qos0)
    (hr : ∀ r, liveRecord (t.table .outgoing) packetId = some r → r.qos ≠ qos) :
    mqttUpdateStatePublish t packetId .send qos = (.badParameter, none, t) := by
  have hfound : (findInRecord t.outgoingPublishRecords packetId .qos0).1 = none ∨
      (findInRecord t.outgoingPublishRecords packetId .qos0).2.1 ≠ qos := by
    cases hl : liveRecord (t.table .outgoing) packetId with
    | none =>
      have hf : findInRecord t.outgoingPublishRecords packetId .qos0 = _ :=
        findInRecord_eq_none hl hid .qos0
      exact .inl (by rw [hf])
    | some r =>
      obtain ⟨_, _, hsplit, -, -, -, -, hf⟩ := findInRecord_eq_some h.toSlots hl .qos0
      refine .inr ?_
      change (findInRecord (t.table .outgoing) packetId .qos0).2.1 ≠ qos
      rw [hf]
      exact hr r hl
  simp only [mqttUpdateStatePublish, if_neg hq, if_neg hid, if_true, hfound, and_self]

theorem mqttUpdateStatePublish_send_some (h : Table .outgoing (t.table .outgoing)) {qos : QoS}
    (hq : qos ≠ .qos0) {r : PubAckInfo}
    (hr : liveRecord (t.table .outgoing) packetId = some r) (hrq : r.qos = qos) :
    ∃ status records', mqttUpdateStatePublish t packetId .send qos =
        (status, if status = .success then some (mqttCalculateStatePublish .send qos) else none,
          t.setTable .outgoing records') ∧
      Table .outgoing records' ∧ records'.length = (t.table .outgoing).length ∧
      (status, live records') =
        handleEntry .outgoing .publish r (live (t.table .outgoing)) := by
  obtain ⟨front, rest, hsplit, hrid, hne, hfront, hrest, hf⟩ :=
    findInRecord_eq_some h.toSlots hr .qos0
  subst hrq
  obtain ⟨status, records', hupd, htab, hlen, hcases⟩ :=
    Table.updateStatePublish hsplit (hsplit ▸ h) hrid hne hfront hrest
  rw [← hsplit] at hlen hcases
  refine ⟨status, records', ?_, htab, hlen, hcases⟩
  change findInRecord t.outgoingPublishRecords packetId .qos0 = _ at hf
  simp only [mqttUpdateStatePublish, if_neg hq, if_neg hid, if_true, hf, reduceCtorEq, ne_eq,
    not_true, or_self, and_false, if_false, Option.getD_some, hupd]
  rfl

theorem mqttUpdateStateAck_none {packetType : PubAckType} {opType : StateOperation}
    (hr : liveRecord (t.table (ackDirection packetType opType)) packetId = none) :
    mqttUpdateStateAck t packetId packetType opType = (.badResponse, none, t) := by
  have hf := findInRecord_eq_none hr hid .qos0
  simp only [mqttUpdateStateAck, if_neg hid, side_eq, hf]

theorem mqttUpdateStateAck_some {packetType : PubAckType} {opType : StateOperation}
    (h : Table (ackDirection packetType opType) (t.table (ackDirection packetType opType)))
    {r : PubAckInfo}
    (hr : liveRecord (t.table (ackDirection packetType opType)) packetId = some r) :
    ∃ status records', mqttUpdateStateAck t packetId packetType opType =
        (status,
          if status = .success then some (mqttCalculateStateAck packetType opType r.qos)
          else none,
          t.setTable (ackDirection packetType opType) records') ∧
      Table (ackDirection packetType opType) records' ∧
      records'.length = (t.table (ackDirection packetType opType)).length ∧
      ((status, live records') =
          handleEntry (ackDirection packetType opType) (.ack packetType) r
            (live (t.table (ackDirection packetType opType))) ∨
        ReAddLost (ackDirection packetType opType) (.ack packetType) r
          (t.table (ackDirection packetType opType)) status records') := by
  have htab := h
  obtain ⟨front, rest, hsplit, hrid, hne, hfront, hrest, hf⟩ :=
    findInRecord_eq_some htab.toSlots hr .qos0
  rw [hsplit] at htab
  obtain ⟨status, records', hupd, htab', hlen, hcases⟩ :=
    htab.updateStateAck hrid hne hfront hrest
  rw [← hsplit] at hupd hlen hcases
  refine ⟨status, records', ?_, htab', hlen, hcases⟩
  simp only [mqttUpdateStateAck, if_neg hid, side_eq, setSide_eq, hf, hupd]

/-- An illegal acknowledgement changes nothing. -/
theorem mqttUpdateStateAck_illegal {packetType : PubAckType} {opType : StateOperation}
    (h : Table (ackDirection packetType opType) (t.table (ackDirection packetType opType)))
    {r : PubAckInfo}
    (hr : liveRecord (t.table (ackDirection packetType opType)) packetId = some r)
    (hreact : react (ackDirection packetType opType) r (.ack packetType) = .illegal) :
    mqttUpdateStateAck t packetId packetType opType = (.illegalState, none, t) := by
  obtain ⟨front, rest, hsplit, -, -, -, -, hf⟩ := findInRecord_eq_some h.toSlots hr .qos0
  have hillegal := validateTransitionAck_eq packetType opType (h.valid r (lookup_mem hr))
  rw [hreact] at hillegal
  have hupd := updateStateAck_eq packetType opType (t.table (ackDirection packetType opType))
    front.length packetId r
  rw [hillegal] at hupd
  simp only [mqttUpdateStateAck, if_neg hid, side_eq, setSide_eq, hf, hupd]
  cases ackDirection packetType opType <;> rfl

theorem mqttRemoveStateRecord_none
    (hr : liveRecord (t.table .outgoing) packetId = none) :
    mqttRemoveStateRecord t packetId = (.badParameter, t) := by
  have hf : findInRecord t.outgoingPublishRecords packetId .qos0 = _ :=
    findInRecord_eq_none hr hid .qos0
  simp only [mqttRemoveStateRecord, hf, if_true, ite_self]

omit hid in
theorem mqttRemoveStateRecord_invalid (hs : Slots (t.table .outgoing)) :
    mqttRemoveStateRecord t packetIdInvalid = (.badParameter, t) := by
  have hf : (findInRecord t.outgoingPublishRecords packetIdInvalid .qos0).2.2 = .null :=
    findInRecord_invalid hs .qos0
  simp only [mqttRemoveStateRecord, hf, if_true, ite_self]

omit hid in
theorem mqttRemoveStateRecord_some (h : Table .outgoing (t.table .outgoing)) {r : PubAckInfo}
    (hr : liveRecord (t.table .outgoing) packetId = some r) :
    ∃ records', mqttRemoveStateRecord t packetId = (.success, t.setTable .outgoing records') ∧
      Table .outgoing records' ∧ records'.length = (t.table .outgoing).length ∧
      live records' = remove PubAckInfo.packetId packetId (live (t.table .outgoing)) := by
  have htab := h
  obtain ⟨front, rest, hsplit, hrid, hne, hfront, hrest, hf⟩ :=
    findInRecord_eq_some htab.toSlots hr .qos0
  have hvalid := htab.valid r (lookup_mem hr)
  have hlive := live_clear hrid hne hfront hrest
  rw [← hsplit] at hlive
  refine ⟨front ++ .zero :: rest, ?_, ⟨?_, ?_⟩, by rw [hsplit]; simp, hlive⟩
  · change t.outgoingPublishRecords = _ at hsplit
    change findInRecord t.outgoingPublishRecords packetId .qos0 = _ at hf
    have hqos : ¬ (r.qos ≠ .qos1 ∧ r.qos ≠ .qos2) := by
      have := hvalid.qos_ne
      revert this
      cases r.qos <;> decide
    have hdel := updateRecord_delete front rest r .null
    rw [← hsplit] at hdel
    simp only [mqttRemoveStateRecord, hf, hvalid.publishState_ne.1, hqos, if_false,
      Option.getD_some, hdel]
    rw [if_neg (by rw [hsplit]; simp)]
    rfl
  · exact (hsplit ▸ htab.toSlots).replace hne (.inl rfl)
  · rw [hlive]
    exact valid_remove htab.valid packetId

end Calls

end FreeMqtt

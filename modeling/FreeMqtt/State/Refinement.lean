import FreeMqtt.State.Tables

/-!
# The engine refines bounded ordered lists

`Represents` relates the record arrays to the abstract lists: the live records of an array,
in array order, are the entries of its list. `Represents.run` is the simulation of one
call, `Represents.runCalls` of a run. The capacity is bounded by the `int32_t` index of
`addRecord`; the number and place of the holes do not matter.
-/

namespace FreeMqtt

open KeyedList

/-- The packet id of a call is not `packetIdInvalid`, and its QoS is 1 or 2. -/
def EngineCall.Proper : EngineCall → Prop
  | .reserveState packetId qos => packetId ≠ packetIdInvalid ∧ qos ≠ .qos0
  | .updateStatePublish packetId _ qos => packetId ≠ packetIdInvalid ∧ qos ≠ .qos0
  | .updateStateAck packetId _ _ => packetId ≠ packetIdInvalid
  | .removeStateRecord packetId => packetId ≠ packetIdInvalid

instance : DecidablePred EngineCall.Proper := fun call => by
  cases call <;> unfold EngineCall.Proper <;> infer_instance

/-- The arrays `t` represent the lists `a`. -/
structure Represents {count : Direction → Nat} (t : PublishRecords) (a : OrderedRecords count) :
    Prop where
  tables : Tables t
  count_eq : ∀ d, (t.table d).length = count d
  entries_eq : ∀ d, live (t.table d) = (a.list d).entries

theorem represents_zero (count : Direction → Nat) :
    Represents (.zero count) (.empty : OrderedRecords count) where
  tables := tables_zero count
  count_eq d := by rw [table_zero, length_holes]
  entries_eq d := by rw [table_zero, live_holes]; rfl

/-! ## One list -/

/-- `addRecord` on an array of a capacity that its index can count. -/
theorem OrderedList.add_eq {records records' : List PubAckInfo} {r : PubAckInfo}
    {status : Status} (ho : AddOutcome records r records' status) {n : Nat}
    {b : OrderedList n} (hb : live records = b.entries) (hlen : records.length = n)
    (hn : n < 2 ^ 31) :
    status = (b.add r).1 ∧ live records' = (b.add r).2.entries := by
  unfold OrderedList.add
  cases ho with
  | collision hmem hlive =>
    rw [hb] at hmem
    rw [dif_pos hmem]
    exact ⟨rfl, hlive.trans hb⟩
  | full hmem hlive hfull _ =>
    have hn' := hfull (scanBound_eq (by omega))
    rw [hb] at hmem hn'
    rw [dif_neg hmem, dif_neg (by omega)]
    exact ⟨rfl, hlive.trans hb⟩
  | added hmem hlive hlt =>
    rw [hb] at hmem hlt
    rw [dif_neg hmem, dif_pos (by omega)]
    exact ⟨rfl, by rw [hlive, hb]; rfl⟩

section Handle

variable {n : Nat} (b : OrderedList n) (d : Direction) {packetId : UInt16} (packet : Packet)
  (missing : Status) (accepts : PubAckInfo → Bool)

theorem OrderedList.handle_none
    (h : ∀ r, lookup PubAckInfo.packetId packetId b.entries = some r → accepts r = false) :
    b.handle d packetId packet missing accepts = (missing, b) := by
  unfold OrderedList.handle
  split
  · rfl
  · rename_i r hr
    rw [h r hr]
    rfl

theorem OrderedList.handle_some {r : PubAckInfo}
    (hr : lookup PubAckInfo.packetId packetId b.entries = some r) (ha : accepts r = true) :
    (b.handle d packetId packet missing accepts).1 = (handleEntry d packet r b.entries).1 ∧
      (b.handle d packetId packet missing accepts).2.entries =
        (handleEntry d packet r b.entries).2 := by
  unfold OrderedList.handle
  split
  · rename_i hnone
    rw [hr] at hnone
    exact absurd hnone (by simp)
  · rename_i r' hr'
    rw [hr] at hr'
    cases hr'
    rw [if_pos ha]
    exact ⟨rfl, rfl⟩

end Handle

/-! ## One call -/

theorem not_reAddLost {d : Direction} {packet : Packet} {r : PubAckInfo}
    {records records' : List PubAckInfo} {status : Status} (h : records.length < 2 ^ 31) :
    ¬ ReAddLost d packet r records status records' := by
  rintro ⟨-, hlt, -⟩
  rw [scanBound_eq h] at hlt
  exact Nat.lt_irrefl _ hlt

section

variable {count : Direction → Nat} {t : PublishRecords} {a : OrderedRecords count}

theorem Represents.set (h : Represents t a) {d : Direction} {records : List PubAckInfo}
    {b : OrderedList (count d)} (ht : Table d records)
    (hlen : records.length = (t.table d).length) (hlive : live records = b.entries) :
    Represents (t.setTable d records) (a.set d b) where
  tables := h.tables.setTable ht
  count_eq d' := by
    by_cases hd : d' = d
    · subst hd
      rw [table_setTable, hlen, h.count_eq]
    · rw [table_setTable_of_ne t hd, h.count_eq]
  entries_eq d' := by
    by_cases hd : d' = d
    · subst hd
      rw [table_setTable, hlive, OrderedRecords.list_set]
    · rw [table_setTable_of_ne t hd, h.entries_eq, a.list_set_of_ne hd]

theorem Represents.set_self (h : Represents t a) (d : Direction) :
    Represents t (a.set d (a.list d)) := by
  rwa [a.set_self]

theorem Represents.reserveState (h : Represents t a) (hn : ∀ d, count d < 2 ^ 31)
    {packetId : UInt16} (hid : packetId ≠ packetIdInvalid) {qos : QoS} (hq : qos ≠ .qos0) :
    (mqttReserveState t packetId qos).1 = (a.reserveState packetId qos).1 ∧
      Represents (mqttReserveState t packetId qos).2 (a.reserveState packetId qos).2 := by
  obtain ⟨status, records', heq, htab, hlen, ho⟩ := mqttReserveState_spec hid (h.tables .outgoing) hq
  obtain ⟨hstatus, hlive⟩ := OrderedList.add_eq ho (h.entries_eq _) (h.count_eq _) (hn _)
  rw [heq]
  exact ⟨hstatus, h.set htab hlen hlive⟩

theorem Represents.updateStatePublish (h : Represents t a) (hn : ∀ d, count d < 2 ^ 31)
    {packetId : UInt16} (hid : packetId ≠ packetIdInvalid) (opType : StateOperation)
    {qos : QoS} (hq : qos ≠ .qos0) :
    (mqttUpdateStatePublish t packetId opType qos).1 =
        (a.updateStatePublish packetId opType qos).1 ∧
      Represents (mqttUpdateStatePublish t packetId opType qos).2.2
        (a.updateStatePublish packetId opType qos).2 := by
  cases opType with
  | receive =>
    obtain ⟨status, records', heq, htab, hlen, ho⟩ :=
      mqttUpdateStatePublish_receive_spec hid (h.tables .incoming) hq
    obtain ⟨hstatus, hlive⟩ := OrderedList.add_eq ho (h.entries_eq _) (h.count_eq _) (hn _)
    rw [heq]
    exact ⟨hstatus, h.set htab hlen hlive⟩
  | send =>
    unfold OrderedRecords.updateStatePublish
    by_cases hfound : ∃ r, liveRecord (t.table .outgoing) packetId = some r ∧ r.qos = qos
    · obtain ⟨r, hr, hrq⟩ := hfound
      obtain ⟨status, records', heq, htab, hlen, hhandle⟩ :=
        mqttUpdateStatePublish_send_some hid (h.tables .outgoing) hq hr hrq
      rw [liveRecord, h.entries_eq] at hr
      rw [h.entries_eq] at hhandle
      obtain ⟨hstatus, hentries⟩ := (a.list .outgoing).handle_some .outgoing .publish
        .badParameter (fun r => r.qos == qos) hr (by simpa using hrq)
      rw [heq]
      exact ⟨(congrArg Prod.fst hhandle).trans hstatus.symm,
        h.set htab hlen ((congrArg Prod.snd hhandle).trans hentries.symm)⟩
    · have hnone : ∀ r, liveRecord (t.table .outgoing) packetId = some r → r.qos ≠ qos :=
        fun r hr hrq => hfound ⟨r, hr, hrq⟩
      rw [mqttUpdateStatePublish_send_none hid (h.tables .outgoing) hq hnone, OrderedList.handle_none]
      · exact ⟨rfl, h.set_self _⟩
      · intro r hr
        rw [← h.entries_eq] at hr
        simpa using hnone r hr

theorem Represents.updateStateAck (h : Represents t a) (hn : ∀ d, count d < 2 ^ 31)
    {packetId : UInt16} (hid : packetId ≠ packetIdInvalid) (packetType : PubAckType)
    (opType : StateOperation) :
    (mqttUpdateStateAck t packetId packetType opType).1 =
        (a.updateStateAck packetId packetType opType).1 ∧
      Represents (mqttUpdateStateAck t packetId packetType opType).2.2
        (a.updateStateAck packetId packetType opType).2 := by
  unfold OrderedRecords.updateStateAck
  dsimp only
  cases hr : liveRecord (t.table (ackDirection packetType opType)) packetId with
  | none =>
    rw [mqttUpdateStateAck_none hid hr, OrderedList.handle_none]
    · exact ⟨rfl, h.set_self _⟩
    · intro r hr'
      rw [← h.entries_eq] at hr'
      exact absurd (hr.symm.trans hr') (by simp)
  | some r =>
    obtain ⟨status, records', heq, htab, hlen, hhandle | hlost⟩ :=
      mqttUpdateStateAck_some hid (h.tables _) hr
    · rw [liveRecord, h.entries_eq] at hr
      rw [h.entries_eq] at hhandle
      obtain ⟨hstatus, hentries⟩ := (a.list (ackDirection packetType opType)).handle_some
        (ackDirection packetType opType) (.ack packetType) .badResponse (fun _ => true) hr rfl
      rw [heq]
      exact ⟨(congrArg Prod.fst hhandle).trans hstatus.symm,
        h.set htab hlen ((congrArg Prod.snd hhandle).trans hentries.symm)⟩
    · exact absurd hlost (not_reAddLost (by rw [h.count_eq]; exact hn _))

theorem Represents.removeStateRecord (h : Represents t a) {packetId : UInt16}
    (hid : packetId ≠ packetIdInvalid) :
    (mqttRemoveStateRecord t packetId).1 = (a.removeStateRecord packetId).1 ∧
      Represents (mqttRemoveStateRecord t packetId).2 (a.removeStateRecord packetId).2 := by
  unfold OrderedRecords.removeStateRecord
  cases hr : liveRecord (t.table .outgoing) packetId with
  | none =>
    rw [mqttRemoveStateRecord_none hid hr]
    rw [liveRecord, lookup_eq_none_iff_notMem, h.entries_eq] at hr
    rw [if_neg hr]
    exact ⟨rfl, h⟩
  | some r =>
    obtain ⟨records', heq, htab, hlen, hlive⟩ := mqttRemoveStateRecord_some (h.tables .outgoing) hr
    have hmem := mem_keys_of_lookup hr
    rw [h.entries_eq] at hmem hlive
    rw [heq, if_pos hmem]
    exact ⟨rfl, h.set htab hlen hlive⟩

/-- The simulation of one call. -/
theorem Represents.run (h : Represents t a) (hn : ∀ d, count d < 2 ^ 31) {call : EngineCall}
    (hc : call.Proper) :
    (call.run t).1 = (a.run call).1 ∧ Represents (call.run t).2 (a.run call).2 := by
  cases call with
  | reserveState packetId qos => exact h.reserveState hn hc.1 hc.2
  | updateStatePublish packetId opType qos => exact h.updateStatePublish hn hc.1 opType hc.2
  | updateStateAck packetId packetType opType => exact h.updateStateAck hn hc packetType opType
  | removeStateRecord packetId => exact h.removeStateRecord hc

/-- The simulation of a run. -/
theorem Represents.runCalls (h : Represents t a) (hn : ∀ d, count d < 2 ^ 31)
    {calls : List EngineCall} (hc : ∀ call ∈ calls, call.Proper) :
    (FreeMqtt.runCalls t calls).1 = (a.runCalls calls).1 ∧
      Represents (FreeMqtt.runCalls t calls).2 (a.runCalls calls).2 := by
  induction calls generalizing t a with
  | nil => exact ⟨rfl, h⟩
  | cons call calls ih =>
    obtain ⟨hstatus, hnext⟩ := h.run hn (hc call List.mem_cons_self)
    obtain ⟨hrest, hlast⟩ := ih hnext fun c hmem => hc c (List.mem_cons_of_mem _ hmem)
    exact ⟨congrArg₂ List.cons hstatus hrest, hlast⟩

/-- A call that fails keeps the live records. -/
theorem Represents.run_unchanged (h : Represents t a) (hn : ∀ d, count d < 2 ^ 31)
    {call : EngineCall} (hc : call.Proper) (hs : (call.run t).1 ≠ .success) (d : Direction) :
    live ((call.run t).2.table d) = live (t.table d) := by
  obtain ⟨hstatus, hnext⟩ := h.run hn hc
  rw [hnext.entries_eq, OrderedRecords.run_unchanged (hstatus ▸ hs), h.entries_eq]

end

/-! ## Reachable arrays -/

/-- From zeroed arrays, every run of calls returns the statuses of the ordered lists and
leaves their entries in the arrays. No call that fails changes an entry, and the PUBREC
that moves a record never fails for lack of room or for a collision. -/
theorem runCalls_refines_orderedLists {count : Direction → Nat}
    (hn : ∀ d, 1 ≤ count d ∧ count d < 2 ^ 31) {calls : List EngineCall}
    (hc : ∀ call ∈ calls, call.Proper) :
    let arrays := runCalls (.zero count) calls
    let lists := (OrderedRecords.empty : OrderedRecords count).runCalls calls
    arrays.1 = lists.1 ∧
      (∀ d, live (arrays.2.table d) = (lists.2.list d).entries ∧
        (arrays.2.table d).length = count d ∧
        ((live (arrays.2.table d)).map PubAckInfo.packetId).Nodup ∧
        (live (arrays.2.table d)).length ≤ count d ∧
        ∀ r ∈ arrays.2.table d, r.packetId = packetIdInvalid → r = .zero) ∧
      (∀ call : EngineCall, call.Proper → (call.run arrays.2).1 ≠ .success →
        ∀ d, live ((call.run arrays.2).2.table d) = live (arrays.2.table d)) ∧
      ∀ packetId, packetId ≠ packetIdInvalid →
        (mqttUpdateStateAck arrays.2 packetId .pubrec .receive).1 ∈
          [Status.badResponse, .illegalState, .success] := by
  intro arrays lists
  have hlt : ∀ d, count d < 2 ^ 31 := fun d => (hn d).2
  obtain ⟨hstatus, h⟩ := (represents_zero count).runCalls hlt hc
  refine ⟨hstatus, fun d => ⟨h.entries_eq d, h.count_eq d, (h.tables d).nodup, ?_,
    (h.tables d).zero⟩, fun call hp hs d => h.run_unchanged hlt hp hs d, fun packetId hid => ?_⟩
  · rw [← h.count_eq d]
    exact length_live_le _
  · have hack := h.updateStateAck hlt hid .pubrec .receive
    rw [hack.1]
    exact OrderedRecords.updateStateAck_status _ _ _ _

theorem runCalls_refines_orderedLists_pubrec :
    let calls : List EngineCall := [.reserveState 1 .qos2, .reserveState 2 .qos1,
      .updateStatePublish 1 .send .qos2, .updateStateAck 1 .pubrec .receive]
    live ((runCalls (.zero fun _ => 2) calls).2.table .outgoing) =
        (((OrderedRecords.empty : OrderedRecords fun _ => 2).runCalls calls).2.list
          .outgoing).entries ∧
      live ((runCalls (.zero fun _ => 2) calls).2.table .outgoing) =
        [⟨2, .qos1, .publishSend⟩, ⟨1, .qos2, .pubRelSend⟩] :=
  ⟨((runCalls_refines_orderedLists (fun _ => by decide) (by decide)).2.1 .outgoing).1,
    by decide⟩

end FreeMqtt

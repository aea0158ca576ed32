import FreeMqtt.State.Resend

/-!
# A PUBLISH that is sent again

`MQTT_Publish` reserves a record also for a duplicate. The record exists, so `addRecord` finds
a collision and adds nothing, but when the last slot of the array is live it moves the holes
behind the records first (`mqttReserveState_duplicate`). `Settled` arrays are those that it
leaves alone.
-/

namespace FreeMqtt

/-! ## The reservation -/

theorem addRecord_of_mem {records : List PubAckInfo} (h : Slots records) {r : PubAckInfo}
    (hmem : r.packetId ∈ (live records).map PubAckInfo.packetId) (publishState : PublishState) :
    addRecord records r.packetId r.qos publishState = (.stateCollision, compacted records) := by
  obtain ⟨_, _, -, -, -, hadd⟩ := addRecord_eq h { r with publishState }
  rwa [if_pos hmem] at hadd

/-- The reservation for a duplicate. -/
theorem mqttReserveState_duplicate {t : PublishRecords}
    (h : Table .outgoing t.outgoingPublishRecords) {r : PubAckInfo}
    (hr : r ∈ t.outgoingPublishRecords) (hstate : r.publishState ∈ publishStates) :
    mqttReserveState t r.packetId r.qos =
        (.stateCollision, t.setTable .outgoing (compacted t.outgoingPublishRecords)) ∧
      Table .outgoing (compacted t.outgoingPublishRecords) := by
  obtain ⟨hid, hvalid⟩ := h.live_of_state hr (by decide) hstate
  obtain ⟨hs, -, hlive, -⟩ := slots_compacted h.toSlots
  refine ⟨?_, hs, hlive ▸ h.valid⟩
  rw [mqttReserveState, if_neg hvalid.qos_ne, if_neg hid,
    addRecord_of_mem h.toSlots (List.mem_map_of_mem (mem_live.2 ⟨hr, hid⟩))]
  rfl

/-- The last slot of an array is empty, or none is. -/
def Settled (records : List PubAckInfo) : Prop :=
  (records.getD (records.length - 1) default).packetId = packetIdInvalid ∨ live records = records

theorem compacted_of_settled {records : List PubAckInfo} (hs : Slots records)
    (h : Settled records) : compacted records = records := by
  rcases h with hlast | hfull
  · exact if_neg (not_not_intro hlast)
  · have hcompact := compactRecords_eq hs.zero
    rw [hfull, Nat.sub_self] at hcompact
    unfold compacted
    split
    · rw [hcompact, holes, List.replicate_zero, List.append_nil]
    · rfl

theorem Settled.replace {front rest : List PubAckInfo} {r r' : PubAckInfo}
    (h : Settled (front ++ r :: rest)) (hid : r'.packetId = r.packetId) :
    Settled (front ++ r' :: rest) := by
  have hlen : (front ++ r' :: rest).length = (front ++ r :: rest).length := by simp
  rcases h with hlast | hfull
  · refine .inl ?_
    rw [getD_replace front rest r r', hlen]
    split
    · rename_i hi
      rw [hi] at hlast
      rw [hid]
      simpa [List.getD_eq_getElem?_getD] using hlast
    · exact hlast
  · refine .inr (live_eq_self.2 fun x hx => ?_)
    rw [live_eq_self] at hfull
    rcases List.mem_append.1 hx with hx | hx
    · exact hfull x (by simp [hx])
    · rcases List.mem_cons.1 hx with rfl | hx
      · rw [hid]
        exact hfull r (by simp)
      · exact hfull x (by simp [hx])

theorem settled_append_holes (l : List PubAckInfo) {k : Nat} (hk : 0 < k) :
    Settled (l ++ holes k) := by
  obtain ⟨k, rfl⟩ : ∃ j, k = j + 1 := ⟨k - 1, by omega⟩
  refine .inl ?_
  rw [holes_succ', ← List.append_assoc]
  simp [List.getD_eq_getElem?_getD, PubAckInfo.zero]

/-- In an array that is not settled, the holes go behind the records. -/
theorem compacted_of_not_settled {records : List PubAckInfo} (hs : Slots records)
    (h : ¬ Settled records) :
    0 < records.length - (live records).length ∧
      compacted records = live records ++ holes (records.length - (live records).length) := by
  obtain ⟨hlast, hfull⟩ := not_or.1 h
  refine ⟨?_, ?_⟩
  · have hle := length_live_le records
    have hne : (live records).length ≠ records.length :=
      fun heq => hfull (List.filter_sublist.eq_of_length heq)
    omega
  · rw [compacted, if_pos hlast, compactRecords_eq hs.zero]

/-- The first record to be sent again keeps its neighbours when the holes go behind the records:
none of the records that come to lie in the slots up to its own is to be sent again. -/
def CursorKept (records : List PubAckInfo) : Prop :=
  let front := records.takeWhile fun r => r.publishState ∉ publishStates
  let rest := (records.dropWhile fun r => r.publishState ∉ publishStates).tail
  (records.getD (records.length - 1) default).packetId = packetIdInvalid ∨
    idsIn publishStates ((live rest).take (front.length - (live front).length)) = []

instance (records : List PubAckInfo) : Decidable (CursorKept records) :=
  inferInstanceAs (Decidable (_ ∨ _))

theorem cursorKept_iff {front rest : List PubAckInfo} {r : PubAckInfo}
    (hfront : idsIn publishStates front = []) (hstate : r.publishState ∈ publishStates) :
    CursorKept (front ++ r :: rest) ↔
      ((front ++ r :: rest).getD ((front ++ r :: rest).length - 1) default).packetId =
          packetIdInvalid ∨
        idsIn publishStates ((live rest).take (front.length - (live front).length)) = [] := by
  have hskip : ∀ x ∈ front, decide (x.publishState ∉ publishStates) = true :=
    fun x hx => decide_eq_true (idsIn_eq_nil.1 hfront x hx)
  have htake : (front ++ r :: rest).takeWhile (fun r => r.publishState ∉ publishStates) = front := by
    rw [List.takeWhile_append_of_pos hskip, List.takeWhile_cons]
    simp [hstate]
  have hdrop : (front ++ r :: rest).dropWhile (fun r => r.publishState ∉ publishStates) =
      r :: rest := by
    rw [List.dropWhile_append_of_pos hskip, List.dropWhile_cons]
    simp [hstate]
  unfold CursorKept
  rw [htake, hdrop, List.tail_cons]

theorem cursorKept_of_settled {records : List PubAckInfo} (h : Settled records) :
    CursorKept records := by
  rcases h with hlast | hfull
  · exact .inl hlast
  · have hfront : live (records.takeWhile fun r => r.publishState ∉ publishStates) =
        records.takeWhile fun r => r.publishState ∉ publishStates :=
      live_eq_self.2 fun x hx =>
        live_eq_self.1 hfull x ((List.takeWhile_sublist _).subset hx)
    refine .inr ?_
    rw [hfront, Nat.sub_self]
    rfl

/-! ## The new state -/

/-- The record after its PUBLISH was sent. -/
def afterPublish (r : PubAckInfo) : PubAckInfo :=
  { r with publishState := mqttCalculateStatePublish .send r.qos }

theorem mqttUpdateStatePublish_resend {t : PublishRecords} {front rest : List PubAckInfo}
    {r : PubAckInfo} (ht : t.outgoingPublishRecords = front ++ r :: rest)
    (h : Table .outgoing t.outgoingPublishRecords) (hstate : r.publishState ∈ publishStates) :
    mqttUpdateStatePublish t r.packetId .send r.qos =
        (.success, some (mqttCalculateStatePublish .send r.qos),
          t.setTable .outgoing (front ++ afterPublish r :: rest)) ∧
      Table .outgoing (front ++ afterPublish r :: rest) := by
  obtain ⟨hid, hvalid⟩ := h.live_of_state (by rw [ht]; simp) (by decide) hstate
  rw [ht] at h
  obtain ⟨hfront, hrest⟩ := h.packetId_ne hid
  have htrans : validateTransitionPublish r.publishState (mqttCalculateStatePublish .send r.qos)
      .send r.qos = true := by
    unfold ValidRecord at hvalid
    revert hvalid hstate
    cases r.qos <;> cases r.publishState <;> decide
  have hupd : updateStatePublish t front.length r.packetId .send r.qos r.publishState
      (mqttCalculateStatePublish .send r.qos) =
        (.success, t.setTable .outgoing (front ++ afterPublish r :: rest)) := by
    have hchange := updateRecord_change front rest r (mqttCalculateStatePublish .send r.qos)
    unfold updateStatePublish
    rw [htrans, ht, hchange]
    by_cases hsame : r.publishState = mqttCalculateStatePublish .send r.qos
    · have hafter : afterPublish r = r := by rw [afterPublish, ← hsame]
      simp [hsame, hafter, ← ht, PublishRecords.setTable]
    · simp [hsame, PublishRecords.setTable, afterPublish]
  obtain ⟨status, records', heq, htab, -⟩ := Table.updateStatePublish ht h rfl hid hfront hrest
  rw [hupd] at heq
  have hrecords : records' = front ++ afterPublish r :: rest :=
    (congrArg PublishRecords.outgoingPublishRecords (Prod.mk.inj heq).2).symm
  refine ⟨?_, hrecords ▸ htab⟩
  have hfound := @findInRecord_split front rest r hfront .qos0
  rw [← ht] at hfound
  simp only [mqttUpdateStatePublish, if_neg hvalid.qos_ne, if_neg hid, if_true, hfound,
    reduceCtorEq, ne_eq, not_true, or_self, and_false, if_false, Option.getD_some, hupd]

end FreeMqtt

import FreeMqtt.State.Order

/-!
# The cursor over the outgoing records

`MQTT_PubrelToResend` and `MQTT_PublishToResend` walk the array of outgoing records: from a
cursor they skip the slots in other states and stop behind the first one in theirs. A sent
PUBREL changes its record where it stands.
-/

namespace FreeMqtt

/-! ## The search -/

theorem checkStateBit_pubrel (state : PublishState) :
    checkStateBit (stateBitmap [.pubCompPending, .pubRelSend]) state =
      decide (state ∈ pubrelStates) := by
  cases state <;> decide

theorem checkStateBit_publish (state : PublishState) :
    checkStateBit (stateBitmap [.publishSend, .pubAckPending, .pubRecPending]) state =
      decide (state ∈ publishStates) := by
  cases state <;> decide

section Cursor

variable {t : PublishRecords} {front rest : List PubAckInfo} {r : PubAckInfo} {searchStates : UInt16}

theorem stateSelect_end (ht : t.outgoingPublishRecords = front) :
    stateSelect t searchStates front.length = (packetIdInvalid, front.length) := by
  rw [stateSelect, ht, List.drop_length, stateSelectFrom]

theorem stateSelect_cons (ht : t.outgoingPublishRecords = front ++ r :: rest) :
    stateSelect t searchStates front.length =
      if checkStateBit searchStates r.publishState then (r.packetId, front.length + 1)
      else stateSelect t searchStates (front.length + 1) := by
  have hdrop : t.outgoingPublishRecords.drop (front.length + 1) = rest := by
    rw [ht, List.drop_append]
    simp
  unfold stateSelect
  rw [hdrop, ht, List.drop_left, stateSelectFrom]

theorem mqttPubrelToResend_end (ht : t.outgoingPublishRecords = front) :
    (mqttPubrelToResend t front.length).1 = packetIdInvalid := by
  rw [mqttPubrelToResend, stateSelect_end ht]

theorem mqttPubrelToResend_skip (ht : t.outgoingPublishRecords = front ++ r :: rest)
    (hr : r.publishState ∉ pubrelStates) :
    mqttPubrelToResend t front.length = mqttPubrelToResend t (front.length + 1) := by
  rw [mqttPubrelToResend, stateSelect_cons ht, checkStateBit_pubrel, decide_eq_false hr]
  rfl

theorem mqttPubrelToResend_select (ht : t.outgoingPublishRecords = front ++ r :: rest)
    (hr : r.publishState ∈ pubrelStates) :
    (mqttPubrelToResend t front.length).1 = r.packetId ∧
      (mqttPubrelToResend t front.length).2.1 = front.length + 1 := by
  rw [mqttPubrelToResend, stateSelect_cons ht, checkStateBit_pubrel, decide_eq_true hr]
  exact ⟨rfl, rfl⟩

theorem mqttPublishToResend_end (ht : t.outgoingPublishRecords = front) :
    (mqttPublishToResend t front.length).1 = packetIdInvalid := by
  rw [mqttPublishToResend, stateSelect_end ht]

theorem mqttPublishToResend_skip (ht : t.outgoingPublishRecords = front ++ r :: rest)
    (hr : r.publishState ∉ publishStates) :
    mqttPublishToResend t front.length = mqttPublishToResend t (front.length + 1) := by
  rw [mqttPublishToResend, stateSelect_cons ht, checkStateBit_publish, decide_eq_false hr]
  rfl

theorem mqttPublishToResend_select (ht : t.outgoingPublishRecords = front ++ r :: rest)
    (hr : r.publishState ∈ publishStates) :
    mqttPublishToResend t front.length = (r.packetId, front.length + 1) := by
  rw [mqttPublishToResend, stateSelect_cons ht, checkStateBit_publish, decide_eq_true hr]
  rfl

end Cursor

/-- An outgoing record in one of the states to be sent again is live, and waits for PUBCOMP or
for the first acknowledgement of its QoS. -/
theorem Table.live_of_state {records : List PubAckInfo} (h : Table .outgoing records)
    {r : PubAckInfo} (hr : r ∈ records) {states : List PublishState} (hnull : .null ∉ states)
    (hstate : r.publishState ∈ states) :
    r.packetId ≠ packetIdInvalid ∧ ValidRecord .outgoing r := by
  have hid : r.packetId ≠ packetIdInvalid := by
    intro hid
    rw [h.zero r hr hid] at hstate
    exact hnull hstate
  exact ⟨hid, h.valid r (mem_live.2 ⟨hr, hid⟩)⟩

/-! ## A sent PUBREL -/

/-- The record after its PUBREL was sent. -/
def afterPubrel (r : PubAckInfo) : PubAckInfo :=
  if r.publishState = .pubRelSend then { r with publishState := .pubCompPending } else r

theorem mqttUpdateStateAck_pubrel {t : PublishRecords} {front rest : List PubAckInfo}
    {r : PubAckInfo} (ht : t.outgoingPublishRecords = front ++ r :: rest)
    (h : Table .outgoing t.outgoingPublishRecords) (hstate : r.publishState ∈ pubrelStates) :
    mqttUpdateStateAck t r.packetId .pubrel .send =
        (.success, some .pubCompPending, t.setTable .outgoing (front ++ afterPubrel r :: rest)) ∧
      Table .outgoing (front ++ afterPubrel r :: rest) := by
  obtain ⟨hid, hvalid⟩ := h.live_of_state (by rw [ht]; simp) (by decide) hstate
  rw [ht] at h
  obtain ⟨hfront, hrest⟩ := h.packetId_ne hid
  have hqos : r.qos = .qos2 := by
    unfold ValidRecord at hvalid
    revert hvalid hstate
    cases r.qos <;> cases r.publishState <;> decide
  have hcalc : mqttCalculateStateAck .pubrel .send r.qos = .pubCompPending := by rw [hqos]; rfl
  have hupd : updateStateAck (front ++ r :: rest) front.length r.packetId r.publishState
      .pubCompPending = (.success, front ++ afterPubrel r :: rest) := by
    rcases List.mem_pair.1 hstate with hs | hs
    · have hchange := updateRecord_change front rest r .pubCompPending
      rw [afterPubrel, if_pos hs, ← hchange, hs]
      rfl
    · rw [afterPubrel, if_neg (by rw [hs]; decide), hs]
      rfl
  have houtgoing : Table (ackDirection .pubrel .send) (front ++ r :: rest) := h
  obtain ⟨status, records', heq, htab, -⟩ := houtgoing.updateStateAck rfl hid hfront hrest
  rw [hcalc, hupd] at heq
  cases heq
  refine ⟨?_, htab⟩
  have hside : t.side (isPublishOutgoing .pubrel .send) = front ++ r :: rest := ht
  rw [mqttUpdateStateAck, if_neg hid]
  dsimp only
  rw [hside, findInRecord_split hfront]
  dsimp only
  rw [hcalc, hupd]
  rfl

theorem afterPubrel_of_notMem {r : PubAckInfo} (h : r.publishState ∉ pubrelStates) :
    afterPubrel r = r :=
  if_neg fun heq => h (by simp [heq, pubrelStates])

end FreeMqtt

import FreeMqtt.State.Records
import FreeMqtt.State.Resend

/-!
# The answer to a PUBLISH

Which records of the outgoing array accept the packet that answers their PUBLISH: those whose
PUBLISH was completely sent by `MQTT_Publish`, and, as a PUBREC moves its record to the end,
those for which `addRecord` finds a slot (`mqttUpdateStateAck_answer`).
-/

namespace FreeMqtt

open KeyedList

/-- The packet that answers a PUBLISH. -/
def answerType (qos : QoS) : PubAckType := if qos = .qos2 then .pubrec else .puback

/-- Among the slots that `addRecord` visits there is a free one behind the other records once
this one has left its slot. -/
def MoveFits (records : List PubAckInfo) (packetId : UInt16) : Prop :=
  scanBound records = records.length ∨
    (records.getD (scanBound records - 1) default).packetId ∈ [packetIdInvalid, packetId]

instance (records : List PubAckInfo) (packetId : UInt16) : Decidable (MoveFits records packetId) :=
  inferInstanceAs (Decidable (_ ∨ _))

/-- The move of a record to the end. -/
theorem addRecord_moved {front rest : List PubAckInfo} {r : PubAckInfo}
    (h : Slots (front ++ r :: rest)) (hid : r.packetId ≠ packetIdInvalid) :
    (addRecord (front ++ .zero :: rest) r.packetId .qos2 .pubRelSend).1 = .success ↔
      MoveFits (front ++ r :: rest) r.packetId := by
  obtain ⟨hfront, hrest⟩ := h.packetId_ne hid
  have hclear := h.replace hid (.inl rfl)
  have hlive := live_clear rfl hid hfront hrest
  have hmem : r.packetId ∉ (live (front ++ .zero :: rest)).map PubAckInfo.packetId := by
    rw [hlive]
    exact notMem_keys_remove
  have hlen : (front ++ .zero :: rest).length = (front ++ r :: rest).length := by simp
  have hbound := scanBound_congr hlen
  unfold MoveFits
  by_cases hall : scanBound (front ++ r :: rest) = (front ++ r :: rest).length
  · refine ⟨fun _ => .inl hall, fun _ => ?_⟩
    obtain ⟨status, records', hadd, -, -, ho⟩ :=
      addRecord_cases hclear hid .qos2 .pubRelSend
    rw [hadd]
    cases ho with
    | collision hin => exact absurd hin hmem
    | added => rfl
    | full _ _ hfull =>
      have hin : r ∈ live (front ++ r :: rest) := mem_live.2 ⟨by simp, hid⟩
      have hlt := length_remove_lt (List.mem_map_of_mem (f := PubAckInfo.packetId) hin)
      have hle := length_live_le (front ++ r :: rest)
      have := hfull (by rw [hbound, hall, hlen])
      rw [← hlive] at hlt
      omega
  · have hlt := Nat.lt_of_le_of_ne (scanBound_le _) hall
    have hpos := h.length_lt_scanBound hid
    have hother : ∀ x ∈ front ++ .zero :: rest, x.packetId ≠ r.packetId := by
      intro x hx
      rcases List.mem_append.1 hx with hx | hx
      · exact hfront x hx
      · rcases List.mem_cons.1 hx with rfl | hx
        · exact Ne.symm hid
        · exact hrest x hx
    have hne : ((front ++ .zero :: rest).getD (scanBound (front ++ r :: rest) - 1)
        default).packetId ≠ r.packetId := by
      rw [List.getD_eq_getElem?_getD, List.getElem?_eq_getElem (by omega)]
      exact hother _ (List.getElem_mem _)
    rw [addRecord_success_iff hclear (by omega) hmem, hbound]
    rw [getD_replace front rest r] at hne ⊢
    by_cases hlast : scanBound (front ++ r :: rest) - 1 = front.length
    · rw [if_pos hlast, hlast]
      refine ⟨fun _ => .inr ?_, fun _ => ⟨by omega, rfl⟩⟩
      simp [List.getD_eq_getElem?_getD]
    · rw [if_neg hlast] at hne ⊢
      refine ⟨fun ⟨_, hempty⟩ => .inr (List.mem_pair.2 (.inl hempty)), fun hfits => ⟨by omega, ?_⟩⟩
      rcases hfits with heq | hin
      · exact absurd heq hall
      · exact (List.mem_pair.1 hin).resolve_right hne

theorem mqttUpdateStateAck_pubrec {t : PublishRecords} {front rest : List PubAckInfo}
    {r : PubAckInfo} (ht : t.outgoingPublishRecords = front ++ r :: rest)
    (h : Slots t.outgoingPublishRecords) (hid : r.packetId ≠ packetIdInvalid) (hq : r.qos = .qos2)
    (hstate : r.publishState = .pubRecPending) :
    (mqttUpdateStateAck t r.packetId .pubrec .receive).1 = .success ↔
      MoveFits t.outgoingPublishRecords r.packetId := by
  rw [ht] at h ⊢
  rw [← addRecord_moved h hid]
  have hside : t.side (isPublishOutgoing .pubrec .receive) = front ++ r :: rest := ht
  have hupd : updateStateAck (front ++ r :: rest) front.length r.packetId .pubRecPending
      .pubRelSend = addRecord (front ++ .zero :: rest) r.packetId .qos2 .pubRelSend := by
    rw [← updateRecord_delete front rest r .pubRelSend]
    rfl
  rw [mqttUpdateStateAck, if_neg hid]
  dsimp only
  rw [hside, findInRecord_split (h.packetId_ne hid).1]
  dsimp only
  rw [hq, hstate, ← hupd]
  rfl

/-- What the answer to its PUBLISH does to a record in one of the states to be sent again. -/
theorem answer_cases {r : PubAckInfo} (h : ValidRecord .outgoing r)
    (hstate : r.publishState ∈ publishStates) :
    (r.publishState = .publishSend ∧
        react .outgoing r (.ack (answerType r.qos)) = .illegal) ∨
      (r.qos = .qos1 ∧ r.publishState = .pubAckPending ∧
        react .outgoing r (.ack (answerType r.qos)) = .complete) ∨
      (r.qos = .qos2 ∧ r.publishState = .pubRecPending ∧
        react .outgoing r (.ack (answerType r.qos)) = .advance .pubRelSend) := by
  obtain ⟨packetId, qos, state⟩ := r
  change state ∈ phases .outgoing qos at h
  change state ∈ publishStates at hstate
  cases qos <;> cases state <;> first
    | exact absurd h (by decide)
    | exact absurd hstate (by decide)
    | exact .inl ⟨rfl, rfl⟩
    | exact .inr (.inl ⟨rfl, rfl, rfl⟩)
    | exact .inr (.inr ⟨rfl, rfl, rfl⟩)

/-- The answer to the PUBLISH of a record is accepted if and only if the record waits for it and
can move, and leaves a record in `MQTTPubRelSend` when it is a PUBREC. -/
theorem mqttUpdateStateAck_answer {t : PublishRecords}
    (h : Table .outgoing t.outgoingPublishRecords) {r : PubAckInfo}
    (hr : r ∈ t.outgoingPublishRecords) (hstate : r.publishState ∈ publishStates) :
    ∃ status records', mqttUpdateStateAck t r.packetId (answerType r.qos) .receive =
        (status, if status = .success then
          some (mqttCalculateStateAck (answerType r.qos) .receive r.qos) else none,
          t.setTable .outgoing records') ∧
      Table .outgoing records' ∧
      (status = .success ↔ r.publishState ≠ .publishSend ∧
        (r.qos = .qos2 → MoveFits t.outgoingPublishRecords r.packetId)) ∧
      (status = .success → r.qos = .qos2 → { r with publishState := .pubRelSend } ∈ records') := by
  obtain ⟨hid, hvalid⟩ := h.live_of_state hr (by decide) hstate
  have hlive : liveRecord t.outgoingPublishRecords r.packetId = some r :=
    lookup_of_mem h.nodup (mem_live.2 ⟨hr, hid⟩)
  have hdir : ackDirection (answerType r.qos) .receive = .outgoing := by
    unfold answerType
    split <;> rfl
  have hack := @mqttUpdateStateAck_some t r.packetId hid (answerType r.qos) .receive
  rw [hdir] at hack
  obtain ⟨status, records', heq, htab, -, hcases⟩ := hack h hlive
  refine ⟨status, records', heq, htab, ?_⟩
  rcases answer_cases hvalid hstate with ⟨hs, hreact⟩ | ⟨hq, hs, hreact⟩ | ⟨hq, hs, hreact⟩
  · rcases hcases with hhandled | ⟨-, -, hmoved, -⟩
    · rw [handleEntry, hreact] at hhandled
      obtain rfl : status = .illegalState := congrArg Prod.fst hhandled
      simp [hs]
    · exact absurd (hreact.symm.trans hmoved) (by simp)
  · rcases hcases with hhandled | ⟨-, -, hmoved, -⟩
    · rw [handleEntry, hreact] at hhandled
      obtain rfl : status = .success := congrArg Prod.fst hhandled
      simp [hs, hq]
    · exact absurd (hreact.symm.trans hmoved) (by simp)
  · obtain ⟨front, rest, ht⟩ := List.append_of_mem hr
    have hpubrec := mqttUpdateStateAck_pubrec ht h.toSlots hid hq hs
    have hanswer : answerType r.qos = .pubrec := by rw [hq]; rfl
    rw [hanswer] at heq
    rw [heq] at hpubrec
    refine ⟨hpubrec.trans (by simp [hs, hq]), fun hok _ => ?_⟩
    rcases hcases with hhandled | ⟨-, -, -, hlost, -⟩
    · rw [handleEntry, hreact] at hhandled
      have hlive' : live records' = _ := congrArg Prod.snd hhandled
      have hin : { r with publishState := .pubRelSend } ∈ live records' := by
        rw [hlive']
        simp
      exact (mem_live.1 hin).1
    · exact absurd (hok.symm.trans hlost) (by decide)

end FreeMqtt

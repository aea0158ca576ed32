import FreeMqtt.Core.Completion
import FreeMqtt.Core.Outgoing
import FreeMqtt.State.AnyRecords

/-!
# Publishes that were not sent

A publish that `MQTT_Publish` reports as not sent is to leave the transport and the outgoing records
as they were. It does but in two cases (`LeavesTrace`): the record of a new publish stays when the
application cannot store the copy, and a duplicate of another QoS is refused only after it was sent.
-/

namespace FreeMqtt

/-! ## A transport that accepts everything -/

section Complete

variable (c : Config) {s : Sys} {vectors : List (List UInt8)} {startTime : UInt32}

/-- With a clock that stands still, every iteration sends what it offers. -/
theorem sendMessageVectorLoop_complete {fuel sent total : Nat} (hfuel : vectors.length < fuel)
    (htotal : sent + vectors.flatten.length = total) (hsmall : total < 2 ^ 31)
    (hlen : ∀ v ∈ vectors, v.length < 2 ^ 31) (hsends : s.sends = [])
    (hclock : ∀ n, s.clock n = startTime) :
    (sendMessageVectorLoop c startTime total fuel vectors sent s).1 = total := by
  induction fuel generalizing vectors sent s with
  | zero => exact absurd hfuel (Nat.not_lt_zero _)
  | succ fuel ih =>
    unfold sendMessageVectorLoop
    rw [int32Cast_eq hsmall]
    split
    swap
    · rename_i hdone
      omega
    rename_i hmore
    obtain ⟨v, rest, rfl⟩ : ∃ v rest, vectors = v :: rest := by
      cases vectors with
      | nil => simp at htotal; omega
      | cons v rest => exact ⟨v, rest, rfl⟩
    have hflat : (v :: rest).flatten.length = v.length + rest.flatten.length := by simp
    generalize hoffered : (if s.writev then (v :: rest).flatten else (v :: rest).headD []) = offered
    have hlong : v.length ≤ offered.length ∧ offered.length ≤ (v :: rest).flatten.length := by
      rw [← hoffered]
      split
      · exact ⟨by omega, Nat.le_refl _⟩
      · exact ⟨Nat.le_refl _, by show v.length ≤ _; omega⟩
    obtain ⟨hdropped, hvectors⟩ := advanceVectors_spec hlong.2 hlen
    have hadvance : advanceVectors offered.length (v :: rest) =
        advanceVectors (offered.length - v.length) rest := by
      rw [advanceVectors, int32Cast_eq (hlen v List.mem_cons_self), if_pos (by omega)]
    have hshorter : (advanceVectors offered.length (v :: rest)).length ≤ rest.length := by
      rw [hadvance]
      exact length_advanceVectors_le ..
    have hsent : transportSend s offered =
        ((offered.length : Int), { s with wire := s.wire ++ offered }) := by
      unfold transportSend
      rw [hsends]
    obtain ⟨s₁, hafter, hsends₁, hclock₁⟩ : ∃ s₁ : Sys,
        afterSend sent offered.length { s with wire := s.wire ++ offered } =
          (((sent + offered.length : Nat) : Int), s₁) ∧ s₁.sends = [] ∧ s₁.clock = s.clock := by
      unfold afterSend
      split
      · exact ⟨_, rfl, hsends, rfl⟩
      · rename_i hzero
        rw [if_neg (by omega)]
        refine ⟨{ s with wire := s.wire ++ offered }, ?_, hsends, rfl⟩
        rw [show offered.length = 0 by omega, Nat.add_zero]
    have helapsed : calculateElapsedTime (getTime s₁).1 startTime = 0 := by
      show s₁.clock s₁.ticks - startTime = 0
      rw [hclock₁, hclock, UInt32.sub_self]
    dsimp only
    rw [hsent]
    dsimp only
    rw [hafter]
    dsimp only
    rw [helapsed, if_neg (show ¬ c.sendTimeoutMs < UInt32.toNat 0 from Nat.not_lt_zero _)]
    refine ih (Nat.lt_of_le_of_lt hshorter (Nat.lt_of_succ_lt_succ hfuel)) ?_ hvectors hsends₁ ?_
    · rw [hdropped, List.length_drop]
      omega
    · intro n
      show s₁.clock n = startTime
      rw [hclock₁, hclock]

/-- A transport that accepts everything, without a delay. -/
def Sys.ideal (s : Sys) : Sys := { s with sends := [], clock := fun _ => 0 }

theorem sendVectors_ideal (s : Sys) {info : PublishInfo}
    (hsize : (mqttGetPublishPacketSize info).1 = .success) (packetId : UInt16) :
    (sendVectors c s.ideal info packetId
      (publishMessage info (mqttGetPublishPacketSize info).2.1 packetId)).1 = .success := by
  have hsmall := length_publishMessage_lt hsize packetId
  have hlen : ∀ v ∈ publishMessage info (mqttGetPublishPacketSize info).2.1 packetId,
      v.length < 2 ^ 31 := fun v hv =>
    Nat.lt_trans (length_publishVectors_lt hsize packetId v hv) (by decide)
  generalize publishMessage info (mqttGetPublishPacketSize info).2.1 packetId = message at hsmall hlen
  have hsent : (sendMessageVector c s.ideal message).1 = message.flatten.length :=
    @sendMessageVectorLoop_complete c (getTime s.ideal).2 message 0 _ 0 _
      (Nat.lt_succ_of_le (Nat.le_add_left _ _)) (Nat.zero_add _) hsmall hlen rfl fun _ => rfl
  unfold sendVectors
  dsimp only
  rw [hsent, int32Cast_eq hsmall]
  exact if_neg (not_not_intro rfl)

end Complete

/-! ## A reserved publish -/

section Reserved

variable (c : Config) {s : Sys} {info : PublishInfo} {packetId : UInt16}

/-- A publish that cannot be stored is not sent. -/
theorem publishReserved_unstored (hqos : info.qos ≠ .qos0) (hstore : StoreFails s) :
    let published := publishReserved c s info packetId
    published.1 = .publishStoreFailed ∧ published.2.wire = s.wire ∧
      published.2.outgoingPublishRecords = s.outgoingPublishRecords := by
  have hstatus := storeCopy_status s hqos (mqttGetPublishPacketSize info).2.1 packetId
  obtain ⟨store, storeResults, hstored, -⟩ :=
    storeCopy_spec s hqos (mqttGetPublishPacketSize info).2.1 packetId
  rw [if_pos hstore] at hstatus
  have hsent := sendPublishWithoutCopy_vectors c s info (mqttGetPublishPacketSize info).2.1 packetId
  dsimp only at hsent
  rw [if_pos (by rw [hstatus]; simp), hstatus, hstored] at hsent
  unfold publishReserved
  rw [hsent]
  dsimp only
  rw [if_neg fun h => absurd h.1 (by simp)]
  exact ⟨rfl, rfl, rfl⟩

/-- A publish that is stored, or need not be, is sent, and then its record decides. -/
theorem publishReserved_stored (hqos : info.qos ≠ .qos0) (hstore : ¬ StoreFails s) :
    ∃ store storeResults,
      let sent := sendVectors c { s with store, storeResults } info packetId
        (publishMessage info (mqttGetPublishPacketSize info).2.1 packetId)
      let updated := mqttUpdateStatePublish sent.2.toPublishRecords packetId .send info.qos
      publishReserved c s info packetId =
        if sent.1 = .success then (updated.1, sent.2.setRecords updated.2.2) else sent := by
  have hstatus := storeCopy_status s hqos (mqttGetPublishPacketSize info).2.1 packetId
  obtain ⟨store, storeResults, hstored, -⟩ :=
    storeCopy_spec s hqos (mqttGetPublishPacketSize info).2.1 packetId
  rw [if_neg hstore] at hstatus
  refine ⟨store, storeResults, ?_⟩
  unfold publishReserved
  rw [sendPublishWithoutCopy_vectors]
  dsimp only
  rw [if_neg (not_not_intro hstatus), hstored]
  simp only [ne_eq, hqos, not_false_eq_true, and_true]

/-- The record of a publish that was sent has its QoS, or the publish is refused too late. -/
theorem publishReserved_found (hid : packetId ≠ packetIdInvalid) (hqos : info.qos ≠ .qos0)
    (hsize : (mqttGetPublishPacketSize info).1 = .success) (hstore : ¬ StoreFails s) {index : Nat}
    {found : QoS} {state : PublishState} (hfound : findInRecord s.outgoingPublishRecords packetId
      .qos0 = (some index, found, state)) :
    (found = info.qos →
      (publishReserved c s info packetId).1 ∈ [.success, .sendFailed, .illegalState]) ∧
    (found ≠ info.qos → (publishReserved c s.ideal info packetId).1 = .badParameter ∧
      (publishReserved c s.ideal info packetId).2.wire ≠ s.wire) := by
  refine ⟨fun hsame => ?_, fun hother => ?_⟩
  · obtain ⟨store, storeResults, heq⟩ := @publishReserved_stored c s info packetId hqos hstore
    obtain ⟨n, stop, hsent, -⟩ := sendVectors_spec c { s with store, storeResults } hsize packetId
    rw [heq]
    split
    · have hupdated := mqttUpdateStatePublish_found hid hqos hfound
      rw [if_pos hsame] at hupdated
      rw [hsent.records]
      simp only [List.mem_cons, List.not_mem_nil, or_false] at hupdated ⊢
      exact hupdated.imp_right .inr
    · rename_i hfailed
      unfold sendVectors at hfailed ⊢
      dsimp only at hfailed ⊢
      split at hfailed
      · rename_i hne
        rw [if_pos hne]
        simp
      · exact absurd rfl hfailed
  · obtain ⟨store, storeResults, heq⟩ :=
      @publishReserved_stored c s.ideal info packetId hqos hstore
    obtain ⟨n, stop, hsent, hcomplete⟩ :=
      sendVectors_spec c { s.ideal with store, storeResults } hsize packetId
    have hideal := sendVectors_ideal c { s with store, storeResults } hsize packetId
    change (sendVectors c { s.ideal with store, storeResults } info packetId _).1 = _ at hideal
    obtain rfl := hcomplete.1 hideal
    rw [heq]
    dsimp only at hsent ⊢
    rw [if_pos hideal, hsent.records]
    have hupdated := mqttUpdateStatePublish_found hid hqos hfound
    rw [if_neg hother] at hupdated
    refine ⟨congrArg Prod.fst hupdated, fun hwire => ?_⟩
    obtain ⟨-, hall, ticks, sends, lastTx, hs⟩ := hsent
    rw [hs] at hwire
    have hnone := List.append_right_eq_self.1 hwire
    rw [hall.1 rfl, List.take_length] at hnone
    exact absurd hnone (by simp [publishMessage, mqttSerializePublishHeaderWithoutTopic])

end Reserved

/-! ## The statuses of a publish that was not sent -/

/-- A call that says that nothing was sent left the transport and the live outgoing records as they
were. -/
def Untraced (s : Sys) (result : Status × Sys) : Prop :=
  result.1 ∉ [Status.success, .sendFailed, .illegalState] →
    result.2.wire = s.wire ∧
      live result.2.outgoingPublishRecords = live s.outgoingPublishRecords

/-- A publish leaves no trace, whatever the transport and the clock do. -/
def NoTrace (c : Config) (s : Sys) (pPublishInfo : Option PublishInfo) (packetId : UInt16) : Prop :=
  ∀ (sends : List Int) (clock : Nat → UInt32),
    Untraced s (mqttPublish c { s with sends, clock } pPublishInfo packetId)

/-- A publish that leaves a trace: a new one that the application refuses to store, or a duplicate
of another QoS than its record has. -/
def LeavesTrace (s : Sys) (info : PublishInfo) (packetId : UInt16) : Prop :=
  let reserved := (mqttReserveState s.toPublishRecords packetId info.qos).1
  Publishable s info packetId ∧
    (reserved = .success ∧ StoreFails s ∨
      reserved = .stateCollision ∧ info.dup = true ∧ ¬ StoreFails s ∧
        ∃ r ∈ s.outgoing packetId, r.qos ≠ info.qos)

instance (s : Sys) (info : PublishInfo) (packetId : UInt16) :
    Decidable (LeavesTrace s info packetId) := inferInstanceAs (Decidable (_ ∧ (_ ∨ _)))

theorem untraced_of_eq {s s' : Sys} {status : Status} (hwire : s'.wire = s.wire)
    (hlive : live s'.outgoingPublishRecords = live s.outgoingPublishRecords) :
    Untraced s (status, s') :=
  fun _ => ⟨hwire, hlive⟩

theorem untraced_of_mem {s : Sys} {result : Status × Sys}
    (h : result.1 ∈ [Status.success, .sendFailed, .illegalState]) : Untraced s result :=
  fun hnot => absurd h hnot

/-- The reservation of a record: the live records are the same unless it succeeds. -/
theorem mqttReserveState_any {t : PublishRecords} {packetId : UInt16} {qos : QoS}
    (hid : packetId ≠ packetIdInvalid) (hqos : qos ≠ .qos0) :
    let reserved := mqttReserveState t packetId qos
    (reserved.1 ≠ .success →
      live reserved.2.outgoingPublishRecords = live t.outgoingPublishRecords) ∧
    (reserved.1 = .success →
      live reserved.2.outgoingPublishRecords ≠ live t.outgoingPublishRecords ∧
        ∃ index, ∀ q, findInRecord reserved.2.outgoingPublishRecords packetId q =
          (some index, qos, .publishSend)) ∧
    (reserved.1 = .stateCollision → ∃ r, liveRecord t.outgoingPublishRecords packetId = some r) := by
  unfold mqttReserveState
  rw [if_neg hqos, if_neg hid]
  obtain ⟨hsame, hnew⟩ := addRecord_any t.outgoingPublishRecords hid qos .publishSend
  exact ⟨hsame, hnew, addRecord_collision⟩

theorem publishReserved_qos0 (c : Config) (s : Sys) {info : PublishInfo} (hqos : info.qos = .qos0)
    (packetId : UInt16) :
    (publishReserved c s info packetId).1 ∈ [.success, .sendFailed, .illegalState] := by
  unfold publishReserved
  rw [if_neg fun h => h.2 hqos, sendPublishWithoutCopy_vectors]
  have hstored : storeCopy s info (mqttSerializePublishHeaderWithoutTopic info
      (mqttGetPublishPacketSize info).2.1).1 packetId = (.success, _, s) :=
    if_neg fun h => h.1 hqos
  rw [hstored]
  dsimp only
  rw [if_neg (not_not_intro rfl)]
  unfold sendVectors
  dsimp only
  split <;> simp

/-- Behind the reservation nothing collides. -/
theorem publishReserved_ne_collision (c : Config) (s : Sys) (info : PublishInfo)
    (packetId : UInt16) : (publishReserved c s info packetId).1 ≠ .stateCollision := by
  intro h
  by_cases hqos : info.qos = .qos0
  · have hmem := publishReserved_qos0 c s hqos packetId
    rw [h] at hmem
    exact absurd hmem (by decide)
  by_cases hstore : StoreFails s
  · obtain ⟨hstatus, -⟩ := @publishReserved_unstored c s info packetId hqos hstore
    exact absurd (hstatus.symm.trans h) (by decide)
  obtain ⟨store, storeResults, heq⟩ := @publishReserved_stored c s info packetId hqos hstore
  rw [heq] at h
  split at h
  · have hmem := mqttUpdateStatePublish_send_status (sendVectors c { s with store, storeResults } info
      packetId (publishMessage info (mqttGetPublishPacketSize info).2.1 packetId)).2.toPublishRecords
      packetId info.qos
    rw [h] at hmem
    exact absurd hmem (by decide)
  · unfold sendVectors at h
    dsimp only at h
    split at h
    · exact absurd h (by decide)
    · exact absurd h (by decide)

theorem publishCheck_ne_collision (s : Sys) (info : PublishInfo) (packetId : UInt16) :
    publishCheck s info packetId ≠ .stateCollision := by
  unfold publishCheck
  split_ifs
  · unfold validatePublishParams
    dsimp only
    split_ifs <;> simp
  · unfold mqttGetPublishPacketSize
    split
    · simp
    · split <;> simp
  · unfold notConnectedStatus
    split <;> simp
  · simp

/-- A publish collides only with a live record of its packet id. -/
theorem mqttPublish_collision {c : Config} {s : Sys} {pPublishInfo : Option PublishInfo}
    {packetId : UInt16} (h : (mqttPublish c s pPublishInfo packetId).1 = .stateCollision) :
    packetId ∈ liveIds s.outgoingPublishRecords := by
  cases pPublishInfo with
  | none => exact absurd h (by simp [mqttPublish, validatePublishParams])
  | some info =>
    by_cases hchecks : Publishing s info packetId
    swap
    · rw [mqttPublish_unchecked c hchecks] at h
      exact absurd h (publishCheck_ne_collision s info packetId)
    rw [mqttPublish_connected c hchecks.valid hchecks.size hchecks.connected] at h
    dsimp only at h
    split at h
    · exact absurd h (publishReserved_ne_collision c _ info packetId)
    change (mqttReserveState s.toPublishRecords packetId info.qos).1 = .stateCollision at h
    unfold mqttReserveState at h
    split_ifs at h
    obtain ⟨r, hr⟩ := addRecord_collision h
    exact List.mem_map.2 ⟨r, KeyedList.lookup_mem hr, KeyedList.lookup_key hr⟩

/-- The record of a duplicate is found, also after the reservation that it collides with. -/
theorem findInRecord_reserved {s : Sys} {packetId : UInt16} {qos : QoS}
    (hid : packetId ≠ packetIdInvalid) (hqos : qos ≠ .qos0) {r : PubAckInfo}
    (hr : s.outgoing packetId = some r)
    (hcollision : (mqttReserveState s.toPublishRecords packetId qos).1 = .stateCollision) :
    ∃ index, findInRecord (mqttReserveState s.toPublishRecords packetId qos).2.outgoingPublishRecords
      packetId .qos0 = (some index, r.qos, r.publishState) := by
  obtain ⟨hsame, -, -⟩ := mqttReserveState_any (t := s.toPublishRecords) hid hqos
  refine findInRecord_live ?_ .qos0
  unfold liveRecord
  rw [hsame (by rw [hcollision]; simp)]
  exact hr

/-- A publish that is not one of those that leave a trace, with this transport and clock. -/
theorem mqttPublish_untraced (c : Config) {s : Sys} {info : PublishInfo} {packetId : UInt16}
    (h : ¬ LeavesTrace s info packetId) : Untraced s (mqttPublish c s (some info) packetId) := by
  by_cases hchecks : Publishing s info packetId
  swap
  · rw [mqttPublish_unchecked c hchecks]
    exact untraced_of_eq rfl rfl
  obtain ⟨hvalid, hsize, hconn⟩ := hchecks
  rw [mqttPublish_connected c hvalid hsize hconn]
  by_cases hqos : info.qos = .qos0
  · have hreserved : mqttReserveState s.toPublishRecords packetId info.qos =
        (.success, s.toPublishRecords) := if_pos hqos
    rw [hreserved]
    exact untraced_of_mem (publishReserved_qos0 c s hqos packetId)
  have hpublishable : Publishable s info packetId := ⟨hvalid, hsize, hconn, hqos⟩
  have hid := hpublishable.packetId_ne
  obtain ⟨hsame, hnew, hlive⟩ := mqttReserveState_any (t := s.toPublishRecords) hid hqos
  have hfind := fun r hr => findInRecord_reserved (s := s) (r := r) hid hqos hr
  have hnot : ¬ ((mqttReserveState s.toPublishRecords packetId info.qos).1 = .success ∧ StoreFails s ∨
      (mqttReserveState s.toPublishRecords packetId info.qos).1 = .stateCollision ∧
        info.dup = true ∧ ¬ StoreFails s ∧ ∃ r ∈ s.outgoing packetId, r.qos ≠ info.qos) :=
    fun hcase => h ⟨hpublishable, hcase⟩
  generalize mqttReserveState s.toPublishRecords packetId info.qos = reserved
    at hsame hnew hlive hfind hnot
  obtain ⟨status, records⟩ := reserved
  dsimp only at hsame hnew hlive hfind hnot ⊢
  by_cases hok : status = .success
  · -- a new record: it was stored, and its QoS is that of the publish
    rw [if_pos (Or.inl hok)]
    obtain ⟨-, index, hfound⟩ := hnew hok
    have hstore : ¬ StoreFails (s.setRecords records) := fun hfails => hnot (.inl ⟨hok, hfails⟩)
    exact untraced_of_mem ((publishReserved_found c (s := s.setRecords records) hid hqos hsize hstore
      (hfound .qos0)).1 rfl)
  by_cases hdup : status = .stateCollision ∧ info.dup = true
  swap
  · rw [if_neg (not_or.2 ⟨hok, hdup⟩)]
    exact untraced_of_eq rfl (hsame hok)
  rw [if_pos (Or.inr hdup)]
  by_cases hstore : StoreFails s
  · obtain ⟨-, hwire, hrecords⟩ :=
      @publishReserved_unstored c (s.setRecords records) info packetId hqos hstore
    refine fun _ => ⟨hwire, ?_⟩
    rw [hrecords]
    exact hsame hok
  · obtain ⟨r, hr⟩ := hlive hdup.1
    have hq : r.qos = info.qos := by
      by_contra hne
      exact hnot (.inr ⟨hdup.1, hdup.2, hstore, r, hr, hne⟩)
    obtain ⟨index, hfound⟩ := hfind r hr hdup.1
    exact untraced_of_mem ((publishReserved_found c (s := s.setRecords records) hid hqos hsize hstore
      hfound).1 hq)

/-- The publishes of `LeavesTrace` leave one on a transport that accepts everything. -/
theorem not_untraced_of_leavesTrace (c : Config) {s : Sys} {info : PublishInfo} {packetId : UInt16}
    (h : LeavesTrace s info packetId) :
    ¬ Untraced s (mqttPublish c s.ideal (some info) packetId) := by
  obtain ⟨hpublishable, hcase⟩ := h
  have hid := hpublishable.packetId_ne
  obtain ⟨hvalid, hsize, hconn, hqos⟩ := hpublishable
  obtain ⟨-, hnew, -⟩ := mqttReserveState_any (t := s.toPublishRecords) hid hqos
  have hfind := fun r hr => findInRecord_reserved (s := s) (r := r) hid hqos hr
  rw [mqttPublish_connected c (s := s.ideal) hvalid hsize hconn]
  change ¬ Untraced s (if (mqttReserveState s.toPublishRecords packetId info.qos).1 = .success ∨
      (mqttReserveState s.toPublishRecords packetId info.qos).1 = .stateCollision ∧ info.dup = true then
    publishReserved c (s.setRecords (mqttReserveState s.toPublishRecords packetId info.qos).2).ideal
      info packetId
    else _)
  generalize mqttReserveState s.toPublishRecords packetId info.qos = reserved at hnew hfind hcase
  obtain ⟨status, records⟩ := reserved
  dsimp only at hnew hfind hcase ⊢
  intro huntraced
  rcases hcase with ⟨hok, hstore⟩ | ⟨hcollision, hdup, hstore, r, hr, hq⟩
  · rw [if_pos (Or.inl hok)] at huntraced
    obtain ⟨hstatus, -, hrecords⟩ := @publishReserved_unstored c (s.setRecords records).ideal info
      packetId hqos hstore
    obtain ⟨-, hlive⟩ := huntraced (by rw [hstatus]; decide)
    rw [hrecords] at hlive
    exact (hnew hok).1 hlive
  · rw [if_pos (Or.inr ⟨hcollision, hdup⟩)] at huntraced
    obtain ⟨index, hfound⟩ := hfind r hr hcollision
    obtain ⟨hstatus, hwire⟩ := (publishReserved_found c (s := s.setRecords records) hid hqos hsize
      hstore hfound).2 hq
    exact hwire (huntraced (by rw [hstatus]; decide)).1

/-- Over every transport and clock, a publish that is reported as not sent leaves no trace exactly
if it is not one of `LeavesTrace`. -/
theorem publish_noTrace_iff (c : Config) (s : Sys) (pPublishInfo : Option PublishInfo)
    (packetId : UInt16) :
    NoTrace c s pPublishInfo packetId ↔ ∀ info ∈ pPublishInfo, ¬ LeavesTrace s info packetId := by
  cases pPublishInfo with
  | none => exact iff_of_true (fun _ _ => untraced_of_eq rfl rfl) nofun
  | some info =>
    constructor
    · intro h info' hinfo htrace
      cases hinfo
      exact not_untraced_of_leavesTrace c htrace (h [] fun _ => 0)
    · intro h sends clock
      exact mqttPublish_untraced c (s := { s with sends, clock }) (h info rfl)

/-- A connected client whose application stores copies with these results, after it published. -/
def publishedClient (storeResults : List Bool) (publishes : List (PublishInfo × UInt16)) : Sys :=
  runAll .default { storingClient [] with storeResults } (.connect (some resumingInfo) none 1000 ::
    publishes.map fun publish => .api (.request (.publish (some publish.1) publish.2)))

/-- A publish that could not be stored keeps its record, and a duplicate of another QoS is sent before
it is refused. -/
theorem not_publish_noTrace :
    let unstored := publishedClient [false] []
    let duplicate := publishedClient [] [(publishInfoOne, 1)]
    let again := { publishInfoOne with qos := .qos2, dup := true }
    ((mqttPublish .default unstored (some publishInfoOne) 1).1 = .publishStoreFailed ∧
      (mqttPublish .default unstored (some publishInfoOne) 1).2.outgoing 1 =
        some ⟨1, .qos1, .publishSend⟩ ∧
      unstored.outgoing 1 = none ∧ ¬ NoTrace .default unstored (some publishInfoOne) 1) ∧
    ((mqttPublish .default duplicate (some again) 1).1 = .badParameter ∧
      (mqttPublish .default duplicate (some again) 1).2.wire =
        duplicate.wire ++ [0x3C, 5, 0, 1, 0x74, 0, 1] ∧
      ¬ NoTrace .default duplicate (some again) 1) := by
  intro unstored duplicate again
  have hstatus : (mqttPublish .default unstored (some publishInfoOne) 1).1 = .publishStoreFailed := by
    decide +kernel
  have hrecord : (mqttPublish .default unstored (some publishInfoOne) 1).2.outgoing 1 =
      some ⟨1, .qos1, .publishSend⟩ := by decide +kernel
  have hbefore : unstored.outgoing 1 = none := by decide +kernel
  have hstatus' : (mqttPublish .default duplicate (some again) 1).1 = .badParameter := by
    decide +kernel
  have hwire : (mqttPublish .default duplicate (some again) 1).2.wire =
      duplicate.wire ++ [0x3C, 5, 0, 1, 0x74, 0, 1] := by decide +kernel
  refine ⟨⟨hstatus, hrecord, hbefore, fun h => ?_⟩, hstatus', hwire, fun h => ?_⟩
  · obtain ⟨-, hlive⟩ := h unstored.sends unstored.clock (by
      change (mqttPublish .default unstored (some publishInfoOne) 1).1 ∉ _
      rw [hstatus]
      decide)
    have hsame := congrArg (KeyedList.lookup PubAckInfo.packetId 1) hlive
    exact absurd (hrecord.symm.trans (hsame.trans hbefore)) (by simp)
  · obtain ⟨hsame, -⟩ := h duplicate.sends duplicate.clock (by
      change (mqttPublish .default duplicate (some again) 1).1 ∉ _
      rw [hstatus']
      decide)
    exact absurd (List.append_right_eq_self.1 (hwire.symm.trans hsame)) (by simp)

end FreeMqtt

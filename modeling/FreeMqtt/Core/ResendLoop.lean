import FreeMqtt.Core.Completion
import FreeMqtt.State.Duplicate

/-!
# The resend loop of an application

The loop of the documentation of `MQTT_PublishToResend`, for an application without retransmit
functions: the cursor walks over the array that `MQTT_Publish` may compact under it.
-/

namespace FreeMqtt

/-! ## The loop -/

/-- `while( ( packetId = MQTT_PublishToResend( pContext, &cursor ) ) != 0 )` with the call of
`MQTT_Publish` as its body: the packet ids of the calls, and the context. -/
def resendLoop (c : Config) (getPublish : UInt16 → PublishInfo) : (fuel : Nat) →
    (cursor : Nat) → Sys → List UInt16 × Sys
  | 0, _, s => ([], s)
  | fuel + 1, cursor, s =>
      let next := mqttPublishToResend s.toPublishRecords cursor
      if next.1 = packetIdInvalid then ([], s)
      else
        let published := mqttPublish c s (some (getPublish next.1)) next.1
        let rest := resendLoop c getPublish fuel next.2 published.2
        (next.1 :: rest.1, rest.2)

/-- A publish for a record: a duplicate of its QoS that `MQTT_Publish` takes. -/
structure DuplicateOf (r : PubAckInfo) (info : PublishInfo) : Prop where
  dup : info.dup = true
  qos : info.qos = r.qos
  payload : 0 < info.payloadLength → info.pPayload ≠ none
  size : (mqttGetPublishPacketSize info).1 = .success

theorem DuplicateOf.validatePublishParams {r : PubAckInfo} {info : PublishInfo}
    (h : DuplicateOf r info) {s : Sys} (hr : r ∈ s.outgoingPublishRecords)
    (hid : r.packetId ≠ packetIdInvalid) :
    FreeMqtt.validatePublishParams s (some info) r.packetId = .success := by
  have hpayload : ¬ (0 < info.payloadLength ∧ info.pPayload = none) :=
    fun hno => h.payload hno.1 hno.2
  have hrecords : s.outgoingPublishRecords ≠ [] := List.ne_nil_of_mem hr
  unfold FreeMqtt.validatePublishParams
  dsimp only
  rw [if_neg fun hno => hid hno.2, if_neg hpayload, if_neg fun hno => hrecords hno.1]

/-- A duplicate for a record: its packet is completely sent, or the call fails; and the holes of
the array are where the reservation puts them. -/
theorem mqttPublish_duplicate (c : Config) {s : Sys} {front rest : List PubAckInfo}
    {r : PubAckInfo} {info : PublishInfo} (ht : Table .outgoing s.outgoingPublishRecords)
    (hr : r ∈ s.outgoingPublishRecords) (hstate : r.publishState ∈ publishStates)
    (hs : compacted s.outgoingPublishRecords = front ++ r :: rest) (hinfo : DuplicateOf r info)
    (hconn : s.connectStatus = .connected) (hstore : s.storeFunction = false) :
    let published := mqttPublish c s (some info) r.packetId
    ∃ e : Event, published.2.log = s.log ++ [e] ∧ (e.Complete → published.1 = .success ∧
      published.2.outgoingPublishRecords = front ++ afterPublish r :: rest ∧
      Table .outgoing published.2.outgoingPublishRecords ∧
      published.2.connectStatus = .connected ∧ published.2.storeFunction = false) := by
  obtain ⟨hid, hvalid⟩ := ht.live_of_state hr (by decide) hstate
  obtain ⟨hreserve, htab⟩ := mqttReserveState_duplicate ht hr hstate
  have hsize := hinfo.size
  have hqos : info.qos ≠ .qos0 := hinfo.qos ▸ hvalid.qos_ne
  rw [← hinfo.qos] at hreserve
  rw [mqttPublish_connected c (hinfo.validatePublishParams hr hid) hsize hconn, hreserve]
  dsimp only
  rw [if_pos (.inr ⟨rfl, hinfo.dup⟩)]
  unfold publishReserved
  dsimp only
  obtain ⟨store, storeResults, ⟨-, -, hset⟩ | ⟨packet, n, stop, hsent, hok, -⟩⟩ :=
    sendPublishWithoutCopy_spec c (s.setRecords (s.toPublishRecords.setTable .outgoing
      (compacted s.outgoingPublishRecords))) (length_publishVectors_lt hsize r.packetId)
  · exact absurd (hset.symm.trans hstore) (by decide)
  generalize sendPublishWithoutCopy c _ info _ r.packetId = sent at hsent hok ⊢
  refine ⟨.sent (.publish r.packetId info.qos) packet n stop, ?_, fun hcomplete => ?_⟩
  · split
    · exact hsent.log_eq
    · exact hsent.log_eq
  · have hout : sent.2.outgoingPublishRecords = front ++ r :: rest :=
      (congrArg PublishRecords.outgoingPublishRecords hsent.records).trans hs
    obtain ⟨hupd, htab'⟩ := mqttUpdateStatePublish_resend hout (hout ▸ hs ▸ htab) hstate
    rw [← hinfo.qos] at hupd
    rw [if_pos ⟨hok.2 hcomplete, hqos⟩, hupd]
    refine ⟨rfl, rfl, htab', ?_, ?_⟩
    · exact hsent.connectStatus_eq.trans (by rw [hcomplete]; exact hconn)
    · obtain ⟨-, -, ticks, sends, lastTx, heq⟩ := hsent
      rw [heq]
      exact hstore

/-! ## One iteration -/

section Loop

variable (c : Config) {getPublish : UInt16 → PublishInfo} {fuel : Nat} {s : Sys}
  {front rest : List PubAckInfo} {r : PubAckInfo}

theorem resendLoop_log (cursor : Nat) :
    ∃ events, (resendLoop c getPublish fuel cursor s).2.log = s.log ++ events := by
  induction fuel generalizing cursor s with
  | zero => exact ⟨[], by simp [resendLoop]⟩
  | succ fuel ih =>
    unfold resendLoop
    dsimp only
    split
    · exact ⟨[], by simp⟩
    · obtain ⟨events, hlog⟩ := (mqttPublish_requests c s
        (some (getPublish (mqttPublishToResend s.toPublishRecords cursor).1))
        (mqttPublishToResend s.toPublishRecords cursor).1).library.log_extends
      obtain ⟨more, hmore⟩ := ih (mqttPublishToResend s.toPublishRecords cursor).2
      exact ⟨events ++ more, by rw [hmore, hlog, List.append_assoc]⟩

theorem resendLoop_end (hs : s.outgoingPublishRecords = front) :
    resendLoop c getPublish (fuel + 1) front.length s = ([], s) := by
  rw [resendLoop]
  dsimp only
  rw [if_pos (mqttPublishToResend_end hs)]

theorem resendLoop_skip (hs : s.outgoingPublishRecords = front ++ r :: rest)
    (hstate : r.publishState ∉ publishStates) :
    resendLoop c getPublish (fuel + 1) front.length s =
      resendLoop c getPublish (fuel + 1) (front.length + 1) s := by
  rw [resendLoop, mqttPublishToResend_skip hs hstate]
  rfl

/-- A record to be sent again is published, and the cursor goes on over the array that the
reservation compacted. -/
theorem resendLoop_select (hs : s.outgoingPublishRecords = front ++ r :: rest)
    (ht : Table .outgoing s.outgoingPublishRecords) (hstate : r.publishState ∈ publishStates)
    {front' rest' : List PubAckInfo}
    (hcompacted : compacted s.outgoingPublishRecords = front' ++ r :: rest')
    (hpublish : DuplicateOf r (getPublish r.packetId)) (hconn : s.connectStatus = .connected)
    (hstore : s.storeFunction = false)
    (hcomplete : ∀ e ∈ (resendLoop c getPublish (fuel + 1) front.length s).2.log.drop s.log.length,
      e.Complete) :
    ∃ s' : Sys, (resendLoop c getPublish (fuel + 1) front.length s).1 =
        r.packetId :: (resendLoop c getPublish fuel (front.length + 1) s').1 ∧
      (∀ e ∈ (resendLoop c getPublish fuel (front.length + 1) s').2.log.drop s'.log.length,
        e.Complete) ∧
      s'.outgoingPublishRecords = front' ++ afterPublish r :: rest' ∧
      Table .outgoing s'.outgoingPublishRecords ∧ s'.connectStatus = .connected ∧
      s'.storeFunction = false := by
  have hr : r ∈ s.outgoingPublishRecords := by rw [hs]; simp
  obtain ⟨hid, -⟩ := ht.live_of_state hr (by decide) hstate
  obtain ⟨e, hlog, hpublished⟩ :=
    mqttPublish_duplicate c ht hr hstate hcompacted hpublish hconn hstore
  have hloop : resendLoop c getPublish (fuel + 1) front.length s =
      (r.packetId :: (resendLoop c getPublish fuel (front.length + 1)
        (mqttPublish c s (some (getPublish r.packetId)) r.packetId).2).1,
        (resendLoop c getPublish fuel (front.length + 1)
          (mqttPublish c s (some (getPublish r.packetId)) r.packetId).2).2) := by
    rw [resendLoop, mqttPublishToResend_select hs hstate]
    exact if_neg hid
  rw [hloop] at hcomplete ⊢
  generalize (mqttPublish c s (some (getPublish r.packetId)) r.packetId) = published at *
  obtain ⟨events, hevents⟩ : ∃ events, (resendLoop c getPublish fuel (front.length + 1)
      published.2).2.log = published.2.log ++ events := resendLoop_log c (front.length + 1)
  rw [hevents, hlog, List.append_assoc, List.drop_left] at hcomplete
  obtain ⟨-, hrecords, htab, hconn', hstore'⟩ := hpublished (hcomplete e (by simp))
  refine ⟨published.2, rfl, fun e' he => ?_, hrecords, htab, hconn', hstore'⟩
  rw [hevents, List.drop_left] at he
  exact hcomplete e' (by simp [he])

/-! ## All iterations -/

/-- Over a settled array the loop gives every record from the cursor on. -/
theorem resendLoop_settled (hs : s.outgoingPublishRecords = front ++ rest)
    (ht : Table .outgoing s.outgoingPublishRecords) (hsettled : Settled s.outgoingPublishRecords)
    (hpublish : ∀ r ∈ rest, r.publishState ∈ publishStates →
      DuplicateOf r (getPublish r.packetId))
    (hconn : s.connectStatus = .connected) (hstore : s.storeFunction = false)
    (hfuel : rest.length < fuel)
    (hcomplete : ∀ e ∈ (resendLoop c getPublish fuel front.length s).2.log.drop s.log.length,
      e.Complete) :
    (resendLoop c getPublish fuel front.length s).1 = idsIn publishStates rest := by
  obtain ⟨fuel, rfl⟩ : ∃ n, fuel = n + 1 := ⟨fuel - 1, by omega⟩
  induction rest generalizing fuel s front with
  | nil =>
    rw [List.append_nil] at hs
    rw [resendLoop_end c hs]
    rfl
  | cons r rest ih =>
    have hrest := fun x hx => hpublish x (List.mem_cons_of_mem r hx)
    have hfront : ∀ x : PubAckInfo, (front ++ [x]).length = front.length + 1 := by simp
    by_cases hstate : r.publishState ∈ publishStates
    · have hcompacted := (compacted_of_settled ht.toSlots hsettled).trans hs
      obtain ⟨s', heq, hcomplete', hs', ht', hconn', hstore'⟩ := resendLoop_select c hs ht hstate
        hcompacted (hpublish r (by simp) hstate) hconn hstore hcomplete
      have hsettled' : Settled s'.outgoingPublishRecords := by
        rw [hs']
        exact (hs ▸ hsettled).replace rfl
      obtain ⟨fuel, rfl⟩ : ∃ n, fuel = n + 1 := ⟨fuel - 1, by simp at hfuel; omega⟩
      rw [← hfront (afterPublish r)] at heq hcomplete'
      rw [heq, idsIn_cons, if_pos hstate, ih (by simpa using hs') ht' hsettled' hrest hconn'
        hstore' fuel (by simpa using hfuel) hcomplete']
    · rw [resendLoop_skip c hs hstate, ← hfront r] at hcomplete ⊢
      rw [idsIn_cons, if_neg hstate]
      exact ih (by simpa using hs) ht hsettled hrest hconn hstore fuel
        (Nat.lt_of_succ_lt hfuel) hcomplete

/-- Slots that need no PUBLISH are passed over. -/
theorem resendLoop_skip_all {skipped : List PubAckInfo}
    (hs : s.outgoingPublishRecords = front ++ skipped ++ rest)
    (hskipped : idsIn publishStates skipped = []) :
    resendLoop c getPublish (fuel + 1) front.length s =
      resendLoop c getPublish (fuel + 1) (front ++ skipped).length s := by
  induction skipped generalizing front with
  | nil => rw [List.append_nil]
  | cons x skipped ih =>
    rw [idsIn_eq_nil] at hskipped
    have hfront : (front ++ [x]).length = front.length + 1 := by simp
    have hrest := idsIn_eq_nil.2 fun y hy => hskipped y (List.mem_cons_of_mem x hy)
    have hx : s.outgoingPublishRecords = front ++ x :: (skipped ++ rest) := by simpa using hs
    rw [resendLoop_skip c hx (hskipped x (by simp)), ← hfront, ih (by simpa using hs) hrest,
      List.append_assoc, List.singleton_append]

/-- Over an array that is not settled the first publish compacts it, and the cursor jumps over as
many records as there were holes in front of it. -/
theorem resendLoop_unsettled (hs : s.outgoingPublishRecords = front ++ r :: rest)
    (hfront : idsIn publishStates front = []) (hstate : r.publishState ∈ publishStates)
    (ht : Table .outgoing s.outgoingPublishRecords) (hunsettled : ¬ Settled s.outgoingPublishRecords)
    (hpublish : ∀ r ∈ s.outgoingPublishRecords, r.publishState ∈ publishStates →
      DuplicateOf r (getPublish r.packetId))
    (hconn : s.connectStatus = .connected) (hstore : s.storeFunction = false)
    (hfuel : s.outgoingPublishRecords.length < fuel)
    (hcomplete : ∀ e ∈ (resendLoop c getPublish fuel 0 s).2.log.drop s.log.length, e.Complete) :
    (resendLoop c getPublish fuel 0 s).1 =
      r.packetId :: idsIn publishStates
        ((live rest).drop (front.length - (live front).length)) := by
  obtain ⟨hid, -⟩ := ht.live_of_state (by rw [hs]; simp) (by decide) hstate
  obtain ⟨hholes, hcompacted⟩ := compacted_of_not_settled ht.toSlots hunsettled
  generalize hk : s.outgoingPublishRecords.length - (live s.outgoingPublishRecords).length = k
    at hholes hcompacted
  have hlive : live s.outgoingPublishRecords = live front ++ r :: live rest := by
    rw [hs, live_append, live_cons_of_ne hid]
  rw [hlive, List.append_assoc, List.cons_append] at hcompacted
  obtain ⟨fuel, rfl⟩ : ∃ n, fuel = n + 1 := ⟨fuel - 1, by omega⟩
  have hskip : resendLoop c getPublish (fuel + 1) 0 s =
      resendLoop c getPublish (fuel + 1) front.length s :=
    @resendLoop_skip_all c getPublish fuel s [] (r :: rest) front hs hfront
  rw [hskip] at hcomplete ⊢
  obtain ⟨s', heq, hcomplete', hs', ht', hconn', hstore'⟩ := resendLoop_select c hs ht hstate
    hcompacted (hpublish r (by rw [hs]; simp) hstate) hconn hstore hcomplete
  rw [heq]
  congr 1
  have hsettled : Settled s'.outgoingPublishRecords := by
    rw [hs', ← List.cons_append, ← List.append_assoc]
    exact settled_append_holes _ hholes
  -- the slots in front of the cursor, and those behind it
  have hle := length_live_le front
  have hlen := congrArg List.length hs
  have hlen' := congrArg List.length hlive
  simp only [List.length_append, List.length_cons] at hlen hlen'
  have hdrop : (live front ++ afterPublish r :: (live rest ++ holes k)).drop (front.length + 1) =
      (live rest ++ holes k).drop (front.length - (live front).length) := by
    rw [List.drop_append, List.drop_eq_nil_of_le (by omega), List.nil_append,
      show front.length + 1 - (live front).length = front.length - (live front).length + 1 by omega,
      List.drop_succ_cons]
  have hzero : ∀ x ∈ holes k, x.publishState ∉ publishStates := fun x hx => by
    rw [List.eq_of_mem_replicate hx]
    decide
  have hsplit := List.take_append_drop (front.length + 1) s'.outgoingPublishRecords
  have hcursor : (s'.outgoingPublishRecords.take (front.length + 1)).length = front.length + 1 := by
    rw [List.length_take, hs']
    simp only [List.length_append, List.length_cons, length_holes]
    omega
  rw [← hcursor] at hcomplete' ⊢
  rw [resendLoop_settled c hsplit.symm ht' hsettled ?_ hconn' hstore' ?_ hcomplete', hs', hdrop,
    List.drop_append, idsIn_append]
  · rw [idsIn_eq_nil.2 fun x hx => hzero x (List.mem_of_mem_drop hx), List.append_nil]
  · intro x hx hxstate
    rw [hs', hdrop] at hx
    rcases List.mem_append.1 (List.mem_of_mem_drop hx) with hx | hx
    · have hx' := (mem_live.1 hx).1
      exact hpublish x (by rw [hs]; simp [hx']) hxstate
    · exact absurd hxstate (hzero x hx)
  · rw [List.length_drop, hs']
    simp only [List.length_append, List.length_cons, length_holes]
    omega

/-- With every packet completely sent, the loop calls `MQTT_Publish` for every record in
`MQTTPublishSend`, `MQTTPubAckPending` or `MQTTPubRecPending`, once and in the order of the
array, if and only if the reservation moves none of them behind the cursor. -/
theorem resendLoop_complete_iff (hreach : Reachable s.toPublishRecords)
    (hconn : s.connectStatus = .connected) (hstore : s.storeFunction = false)
    (hpublish : ∀ r ∈ s.outgoingPublishRecords, r.publishState ∈ publishStates →
      DuplicateOf r (getPublish r.packetId))
    (hfuel : s.outgoingPublishRecords.length < fuel)
    (hcomplete : ∀ e ∈ (resendLoop c getPublish fuel 0 s).2.log.drop s.log.length, e.Complete) :
    (resendLoop c getPublish fuel 0 s).1 = idsIn publishStates s.outgoingPublishRecords ↔
      CursorKept s.outgoingPublishRecords := by
  have ht := hreach.table
  by_cases hsettled : Settled s.outgoingPublishRecords
  · refine iff_of_true ?_ (cursorKept_of_settled hsettled)
    exact @resendLoop_settled c getPublish fuel s [] s.outgoingPublishRecords rfl ht hsettled
      hpublish hconn hstore hfuel hcomplete
  rcases exists_first publishStates s.outgoingPublishRecords with
    hnil | ⟨front, r, rest, hs, hfront, hstate⟩
  · have hend : (resendLoop c getPublish fuel 0 s).1 = [] := by
      obtain ⟨fuel, rfl⟩ : ∃ n, fuel = n + 1 := ⟨fuel - 1, by omega⟩
      have hskip := @resendLoop_skip_all c getPublish fuel s [] [] s.outgoingPublishRecords
        (by simp) hnil
      rw [List.nil_append, List.length_nil] at hskip
      rw [hskip, resendLoop_end c rfl]
    refine iff_of_true (hend.trans hnil.symm) (.inr (idsIn_eq_nil.2 fun x hx => ?_))
    exact idsIn_eq_nil.1 hnil x ((List.dropWhile_sublist _).subset
      (List.mem_of_mem_tail (mem_live.1 (List.mem_of_mem_take hx)).1))
  · have hlast : ((front ++ r :: rest).getD ((front ++ r :: rest).length - 1) default).packetId ≠
        packetIdInvalid := hs ▸ (not_or.1 hsettled).1
    have hrest : idsIn publishStates rest = idsIn publishStates (live rest) :=
      (idsIn_live (by decide) fun x hx => ht.zero x (by rw [hs]; simp [hx])).symm
    have hsplit : idsIn publishStates (live rest) =
        idsIn publishStates ((live rest).take (front.length - (live front).length)) ++
          idsIn publishStates ((live rest).drop (front.length - (live front).length)) := by
      rw [← idsIn_append, List.take_append_drop]
    rw [resendLoop_unsettled c hs hfront hstate ht hsettled hpublish hconn hstore hfuel hcomplete,
      hs, cursorKept_iff hfront hstate, or_iff_right hlast, idsIn_append, hfront, List.nil_append,
      idsIn_cons, if_pos hstate, hrest, hsplit]
    simp

end Loop

/-! ## Examples -/

/-- The publish of packet id 1 once more. -/
def duplicateOne : PublishInfo := { publishInfoOne with dup := true }

/-- A connected client whose publishes 1, 2 and 3 wait for their PUBACKs. -/
def publishedThree (inbound : List UInt8) : Sys :=
  let s := Sys.initialized (World.still (0x20 :: 2 :: 0 :: 0 :: inbound)) 16 3
  let s := (mqttConnect .default s (some resumingInfo) none 1000).2.2
  let s := (mqttPublish .default s (some publishInfoOne) 1).2
  let s := (mqttPublish .default s (some publishInfoOne) 2).2
  (mqttPublish .default s (some publishInfoOne) 3).2

/-- `resendLoop_complete_iff` on three publishes without an acknowledgement. -/
theorem resendLoop_complete_iff_three :
    let s := publishedThree []
    (resendLoop .default (fun _ => duplicateOne) 4 0 s).1 = [1, 2, 3] := by
  intro s
  have hreach : Reachable s.toPublishRecords :=
    ⟨3, 3, [.reserveState 1 .qos1, .updateStatePublish 1 .send .qos1, .reserveState 2 .qos1,
      .updateStatePublish 2 .send .qos1, .reserveState 3 .qos1,
      .updateStatePublish 3 .send .qos1], by decide⟩
  have hqos : ∀ r ∈ s.outgoingPublishRecords, r.qos = .qos1 := by decide
  have h := @resendLoop_complete_iff .default (fun _ => duplicateOne) 4 s hreach (by decide)
    (by decide) (fun r hr _ => ⟨rfl, (hqos r hr).symm, by decide, by decide⟩) (by decide)
    (by decide)
  exact (h.2 (by decide)).trans (by decide)

/-- The PUBACK of the first publish leaves a hole in front of the others. The loop after the
next connection calls `MQTT_Publish` for the second only. -/
theorem not_resendLoop_complete_hole :
    let s₁ := (mqttReceiveLoop .default (publishedThree [0x40, 2, 0, 1])).2
    let s₂ : Sys := { (mqttDisconnect .default s₁).2 with inbound := [0x20, 2, 1, 0] }
    let s := (mqttConnect .default s₂ (some resumingInfo) none 1000).2.2
    let resent := resendLoop .default (fun _ => duplicateOne) 4 0 s
    s.connectStatus = .connected ∧ s.storeFunction = false ∧ s.retrieveFunction = false ∧
      (∀ e ∈ resent.2.log.drop s.log.length, e.Complete) ∧
      idsIn publishStates s.outgoingPublishRecords = [2, 3] ∧ resent.1 = [2] := by
  decide

end FreeMqtt

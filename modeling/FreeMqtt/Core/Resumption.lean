import FreeMqtt.Core.ExactlyOnce
import FreeMqtt.State.Resend

/-!
# The resumption of a session

`handleUncleanSessionResumption` on a connection over which every packet is completely sent:
a PUBREL for every record that waits for PUBCOMP, then the stored packet of every record
that waits for its first acknowledgement, in the order of the records, and nothing else
(`handleUncleanSessionResumption_spec`).
-/

namespace FreeMqtt

open KeyedList

/-- The event of a packet that is completely sent, and any other event but a packet's. -/
def Event.Complete : Event → Prop
  | .sent _ _ _ stop => stop = .complete
  | _ => True

instance : DecidablePred Event.Complete
  | .sent _ _ _ stop => inferInstanceAs (Decidable (stop = .complete))
  | .dispatched _ _ | .callback _ _ => inferInstanceAs (Decidable True)

/-- From `s` to `s'` these packets are completely sent, and the application's store and the
incoming records are left alone. -/
structure SentAll (s s' : Sys) (sent : List (PacketKind × List UInt8)) : Prop where
  log : s'.log = s.log ++ sent.map fun p => .sent p.1 p.2 p.2.length .complete
  wire : s'.wire = s.wire ++ (sent.map Prod.snd).flatten
  connectStatus : s'.connectStatus = s.connectStatus
  store : s'.store = s.store
  retrieve : s'.retrieveFunction = s.retrieveFunction
  retrieves : (∀ b ∈ s.retrieveResults, b = true) → ∀ b ∈ s'.retrieveResults, b = true

theorem SentAll.refl (s : Sys) : SentAll s s [] := ⟨by simp, by simp, rfl, rfl, rfl, id⟩

theorem SentAll.trans {s s' s'' : Sys} {sent sent' : List (PacketKind × List UInt8)}
    (h : SentAll s s' sent) (h' : SentAll s' s'' sent') : SentAll s s'' (sent ++ sent') where
  log := by rw [h'.log, h.log, List.map_append, List.append_assoc]
  wire := by rw [h'.wire, h.wire, List.map_append, List.flatten_append, List.append_assoc]
  connectStatus := h'.connectStatus.trans h.connectStatus
  store := h'.store.trans h.store
  retrieve := h'.retrieve.trans h.retrieve
  retrieves := h'.retrieves ∘ h.retrieves

theorem Sent.sentAll {s s' : Sys} {kind : PacketKind} {packet : List UInt8} {n : Nat}
    (h : Sent s s' kind packet n .complete) : SentAll s s' [(kind, packet)] := by
  obtain ⟨-, hcomplete, ticks, sends, lastTx, rfl⟩ := h
  obtain rfl := hcomplete.1 rfl
  exact ⟨rfl, by simp, statusAfter_false _, rfl, rfl, id⟩

/-! ## PUBRELs -/

/-- The PUBREL of a record: it is not completely sent, or the record waits for PUBCOMP. -/
theorem sendPublishAcks_pubrel (c : Config) {s : Sys} {front rest : List PubAckInfo}
    {r : PubAckInfo} (hs : s.outgoingPublishRecords = front ++ r :: rest)
    (ht : Table .outgoing s.outgoingPublishRecords) (hconn : s.connectStatus = .connected)
    (hr : r.publishState ∈ pubrelStates) :
    let sent := sendPublishAcks c s r.packetId .pubRelSend
    (∃ e : Event, ¬ e.Complete ∧ sent.1 = .sendFailed ∧ sent.2.log = s.log ++ [e]) ∨
      sent.1 = .success ∧
        SentAll s sent.2 [(.ack .pubrel r.packetId, ackPacket .pubrel r.packetId)] ∧
        sent.2.outgoingPublishRecords = front ++ afterPubrel r :: rest ∧
        Table .outgoing sent.2.outgoingPublishRecords := by
  obtain ⟨hid, -⟩ := ht.live_of_state (by rw [hs]; simp) (by decide) hr
  obtain ⟨s₁, n, stop, hsent, heq⟩ :=
    sendPublishAcks_connected c (show ackToSend .pubRelSend = some .pubrel from rfl) hid hconn
  dsimp only
  rw [heq]
  by_cases hstop : stop = .complete
  · subst hstop
    obtain ⟨hupd, htab⟩ := mqttUpdateStateAck_pubrel hs ht hr
    obtain ⟨hlog, hwire, hstatus, hstore, hretrieve, hretrieves⟩ := hsent.sentAll
    rw [if_pos rfl, hupd]
    exact .inr ⟨rfl, ⟨hlog, hwire, hstatus, hstore, hretrieve, hretrieves⟩, rfl, htab⟩
  · rw [if_neg hstop]
    exact .inl ⟨.sent _ _ n stop, hstop, rfl, hsent.log_eq⟩

/-- The loop over the PUBRELs, from a cursor with the slots `rest` behind it. -/
theorem resendPubrels_spec (c : Config) {fuel : Nat} {s : Sys} {front rest : List PubAckInfo}
    (hs : s.outgoingPublishRecords = front ++ rest)
    (ht : Table .outgoing s.outgoingPublishRecords) (hconn : s.connectStatus = .connected)
    (hfuel : rest.length < fuel) :
    let next := mqttPubrelToResend s.toPublishRecords front.length
    let resent := resendPubrels c fuel next.1 next.2.1 s
    (∀ e ∈ resent.2.log.drop s.log.length, e.Complete) →
      resent.1 = .success ∧
      SentAll s resent.2
        ((idsIn pubrelStates rest).map fun id => (.ack .pubrel id, ackPacket .pubrel id)) ∧
      resent.2.outgoingPublishRecords = front ++ rest.map afterPubrel ∧
      Table .outgoing resent.2.outgoingPublishRecords := by
  dsimp only
  induction rest generalizing fuel s front with
  | nil =>
    intro _
    rw [List.append_nil] at hs
    cases fuel with
    | zero => exact absurd hfuel (Nat.not_lt_zero _)
    | succ fuel =>
      rw [resendPubrels, if_pos (mqttPubrelToResend_end hs)]
      exact ⟨rfl, .refl s, by simpa using hs, ht⟩
  | cons r rest ih =>
    have hfront : ∀ x : PubAckInfo, (front ++ [x]).length = front.length + 1 := by simp
    by_cases hr : r.publishState ∈ pubrelStates
    · obtain ⟨hid, -⟩ := ht.live_of_state (by rw [hs]; simp) (by decide) hr
      obtain ⟨hnext, hcursor⟩ := mqttPubrelToResend_select hs hr
      rw [hnext, hcursor]
      cases fuel with
      | zero => exact absurd hfuel (Nat.not_lt_zero _)
      | succ fuel =>
        have hsent := sendPublishAcks_pubrel c hs ht hconn hr
        rw [resendPubrels, if_neg hid]
        dsimp only at hsent ⊢
        generalize sendPublishAcks c s r.packetId .pubRelSend = sent at hsent
        rcases hsent with ⟨e, he, hfail, hlog⟩ | ⟨hok, hall, hrecords, htab⟩
        · rw [if_neg (by rw [hfail]; decide)]
          intro hcomplete
          rw [hlog, List.drop_left] at hcomplete
          exact absurd (hcomplete e (by simp)) he
        · rw [if_pos hok, ← hfront (afterPubrel r)]
          intro hcomplete
          have hlen : s.log.length ≤ sent.2.log.length := by
            rw [hall.log, List.length_append]
            exact Nat.le_add_right _ _
          obtain ⟨hok', hall', hrecords', htab'⟩ := ih (by simpa using hrecords) htab
            (hall.connectStatus.trans hconn) (Nat.lt_of_succ_lt_succ hfuel)
            fun e he => hcomplete e (List.drop_subset_drop_left _ hlen he)
          refine ⟨hok', ?_, ?_, htab'⟩
          · rw [idsIn_cons, if_pos hr]
            exact hall.trans hall'
          · rw [hrecords', List.map_cons, List.append_assoc, List.singleton_append]
    · have hs' : s.outgoingPublishRecords = (front ++ [r]) ++ rest := by simpa using hs
      rw [mqttPubrelToResend_skip hs hr, ← hfront r]
      intro hcomplete
      obtain ⟨hok, hall, hrecords, htab⟩ := ih hs' ht hconn (Nat.lt_of_succ_lt hfuel) hcomplete
      refine ⟨hok, ?_, ?_, htab⟩
      · rwa [idsIn_cons, if_neg hr]
      · rw [hrecords, List.map_cons, afterPubrel_of_notMem hr, List.append_assoc, List.singleton_append]

/-! ## Publishes -/

/-- The stored packets of these packet ids are there, and are MQTT packets. -/
def Stored (s : Sys) (ids : List UInt16) : Prop :=
  ∀ id ∈ ids, ∃ packet, s.store id = some packet ∧ packet.length ≤ 5 + maxRemainingLength

/-- The retransmission of a stored packet. -/
def resendOf (s : Sys) (id : UInt16) : PacketKind × List UInt8 := (.resend id, (s.store id).getD [])

theorem callRetrieve_eq {s : Sys} (h : ∀ b ∈ s.retrieveResults, b = true) (packetId : UInt16) :
    callRetrieve s packetId =
      (s.store packetId, { s with retrieveResults := s.retrieveResults.tail }) := by
  unfold callRetrieve
  split
  · rename_i heq
    exact absurd (h false (by rw [heq]; simp)) (by decide)
  · rfl

/-- The retransmission of a stored packet: it is completely sent, or the loop ends. -/
theorem sendPacket_resend (c : Config) {s : Sys} {id : UInt16} {packet : List UInt8}
    (hstored : s.store id = some packet) (hlen : packet.length ≤ 5 + maxRemainingLength)
    (hretrieves : ∀ b ∈ s.retrieveResults, b = true) :
    let sent := sendPacket c (callRetrieve s id).2 (.resend id) packet
    (∃ e : Event, ¬ e.Complete ∧ sent.1 ≠ int32Cast packet.length ∧ sent.2.log = s.log ++ [e]) ∨
      sent.1 = int32Cast packet.length ∧ SentAll s sent.2 [resendOf s id] ∧
        sent.2.toPublishRecords = s.toPublishRecords := by
  have hsmall : packet.length < 2 ^ 31 := Nat.lt_of_le_of_lt hlen (by decide)
  obtain ⟨n, stop, hsent, hreturned⟩ :=
    sendPacket_spec c (callRetrieve s id).2 (.resend id) packet
  have hresult := hsent.result_eq_length hreturned
  dsimp only
  rw [callRetrieve_eq hretrieves] at hsent hresult ⊢
  rw [int32Cast_eq hsmall, ne_eq, hresult]
  by_cases hstop : stop = .complete
  · subst hstop
    have htail : ∀ b ∈ s.retrieveResults.tail, b = true :=
      fun b hb => hretrieves b (List.mem_of_mem_tail hb)
    obtain ⟨hlog, hwire, hstatus, hstore, hretrieve, hretrieves'⟩ := hsent.sentAll
    refine .inr ⟨rfl, ?_, hsent.records⟩
    rw [resendOf, hstored]
    exact ⟨hlog, hwire, hstatus, hstore, hretrieve, fun _ => hretrieves' htail⟩
  · exact .inl ⟨.sent _ _ n stop, hstop, hstop, hsent.log_eq⟩

/-- The loop over the publishes, from a cursor with the slots `rest` behind it. -/
theorem resendPublishes_spec (c : Config) {fuel : Nat} {s : Sys} {front rest : List PubAckInfo}
    (hs : s.outgoingPublishRecords = front ++ rest)
    (ht : Table .outgoing s.outgoingPublishRecords) (hstored : Stored s (idsIn publishStates rest))
    (hretrieves : ∀ b ∈ s.retrieveResults, b = true) (hfuel : rest.length < fuel) :
    let resent := resendPublishes c fuel front.length s
    (∀ e ∈ resent.2.log.drop s.log.length, e.Complete) →
      resent.1 = .success ∧ SentAll s resent.2 ((idsIn publishStates rest).map (resendOf s)) ∧
      resent.2.toPublishRecords = s.toPublishRecords := by
  dsimp only
  induction rest generalizing fuel s front with
  | nil =>
    intro _
    rw [List.append_nil] at hs
    cases fuel with
    | zero => exact absurd hfuel (Nat.not_lt_zero _)
    | succ fuel =>
      rw [resendPublishes]
      dsimp only
      rw [if_pos (mqttPublishToResend_end hs)]
      exact ⟨rfl, .refl s, rfl⟩
  | cons r rest ih =>
    have hs' : s.outgoingPublishRecords = (front ++ [r]) ++ rest := by simpa using hs
    have hfront : (front ++ [r]).length = front.length + 1 := by simp
    cases fuel with
    | zero => exact absurd hfuel (Nat.not_lt_zero _)
    | succ fuel =>
      by_cases hr : r.publishState ∈ publishStates
      · obtain ⟨hid, -⟩ := ht.live_of_state (by rw [hs]; simp) (by decide) hr
        rw [idsIn_cons, if_pos hr] at hstored
        obtain ⟨packet, hpacket, hlen⟩ := hstored r.packetId (by simp)
        have hsent := sendPacket_resend c hpacket hlen hretrieves
        have hretrieved := congrArg Prod.fst (callRetrieve_eq hretrieves r.packetId)
        rw [hpacket] at hretrieved
        dsimp only at hsent hretrieved
        rw [resendPublishes, mqttPublishToResend_select hs hr]
        dsimp only
        rw [if_neg hid]
        split
        · rename_i hnone
          exact absurd (hretrieved.symm.trans hnone) (by simp)
        rename_i packet' hsome
        obtain rfl : packet = packet' := Option.some.inj (hretrieved.symm.trans hsome)
        generalize sendPacket c (callRetrieve s r.packetId).2 (.resend r.packetId) packet = sent
          at hsent ⊢
        rcases hsent with ⟨e, he, hfail, hlog⟩ | ⟨hok, hall, hrecords⟩
        · rw [if_pos hfail]
          intro hcomplete
          dsimp only at hcomplete
          rw [hlog, List.drop_left] at hcomplete
          exact absurd (hcomplete e (by simp)) he
        · rw [if_neg (not_not_intro hok), ← hfront]
          intro hcomplete
          have hlen' : s.log.length ≤ sent.2.log.length := by
            rw [hall.log, List.length_append]
            exact Nat.le_add_right _ _
          have hout : sent.2.outgoingPublishRecords = s.outgoingPublishRecords := by rw [hrecords]
          obtain ⟨hok', hall', hrecords'⟩ := ih (hout.trans hs') (hout ▸ ht) (by
              rw [Stored, hall.store]
              exact fun id hid => hstored id (List.mem_cons_of_mem _ hid))
            (hall.retrieves hretrieves) (Nat.lt_of_succ_lt_succ hfuel)
            fun e he => hcomplete e (List.drop_subset_drop_left _ hlen' he)
          refine ⟨hok', ?_, hrecords'.trans hrecords⟩
          rw [idsIn_cons, if_pos hr, List.map_cons]
          have hsame : resendOf sent.2 = resendOf s := by
            funext id
            rw [resendOf, hall.store, resendOf]
          rw [hsame] at hall'
          exact hall.trans hall'
      · have hskip : resendPublishes c (fuel + 1) front.length s =
            resendPublishes c (fuel + 1) (front ++ [r]).length s := by
          rw [resendPublishes, mqttPublishToResend_skip hs hr, ← hfront]
          rfl
        rw [idsIn_cons, if_neg hr] at hstored ⊢
        rw [hskip]
        exact ih hs' ht hstored hretrieves (Nat.lt_of_succ_lt hfuel)

/-! ## The resumption -/

/-- The packets of a resumption: the PUBRELs, and the stored packets when there is a function
to retrieve them. -/
def resumptionPackets (s : Sys) (pubrels publishes : List UInt16) : List (PacketKind × List UInt8) :=
  (pubrels.map fun id => (.ack .pubrel id, ackPacket .pubrel id)) ++
    if s.retrieveFunction then publishes.map (resendOf s) else []

theorem idsIn_map_afterPubrel (records : List PubAckInfo) :
    idsIn publishStates (records.map afterPubrel) = idsIn publishStates records := by
  induction records with
  | nil => rfl
  | cons r records ih =>
    rw [List.map_cons, idsIn_cons, idsIn_cons, ih]
    unfold afterPubrel
    split
    · rename_i heq
      rw [heq, if_neg (by simp [publishStates]), if_neg (by simp [publishStates])]
    · rfl

/-- With every packet completely sent and every stored packet retrieved, the resumption sends
these packets and changes the records only from `MQTTPubRelSend` to `MQTTPubCompPending`. -/
theorem handleUncleanSessionResumption_spec (c : Config) {s : Sys}
    (ht : Table .outgoing s.outgoingPublishRecords) (hconn : s.connectStatus = .connected)
    (hstored : s.retrieveFunction = true → Stored s (idsIn publishStates s.outgoingPublishRecords))
    (hretrieves : ∀ b ∈ s.retrieveResults, b = true)
    (hcomplete : ∀ e ∈ (handleUncleanSessionResumption c s).2.log.drop s.log.length, e.Complete) :
    (handleUncleanSessionResumption c s).1 = .success ∧
      SentAll s (handleUncleanSessionResumption c s).2
        (resumptionPackets s (idsIn pubrelStates s.outgoingPublishRecords)
          (idsIn publishStates s.outgoingPublishRecords)) ∧
      (handleUncleanSessionResumption c s).2.outgoingPublishRecords =
        s.outgoingPublishRecords.map afterPubrel := by
  have hs : s.outgoingPublishRecords = [] ++ s.outgoingPublishRecords := rfl
  have hpubrels := resendPubrels_spec c hs ht hconn (Nat.lt_succ_self _)
  have helse := fun s' => resendPublishes_elsewhere c (s.outgoingPublishRecords.length + 1) 0 s'
  unfold resumptionPackets
  unfold handleUncleanSessionResumption at hcomplete ⊢
  dsimp only [List.length_nil] at hpubrels hcomplete ⊢
  generalize resendPubrels c (s.outgoingPublishRecords.length + 1)
    (mqttPubrelToResend s.toPublishRecords 0).1 (mqttPubrelToResend s.toPublishRecords 0).2.1 s =
      pubrels at hpubrels hcomplete
  split at hcomplete
  · rename_i hboth
    obtain ⟨events, hlog, -⟩ := (helse pubrels.2).log
    obtain ⟨-, hall, hrecords, htab⟩ := hpubrels fun e he => hcomplete e (by
      rw [hlog, List.drop_append]
      exact List.mem_append_left _ he)
    rw [List.nil_append] at hrecords
    have hretrieve : s.retrieveFunction = true := hall.retrieve ▸ hboth.2
    have hids : idsIn publishStates pubrels.2.outgoingPublishRecords =
        idsIn publishStates s.outgoingPublishRecords := by
      rw [hrecords, idsIn_map_afterPubrel]
    have hlen : pubrels.2.outgoingPublishRecords.length < s.outgoingPublishRecords.length + 1 := by
      rw [hrecords, List.length_map]
      exact Nat.lt_succ_self _
    have hs' : pubrels.2.outgoingPublishRecords = [] ++ pubrels.2.outgoingPublishRecords := rfl
    have hloglen : s.log.length ≤ pubrels.2.log.length := by
      rw [hall.log, List.length_append]
      exact Nat.le_add_right _ _
    obtain ⟨hok', hall', hrecords'⟩ := resendPublishes_spec c hs' htab (by
        rw [hids, Stored, hall.store]
        exact hstored hretrieve) (hall.retrieves hretrieves) hlen
      fun e he => hcomplete e (List.drop_subset_drop_left _ hloglen he)
    rw [if_pos hboth, hretrieve, if_pos rfl]
    have hsame : resendOf pubrels.2 = resendOf s := by
      funext id
      rw [resendOf, hall.store, resendOf]
    rw [hids, hsame] at hall'
    exact ⟨hok', hall.trans hall', (congrArg _ hrecords').trans hrecords⟩
  · rename_i hnot
    obtain ⟨hok, hall, hrecords, -⟩ := hpubrels hcomplete
    have hretrieve : s.retrieveFunction = false := by
      have hne := fun h => hnot ⟨hok, h⟩
      rw [hall.retrieve] at hne
      simpa using hne
    rw [if_neg hnot, hretrieve]
    exact ⟨hok, by simpa using hall, hrecords⟩

/-- On records that any run of the engine leaves, the resumption sends one PUBREL for every
record in `MQTTPubRelSend` or `MQTTPubCompPending`, in the order in which their PUBRECs were
accepted, and then the stored packet of every record in `MQTTPublishSend`,
`MQTTPubAckPending` or `MQTTPubRecPending`, in the order in which they were reserved. -/
theorem handleUncleanSessionResumption_in_order (c : Config) (n m : Nat) (calls : List EngineCall)
    {s : Sys} (hrun : s.toPublishRecords = (runCalls (.zeroed n m) calls).2)
    (hconn : s.connectStatus = .connected)
    (hstored : s.retrieveFunction = true → Stored s (idsIn publishStates s.outgoingPublishRecords))
    (hretrieves : ∀ b ∈ s.retrieveResults, b = true)
    (hcomplete : ∀ e ∈ (handleUncleanSessionResumption c s).2.log.drop s.log.length, e.Complete) :
    let statuses := (runCalls (.zeroed n m) calls).1
    let pubrels := idsIn pubrelStates s.outgoingPublishRecords
    let publishes := idsIn publishStates s.outgoingPublishRecords
    let resumed := handleUncleanSessionResumption c s
    let packets := resumptionPackets s pubrels publishes
    resumed.1 = .success ∧
      resumed.2.wire = s.wire ++ (packets.map Prod.snd).flatten ∧
      (resumed.2.log = s.log ++ packets.map fun p => .sent p.1 p.2 p.2.length .complete) ∧
      pubrels = (latest (acceptedPubrecs calls statuses)).filter
        (inState pubrelStates s.outgoingPublishRecords) ∧
      publishes = (latest (acceptedReservations calls statuses)).filter
        (inState publishStates s.outgoingPublishRecords) ∧
      resumed.2.outgoingPublishRecords = s.outgoingPublishRecords.map afterPubrel := by
  have hordered := runCalls_ordered n m calls
  dsimp only at hordered
  rw [← hrun] at hordered
  obtain ⟨htab, hpublishes, hpubrels⟩ := hordered
  obtain ⟨hok, hall, hrecords⟩ :=
    handleUncleanSessionResumption_spec c htab hconn hstored hretrieves hcomplete
  exact ⟨hok, hall.wire, hall.log, hpubrels, hpublishes, hrecords⟩

/-- A run that leaves the records 3, 2 and 1: a publish that was not sent, and two whose PUBRECs
arrived in the other order. -/
def crossedRun : List EngineCall :=
  [.reserveState 1 .qos2, .reserveState 2 .qos2, .reserveState 3 .qos1,
    .updateStatePublish 1 .send .qos2, .updateStatePublish 2 .send .qos2,
    .updateStateAck 2 .pubrec .receive, .updateStateAck 1 .pubrec .receive]

/-- `handleUncleanSessionResumption_in_order` on `crossedRun`, with the publish of packet id 3 in
the store. -/
theorem handleUncleanSessionResumption_in_order_crossed :
    let s : Sys := { Sys.initialized (World.still []) 16 3 with
      toPublishRecords := (runCalls (.zeroed 3 3) crossedRun).2
      connectStatus := .connected
      retrieveFunction := true
      store := fun id => if id = 3 then some [0x3A, 5, 0, 1, 0x74, 0, 3] else none }
    (handleUncleanSessionResumption .default s).2.wire =
      [0x62, 2, 0, 2, 0x62, 2, 0, 1, 0x3A, 5, 0, 1, 0x74, 0, 3] := by
  intro s
  have hids : idsIn publishStates s.outgoingPublishRecords = [3] := by decide
  have h := handleUncleanSessionResumption_in_order .default 3 3 crossedRun (s := s) rfl rfl
    (fun _ id hid => ⟨[0x3A, 5, 0, 1, 0x74, 0, 3], by
      rw [hids, List.mem_singleton] at hid
      rw [hid]
      decide⟩) (by simp [s, World.still, Sys.initialized]) (by decide)
  exact h.2.1

end FreeMqtt

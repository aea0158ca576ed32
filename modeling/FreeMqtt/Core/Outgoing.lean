import FreeMqtt.Core.ConnectionStates
import FreeMqtt.Core.PublishPaths
import FreeMqtt.State.Order
import FreeMqtt.State.Records

/-!
# Outgoing publishes over a run

What each operation of a run does to the outgoing records, to the application's store and to the
part of the log that is about outgoing publishes (`OutgoingEffect`): it leaves them alone, publishes
a message, takes a record out, has an acknowledgement accepted or releases a message. Every property
of outgoing publishes over runs is a case analysis of these effects.
-/

namespace FreeMqtt

open KeyedList Moments

/-- The outgoing record of a packet id. -/
def Sys.outgoing (s : Sys) (packetId : UInt16) : Option PubAckInfo :=
  liveRecord s.outgoingPublishRecords packetId

/-! ## Marks -/

/-- What an event says about an outgoing publish. -/
inductive Mark
  /-- its PUBLISH was completely sent -/
  | published (packetId : UInt16) (qos : QoS)
  /-- its PUBREL was completely sent -/
  | released (packetId : UInt16)
  /-- the callback was invoked with its PUBACK, PUBREC or PUBCOMP -/
  | acked (packetType : PubAckType) (packetId : UInt16)
  deriving DecidableEq, Repr

/-- The type of an acknowledgement of an outgoing publish. -/
def outgoingAckType (type : UInt8) : Option PubAckType :=
  if isPublishAck type ∧ type ≠ packetTypePubrel then some (getAckFromPacketType type) else none

def Event.mark : Event → Option Mark
  | .sent (.publish packetId qos) _ _ .complete => some (.published packetId qos)
  | .sent (.ack .pubrel packetId) _ _ .complete => some (.released packetId)
  | .callback packet info =>
      (outgoingAckType packet.type).map fun packetType => .acked packetType info.packetIdentifier
  | _ => none

def Mark.IsAcked : Mark → Prop
  | .acked _ _ => True
  | _ => False

/-- Events with these marks were added to the log. -/
def Marked (s s' : Sys) (marks : List Mark) : Prop :=
  ∃ events, s'.log = s.log ++ events ∧ events.filterMap Event.mark = marks

theorem Marked.of_log_eq {s s' : Sys} (h : s'.log = s.log) : Marked s s' [] :=
  ⟨[], by rw [h, List.append_nil], rfl⟩

/-- One event and others without a mark. -/
theorem Marked.of_event {s s' : Sys} {e : Event} (h : s'.log = s.log ++ [e]) :
    Marked s s' e.mark.toList :=
  ⟨[e], h, by cases hmark : e.mark <;> simp [hmark]⟩

theorem Marked.trans {s s' s'' : Sys} {marks marks' : List Mark} (h : Marked s s' marks)
    (h' : Marked s' s'' marks') : Marked s s'' (marks ++ marks') := by
  obtain ⟨events, hlog, rfl⟩ := h
  obtain ⟨events', hlog', rfl⟩ := h'
  exact ⟨events ++ events', by rw [hlog', hlog, List.append_assoc], List.filterMap_append ..⟩

/-! ## Effects -/

/-- What every operation does that does not set the records or the functions of a context. -/
structure Carries (s s' : Sys) : Prop where
  table : Table .outgoing s.outgoingPublishRecords → Table .outgoing s'.outgoingPublishRecords
  store : s.storeFunction = true → s'.storeFunction = true
  retrieves : (∀ b ∈ s.retrieveResults, b = true) → ∀ b ∈ s'.retrieveResults, b = true

theorem Carries.refl (s : Sys) : Carries s s := ⟨id, id, id⟩

theorem Carries.trans {s s' s'' : Sys} (h : Carries s s') (h' : Carries s' s'') : Carries s s'' :=
  ⟨h'.table ∘ h.table, h'.store ∘ h.store, h'.retrieves ∘ h.retrieves⟩

/-- A publish of QoS 1 or 2 that is checked and meets a connection. -/
def Publishable (s : Sys) (info : PublishInfo) (packetId : UInt16) : Prop :=
  validatePublishParams s (some info) packetId = .success ∧
    (mqttGetPublishPacketSize info).1 = .success ∧ s.connectStatus = .connected ∧
    info.qos ≠ .qos0

instance (s : Sys) (info : PublishInfo) (packetId : UInt16) :
    Decidable (Publishable s info packetId) := inferInstanceAs (Decidable (_ ∧ _))

/-- The record that a publish uses: the one of a duplicate, or the one that it reserves. -/
def publishedRecord (s : Sys) (info : PublishInfo) (packetId : UInt16) : Option PubAckInfo :=
  match s.outgoing packetId with
  | some r => if info.dup then some r else none
  | none =>
      if (mqttReserveState s.toPublishRecords packetId info.qos).1 = .success then
        some (firstRecord .outgoing packetId info.qos)
      else none

/-- Whether a publish is stored. -/
def storesCopy (s : Sys) : Bool := s.storeFunction ∧ s.storeResults.head? ≠ some false

/-- The QoS in the first byte of a PUBLISH. -/
def packetQoS (packet : List UInt8) : Option QoS := publishFlagsQoS (packet.headD 0 &&& 0x0F)

/-- The state after a PUBLISH was sent. -/
def pendingState (qos : QoS) : PublishState :=
  if qos = .qos2 then .pubRecPending else .pubAckPending

/-- What `MQTT_Publish` does with a record `r`. -/
structure Publishes (s s' : Sys) (info : PublishInfo) (packetId : UInt16) (r : PubAckInfo) :
    Prop where
  others : ∀ id, id ≠ packetId → s'.outgoing id = s.outgoing id
  store : if storesCopy s then
      ∃ copy, packetQoS copy = some info.qos ∧
        s'.store = fun id => if id = packetId then some copy else s.store id
    else s'.store = s.store
  /-- the record stays as it is, or its PUBLISH was sent -/
  record : (s'.outgoing packetId = some r ∧ ∃ marks, Marked s s' marks ∧ ∀ m ∈ marks, ¬ m.IsAcked) ∨
    (r.qos = info.qos ∧ r.publishState = .publishSend ∧
      s'.outgoing packetId = some { r with publishState := pendingState info.qos } ∧
      Marked s s' [.published packetId info.qos])

/-- What an operation does to the outgoing publishes. -/
inductive OutgoingEffect (operation : Operation) (s s' : Sys) : Prop
  | none (hrecords : s'.outgoing = s.outgoing) (hstore : s'.store = s.store) {marks : List Mark}
      (hmarks : Marked s s' marks) (hacked : ∀ m ∈ marks, ¬ m.IsAcked)
  | publish (info : PublishInfo) (packetId : UInt16) (r : PubAckInfo)
      (hoperation : operation = .request (.publish (some info) packetId))
      (hpublishable : Publishable s info packetId)
      (hr : publishedRecord s info packetId = some r) (h : Publishes s s' info packetId r)
  /-- a record is cancelled, or lost by the move to the end of a full array -/
  | drop (packetId : UInt16)
      (hrecords : ∀ id, s'.outgoing id = if id = packetId then .none else s.outgoing id)
      (hstore : s'.store = s.store) (hmarks : Marked s s' [])
  | acked (packetType : PubAckType) (packetId : UInt16) (r : PubAckInfo)
      (htype : packetType ≠ .pubrel) (hr : s.outgoing packetId = some r)
      (hreact : react .outgoing r (.ack packetType) ≠ .illegal)
      (hrecords : ∀ id, s'.outgoing id =
        if id = packetId then (react .outgoing r (.ack packetType)).apply r else s.outgoing id)
      (hstore : ∀ id, s'.store id = s.store id ∨ id = packetId ∧ packetType ≠ .pubcomp)
      (hmarks : Marked s s' [.acked packetType packetId])
  | released (packetId : UInt16) (r : PubAckInfo) (hr : s.outgoing packetId = some r)
      (hreact : react .outgoing r (.ack .pubrel) ≠ .illegal)
      (hrecords : ∀ id, s'.outgoing id =
        if id = packetId then (react .outgoing r (.ack .pubrel)).apply r else s.outgoing id)
      (hstore : s'.store = s.store) (hmarks : Marked s s' [.released packetId])
  /-- a clean session -/
  | clean (hrecords : ∀ id, s'.outgoing id = .none) (hmarks : Marked s s' [])

theorem OutgoingEffect.of_eq {operation : Operation} {s s' : Sys}
    (hrecords : s'.outgoingPublishRecords = s.outgoingPublishRecords) (hstore : s'.store = s.store)
    (hlog : s'.log = s.log) : OutgoingEffect operation s s' :=
  .none (by unfold Sys.outgoing; rw [hrecords]) hstore (.of_log_eq hlog) nofun

theorem not_isAcked_of_sent {kind : PacketKind} {packet : List UInt8} {n : Nat} {stop : Stop}
    {m : Mark} (h : m ∈ (Event.sent kind packet n stop).mark) : ¬ m.IsAcked := by
  unfold Event.mark at h
  split at h
  · cases h
    exact id
  · cases h
    exact id
  · rename_i heq
    cases heq
  · cases h

/-- A packet that leaves the records alone. -/
theorem OutgoingEffect.of_sent {operation : Operation} {s s' : Sys} {kind : PacketKind}
    {packet : List UInt8} {n : Nat} {stop : Stop} (h : Sent s s' kind packet n stop) :
    OutgoingEffect operation s s' := by
  refine .none ?_ ?_ (.of_event h.log_eq) fun m hm => ?_
  · unfold Sys.outgoing
    rw [congrArg PublishRecords.outgoingPublishRecords h.records]
  · obtain ⟨-, -, ticks, sends, lastTx, rfl⟩ := h
    rfl
  · rw [Option.mem_toList] at hm
    exact not_isAcked_of_sent hm

theorem Carries.of_sent {s s' : Sys} {kind : PacketKind} {packet : List UInt8} {n : Nat}
    {stop : Stop} (h : Sent s s' kind packet n stop) : Carries s s' := by
  obtain ⟨-, -, ticks, sends, lastTx, rfl⟩ := h
  exact ⟨id, id, id⟩

/-! ## MQTT_Publish -/

theorem react_publish {r : PubAckInfo} (h : ValidRecord .outgoing r) :
    r.publishState = .publishSend ∧
        react .outgoing r .publish = .advance (pendingState r.qos) ∨
      (react .outgoing r .publish).apply r = some r := by
  obtain ⟨packetId, qos, state⟩ := r
  change state ∈ phases .outgoing qos at h
  revert h
  cases qos <;> cases state <;>
    first
    | exact fun h => absurd h (by decide)
    | exact fun _ => .inl ⟨rfl, rfl⟩
    | exact fun _ => .inr rfl

theorem packetQoS_publishCopy (info : PublishInfo) (remainingLength : Nat) (packetId : UInt16) :
    packetQoS (publishCopy info remainingLength packetId) = some info.qos :=
  (publishFlags_spec { info with dup := true }).2.1

/-- The store before the packet is sent. -/
theorem storeCopy_spec (s : Sys) {info : PublishInfo} (hqos : info.qos ≠ .qos0)
    (remainingLength : Nat) (packetId : UInt16) :
    let header := (mqttSerializePublishHeaderWithoutTopic info remainingLength).1
    let stored := storeCopy s info header packetId
    ∃ store storeResults, stored.2.2 = { s with store, storeResults } ∧
      if storesCopy s then
        ∃ copy, packetQoS copy = some info.qos ∧
          store = fun id => if id = packetId then some copy else s.store id
      else store = s.store := by
  intro header stored
  have heq : stored = _ := storeCopy_eq s info remainingLength packetId
  rw [heq]
  unfold storesCopy
  cases hfunction : s.storeFunction with
  | false =>
    rw [if_neg fun h => absurd h.2 (by simp)]
    exact ⟨s.store, s.storeResults, rfl, by simp⟩
  | true =>
    rw [if_pos ⟨hqos, rfl⟩]
    have hcopy := packetQoS_publishCopy info remainingLength packetId
    generalize publishCopy info remainingLength packetId = copy at hcopy
    unfold callStore
    rcases hresults : s.storeResults with _ | ⟨_ | _, storeResults⟩
    · exact ⟨_, _, rfl, by simpa using ⟨copy, hcopy, rfl⟩⟩
    · exact ⟨_, _, rfl, by simp⟩
    · exact ⟨_, _, rfl, by simpa using ⟨copy, hcopy, rfl⟩⟩

/-- A publish that leaves the records alone. -/
theorem Publishes.of_records_eq {s s' : Sys} {info : PublishInfo} {packetId : UInt16} {r : PubAckInfo}
    (hr : s.outgoing packetId = some r) (hrecords : s'.toPublishRecords = s.toPublishRecords)
    (hstore : if storesCopy s then
        ∃ copy, packetQoS copy = some info.qos ∧
          s'.store = fun id => if id = packetId then some copy else s.store id
      else s'.store = s.store)
    (hmarks : ∃ marks, Marked s s' marks ∧ ∀ m ∈ marks, ¬ m.IsAcked) :
    Publishes s s' info packetId r := by
  have hsame : s'.outgoing = s.outgoing := by
    unfold Sys.outgoing
    rw [congrArg PublishRecords.outgoingPublishRecords hrecords]
  exact ⟨fun id _ => by rw [hsame], hstore, .inl ⟨by rw [hsame, hr], hmarks⟩⟩

/-- A publish that was sent, with the record that `MQTT_UpdateStatePublish` leaves. -/
theorem Publishes.of_sent {s s' : Sys} (htable : Table .outgoing s.outgoingPublishRecords)
    {info : PublishInfo} {packetId : UInt16} {r : PubAckInfo} (hr : s.outgoing packetId = some r)
    (hq : r.qos = info.qos) {records : List PubAckInfo}
    (hlive : live records =
      (handleEntry .outgoing .publish r (live s.outgoingPublishRecords)).2)
    (hrecords : s'.outgoingPublishRecords = records)
    (hstore : if storesCopy s then
        ∃ copy, packetQoS copy = some info.qos ∧
          s'.store = fun id => if id = packetId then some copy else s.store id
      else s'.store = s.store)
    (hlog : Marked s s' [.published packetId info.qos]) : Publishes s s' info packetId r := by
  have hlookup : ∀ id, s'.outgoing id =
      if id = packetId then (react .outgoing r .publish).apply r else s.outgoing id := by
    intro id
    obtain rfl : r.packetId = packetId := lookup_key hr
    unfold Sys.outgoing liveRecord
    rw [hrecords, hlive]
    exact lookup_handleEntry .outgoing .publish hr id
  refine ⟨fun id hne => by rw [hlookup, if_neg hne], hstore, ?_⟩
  rw [hlookup, if_pos rfl]
  rcases react_publish (htable.valid r (lookup_mem hr)) with ⟨hstate, hreact⟩ | hreact
  · rw [hreact, ← hq]
    exact .inr ⟨rfl, hstate, rfl, hq ▸ hlog⟩
  · exact .inl ⟨hreact, _, hlog, by simp [Mark.IsAcked]⟩

theorem publishReserved_publishes (c : Config) {s : Sys}
    (htable : Table .outgoing s.outgoingPublishRecords) {info : PublishInfo} {packetId : UInt16}
    (hid : packetId ≠ packetIdInvalid) (hqos : info.qos ≠ .qos0)
    (hsize : (mqttGetPublishPacketSize info).1 = .success) {r : PubAckInfo}
    (hr : s.outgoing packetId = some r) :
    Publishes s (publishReserved c s info packetId).2 info packetId r ∧
      Carries s (publishReserved c s info packetId).2 := by
  obtain ⟨store, storeResults, hstored, hstore⟩ :=
    storeCopy_spec s hqos (mqttGetPublishPacketSize info).2.1 packetId
  unfold publishReserved
  dsimp only
  rw [sendPublishWithoutCopy_vectors]
  generalize storeCopy s info _ packetId = stored at hstored
  obtain ⟨status, _, s₁⟩ := stored
  obtain rfl : s₁ = { s with store, storeResults } := hstored
  by_cases hok : status = .success
  swap
  · rw [if_pos hok, if_neg fun h => hok h.1]
    exact ⟨.of_records_eq hr rfl hstore ⟨[], .of_log_eq rfl, nofun⟩, id, id, id⟩
  rw [if_neg (not_not_intro hok)]
  obtain ⟨n, stop, hsent, hcomplete⟩ := sendVectors_spec c { s with store, storeResults } hsize
    packetId
  generalize sendVectors c { s with store, storeResults } info packetId _ = sent at hsent hcomplete
  have hcarries : Carries s sent.2 := by
    have hcarries := Carries.of_sent hsent
    exact ⟨hcarries.table, hcarries.store, hcarries.retrieves⟩
  have hlog : sent.2.log = s.log ++ [_] := hsent.log_eq
  have hrecords : sent.2.toPublishRecords = s.toPublishRecords := hsent.records
  obtain rfl : sent.2.store = store := by
    obtain ⟨-, -, ticks, sends, lastTx, heq⟩ := hsent
    rw [heq]
  have hsame : Publishes s sent.2 info packetId r := .of_records_eq hr hrecords hstore
    ⟨_, .of_event hlog, fun m hm => not_isAcked_of_sent (Option.mem_toList.1 hm)⟩
  by_cases hall : sent.1 = .success
  swap
  · rw [if_neg fun h => hall h.1]
    exact ⟨hsame, hcarries⟩
  rw [if_pos ⟨hall, hqos⟩, hrecords]
  obtain rfl := hcomplete.1 hall
  by_cases hq : r.qos = info.qos
  swap
  · rw [mqttUpdateStatePublish_send_none hid htable hqos fun r' hr' => by
      rw [Option.some.inj (hr'.symm.trans hr)]
      exact hq]
    have hback : sent.2.setRecords s.toPublishRecords = sent.2 := by rw [← hrecords]; rfl
    rw [hback]
    exact ⟨hsame, hcarries⟩
  obtain ⟨status', records', hupdated, htable', -, hhandled⟩ :=
    mqttUpdateStatePublish_send_some hid htable hqos hr hq
  rw [hupdated]
  refine ⟨.of_sent htable hr hq (congrArg Prod.snd hhandled) rfl hstore (.of_event hlog),
    fun _ => htable', hcarries.store, hcarries.retrieves⟩

theorem Publishable.packetId_ne {s : Sys} {info : PublishInfo} {packetId : UInt16}
    (h : Publishable s info packetId) : packetId ≠ packetIdInvalid := by
  obtain ⟨hvalid, -, -, hqos⟩ := h
  rintro rfl
  unfold validatePublishParams at hvalid
  dsimp only at hvalid
  rw [if_pos ⟨hqos, rfl⟩] at hvalid
  exact absurd hvalid (by simp)

/-- A publish uses the record of its packet id when it is a duplicate. -/
theorem publishedRecord_of_live {s : Sys} {info : PublishInfo} {packetId : UInt16}
    {r r' : PubAckInfo} (hlive : s.outgoing packetId = some r') :
    publishedRecord s info packetId = some r ↔ info.dup = true ∧ r' = r := by
  unfold publishedRecord
  rw [hlive]
  dsimp only
  split
  · rename_i hdup
    simp [hdup]
  · rename_i hdup
    simp [hdup]

/-- Else it uses the one that it reserves. -/
theorem publishedRecord_of_new {s : Sys} {info : PublishInfo} {packetId : UInt16} {r : PubAckInfo}
    (hnew : s.outgoing packetId = none) :
    publishedRecord s info packetId = some r ↔
      (mqttReserveState s.toPublishRecords packetId info.qos).1 = .success ∧
        firstRecord .outgoing packetId info.qos = r := by
  unfold publishedRecord
  rw [hnew]
  dsimp only
  split
  · rename_i hreserved
    simp [hreserved]
  · rename_i hreserved
    simp [hreserved]

/-- The reservation: nothing happens, or a record of the packet id is used. -/
theorem reserve_publishedRecord {s : Sys} (htable : Table .outgoing s.outgoingPublishRecords)
    {info : PublishInfo} {packetId : UInt16} (hid : packetId ≠ packetIdInvalid)
    (hqos : info.qos ≠ .qos0) :
    let s₁ := s.setRecords (mqttReserveState s.toPublishRecords packetId info.qos).2
    Carries s s₁ ∧ (∀ id, id ≠ packetId → s₁.outgoing id = s.outgoing id) ∧
      match publishedRecord s info packetId with
      | some r => Reserves s info packetId ∧ s₁.outgoing packetId = some r
      | none => ¬ Reserves s info packetId ∧ s₁.outgoing packetId = s.outgoing packetId := by
  obtain ⟨status, records', heq, htable', -, hadded⟩ := mqttReserveState_spec hid htable hqos
  have hlookup : ∀ id, (s.setRecords (s.toPublishRecords.setTable .outgoing records')).outgoing id =
      if status = .success ∧ id = packetId then some (firstRecord .outgoing packetId info.qos)
      else s.outgoing id := hadded.liveRecord_eq
  unfold publishedRecord Reserves
  dsimp only
  rw [heq]
  dsimp only
  refine ⟨⟨fun _ => htable', id, id⟩, fun id hne => by rw [hlookup, if_neg fun h => hne h.2], ?_⟩
  rw [hlookup]
  cases hr : s.outgoing packetId with
  | some r =>
    obtain rfl := hadded.eq_collision hr
    cases info.dup with
    | true => exact ⟨.inr ⟨rfl, rfl⟩, if_neg nofun⟩
    | false => exact ⟨by simp, if_neg nofun⟩
  | none =>
    have hcollision : status ≠ .stateCollision := by
      rintro rfl
      obtain ⟨r, hlive⟩ := hadded.liveRecord_of_collision
      exact absurd (hr.symm.trans hlive) (by simp)
    by_cases hok : status = .success
    · simp [hok]
    · simp [hok, hcollision]

/-- The publish of a message whose record is `r`. -/
theorem mqttPublish_publishes (c : Config) {s : Sys}
    (htable : Table .outgoing s.outgoingPublishRecords) {info : PublishInfo} {packetId : UInt16}
    (h : Publishable s info packetId) {r : PubAckInfo}
    (hr : publishedRecord s info packetId = some r) :
    Publishes s (mqttPublish c s (some info) packetId).2 info packetId r ∧
      Carries s (mqttPublish c s (some info) packetId).2 := by
  have hid := h.packetId_ne
  obtain ⟨hvalid, hsize, hconn, hqos⟩ := h
  have hreserved := reserve_publishedRecord htable hid hqos
  rw [hr] at hreserved
  dsimp only at hreserved
  obtain ⟨hcarries, hothers, hok, hr₁⟩ := hreserved
  obtain ⟨hpublishes, hrest⟩ := publishReserved_publishes c
    (s := s.setRecords (mqttReserveState s.toPublishRecords packetId info.qos).2)
    (hcarries.table htable) hid hqos hsize hr₁
  have houtcome := mqttPublish_cases c s info packetId
  generalize mqttPublish c s (some info) packetId = published at houtcome
  cases houtcome with
  | rejected hchecks => exact absurd ⟨hvalid, hsize, hconn⟩ hchecks
  | unreserved _ hfail => exact absurd hok hfail
  | reserved =>
    exact ⟨⟨fun id hne => (hpublishes.others id hne).trans (hothers id hne), hpublishes.store,
      hpublishes.record⟩, hcarries.trans hrest⟩

/-- A publish of QoS 0 is sent, or nothing happens. -/
theorem mqttPublish_qos0 (c : Config) {s : Sys} {info : PublishInfo} {packetId : UInt16}
    (hqos : info.qos = .qos0) :
    (mqttPublish c s (some info) packetId).2 = s ∨
      (mqttGetPublishPacketSize info).1 = .success ∧
        ∃ n stop, Sent s (mqttPublish c s (some info) packetId).2 (.publish packetId info.qos)
          (publishMessage info (mqttGetPublishPacketSize info).2.1 packetId).flatten n stop := by
  have houtcome := mqttPublish_cases c s info packetId
  generalize mqttPublish c s (some info) packetId = published at houtcome
  have hreserve : mqttReserveState s.toPublishRecords packetId info.qos =
      (.success, s.toPublishRecords) := if_pos hqos
  have hback : s.setRecords s.toPublishRecords = s := rfl
  cases houtcome with
  | rejected => exact .inl rfl
  | unreserved =>
    rw [hreserve]
    exact .inl rfl
  | reserved hchecks =>
    have hstored : ∀ header, storeCopy s info header packetId = (.success, header, s) :=
      fun header => if_neg fun h => h.1 hqos
    obtain ⟨n, stop, hsent, -⟩ := sendVectors_spec c s hchecks.size packetId
    rw [hreserve, hback]
    unfold publishReserved
    rw [if_neg fun h => h.2 hqos, sendPublishWithoutCopy_vectors, hstored,
      if_neg (not_not_intro rfl)]
    exact .inr ⟨hchecks.size, n, stop, hsent⟩

/-- Without a record for it, a publish of QoS 1 or 2 changes no record. -/
theorem mqttPublish_unrecorded (c : Config) {s : Sys}
    (htable : Table .outgoing s.outgoingPublishRecords) {info : PublishInfo} {packetId : UInt16}
    (hqos : info.qos ≠ .qos0)
    (h : Publishable s info packetId → publishedRecord s info packetId = none) :
    ∃ t, (mqttPublish c s (some info) packetId).2 = s.setRecords t ∧
      (s.setRecords t).outgoing = s.outgoing ∧ Carries s (s.setRecords t) := by
  have houtcome := mqttPublish_cases c s info packetId
  generalize mqttPublish c s (some info) packetId = published at houtcome
  -- the reservation fails
  have hreserved : Publishing s info packetId → _ := fun hchecks =>
    have hpublishable : Publishable s info packetId :=
      ⟨hchecks.valid, hchecks.size, hchecks.connected, hqos⟩
    And.intro (h hpublishable) (reserve_publishedRecord htable hpublishable.packetId_ne hqos)
  cases houtcome with
  | rejected => exact ⟨s.toPublishRecords, rfl, rfl, .refl s⟩
  | unreserved hchecks =>
    obtain ⟨hnone, hcarries, hothers, hrecord⟩ := hreserved hchecks
    rw [hnone] at hrecord
    refine ⟨_, rfl, funext fun id => ?_, hcarries⟩
    by_cases hid : id = packetId
    · rw [hid]
      exact hrecord.2
    · exact hothers id hid
  | reserved hchecks hok =>
    obtain ⟨hnone, -, -, hrecord⟩ := hreserved hchecks
    rw [hnone] at hrecord
    exact absurd hok hrecord.1

/-- A publish that is checked has a record, or there is none for it. -/
theorem publishedRecord_cases (s : Sys) (info : PublishInfo) (packetId : UInt16) :
    (∃ r, Publishable s info packetId ∧ publishedRecord s info packetId = some r) ∨
      (Publishable s info packetId → publishedRecord s info packetId = none) := by
  cases hr : publishedRecord s info packetId with
  | none => exact .inr fun _ => rfl
  | some r =>
    by_cases h : Publishable s info packetId
    · exact .inl ⟨r, h, rfl⟩
    · exact .inr fun hpublishable => absurd hpublishable h

theorem mqttPublish_effect (c : Config) {s : Sys}
    (htable : Table .outgoing s.outgoingPublishRecords) (info : PublishInfo) (packetId : UInt16) :
    OutgoingEffect (.request (.publish (some info) packetId)) s
        (mqttPublish c s (some info) packetId).2 ∧
      Carries s (mqttPublish c s (some info) packetId).2 := by
  rcases publishedRecord_cases s info packetId with ⟨r, hpublishable, hr⟩ | hnone
  · obtain ⟨hpublishes, hcarries⟩ := mqttPublish_publishes c htable hpublishable hr
    exact ⟨.publish info packetId r rfl hpublishable hr hpublishes, hcarries⟩
  by_cases hqos : info.qos = .qos0
  · rcases mqttPublish_qos0 c hqos with hsame | ⟨-, n, stop, hsent⟩
    · rw [hsame]
      exact ⟨.of_eq rfl rfl rfl, .refl s⟩
    · exact ⟨.of_sent hsent, .of_sent hsent⟩
  · obtain ⟨t, heq, hrecords, hcarries⟩ := mqttPublish_unrecorded c htable hqos hnone
    rw [heq]
    exact ⟨.none hrecords rfl (.of_log_eq rfl) nofun, hcarries⟩

/-! ## Acknowledgements -/

/-- An acknowledgement leaves the outgoing records alone, loses the record of its packet id, or is
accepted by it. -/
inductive AckEffect (t : PublishRecords) (packetId : UInt16) (packetType : PubAckType)
    (opType : StateOperation) (status : Status) (t' : PublishRecords) : Prop
  | none (hrecords : ∀ id, liveRecord t'.outgoingPublishRecords id =
        liveRecord t.outgoingPublishRecords id)
      (hstatus : ackDirection packetType opType = .outgoing → status ≠ .success)
  | lost (hdirection : ackDirection packetType opType = .outgoing) (htype : packetType = .pubrec)
      (hrecords : ∀ id, liveRecord t'.outgoingPublishRecords id =
        if id = packetId then .none else liveRecord t.outgoingPublishRecords id)
      (hstatus : status ≠ .success)
  | accepted (r : PubAckInfo) (hdirection : ackDirection packetType opType = .outgoing)
      (hr : liveRecord t.outgoingPublishRecords packetId = some r)
      (hreact : react .outgoing r (.ack packetType) ≠ .illegal)
      (hrecords : ∀ id, liveRecord t'.outgoingPublishRecords id =
        if id = packetId then (react .outgoing r (.ack packetType)).apply r
        else liveRecord t.outgoingPublishRecords id)
      (hstatus : status = .success)

/-- An acknowledgement that an outgoing record accepts. -/
theorem react_outgoing_cases {r : PubAckInfo} (h : ValidRecord .outgoing r)
    {packetType : PubAckType} (hreact : react .outgoing r (.ack packetType) ≠ .illegal) :
    (packetType = .puback ∧ r.qos = .qos1 ∧ r.publishState = .pubAckPending ∧
        (react .outgoing r (.ack packetType)).apply r = none) ∨
      (packetType = .pubrec ∧ r.qos = .qos2 ∧ r.publishState = .pubRecPending ∧
        (react .outgoing r (.ack packetType)).apply r = some { r with publishState := .pubRelSend }) ∨
      (packetType = .pubrel ∧ r.qos = .qos2 ∧ r.publishState ∈ pubrelStates ∧
        (react .outgoing r (.ack packetType)).apply r =
          some { r with publishState := .pubCompPending }) ∨
      packetType = .pubcomp ∧ r.qos = .qos2 ∧ r.publishState = .pubCompPending ∧
        (react .outgoing r (.ack packetType)).apply r = none := by
  obtain ⟨packetId, qos, state⟩ := r
  change state ∈ phases .outgoing qos at h
  revert h hreact
  cases qos <;> cases state <;> cases packetType <;>
    first
    | exact fun h => absurd h (by decide)
    | exact fun _ h => absurd rfl h
    | simp [react, trigger, repeated, next, phases, successor, Reaction.apply, pubrelStates]

/-- Only a PUBREC leads to a PUBREL. -/
theorem eq_pubrec_of_react {r : PubAckInfo} {packetType : PubAckType}
    (h : react .outgoing r (.ack packetType) = .advance .pubRelSend) : packetType = .pubrec := by
  obtain ⟨packetId, qos, state⟩ := r
  revert h
  cases packetType <;> cases qos <;> cases state <;>
    first | exact fun _ => rfl | exact fun h => nomatch h

theorem mqttUpdateStateAck_effect {t : PublishRecords} (h : Table .outgoing t.outgoingPublishRecords)
    (packetId : UInt16) (packetType : PubAckType) (opType : StateOperation) :
    let updated := mqttUpdateStateAck t packetId packetType opType
    Table .outgoing updated.2.2.outgoingPublishRecords ∧
      AckEffect t packetId packetType opType updated.1 updated.2.2 := by
  dsimp only
  by_cases hid : packetId = packetIdInvalid
  · rw [mqttUpdateStateAck, if_pos hid]
    exact ⟨h, .none (fun _ => rfl) fun _ => by simp⟩
  cases hdirection : ackDirection packetType opType with
  | incoming =>
    have hside : isPublishOutgoing packetType opType = false := by
      rw [ackDirection_eq] at hdirection
      split at hdirection
      · cases hdirection
      · rename_i hincoming
        exact Bool.eq_false_of_not_eq_true hincoming
    have hsame := mqttUpdateStateAck_outgoing t packetId hside
    rw [hsame]
    exact ⟨h, .none (fun id => by rw [hsame]) fun hout =>
      absurd (hdirection.symm.trans hout) (by simp)⟩
  | outgoing =>
    cases hr : liveRecord t.outgoingPublishRecords packetId with
    | none =>
      rw [mqttUpdateStateAck_none hid (by rw [hdirection]; exact hr)]
      exact ⟨h, .none (fun _ => rfl) fun _ => by simp⟩
    | some r =>
      have hsome := @mqttUpdateStateAck_some t packetId hid packetType opType
      rw [hdirection] at hsome
      obtain ⟨status, records', heq, htable', -, hhandled | ⟨-, -, hreact, rfl, hlive⟩⟩ :=
        hsome h hr
      · rw [heq]
        refine ⟨htable', ?_⟩
        obtain rfl : r.packetId = packetId := lookup_key hr
        have hstatus : status = _ := congrArg Prod.fst hhandled
        have hlive : live records' = _ := congrArg Prod.snd hhandled
        have hrecords : ∀ id, liveRecord records' id = if id = r.packetId then
            (react .outgoing r (.ack packetType)).apply r
            else liveRecord t.outgoingPublishRecords id := by
          intro id
          unfold liveRecord
          rw [hlive]
          exact lookup_handleEntry .outgoing (.ack packetType) hr id
        rw [handleEntry_status] at hstatus
        by_cases hreact : react .outgoing r (.ack packetType) = .illegal
        · rw [if_pos hreact] at hstatus
          refine .none (fun id => (hrecords id).trans ?_) fun _ => by simp [hstatus]
          rw [hreact]
          split
          · rename_i hsame
            rw [hsame, hr]
            rfl
          · rfl
        · rw [if_neg hreact] at hstatus
          exact .accepted r hdirection hr hreact hrecords hstatus
      · rw [heq]
        refine ⟨htable', .lost hdirection (eq_pubrec_of_react hreact) (fun id => ?_) (by simp)⟩
        obtain rfl : r.packetId = packetId := lookup_key hr
        show lookup PubAckInfo.packetId id (live records') = _
        rw [hlive, lookup_remove]
        rfl

/-- `sendPublishAcks`. -/
theorem sendPublishAcks_effect (c : Config) {s : Sys}
    (htable : Table .outgoing s.outgoingPublishRecords) (packetId : UInt16) (state : PublishState)
    (operation : Operation) :
    OutgoingEffect operation s (sendPublishAcks c s packetId state).2 ∧
      Carries s (sendPublishAcks c s packetId state).2 := by
  have hnone : OutgoingEffect operation s s ∧ Carries s s := ⟨.of_eq rfl rfl rfl, .refl s⟩
  by_cases hsend : packetId = 0 ∨ s.connectStatus ≠ .connected
  · rw [sendPublishAcks_unsent c state hsend]
    exact hnone
  obtain ⟨hid, hconn⟩ := not_or.1 hsend
  rw [not_not] at hconn
  cases hack : ackToSend state with
  | none =>
    rw [sendPublishAcks_none c s packetId hack]
    exact hnone
  | some packetType =>
    obtain ⟨s₁, n, stop, hsent, heq⟩ := sendPublishAcks_connected c hack hid hconn
    rw [heq]
    by_cases hstop : stop = .complete
    swap
    · rw [if_neg hstop]
      exact ⟨.of_sent hsent, .of_sent hsent⟩
    subst hstop
    rw [if_pos rfl]
    obtain ⟨htable', hack⟩ := mqttUpdateStateAck_effect htable packetId packetType .send
    have hcarries := Carries.of_sent hsent
    have hlog := hsent.log_eq
    have hstore : s₁.store = s.store := by
      obtain ⟨-, -, ticks, sends, lastTx, hs₁⟩ := hsent
      rw [hs₁]
    refine ⟨?_, fun _ => htable', hcarries.store, hcarries.retrieves⟩
    cases hack with
    | none hrecords _ =>
      exact .none (funext hrecords) hstore (.of_event hlog)
        fun m hm => not_isAcked_of_sent (Option.mem_toList.1 hm)
    | lost hdirection htype _ _ =>
      subst htype
      exact nomatch hdirection
    | accepted r hdirection hr hreact hrecords _ =>
      cases packetType with
      | pubrel => exact .released packetId r hr hreact hrecords hstore (.of_event hlog)
      | _ => exact nomatch hdirection

/-! ## Handlers -/

theorem outgoingAckType_eq {type : UInt8} (h : isPublishAck type = true)
    {packetType : PubAckType} (htype : getAckFromPacketType type = packetType)
    (hne : packetType ≠ .pubrel) : outgoingAckType type = some packetType := by
  unfold outgoingAckType
  rw [if_pos ⟨h, fun heq => hne (by rw [← htype, heq]; rfl)⟩, htype]

theorem outgoingAckType_none {type : UInt8} (h : isPublishAck type = false ∨
    getAckFromPacketType type = .pubrel) : outgoingAckType type = none := by
  unfold outgoingAckType
  refine if_neg fun hack => ?_
  rcases h with h | h
  · exact absurd (h.symm.trans hack.1) (by simp)
  · have htypes := of_decide_eq_true hack.1
    rcases htypes with rfl | rfl | rfl | rfl
    · exact nomatch h
    · exact nomatch h
    · exact hack.2 rfl
    · exact nomatch h

theorem isPublishAck_publish {type : UInt8} (h : type &&& 0xF0 = packetTypePublish) :
    isPublishAck type = false := by
  refine decide_eq_false fun hack => ?_
  rcases hack with rfl | rfl | rfl | rfl <;> exact absurd h (by decide)

/-- Only the copy of a PUBACK or PUBREC is cleared. -/
theorem clearAcked_spec (s : Sys) (packetId : UInt16) (ackType : PubAckType) :
    ∃ store, clearAcked s packetId ackType = { s with store } ∧
      (ackType = .pubrel → store = s.store) ∧
      ∀ id, store id = s.store id ∨ id = packetId ∧ ackType ≠ .pubcomp := by
  unfold clearAcked
  split
  · rename_i hclear
    refine ⟨_, rfl, fun hrel => ?_, fun id => ?_⟩
    · rw [hrel] at hclear
      exact absurd hclear.1 (by simp)
    · by_cases hid : id = packetId
      · refine .inr ⟨hid, fun hcomp => ?_⟩
        rw [hcomp] at hclear
        exact absurd hclear.1 (by simp)
      · exact .inl (if_neg hid)
  · exact ⟨s.store, rfl, fun _ => rfl, fun _ => .inl rfl⟩

/-- The context of a callback: the outgoing records are those from before, or an acknowledgement was
accepted by one of them. -/
inductive FrameEffect (s : Sys) (packet : PacketInfo) (packetId : UInt16) (t : PublishRecords)
    (store : UInt16 → Option (List UInt8)) : Prop
  | none (htype : outgoingAckType packet.type = .none)
      (hrecords : ∀ id, liveRecord t.outgoingPublishRecords id = s.outgoing id)
      (hstore : store = s.store)
  | acked (packetType : PubAckType) (r : PubAckInfo)
      (htype : outgoingAckType packet.type = some packetType) (hne : packetType ≠ .pubrel)
      (hr : s.outgoing packetId = some r) (hreact : react .outgoing r (.ack packetType) ≠ .illegal)
      (hrecords : ∀ id, liveRecord t.outgoingPublishRecords id =
        if id = packetId then (react .outgoing r (.ack packetType)).apply r else s.outgoing id)
      (hstore : ∀ id, store id = s.store id ∨ id = packetId ∧ packetType ≠ .pubcomp)

theorem publishAckFrame_effect {s : Sys} (htable : Table .outgoing s.outgoingPublishRecords)
    {packet : PacketInfo} (hack : isPublishAck packet.type = true) {frame : CallbackFrame}
    (h : publishAckFrame s packet = some frame) :
    ∃ t store, frame.before = { s.setRecords t with store } ∧
      Table .outgoing t.outgoingPublishRecords ∧
      FrameEffect s packet frame.info.packetIdentifier t store := by
  unfold publishAckFrame at h
  dsimp only at h
  split at h
  swap
  · cases h
  rename_i hupdated
  cases h
  generalize (mqttDeserializeAck packet true false).2.1.getD 0 = packetId at hupdated
  obtain ⟨htable', heffect⟩ := mqttUpdateStateAck_effect htable packetId
    (getAckFromPacketType packet.type) .receive
  generalize mqttUpdateStateAck s.toPublishRecords packetId (getAckFromPacketType packet.type)
    .receive = updated at hupdated htable' heffect
  obtain ⟨store, hcleared, hrel, hstore⟩ := clearAcked_spec (s.setRecords updated.2.2) packetId
    (getAckFromPacketType packet.type)
  dsimp only at hupdated htable' heffect ⊢
  refine ⟨updated.2.2, store, hcleared, htable', ?_⟩
  cases heffect with
  | none hrecords hstatus =>
    have htype : getAckFromPacketType packet.type = .pubrel := by
      by_contra hne
      refine hstatus ?_ hupdated.2
      cases htype : getAckFromPacketType packet.type with
      | pubrel => exact absurd htype hne
      | _ => rfl
    exact .none (outgoingAckType_none (.inr htype)) hrecords (hrel htype)
  | lost _ _ _ hstatus => exact absurd hupdated.2 hstatus
  | accepted r hdirection hr hreact hrecords _ =>
    have hne : getAckFromPacketType packet.type ≠ .pubrel := by
      intro heq
      rw [heq] at hdirection
      exact nomatch hdirection
    exact .acked _ r (outgoingAckType_eq hack rfl hne) hne hr hreact hrecords hstore

theorem callbackFrame_effect {s : Sys} (htable : Table .outgoing s.outgoingPublishRecords)
    {packet : PacketInfo} {manageKeepAlive : Bool} {frame : CallbackFrame}
    (h : callbackFrame s packet manageKeepAlive = some frame) :
    ∃ t store, frame.before = { s.setRecords t with store } ∧
      Table .outgoing t.outgoingPublishRecords ∧
      FrameEffect s packet frame.info.packetIdentifier t store := by
  -- nothing is acknowledged, and the outgoing records are left alone
  have hnone : ∀ t : PublishRecords, t.outgoingPublishRecords = s.outgoingPublishRecords →
      frame.before = s.setRecords t → isPublishAck packet.type = false →
      ∃ t store, frame.before = { s.setRecords t with store } ∧
        Table .outgoing t.outgoingPublishRecords ∧
        FrameEffect s packet frame.info.packetIdentifier t store := by
    intro t hrecords hbefore htype
    refine ⟨t, s.store, hbefore, hrecords ▸ htable, .none (outgoingAckType_none (.inl htype)) ?_ rfl⟩
    intro id
    rw [hrecords]
    rfl
  unfold callbackFrame at h
  split at h
  · rename_i hpublish
    unfold publishFrame at h
    dsimp only at h
    split at h
    · cases h
      exact hnone _ (mqttUpdateStatePublish_receive_outgoing _ _ _) rfl
        (isPublishAck_publish hpublish)
    · cases h
  unfold ackFrame at h
  dsimp only at h
  by_cases hack : isPublishAck packet.type = true
  · rw [if_pos hack] at h
    exact publishAckFrame_effect htable hack h
  · rw [if_neg hack] at h
    have htype := Bool.eq_false_of_not_eq_true hack
    split_ifs at h
    · cases h
      exact hnone s.toPublishRecords rfl rfl htype
    · cases h
      exact hnone s.toPublishRecords rfl rfl htype

/-- A handler up to the callback that it invokes. -/
theorem deliver_effect (c : Config) {s : Sys} (htable : Table .outgoing s.outgoingPublishRecords)
    (packet : PacketInfo) (manageKeepAlive : Bool) :
    let operation := Operation.deliver packet manageKeepAlive
    OutgoingEffect operation s (operation.run c s) ∧ Carries s (operation.run c s) := by
  dsimp only
  cases hframe : callbackFrame (s.dispatching packet) packet manageKeepAlive with
  | none =>
    rw [run_deliver_none c hframe]
    exact ⟨.of_eq rfl rfl rfl, .refl s⟩
  | some frame =>
    obtain ⟨t, store, hbefore, htable', heffect⟩ := callbackFrame_effect (s := s.dispatching packet)
      htable hframe
    have hdispatched : Marked s (s.dispatching packet) [] := ⟨_, rfl, rfl⟩
    have hmarked : Marked s (Operation.run c s (.deliver packet manageKeepAlive))
        ((outgoingAckType packet.type).map fun packetType =>
          Mark.acked packetType frame.info.packetIdentifier).toList := by
      refine hdispatched.trans (.of_event (e := .callback packet frame.info) ?_)
      rw [run_deliver c hframe, hbefore]
      rfl
    rw [run_deliver c hframe, hbefore] at hmarked ⊢
    refine ⟨?_, fun _ => htable', id, id⟩
    cases heffect with
    | none htype hrecords hstore =>
      rw [htype] at hmarked
      exact .none (funext hrecords) hstore hmarked nofun
    | acked packetType r htype hne hr hreact hrecords hstore =>
      rw [htype] at hmarked
      exact .acked packetType _ r hne hr hreact hrecords hstore hmarked

/-- Changes before an operation that is not a publish. -/
theorem OutgoingEffect.after {operation : Operation} {s s₁ s' : Sys}
    (h : OutgoingEffect operation s₁ s')
    (hoperation : ∀ info packetId, operation ≠ .request (.publish (some info) packetId))
    (hrecords : s₁.outgoing = s.outgoing) (hstore : s₁.store = s.store) (hmarks : Marked s s₁ []) :
    OutgoingEffect operation s s' := by
  cases h with
  | none hrecords' hstore' hmarks' hacked =>
    exact .none (hrecords'.trans hrecords) (hstore'.trans hstore) (hmarks.trans hmarks') hacked
  | publish info packetId _ heq => exact absurd heq (hoperation info packetId)
  | drop packetId hrecords' hstore' hmarks' =>
    exact .drop packetId (by rwa [hrecords] at hrecords') (hstore'.trans hstore) (hmarks.trans hmarks')
  | acked packetType packetId r htype hr hreact hrecords' hstore' hmarks' =>
    rw [hrecords] at hr hrecords'
    rw [hstore] at hstore'
    exact .acked packetType packetId r htype hr hreact hrecords' hstore' (hmarks.trans hmarks')
  | released packetId r hr hreact hrecords' hstore' hmarks' =>
    rw [hrecords] at hr hrecords'
    exact .released packetId r hr hreact hrecords' (hstore'.trans hstore) (hmarks.trans hmarks')
  | clean hrecords' hmarks' => exact .clean hrecords' (hmarks.trans hmarks')

/-- A handler that does not invoke the callback. -/
theorem handle_effect (c : Config) {s : Sys} (htable : Table .outgoing s.outgoingPublishRecords)
    (packet : PacketInfo) (manageKeepAlive : Bool) :
    let operation := Operation.handle packet manageKeepAlive
    OutgoingEffect operation s (operation.run c s) ∧ Carries s (operation.run c s) := by
  dsimp only
  cases hframe : callbackFrame (s.dispatching packet) packet manageKeepAlive with
  | some frame =>
    rw [run_handle_some c hframe]
    exact ⟨.of_eq rfl rfl rfl, .refl s⟩
  | none =>
    rw [run_handle c hframe]
    have hdispatched : Marked s (s.dispatching packet) [] := ⟨_, rfl, rfl⟩
    have hoperation : ∀ info packetId, Operation.handle packet manageKeepAlive ≠
        .request (.publish (some info) packetId) := nofun
    have houtcome := handlePacket_silent c hframe
    generalize handlePacket c manageKeepAlive packet s = result at houtcome
    cases houtcome with
    | refused _ => exact ⟨.none rfl rfl hdispatched nofun, id, id, id⟩
    | pingresp => exact ⟨.none rfl rfl hdispatched nofun, id, id, id⟩
    | @publish _ _ t qos packetId hupdated _ =>
      have hrecords := mqttUpdateStatePublish_receive_outgoing s.toPublishRecords packetId qos
      change mqttUpdateStatePublish s.toPublishRecords packetId .receive qos = _ at hupdated
      rw [hupdated] at hrecords
      exact ⟨.none (funext fun id => congrArg (liveRecord · id) hrecords) rfl hdispatched nofun,
        fun h => hrecords ▸ h, id, id⟩
    | @duplicate _ t qos packetId hupdated =>
      have hrecords := mqttUpdateStatePublish_receive_outgoing s.toPublishRecords packetId qos
      change mqttUpdateStatePublish s.toPublishRecords packetId .receive qos = _ at hupdated
      rw [hupdated] at hrecords
      obtain ⟨heffect, hcarries⟩ := sendPublishAcks_effect c
        (s := (s.dispatching packet).setRecords t) (hrecords ▸ htable) packetId
        (mqttCalculateStatePublish .receive qos) (.handle packet manageKeepAlive)
      exact ⟨heffect.after hoperation (funext fun id => congrArg (liveRecord · id) hrecords) rfl
        hdispatched, fun h => hcarries.table (hrecords ▸ h), hcarries.store, hcarries.retrieves⟩
    | @ack status _ t packetId hupdated hstatus =>
      obtain ⟨htable', heffect⟩ := mqttUpdateStateAck_effect htable packetId
        (getAckFromPacketType packet.type) .receive
      change mqttUpdateStateAck s.toPublishRecords _ _ _ = _ at hupdated
      rw [hupdated] at htable' heffect
      refine ⟨?_, fun _ => htable', id, id⟩
      cases heffect with
      | none hrecords _ => exact .none (funext hrecords) rfl hdispatched nofun
      | lost _ _ hrecords _ => exact .drop packetId hrecords rfl hdispatched
      | accepted _ _ _ _ _ hok => exact absurd hok hstatus

/-! ## Connecting -/

theorem reads_effect {s s' : Sys} (h : Reads s s') (operation : Operation) :
    OutgoingEffect operation s s' ∧ Carries s s' := by
  obtain ⟨ticks, recvs, inbound, networkBuffer, index, connectStatus, -, rfl⟩ := h
  exact ⟨.of_eq rfl rfl rfl, id, id, id⟩

/-- `MQTT_Connect` up to the resumption of a session. -/
theorem establish_effect (c : Config) (s : Sys) (info : ConnectInfo) (will : Option PublishInfo)
    (timeoutMs : UInt32) :
    let operation := Operation.establish info will timeoutMs
    OutgoingEffect operation s (operation.run c s) ∧ Carries s (operation.run c s) := by
  have hsend := sendConnectWithoutCopy_spec c s info will (connectPacketSize_le (some info) will)
  unfold Operation.run FreeMqtt.establish
  dsimp only at hsend ⊢
  generalize sendConnectWithoutCopy c s info will
    (mqttGetConnectPacketSize (some info) will).2.1 = sent at hsend
  have hsame : sent.2.outgoing = s.outgoing ∧ sent.2.store = s.store ∧ Marked s sent.2 [] ∧
      Carries s sent.2 := by
    rcases hsend with ⟨-, heq⟩ | ⟨packet, n, stop, hsent, -⟩
    · rw [heq]
      exact ⟨rfl, rfl, .of_log_eq rfl, .refl s⟩
    · have hmarks : Marked s sent.2 [] := .of_event hsent.log_eq
      have hcarries := Carries.of_sent hsent
      obtain ⟨-, -, ticks, sends, lastTx, heq⟩ := hsent
      exact ⟨by rw [heq]; rfl, by rw [heq], hmarks, hcarries⟩
  obtain ⟨hrecords, hstore, hmarks, hcarries⟩ := hsame
  have hoperation : ∀ info' packetId, Operation.establish info will timeoutMs ≠
      .request (.publish (some info') packetId) := nofun
  split
  · exact ⟨.none hrecords hstore hmarks nofun, hcarries⟩
  obtain ⟨heffect, hread⟩ := reads_effect (reads_receiveConnack c sent.2 timeoutMs info.cleanSession)
    (.establish info will timeoutMs)
  have hreads := reads_receiveConnack c sent.2 timeoutMs info.cleanSession
  generalize receiveConnack c sent.2 timeoutMs info.cleanSession = connack at heffect hread hreads
  have hafter := heffect.after hoperation hrecords hstore hmarks
  have hcarries' := hcarries.trans hread
  split
  · exact ⟨hafter, hcarries'⟩
  split
  · obtain ⟨store, heq⟩ := handleCleanSession_eq connack.2.2
    rw [heq]
    refine ⟨.clean (fun id => ?_) ?_, fun _ => table_holes .outgoing _, hcarries'.store,
      hcarries'.retrieves⟩
    · show lookup PubAckInfo.packetId id (live (holes _)) = none
      rw [live_holes]
      rfl
    · exact hmarks.trans (.of_log_eq hreads.received.log)
  · obtain ⟨_, _, _, _, _, _, -, heq⟩ := hreads
    rw [heq] at hcarries' ⊢
    exact ⟨.none hrecords hstore hmarks nofun, hcarries'.table, hcarries'.store,
      hcarries'.retrieves⟩

/-! ## Operations -/

theorem SendOutcome.effect {kind : PacketKind} {s s' : Sys} (h : SendOutcome kind s s')
    (operation : Operation) : OutgoingEffect operation s s' ∧ Carries s s' := by
  cases h with
  | unsent heq =>
    rw [heq]
    exact ⟨.of_eq rfl rfl rfl, .refl s⟩
  | sent packet n stop _ hsent => exact ⟨.of_sent hsent, .of_sent hsent⟩

/-- `MQTT_CancelCallback` leaves no record of the packet id. -/
theorem mqttCancelCallback_spec {s : Sys} (htable : Table .outgoing s.outgoingPublishRecords)
    (packetId : UInt16) :
    ∃ records', (mqttCancelCallback s packetId).2 =
        s.setRecords (s.toPublishRecords.setTable .outgoing records') ∧
      Table .outgoing records' ∧
      ∀ id, liveRecord records' id = if id = packetId then none else s.outgoing id := by
  -- nothing happens, and there was no record
  have hnone : s.outgoing packetId = none → ∃ records',
      s = s.setRecords (s.toPublishRecords.setTable .outgoing records') ∧
      Table .outgoing records' ∧
      ∀ id, liveRecord records' id = if id = packetId then none else s.outgoing id := by
    intro h
    refine ⟨s.outgoingPublishRecords, rfl, htable, fun id => ?_⟩
    split
    · rename_i hid
      rw [hid]
      exact h
    · rfl
  unfold mqttCancelCallback
  split
  · rename_i hempty
    apply hnone
    unfold Sys.outgoing
    rw [hempty]
    rfl
  dsimp only
  by_cases hid : packetId = packetIdInvalid
  · subst hid
    rw [mqttRemoveStateRecord_invalid htable.toSlots]
    apply hnone
    exact lookup_eq_none.2 fun r hr => (mem_live.1 hr).2
  cases hr : liveRecord (s.table .outgoing) packetId with
  | none =>
    rw [mqttRemoveStateRecord_none hid hr]
    exact hnone hr
  | some r =>
    obtain ⟨records', heq, htable', -, hlive⟩ := mqttRemoveStateRecord_some htable hr
    rw [heq]
    refine ⟨records', rfl, htable', fun id => ?_⟩
    show lookup PubAckInfo.packetId id (live records') = _
    rw [hlive, lookup_remove]
    rfl

theorem mqttCancelCallback_effect {s : Sys} (htable : Table .outgoing s.outgoingPublishRecords)
    (packetId : UInt16) (operation : Operation) :
    OutgoingEffect operation s (mqttCancelCallback s packetId).2 ∧
      Carries s (mqttCancelCallback s packetId).2 := by
  obtain ⟨records', heq, htable', hrecords⟩ := mqttCancelCallback_spec htable packetId
  rw [heq]
  exact ⟨.drop packetId hrecords rfl (.of_log_eq rfl), fun _ => htable', id, id⟩

theorem request_effect (c : Config) {s : Sys} (htable : Table .outgoing s.outgoingPublishRecords)
    (call : SendCall) :
    let operation := Operation.request call
    OutgoingEffect operation s (operation.run c s) ∧ Carries s (operation.run c s) := by
  cases call with
  | publish info packetId =>
    cases info with
    | none => exact ⟨.of_eq rfl rfl rfl, .refl s⟩
    | some info => exact mqttPublish_effect c htable info packetId
  | subscribe list packetId => exact (mqttSubscribe_outcome c s list packetId).effect _
  | unsubscribe list packetId => exact (mqttUnsubscribe_outcome c s list packetId).effect _
  | ping =>
    obtain ⟨s₁, pingReqSendTimeMs, waitingForPingResp, houtcome, heq⟩ := mqttPing_outcome c s
    have heffect := (houtcome.effect (.request .ping)).1
    have hcarries := (houtcome.effect (.request .ping)).2
    show OutgoingEffect _ s (mqttPing c s).2 ∧ Carries s (mqttPing c s).2
    rw [heq]
    refine ⟨?_, hcarries.table, hcarries.store, hcarries.retrieves⟩
    cases houtcome with
    | unsent hunsent =>
      rw [hunsent]
      exact .of_eq rfl rfl rfl
    | sent packet n stop _ hsent =>
      obtain ⟨-, -, ticks, sends, lastTx, hs₁⟩ := hsent
      exact .none (by rw [hs₁]; rfl) (by rw [hs₁])
        (.of_event (e := .sent .pingreq packet n stop) (by rw [hs₁])) nofun
  | disconnect =>
    show OutgoingEffect _ s (mqttDisconnect c s).2 ∧ Carries s (mqttDisconnect c s).2
    rcases mqttDisconnect_outcome c s with ⟨-, heq⟩ | ⟨-, n, stop, hsent⟩
    · rw [heq]
      exact ⟨.of_eq rfl rfl rfl, .refl s⟩
    · have hcarries := Carries.of_sent hsent
      exact ⟨(OutgoingEffect.of_sent hsent).after (fun _ _ => nofun) rfl rfl (.of_log_eq rfl),
        hcarries.table, hcarries.store, hcarries.retrieves⟩
  | cancelCallback packetId => exact mqttCancelCallback_effect htable packetId _
  | getPacketId => exact ⟨.of_eq rfl rfl rfl, id, id, id⟩

theorem resend_effect (c : Config) (s : Sys) (packetId : UInt16) :
    let operation := Operation.resend packetId
    OutgoingEffect operation s (operation.run c s) ∧ Carries s (operation.run c s) := by
  have hretrieves : (∀ b ∈ s.retrieveResults, b = true) →
      ∀ b ∈ (callRetrieve s packetId).2.retrieveResults, b = true := by
    intro h b hb
    refine h b ?_
    unfold callRetrieve at hb
    split at hb
    · rename_i retrieveResults hresults
      rw [hresults]
      exact List.mem_cons_of_mem _ hb
    · exact List.mem_of_mem_tail hb
  obtain ⟨-, retrieveResults, heq⟩ := callRetrieve_spec s packetId
  unfold Operation.run
  dsimp only
  rw [heq] at hretrieves ⊢
  split
  · exact ⟨.of_eq rfl rfl rfl, id, id, hretrieves⟩
  · rename_i packet _
    obtain ⟨n, stop, hsent, -⟩ := sendPacket_spec c { s with retrieveResults } (.resend packetId)
      packet
    have hcarries := Carries.of_sent hsent
    exact ⟨(OutgoingEffect.of_sent hsent).after (fun _ _ => nofun) rfl rfl (.of_log_eq rfl),
      hcarries.table, hcarries.store, hcarries.retrieves ∘ hretrieves⟩

/-- The calls that set the record arrays of a context, or reset it. -/
def ApiCall.SetsRecords : ApiCall → Prop
  | .init _ _ _ _ => True
  | .initStatefulQoS _ _ _ _ => True
  | _ => False

def Operation.SetsRecords : Operation → Prop
  | .setUp call => call.SetsRecords
  | _ => False

def Call.SetsRecords : Call → Prop
  | .api call => call.SetsRecords
  | _ => False

theorem setUp_effect (c : Config) (s : Sys) {call : ApiCall} (h : ¬ call.SetsRecords) :
    let operation := Operation.setUp call
    OutgoingEffect operation s (operation.run c s) ∧ Carries s (operation.run c s) := by
  have hnone : OutgoingEffect (.setUp call) s s ∧ Carries s s := ⟨.of_eq rfl rfl rfl, .refl s⟩
  cases call with
  | init _ _ _ _ => exact absurd trivial h
  | initStatefulQoS _ _ _ _ => exact absurd trivial h
  | initRetransmits storeFunction retrieveFunction clearFunction =>
    unfold Operation.run ApiCall.run mqttInitRetransmits
    dsimp only
    split_ifs with hstore
    · exact hnone
    · exact hnone
    · exact hnone
    · exact ⟨.of_eq rfl rfl rfl, id, fun _ => Bool.eq_true_of_not_eq_false hstore, id⟩
  | request call => exact hnone
  | processLoop => exact hnone
  | receiveLoop => exact hnone
  | checkConnectStatus => exact hnone

/-- Every operation of a run. -/
theorem Operation.effect (c : Config) {s : Sys} (htable : Table .outgoing s.outgoingPublishRecords)
    {operation : Operation} (h : ¬ operation.SetsRecords) :
    OutgoingEffect operation s (operation.run c s) ∧ Carries s (operation.run c s) := by
  cases operation with
  | request call => exact request_effect c htable call
  | acknowledge packetId state => exact sendPublishAcks_effect c htable packetId state _
  | deliver packet manageKeepAlive => exact deliver_effect c htable packet manageKeepAlive
  | handle packet manageKeepAlive => exact handle_effect c htable packet manageKeepAlive
  | establish info will timeoutMs => exact establish_effect c s info will timeoutMs
  | resend packetId => exact resend_effect c s packetId
  | giveUp => exact ⟨.of_eq rfl rfl rfl, id, id, id⟩
  | startProcessLoop => exact ⟨.of_eq rfl rfl rfl, id, id, id⟩
  | read => exact reads_effect (reads_readIntoBuffer c s) _
  | readClock => exact ⟨.of_eq rfl rfl rfl, id, id, id⟩
  | discard packet => exact reads_effect (reads_discardStoredPacket c s packet) _
  | remove totalLength => exact ⟨.of_eq rfl rfl rfl, id, id, id⟩
  | setLastPacketRxTime => exact ⟨.of_eq rfl rfl rfl, id, id, id⟩
  | setUp call => exact setUp_effect c s h

/-! ## Runs -/

theorem Operation.Receives.not_setsRecords {operation : Operation} (h : operation.Receives) :
    ¬ operation.SetsRecords := by
  cases operation with
  | setUp call => exact absurd h id
  | _ => exact id

theorem not_setsRecords_resumption {c : Config} {s : Sys} :
    ∀ operation ∈ resumptionOperations c s, ¬ operation.SetsRecords := by
  intro operation hmem
  obtain ⟨packetId, rfl | rfl⟩ := resumptionOperations_cases operation hmem
  · exact id
  · exact id

theorem not_setsRecords_connect {c : Config} {s : Sys} {info : Option ConnectInfo}
    {will : Option PublishInfo} {timeoutMs : UInt32} :
    ∀ operation ∈ connectOperations c s info will timeoutMs, ¬ operation.SetsRecords := by
  have hgiveUp : ∀ operation ∈ [Operation.giveUp], ¬ operation.SetsRecords := by
    intro operation hmem
    rw [List.mem_singleton.1 hmem]
    exact id
  intro operation hmem
  unfold connectOperations at hmem
  cases info with
  | none => exact hgiveUp operation hmem
  | some info =>
    dsimp only at hmem
    split at hmem
    · exact hgiveUp operation hmem
    split at hmem
    · exact absurd hmem List.not_mem_nil
    rcases List.mem_cons.1 hmem with rfl | hmem
    · exact id
    split at hmem
    · exact hgiveUp operation hmem
    split at hmem
    · rcases List.mem_append.1 hmem with hmem | hmem
      · exact not_setsRecords_resumption operation hmem
      · split at hmem
        · exact absurd hmem List.not_mem_nil
        · exact hgiveUp operation hmem
    · exact absurd hmem List.not_mem_nil

theorem Call.not_setsRecords {c : Config} {s : Sys} {call : Call} (h : ¬ call.SetsRecords) :
    ∀ operation ∈ call.operations c s, ¬ operation.SetsRecords := by
  intro operation hmem
  cases call with
  | connect info will timeoutMs => exact not_setsRecords_connect operation hmem
  | api call =>
    cases call with
    | processLoop =>
      rcases List.mem_cons.1 hmem with rfl | hmem
      · exact id
      · exact (receives_iteration operation hmem).not_setsRecords
    | receiveLoop => exact (receives_iteration operation hmem).not_setsRecords
    | init _ _ _ _ => exact absurd trivial h
    | initStatefulQoS _ _ _ _ => exact absurd trivial h
    | _ =>
      rw [List.mem_singleton.1 hmem]
      exact id

/-- What the operations of its calls are, those of a run are. -/
theorem runMoments_operation {p : Operation → Prop} {c : Config} {s : Sys} {calls : List Call}
    (h : ∀ call ∈ calls, ∀ s, ∀ operation ∈ call.operations c s, p operation) :
    ∀ m ∈ runMoments c s calls, p m.operation := by
  induction calls generalizing s with
  | nil => exact fun m hm => absurd hm List.not_mem_nil
  | cons call calls ih =>
    intro m hm
    rcases List.mem_append.1 hm with hm | hm
    · exact h call List.mem_cons_self s m.operation (operation_mem hm)
    · exact ih (fun call hmem => h call (List.mem_cons_of_mem _ hmem)) m hm

/-- The operations of a run whose calls do not set the records. -/
theorem runMoments_not_setsRecords {c : Config} {s : Sys} {calls : List Call}
    (h : ∀ call ∈ calls, ¬ call.SetsRecords) :
    ∀ m ∈ runMoments c s calls, ¬ m.operation.SetsRecords :=
  runMoments_operation fun call hmem _ => Call.not_setsRecords (h call hmem)

theorem table_of_zeroed {t : PublishRecords} {n k : Nat} (h : t = .zeroed n k) :
    Table .outgoing t.outgoingPublishRecords := by
  rw [h]
  exact table_holes .outgoing n

/-- The outgoing records of a run are those of a table, and every operation has its effect. -/
theorem runMoments_effect {c : Config} {s : Sys} {calls : List Call}
    (htable : Table .outgoing s.outgoingPublishRecords) (h : ∀ call ∈ calls, ¬ call.SetsRecords) :
    (∀ m ∈ runMoments c s calls, Table .outgoing m.before.outgoingPublishRecords ∧
      OutgoingEffect m.operation m.before (m.after (Operation.run c)) ∧
      Carries m.before (m.after (Operation.run c))) ∧
      Table .outgoing (runAll c s calls).outgoingPublishRecords := by
  have hsets := runMoments_not_setsRecords (c := c) (s := s) h
  obtain ⟨htables, hend⟩ := invariant_runMoments
    (p := fun s => Table .outgoing s.outgoingPublishRecords) htable fun m hm hbefore =>
      (m.operation.effect c hbefore (hsets m hm)).2.table hbefore
  exact ⟨fun m hm => ⟨htables m hm, m.operation.effect c (htables m hm) (hsets m hm)⟩, hend⟩

end FreeMqtt

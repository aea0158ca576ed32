import FreeMqtt.Core.Completion
import FreeMqtt.Core.Outgoing

/-!
# Stored copies of the outgoing publishes

A publish that waits to be sent, or for its PUBACK or PUBREC, is to have a stored copy of its QoS,
from which a resumed session sends it again. `MQTT_Publish` keeps this but in two cases
(`LosesCopy`): the record of a new publish stays when the application cannot store the copy, and a
duplicate of another QoS overwrites the copy. The resumption of a session then fails.
-/

namespace FreeMqtt

open KeyedList Moments

/-- The stored copy of a record has its QoS. -/
def HasCopy (s : Sys) (r : PubAckInfo) : Prop := (s.store r.packetId).bind packetQoS = some r.qos

theorem hasCopy_iff {s s' : Sys} {packetId : UInt16} {r : PubAckInfo}
    (h : s'.outgoing packetId = some r) :
    HasCopy s r ↔ (s.store packetId).bind packetQoS = some r.qos := by
  rw [HasCopy, show r.packetId = packetId from lookup_key h]

/-- The copies of the publishes that a resumed session sends again. -/
def CopiesStored (s : Sys) : Prop :=
  ∀ packetId r, s.outgoing packetId = some r → r.publishState ∈ publishStates → HasCopy s r

/-- A publish after which its record has no copy of its QoS: it reserves a packet id and the copy is
not stored, or it is a duplicate of another QoS and its copy is stored. -/
def PublishLosesCopy (s : Sys) (info : PublishInfo) (packetId : UInt16) : Prop :=
  Publishable s info packetId ∧
    (s.outgoing packetId = none ∧
        (mqttReserveState s.toPublishRecords packetId info.qos).1 = .success ∧
        storesCopy s = false ∧ (s.store packetId).bind packetQoS ≠ some info.qos ∨
      ∃ r ∈ s.outgoing packetId, info.dup = true ∧ storesCopy s = true ∧
        r.publishState ∈ publishStates ∧ r.qos ≠ info.qos)

instance (s : Sys) (info : PublishInfo) (packetId : UInt16) :
    Decidable (PublishLosesCopy s info packetId) := inferInstanceAs (Decidable (_ ∧ (_ ∨ _)))

/-- The publish that an operation is. -/
def Operation.published : Operation → Option (PublishInfo × UInt16)
  | .request (.publish (some info) packetId) => some (info, packetId)
  | _ => none

/-- The operation is a publish that loses its copy. -/
def LosesCopy (s : Sys) (operation : Operation) : Prop :=
  ∃ publish ∈ operation.published, PublishLosesCopy s publish.1 publish.2

instance (s : Sys) (operation : Operation) : Decidable (LosesCopy s operation) :=
  inferInstanceAs (Decidable (∃ publish ∈ operation.published, _))

theorem not_losesCopy {s : Sys} {operation : Operation} (h : operation.published = none) :
    ¬ LosesCopy s operation := by
  simp [LosesCopy, h]

theorem losesCopy_publish {s : Sys} {info : PublishInfo} {packetId : UInt16} :
    LosesCopy s (.request (.publish (some info) packetId)) ↔ PublishLosesCopy s info packetId := by
  simp [LosesCopy, Operation.published]

/-! ## One moment -/

theorem pendingState_mem (qos : QoS) : pendingState qos ∈ publishStates := by
  unfold pendingState
  split <;> decide

/-- The record of a publish whose state is kept or becomes that of a sent publish. -/
theorem Publishes.outgoing_eq {s s' : Sys} {info : PublishInfo} {packetId : UInt16} {r : PubAckInfo}
    (h : Publishes s s' info packetId r) :
    ∃ r', s'.outgoing packetId = some r' ∧ r'.qos = r.qos ∧
      (r'.publishState ∈ publishStates ↔ r.publishState ∈ publishStates) := by
  rcases h.record with ⟨hsame, -⟩ | ⟨-, hstate, hsent, -⟩
  · exact ⟨r, hsame, rfl, Iff.rfl⟩
  · refine ⟨_, hsent, rfl, ?_⟩
    rw [hstate]
    exact iff_of_true (pendingState_mem _) (by decide)

/-- The copy of the record of a publish. -/
theorem Publishes.bind_store {s s' : Sys} {info : PublishInfo} {packetId : UInt16} {r : PubAckInfo}
    (h : Publishes s s' info packetId r) :
    (s'.store packetId).bind packetQoS =
      if storesCopy s then some info.qos else (s.store packetId).bind packetQoS := by
  have hstore := h.store
  split at hstore
  · rename_i hstores
    obtain ⟨copy, hcopy, hstore⟩ := hstore
    rw [hstore, if_pos hstores]
    show (if packetId = packetId then some copy else s.store packetId).bind packetQoS = _
    rw [if_pos rfl]
    exact hcopy
  · rename_i hstores
    rw [hstore, if_neg hstores]

theorem Publishes.store_of_ne {s s' : Sys} {info : PublishInfo} {packetId : UInt16} {r : PubAckInfo}
    (h : Publishes s s' info packetId r) {id : UInt16} (hid : id ≠ packetId) :
    s'.store id = s.store id := by
  have hstore := h.store
  split at hstore
  · obtain ⟨copy, -, hstore⟩ := hstore
    rw [hstore]
    exact if_neg hid
  · rw [hstore]

/-- After a publish exactly the copies are there that it does not lose. -/
theorem Publishes.copiesStored_iff {s s' : Sys} {info : PublishInfo} {packetId : UInt16}
    {r : PubAckInfo} (h : Publishes s s' info packetId r) (hpublishable : Publishable s info packetId)
    (hr : publishedRecord s info packetId = some r) (hs : CopiesStored s) :
    CopiesStored s' ↔ ¬ PublishLosesCopy s info packetId := by
  obtain ⟨r', hr', hqos, hstate⟩ := h.outgoing_eq
  -- only the copy of this record is in question
  have hiff : CopiesStored s' ↔ (r.publishState ∈ publishStates →
      (if storesCopy s then some info.qos else (s.store packetId).bind packetQoS) = some r.qos) := by
    rw [← h.bind_store, ← hstate, ← hqos]
    constructor
    · intro hcopies hmem
      exact (hasCopy_iff hr').1 (hcopies packetId r' hr' hmem)
    · intro hcopy id r₁ hr₁ hmem
      by_cases hid : id = packetId
      · subst hid
        obtain rfl : r' = r₁ := Option.some.inj (hr'.symm.trans hr₁)
        exact (hasCopy_iff hr').2 (hcopy hmem)
      · rw [h.others id hid] at hr₁
        rw [hasCopy_iff hr₁, h.store_of_ne hid, ← hasCopy_iff hr₁]
        exact hs id r₁ hr₁ hmem
  rw [hiff]
  unfold PublishLosesCopy
  cases hold : s.outgoing packetId with
  | none =>
    obtain ⟨hreserved, rfl⟩ := (publishedRecord_of_new hold).1 hr
    have hmem : (firstRecord .outgoing packetId info.qos).publishState ∈ publishStates := by
      rw [firstRecord_outgoing packetId hpublishable.2.2.2]
      exact List.mem_cons_self
    have hq : (firstRecord .outgoing packetId info.qos).qos = info.qos := rfl
    rw [hq]
    cases storesCopy s <;> simp [hpublishable, hreserved, hmem]
  | some r₀ =>
    obtain ⟨hdup, rfl⟩ := (publishedRecord_of_live hold).1 hr
    have hcopy : r₀.publishState ∈ publishStates →
        (s.store packetId).bind packetQoS = some r₀.qos :=
      fun hmem => (hasCopy_iff hold).1 (hs packetId r₀ hold hmem)
    cases storesCopy s with
    | true => simp [hpublishable, hdup, eq_comm]
    | false => simpa [hpublishable, hdup] using hcopy

/-- Records that were there before, with the copies that they had. -/
theorem CopiesStored.mono {s s' : Sys} (h : CopiesStored s)
    (hmono : ∀ id r, s'.outgoing id = some r → r.publishState ∈ publishStates →
      s.outgoing id = some r ∧ s'.store id = s.store id) : CopiesStored s' := by
  intro id r hr hmem
  obtain ⟨hold, hstore⟩ := hmono id r hr hmem
  rw [hasCopy_iff hold, hstore, ← hasCopy_iff hold]
  exact h id r hold hmem

/-- An operation that loses no copy. -/
theorem OutgoingEffect.copiesStored {operation : Operation} {s s' : Sys}
    (h : OutgoingEffect operation s s') (htable : Table .outgoing s.outgoingPublishRecords)
    (hs : CopiesStored s) (hloses : ¬ LosesCopy s operation) : CopiesStored s' := by
  -- a record that was acknowledged or released is not sent again as a publish
  have hack : ∀ {packetType : PubAckType} {id : UInt16} {r : PubAckInfo},
      s.outgoing id = some r → react .outgoing r (.ack packetType) ≠ .illegal →
      ∀ r', (react .outgoing r (.ack packetType)).apply r = some r' →
        r'.publishState ∉ publishStates := by
    intro packetType id r hr hreact r' happly
    rcases react_outgoing_cases (htable.valid r (lookup_mem hr)) hreact with
      ⟨-, -, -, heq⟩ | ⟨-, -, -, heq⟩ | ⟨-, -, -, heq⟩ | ⟨-, -, -, heq⟩
    · exact nomatch heq.symm.trans happly
    · cases heq.symm.trans happly
      simp [publishStates]
    · cases heq.symm.trans happly
      simp [publishStates]
    · exact nomatch heq.symm.trans happly
  cases h with
  | none hrecords hstore _ _ =>
    refine hs.mono fun id r hr _ => ?_
    rw [hrecords] at hr
    exact ⟨hr, by rw [hstore]⟩
  | publish info packetId r hoperation hpublishable hr h =>
    subst hoperation
    rw [losesCopy_publish] at hloses
    exact (h.copiesStored_iff hpublishable hr hs).2 hloses
  | drop packetId hrecords hstore _ =>
    refine hs.mono fun id r hr _ => ?_
    rw [hrecords] at hr
    split at hr
    · cases hr
    · exact ⟨hr, by rw [hstore]⟩
  | acked packetType packetId r htype hr hreact hrecords hstore _ =>
    refine hs.mono fun id r' hr' hmem => ?_
    rw [hrecords] at hr'
    split at hr'
    · exact absurd hmem (hack hr hreact r' hr')
    · rename_i hid
      exact ⟨hr', (hstore id).resolve_right fun h => hid h.1⟩
  | released packetId r hr hreact hrecords hstore _ =>
    refine hs.mono fun id r' hr' hmem => ?_
    rw [hrecords] at hr'
    split at hr'
    · exact absurd hmem (hack hr hreact r' hr')
    · exact ⟨hr', by rw [hstore]⟩
  | clean hrecords _ =>
    refine hs.mono fun id r hr _ => ?_
    rw [hrecords] at hr
    cases hr

/-- After an operation the copies are there, unless it loses one. -/
theorem copiesStored_run_iff (c : Config) {s : Sys}
    (htable : Table .outgoing s.outgoingPublishRecords) (hs : CopiesStored s) {operation : Operation}
    (hsets : ¬ operation.SetsRecords) :
    CopiesStored (operation.run c s) ↔ ¬ LosesCopy s operation := by
  refine ⟨fun hcopies hloses => ?_, (operation.effect c htable hsets).1.copiesStored htable hs⟩
  obtain ⟨⟨info, packetId⟩, hoperation, hloses⟩ := hloses
  obtain rfl : operation = .request (.publish (some info) packetId) := by
    unfold Operation.published at hoperation
    split at hoperation
    · cases hoperation
      rfl
    · cases hoperation
  obtain ⟨hpublishable, hcase⟩ := id hloses
  have hr : ∃ r, publishedRecord s info packetId = some r := by
    rcases hcase with ⟨hnone, hreserved, -⟩ | ⟨r, hr, hdup, -⟩
    · exact ⟨_, (publishedRecord_of_new hnone).2 ⟨hreserved, rfl⟩⟩
    · exact ⟨r, (publishedRecord_of_live hr).2 ⟨hdup, rfl⟩⟩
  obtain ⟨r, hr⟩ := hr
  have hpublishes := (mqttPublish_publishes c htable hpublishable hr).1
  exact (hpublishes.copiesStored_iff hpublishable hr hs).1 hcopies hloses

/-! ## The resumption of a session -/

/-- A search finds a record in one of the states. -/
theorem stateSelectFrom_mem {searchStates : UInt16} {rest : List PubAckInfo} {cursor : Nat}
    (h : (stateSelectFrom searchStates rest cursor).1 ≠ packetIdInvalid) :
    ∃ r ∈ rest, r.packetId = (stateSelectFrom searchStates rest cursor).1 ∧
      checkStateBit searchStates r.publishState = true := by
  induction rest generalizing cursor with
  | nil => exact absurd rfl h
  | cons r rest ih =>
    unfold stateSelectFrom at h ⊢
    split at h
    · rename_i hbit
      rw [if_pos hbit]
      exact ⟨r, List.mem_cons_self, rfl, hbit⟩
    · rename_i hbit
      rw [if_neg hbit]
      obtain ⟨r', hmem, hr'⟩ := ih h
      exact ⟨r', List.mem_cons_of_mem _ hmem, hr'⟩

theorem mqttPublishToResend_mem {t : PublishRecords} {cursor : Nat}
    (h : (mqttPublishToResend t cursor).1 ≠ packetIdInvalid) :
    ∃ r ∈ t.outgoingPublishRecords, r.packetId = (mqttPublishToResend t cursor).1 ∧
      r.publishState ∈ publishStates := by
  obtain ⟨r, hmem, hid, hbit⟩ := stateSelectFrom_mem h
  rw [checkStateBit_publish] at hbit
  exact ⟨r, List.mem_of_mem_drop hmem, hid, of_decide_eq_true hbit⟩

/-- What the resumption of a session needs. -/
structure Resumable (s : Sys) : Prop where
  table : Table .outgoing s.outgoingPublishRecords
  copies : CopiesStored s
  retrieves : ∀ b ∈ s.retrieveResults, b = true

theorem Resumable.run (c : Config) {s : Sys} (h : Resumable s) (operation : Operation)
    (hsets : ¬ operation.SetsRecords) (hloses : ¬ LosesCopy s operation) :
    Resumable (operation.run c s) := by
  obtain ⟨-, hcarries⟩ := operation.effect c h.table hsets
  exact ⟨hcarries.table h.table, (copiesStored_run_iff c h.table h.copies hsets).2 hloses,
    hcarries.retrieves h.retrieves⟩

theorem resendPubrels_resumable (c : Config) (fuel : Nat) (packetId : UInt16) (cursor : Nat)
    {s : Sys} (h : Resumable s) :
    Resumable (resendPubrels c fuel packetId cursor s).2 ∧
      (resendPubrels c fuel packetId cursor s).1 ≠ .publishRetrieveFailed := by
  induction fuel generalizing packetId cursor s with
  | zero => exact ⟨h, by simp [resendPubrels]⟩
  | succ fuel ih =>
    unfold resendPubrels
    dsimp only
    split
    · exact ⟨h, by simp⟩
    have hsent : Resumable (sendPublishAcks c s packetId .pubRelSend).2 :=
      h.run c (.acknowledge packetId .pubRelSend) id (not_losesCopy rfl)
    split
    · exact ih _ _ hsent
    · have hstatus := sendPublishAcks_status c s packetId .pubRelSend
      exact ⟨hsent, ne_of_mem_of_not_mem hstatus (by decide)⟩

/-- The copy of a record that is sent again is retrieved. -/
theorem Resumable.retrieved {s : Sys} (h : Resumable s) {cursor : Nat}
    (hid : (mqttPublishToResend s.toPublishRecords cursor).1 ≠ packetIdInvalid) :
    (callRetrieve s (mqttPublishToResend s.toPublishRecords cursor).1).1 ≠ none := by
  obtain ⟨r, hmem, hr, hstate⟩ := mqttPublishToResend_mem hid
  have hlive : s.outgoing r.packetId = some r :=
    lookup_of_mem h.table.nodup (mem_live.2 ⟨hmem, by rw [hr]; exact hid⟩)
  have hcopy := (hasCopy_iff hlive).1 (h.copies r.packetId r hlive hstate)
  rw [callRetrieve_eq h.retrieves, ← hr]
  intro hnone
  change s.store r.packetId = none at hnone
  rw [hnone] at hcopy
  exact nomatch hcopy

theorem resendPublishes_resumable (c : Config) {fuel cursor : Nat} {s : Sys} (h : Resumable s) :
    (resendPublishes c fuel cursor s).1 ≠ .publishRetrieveFailed := by
  induction fuel generalizing cursor s with
  | zero => simp [resendPublishes]
  | succ fuel ih =>
    unfold resendPublishes
    dsimp only
    split
    · simp
    rename_i hid
    have hretrieved := h.retrieved hid
    have hnext := h.run c (.resend (mqttPublishToResend s.toPublishRecords cursor).1) id
      (not_losesCopy rfl)
    unfold Operation.run at hnext
    dsimp only at hnext
    generalize callRetrieve s (mqttPublishToResend s.toPublishRecords cursor).1 = retrieved at *
    obtain ⟨_ | packet, s₁⟩ := retrieved
    · exact absurd rfl hretrieved
    · dsimp only at hnext ⊢
      split
      · simp
      · exact ih hnext

/-- The resumption of a session retrieves every publish. -/
theorem Resumable.resumes (c : Config) {s : Sys} (h : Resumable s) :
    (handleUncleanSessionResumption c s).1 ≠ .publishRetrieveFailed := by
  obtain ⟨hresent, hstatus⟩ := resendPubrels_resumable c (s.outgoingPublishRecords.length + 1)
    (mqttPubrelToResend s.toPublishRecords 0).1 (mqttPubrelToResend s.toPublishRecords 0).2.1 h
  unfold handleUncleanSessionResumption
  dsimp only
  split
  · exact resendPublishes_resumable c hresent
  · exact hstatus

/-! ## Runs -/

/-- Every publish to be sent again has its stored copy, and the resumption of a session would
retrieve it. -/
def StoreConsistent (c : Config) (s : Sys) : Prop :=
  CopiesStored s ∧ (handleUncleanSessionResumption c s).1 ≠ .publishRetrieveFailed

/-- The store is consistent in every state of a run. -/
def KeepsStoreConsistent (c : Config) (s : Sys) (calls : List Call) : Prop :=
  ∀ m ∈ runMoments c s calls,
    StoreConsistent c m.before ∧ StoreConsistent c (m.after (Operation.run c))

/-- Over every run of calls on a context whose record arrays were zeroed, with a store that returns
what it stored, the copies are there in every state reached exactly if no publish of the run loses
its copy. -/
theorem run_storeConsistent_iff (c : Config) {s : Sys} {n k : Nat}
    (hrecords : s.toPublishRecords = .zeroed n k) (hretrieves : ∀ b ∈ s.retrieveResults, b = true)
    {calls : List Call} (hcalls : ∀ call ∈ calls, ¬ call.SetsRecords) :
    KeepsStoreConsistent c s calls ↔
      ∀ m ∈ runMoments c s calls, ¬ LosesCopy m.before m.operation := by
  have htable : Table .outgoing s.outgoingPublishRecords := table_of_zeroed hrecords
  have hsets := runMoments_not_setsRecords (c := c) (s := s) hcalls
  obtain ⟨heffects, -⟩ := runMoments_effect htable hcalls (c := c)
  constructor
  · intro h m hm
    exact (copiesStored_run_iff c (heffects m hm).1 (h m hm).1.1 (hsets m hm)).1 (h m hm).2.1
  · intro h
    have hstart : Resumable s := by
      refine ⟨htable, fun id r hr => ?_, hretrieves⟩
      have hmem := (mem_live.1 (lookup_mem hr))
      rw [congrArg PublishRecords.outgoingPublishRecords hrecords] at hmem
      exact absurd (congrArg PubAckInfo.packetId (List.eq_of_mem_replicate hmem.1)) hmem.2
    have hconsistent : ∀ {s : Sys}, Resumable s → StoreConsistent c s := fun hs =>
      ⟨hs.copies, hs.resumes c⟩
    have hbefore := (invariant_runMoments hstart fun m hm hbefore =>
      hbefore.run c m.operation (hsets m hm) (h m hm)).1
    intro m hm
    exact ⟨hconsistent (hbefore m hm),
      hconsistent ((hbefore m hm).run c m.operation (hsets m hm) (h m hm))⟩

/-- A session with one publish of QoS 1 that is resumed. -/
def resumedSession : List Call :=
  [.connect (some resumingInfo) none 1000, .api (.request (.publish (some publishInfoOne) 1)),
    .api (.request .disconnect), .connect (some resumingInfo) none 1000]

theorem resumedSession_not_setsRecords : ∀ call ∈ resumedSession, ¬ call.SetsRecords := by
  intro call hcall
  simp only [resumedSession, List.mem_cons, List.not_mem_nil, or_false] at hcall
  rcases hcall with rfl | rfl | rfl | rfl <;> exact id

/-- `run_storeConsistent_iff` on a session whose publish is stored. -/
theorem run_storeConsistent_stored :
    KeepsStoreConsistent .default (storingClient []) resumedSession := by
  have hrecords : (storingClient []).toPublishRecords = .zeroed 2 2 := rfl
  have hretrieves : ∀ b ∈ (storingClient []).retrieveResults, b = true := nofun
  rw [run_storeConsistent_iff .default hrecords hretrieves resumedSession_not_setsRecords]
  decide +kernel

/-- The session before it is resumed, when the application could not store the publish. -/
def unstoredSession : Sys :=
  runAll .default { storingClient [] with storeResults := [false] } (resumedSession.take 3)

/-- The record of the publish stays, and the session is not resumed. -/
theorem not_storeConsistent_unstored :
    unstoredSession.outgoing 1 = some ⟨1, .qos1, .publishSend⟩ ∧ unstoredSession.store 1 = none ∧
      (mqttConnect .default unstoredSession (some resumingInfo) none 1000).1 =
        .publishRetrieveFailed ∧
      ¬ CopiesStored unstoredSession := by
  have hrecord : unstoredSession.outgoing 1 = some ⟨1, .qos1, .publishSend⟩ := by decide +kernel
  have hstore : unstoredSession.store 1 = none := by decide +kernel
  refine ⟨hrecord, hstore, by decide +kernel, fun hcopies => ?_⟩
  have hcopy := (hasCopy_iff hrecord).1 (hcopies 1 _ hrecord (by decide))
  rw [hstore] at hcopy
  cases hcopy

end FreeMqtt

import FreeMqtt.Core.Integrity
import FreeMqtt.Core.Outgoing

/-!
# Callbacks with acknowledgements

From the moment that reserves a packet id until its record leaves the outgoing records, the
callback is invoked with the acknowledgements of the handshake of its QoS only, with each at most
once, and with PUBCOMP only after the PUBREL was completely sent. An acknowledgement that its record
does not wait for is not handed to the callback and leaves the context as it is.
-/

namespace FreeMqtt

open KeyedList Moments

/-! ## The discipline -/

/-- What must be in the trace before the callback is invoked with an acknowledgement. -/
def AckAllowed (packetId : UInt16) (qos : QoS) (before : List Mark) : PubAckType → Prop
  | .puback => qos = .qos1 ∧ .published packetId .qos1 ∈ before
  | .pubrec => qos = .qos2 ∧ .published packetId .qos2 ∈ before
  | .pubcomp => qos = .qos2 ∧ ∃ front rest, before = front ++ .acked .pubrec packetId :: rest ∧
      .released packetId ∈ rest
  | .pubrel => False

/-- Each acknowledgement of a packet id is allowed, and is the first of its type. -/
def AckDiscipline (packetId : UInt16) (qos : QoS) (marks : List Mark) : Prop :=
  ∀ front packetType rest, marks = front ++ .acked packetType packetId :: rest →
    AckAllowed packetId qos front packetType ∧ .acked packetType packetId ∉ front

theorem AckDiscipline.nil (packetId : UInt16) (qos : QoS) : AckDiscipline packetId qos [] := by
  intro front packetType rest h
  exact absurd h.symm (by simp)

/-- One more mark. -/
theorem AckDiscipline.snoc {packetId : UInt16} {qos : QoS} {marks : List Mark} {mark : Mark}
    (h : AckDiscipline packetId qos marks)
    (hmark : ∀ packetType, mark = .acked packetType packetId →
      AckAllowed packetId qos marks packetType ∧ .acked packetType packetId ∉ marks) :
    AckDiscipline packetId qos (marks ++ [mark]) := by
  intro front packetType rest heq
  rcases List.eq_nil_or_concat rest with rfl | ⟨rest, last, rfl⟩
  · obtain ⟨rfl, rfl⟩ := List.append_inj' heq rfl |>.imp id List.head_eq_of_cons_eq
    exact hmark packetType rfl
  · have hinit : marks ++ [mark] = (front ++ .acked packetType packetId :: rest) ++ [last] := by
      rw [heq]
      simp
    exact h front packetType rest (List.append_inj' hinit rfl).1

/-- Marks that are not about an acknowledgement of the packet id. -/
def Foreign (packetId : UInt16) (marks : List Mark) : Prop :=
  ∀ packetType, .acked packetType packetId ∉ marks

theorem foreign_of_not_isAcked {packetId : UInt16} {marks : List Mark}
    (h : ∀ m ∈ marks, ¬ m.IsAcked) : Foreign packetId marks :=
  fun _ hm => h _ hm trivial

theorem AckDiscipline.foreign {packetId : UInt16} {qos : QoS} {marks new : List Mark}
    (h : AckDiscipline packetId qos marks) (hnew : Foreign packetId new) :
    AckDiscipline packetId qos (marks ++ new) := by
  induction new generalizing marks with
  | nil =>
    rw [List.append_nil]
    exact h
  | cons mark new ih =>
    rw [List.append_cons]
    apply ih
    · refine h.snoc fun packetType hmark => ?_
      exact absurd (hmark ▸ List.mem_cons_self) (hnew packetType)
    · exact fun packetType hm => hnew packetType (List.mem_cons_of_mem _ hm)

/-! ## The record -/

/-- What the state of a record says about the marks since it was reserved. -/
structure AckProgress (packetId : UInt16) (qos : QoS) (marks : List Mark) (r : PubAckInfo) :
    Prop where
  qos_eq : r.qos = qos
  published : r.publishState ≠ .publishSend → .published packetId qos ∈ marks
  acked : ∀ packetType, .acked packetType packetId ∈ marks →
    packetType = .pubrec ∧ r.publishState ∈ pubrelStates
  released : r.publishState ∈ pubrelStates → ∃ front rest,
    marks = front ++ .acked .pubrec packetId :: rest ∧
      (r.publishState = .pubCompPending → .released packetId ∈ rest)

theorem AckProgress.foreign {packetId : UInt16} {qos : QoS} {marks new : List Mark} {r : PubAckInfo}
    (h : AckProgress packetId qos marks r) (hnew : Foreign packetId new) :
    AckProgress packetId qos (marks ++ new) r := by
  refine ⟨h.qos_eq, fun hstate => List.mem_append_left _ (h.published hstate), ?_, ?_⟩
  · intro packetType hm
    exact h.acked packetType ((List.mem_append.1 hm).resolve_right (hnew packetType))
  · intro hstate
    obtain ⟨front, rest, rfl, hreleased⟩ := h.released hstate
    refine ⟨front, rest ++ new, by simp, fun hcomp => ?_⟩
    exact List.mem_append_left _ (hreleased hcomp)

/-- A record that is reserved. -/
theorem progress_firstRecord {packetId : UInt16} {qos : QoS} (hqos : qos ≠ .qos0) :
    AckProgress packetId qos [] (firstRecord .outgoing packetId qos) := by
  have hstate : (firstRecord .outgoing packetId qos).publishState = .publishSend := by
    rw [firstRecord_outgoing packetId hqos]
  refine ⟨rfl, fun hne => absurd hstate hne, nofun, fun hrel => ?_⟩
  rw [hstate] at hrel
  exact absurd hrel (by decide)

/-- What the marks of a lifetime say when the record of the packet id is `r`. -/
def Lifelong (packetId : UInt16) (qos : QoS) (r : Option PubAckInfo) (marks : List Mark) : Prop :=
  AckDiscipline packetId qos marks ∧ ∀ r' ∈ r, AckProgress packetId qos marks r'

theorem Lifelong.foreign {packetId : UInt16} {qos : QoS} {marks new : List Mark}
    {r : Option PubAckInfo} (h : Lifelong packetId qos r marks) (hnew : Foreign packetId new) :
    Lifelong packetId qos r (marks ++ new) :=
  ⟨h.1.foreign hnew, fun r' hr' => (h.2 r' hr').foreign hnew⟩

theorem Lifelong.gone {packetId : UInt16} {qos : QoS} {marks : List Mark} {r : Option PubAckInfo}
    (h : Lifelong packetId qos r marks) : Lifelong packetId qos none marks :=
  ⟨h.1, nofun⟩

/-- The record was sent. -/
theorem Lifelong.sent {packetId : UInt16} {qos : QoS} {marks : List Mark} {r : PubAckInfo}
    (h : Lifelong packetId qos (some r) marks) (hstate : r.publishState = .publishSend) :
    Lifelong packetId qos (some { r with publishState := pendingState qos })
      (marks ++ [.published packetId qos]) := by
  have hprogress := h.2 r rfl
  have hforeign : Foreign packetId [.published packetId qos] := fun _ => by simp
  refine ⟨h.1.foreign hforeign, fun r' hr' => ?_⟩
  cases hr'
  have hpending : pendingState qos ∉ pubrelStates := by
    unfold pendingState
    split <;> decide
  refine ⟨hprogress.qos_eq, fun _ => by simp, fun packetType hm => ?_,
    fun hrel => absurd hrel hpending⟩
  obtain ⟨-, hrel⟩ := hprogress.acked packetType
    ((List.mem_append.1 hm).resolve_right (hforeign packetType))
  rw [hstate] at hrel
  exact absurd hrel (by decide)

/-- An acknowledgement was accepted. -/
theorem Lifelong.acked {packetId : UInt16} {qos : QoS} {marks : List Mark} {r : PubAckInfo}
    (h : Lifelong packetId qos (some r) marks) (hvalid : ValidRecord .outgoing r)
    {packetType : PubAckType} (htype : packetType ≠ .pubrel)
    (hreact : react .outgoing r (.ack packetType) ≠ .illegal) :
    Lifelong packetId qos ((react .outgoing r (.ack packetType)).apply r)
      (marks ++ [.acked packetType packetId]) := by
  have hprogress := h.2 r rfl
  have hnot : ∀ {type : PubAckType}, r.publishState ∉ pubrelStates ∨ type ≠ .pubrec →
      .acked type packetId ∉ marks := by
    intro type hor hm
    obtain ⟨hrec, hrel⟩ := hprogress.acked type hm
    exact hor.elim (fun hstate => hstate hrel) fun hne => hne hrec
  have hsnoc : AckAllowed packetId qos marks packetType → .acked packetType packetId ∉ marks →
      AckDiscipline packetId qos (marks ++ [.acked packetType packetId]) := by
    intro hallowed hfirst
    refine h.1.snoc fun type heq => ?_
    cases heq
    exact ⟨hallowed, hfirst⟩
  rcases react_outgoing_cases hvalid hreact with
    ⟨rfl, hq, hstate, happly⟩ | ⟨rfl, hq, hstate, happly⟩ | ⟨rfl, -⟩ | ⟨rfl, hq, hstate, happly⟩
  · rw [happly]
    obtain rfl : qos = .qos1 := hprogress.qos_eq.symm.trans hq
    exact ⟨hsnoc ⟨rfl, hprogress.published (by simp [hstate])⟩ (hnot (.inr (by simp))), by simp⟩
  · rw [happly]
    obtain rfl : qos = .qos2 := hprogress.qos_eq.symm.trans hq
    have hpublished := hprogress.published (by simp [hstate])
    have hstates : r.publishState ∉ pubrelStates := by
      rw [hstate]
      decide
    refine ⟨hsnoc ⟨rfl, hpublished⟩ (hnot (.inl hstates)), fun r' hr' => ?_⟩
    cases hr'
    refine ⟨hq, fun _ => List.mem_append_left _ hpublished, fun type hm => ?_, fun _ => ?_⟩
    · rcases List.mem_append.1 hm with hm | hm
      · exact absurd hm (hnot (.inl hstates))
      · cases List.mem_singleton.1 hm
        exact ⟨rfl, by simp [pubrelStates]⟩
    · exact ⟨marks, [], rfl, by simp⟩
  · exact absurd rfl htype
  · rw [happly]
    obtain rfl : qos = .qos2 := hprogress.qos_eq.symm.trans hq
    obtain ⟨front, rest, heq, hreleased⟩ := hprogress.released (by simp [hstate, pubrelStates])
    exact ⟨hsnoc ⟨rfl, front, rest, heq, hreleased hstate⟩ (hnot (.inr (by simp))), by simp⟩

/-- The PUBREL was sent. -/
theorem Lifelong.released {packetId : UInt16} {qos : QoS} {marks : List Mark} {r : PubAckInfo}
    (h : Lifelong packetId qos (some r) marks) (hvalid : ValidRecord .outgoing r)
    (hreact : react .outgoing r (.ack .pubrel) ≠ .illegal) :
    Lifelong packetId qos ((react .outgoing r (.ack .pubrel)).apply r)
      (marks ++ [.released packetId]) := by
  have hprogress := h.2 r rfl
  have hforeign : Foreign packetId [.released packetId] := fun _ => by simp
  rcases react_outgoing_cases hvalid hreact with
    ⟨heq, -⟩ | ⟨heq, -⟩ | ⟨-, hq, hstate, happly⟩ | ⟨heq, -⟩
  · cases heq
  · cases heq
  · rw [happly]
    refine ⟨h.1.foreign hforeign, fun r' hr' => ?_⟩
    cases hr'
    have hnotSend : r.publishState ≠ .publishSend := by
      intro hsend
      rw [hsend] at hstate
      exact absurd hstate (by decide)
    obtain ⟨front, rest, rfl, -⟩ := hprogress.released hstate
    refine ⟨hprogress.qos_eq, fun _ => List.mem_append_left _ (hprogress.published hnotSend),
      fun type hm => ?_, fun _ => ⟨front, rest ++ [.released packetId], by simp, fun _ => by simp⟩⟩
    obtain ⟨hrec, -⟩ := hprogress.acked type
      ((List.mem_append.1 hm).resolve_right (hforeign type))
    exact ⟨hrec, by simp [pubrelStates]⟩
  · cases heq

/-! ## One moment -/

/-- The marks that the operation of a moment adds to the log. -/
def marksOf (c : Config) (m : Moment Sys Operation) : List Mark :=
  (eventsOf c m).filterMap Event.mark

theorem Marked.marksOf_eq {c : Config} {m : Moment Sys Operation} {marks : List Mark}
    (h : Marked m.before (m.after (Operation.run c)) marks) : marksOf c m = marks := by
  obtain ⟨events, hlog, rfl⟩ := h
  unfold marksOf eventsOf
  rw [hlog, List.drop_left]

/-- A publish with the record that it uses. -/
theorem Lifelong.publishes {s s' : Sys} {info : PublishInfo} {packetId : UInt16} {r : PubAckInfo}
    (h : Publishes s s' info packetId r) {qos : QoS} {marks : List Mark}
    (hlife : Lifelong packetId qos (some r) marks) :
    ∃ new, Marked s s' new ∧ Lifelong packetId qos (s'.outgoing packetId) (marks ++ new) := by
  rcases h.record with ⟨hsame, new, hmarks, hnew⟩ | ⟨hq, hstate, hsent, hmarks⟩
  · refine ⟨new, hmarks, ?_⟩
    rw [hsame]
    exact hlife.foreign (foreign_of_not_isAcked hnew)
  · refine ⟨_, hmarks, ?_⟩
    obtain rfl : info.qos = qos := hq.symm.trans (hlife.2 r rfl).qos_eq
    rw [hsent]
    exact hlife.sent hstate

/-- A moment of the lifetime of a record. -/
theorem OutgoingEffect.lifelong {operation : Operation} {s s' : Sys}
    (h : OutgoingEffect operation s s') (htable : Table .outgoing s.outgoingPublishRecords)
    {packetId : UInt16} {qos : QoS} {marks : List Mark} (hlive : s.outgoing packetId ≠ .none)
    (hlife : Lifelong packetId qos (s.outgoing packetId) marks) :
    ∃ new, Marked s s' new ∧ Lifelong packetId qos (s'.outgoing packetId) (marks ++ new) := by
  cases h with
  | none hrecords _ hmarks hacked =>
    refine ⟨_, hmarks, ?_⟩
    rw [hrecords]
    exact hlife.foreign (foreign_of_not_isAcked hacked)
  | publish info id r hoperation hpublishable hr h =>
    by_cases hid : packetId = id
    · subst hid
      obtain ⟨r', hr'⟩ := Option.ne_none_iff_exists'.1 hlive
      rw [hr'] at hlife
      obtain ⟨-, rfl⟩ := (publishedRecord_of_live hr').1 hr
      exact hlife.publishes h
    · rw [h.others packetId hid]
      rcases h.record with ⟨-, new, hmarks, hnew⟩ | ⟨-, -, -, hmarks⟩
      · exact ⟨new, hmarks, hlife.foreign (foreign_of_not_isAcked hnew)⟩
      · exact ⟨_, hmarks, hlife.foreign fun _ => by simp⟩
  | drop id hrecords _ hmarks =>
    refine ⟨_, hmarks, ?_⟩
    rw [List.append_nil, hrecords]
    split
    · exact hlife.gone
    · exact hlife
  | acked packetType id r htype hr hreact hrecords _ hmarks =>
    refine ⟨_, hmarks, ?_⟩
    rw [hrecords]
    split
    · rename_i hid
      subst hid
      rw [hr] at hlife
      exact hlife.acked (htable.valid r (lookup_mem hr)) htype hreact
    · rename_i hid
      refine hlife.foreign fun type hm => ?_
      cases List.mem_singleton.1 hm
      exact hid rfl
  | released id r hr hreact hrecords _ hmarks =>
    refine ⟨_, hmarks, ?_⟩
    rw [hrecords]
    split
    · rename_i hid
      subst hid
      rw [hr] at hlife
      exact hlife.released (htable.valid r (lookup_mem hr)) hreact
    · exact hlife.foreign fun _ => by simp
  | clean hrecords hmarks =>
    refine ⟨_, hmarks, ?_⟩
    rw [List.append_nil, hrecords]
    exact hlife.gone

/-- The moment that reserves a packet id. -/
theorem OutgoingEffect.reserves {operation : Operation} {s s' : Sys}
    (h : OutgoingEffect operation s s') {packetId : UInt16} (hnone : s.outgoing packetId = .none)
    {r : PubAckInfo} (hr : s'.outgoing packetId = some r) :
    ∃ info, operation = .request (.publish (some info) packetId) ∧ info.qos = r.qos ∧
      ∃ new, Marked s s' new ∧ Lifelong packetId r.qos (some r) new := by
  have hmissing : ∀ {r' : PubAckInfo}, s.outgoing packetId ≠ some r' := by
    intro r' hr'
    rw [hnone] at hr'
    cases hr'
  cases h with
  | none hrecords => exact absurd (hrecords ▸ hr) hmissing
  | publish info id r' hoperation hpublishable hr' h =>
    by_cases hid : packetId = id
    · subst hid
      have hqos := hpublishable.2.2.2
      obtain ⟨-, rfl⟩ := (publishedRecord_of_new hnone).1 hr'
      have hstart : Lifelong packetId info.qos (some (firstRecord .outgoing packetId info.qos)) [] := by
        refine ⟨.nil _ _, fun r' hr' => ?_⟩
        cases hr'
        exact progress_firstRecord hqos
      obtain ⟨new, hmarks, hlife⟩ := hstart.publishes h
      rw [hr] at hlife
      have hq := (hlife.2 r rfl).qos_eq
      exact ⟨info, hoperation, hq.symm, new, hmarks, by rw [hq]; exact hlife⟩
    · rw [h.others packetId hid] at hr
      exact absurd hr hmissing
  | drop id hrecords =>
    rw [hrecords] at hr
    split at hr
    · cases hr
    · exact absurd hr hmissing
  | acked packetType id r' _ hr' hreact hrecords =>
    rw [hrecords] at hr
    split at hr
    · rename_i hid
      exact absurd (hid ▸ hr') hmissing
    · exact absurd hr hmissing
  | released id r' hr' hreact hrecords =>
    rw [hrecords] at hr
    split at hr
    · rename_i hid
      exact absurd (hid ▸ hr') hmissing
    · exact absurd hr hmissing
  | clean hrecords =>
    rw [hrecords] at hr
    cases hr

/-! ## Rejected acknowledgements -/

/-- The state in which a record waits for an acknowledgement. -/
def awaitingState : PubAckType → PublishState
  | .puback => .pubAckPending
  | .pubrec => .pubRecPending
  | .pubrel => .pubRelPending
  | .pubcomp => .pubCompPending

/-- The acknowledgement meets no outgoing record that waits for it. -/
def Unawaited (s : Sys) (packetType : PubAckType) (packetId : UInt16) : Prop :=
  ∀ r, s.outgoing packetId = some r → r.publishState ≠ awaitingState packetType

/-- The packet id of an acknowledgement. -/
def ackPacketId (packet : PacketInfo) : UInt16 := (mqttDeserializeAck packet true false).2.1.getD 0

/-- An acknowledgement of an outgoing publish that is not awaited does not reach the callback, and
nothing but the log of the context changes. -/
def RejectsUnawaited (c : Config) (s : Sys) : Prop :=
  ∀ packet manageKeepAlive packetType, outgoingAckType packet.type = some packetType →
    Unawaited s packetType (ackPacketId packet) →
    (handlePacket c manageKeepAlive packet s).1 ≠ .success ∧
      (handlePacket c manageKeepAlive packet s).2 = s.dispatching packet

theorem publishState_of_react {r : PubAckInfo} (h : ValidRecord .outgoing r)
    {packetType : PubAckType} (htype : packetType ≠ .pubrel)
    (hreact : react .outgoing r (.ack packetType) ≠ .illegal) :
    r.publishState = awaitingState packetType := by
  rcases react_outgoing_cases h hreact with
    ⟨rfl, -, hstate, -⟩ | ⟨rfl, -, hstate, -⟩ | ⟨rfl, -⟩ | ⟨rfl, -, hstate, -⟩
  · exact hstate
  · exact hstate
  · exact absurd rfl htype
  · exact hstate

theorem mqttUpdateStateAck_unawaited {s : Sys} (h : Table .outgoing s.outgoingPublishRecords)
    {packetType : PubAckType} (htype : packetType ≠ .pubrel) {packetId : UInt16}
    (hunawaited : Unawaited s packetType packetId) :
    ∃ status, status ≠ .success ∧
      mqttUpdateStateAck s.toPublishRecords packetId packetType .receive =
        (status, none, s.toPublishRecords) := by
  by_cases hid : packetId = packetIdInvalid
  · rw [mqttUpdateStateAck, if_pos hid]
    exact ⟨.badParameter, by simp, rfl⟩
  have hdirection : ackDirection packetType .receive = .outgoing := by
    cases packetType with
    | pubrel => exact absurd rfl htype
    | _ => rfl
  have hnone := @mqttUpdateStateAck_none s.toPublishRecords packetId hid packetType .receive
  have hillegal := @mqttUpdateStateAck_illegal s.toPublishRecords packetId hid packetType .receive
  rw [hdirection] at hnone hillegal
  cases hr : s.outgoing packetId with
  | none => exact ⟨.badResponse, by simp, hnone hr⟩
  | some r =>
    refine ⟨.illegalState, by simp, hillegal h hr ?_⟩
    by_contra hreact
    exact hunawaited r hr (publishState_of_react (h.valid r (lookup_mem hr)) htype hreact)

theorem handlePacket_ack (c : Config) (s : Sys) {packet : PacketInfo}
    (h : isPublishAck packet.type = true) (manageKeepAlive : Bool) :
    handlePacket c manageKeepAlive packet s = handlePublishAcks c (s.dispatching packet) packet := by
  unfold handlePacket
  dsimp only
  rw [if_neg fun hpublish => by simp [isPublishAck_publish hpublish] at h]
  unfold handleIncomingAck
  dsimp only
  rw [if_pos (of_decide_eq_true h)]
  rfl

theorem rejectsUnawaited (c : Config) {s : Sys} (h : Table .outgoing s.outgoingPublishRecords) :
    RejectsUnawaited c s := by
  intro packet manageKeepAlive packetType htype hunawaited
  unfold outgoingAckType at htype
  split at htype
  swap
  · cases htype
  rename_i hack
  obtain rfl : getAckFromPacketType packet.type = packetType := Option.some.inj htype
  have hne : getAckFromPacketType packet.type ≠ .pubrel := by
    have htypes := of_decide_eq_true hack.1
    rcases htypes with heq | heq | heq | heq
    · rw [heq]
      decide
    · rw [heq]
      decide
    · exact absurd heq hack.2
    · rw [heq]
      decide
  obtain ⟨status, hstatus, hupdated⟩ := mqttUpdateStateAck_unawaited (s := s.dispatching packet) h
    hne hunawaited
  rw [handlePacket_ack c s hack.1]
  unfold handlePublishAcks
  dsimp only
  split
  · rename_i hdecoded
    exact ⟨hdecoded, rfl⟩
  · rw [show (mqttDeserializeAck packet true false).2.1.getD 0 = ackPacketId packet from rfl, hupdated,
      if_pos hstatus]
    exact ⟨hstatus, rfl⟩

/-- `MQTT_CancelCallback` leaves no record that waits for an acknowledgement. -/
theorem unawaited_cancelled {s : Sys} (h : Table .outgoing s.outgoingPublishRecords)
    (packetId : UInt16) (packetType : PubAckType) :
    Unawaited (mqttCancelCallback s packetId).2 packetType packetId := by
  obtain ⟨records', heq, -, hrecords⟩ := mqttCancelCallback_spec h packetId
  intro r hr
  rw [heq] at hr
  have hnone := hrecords packetId
  rw [if_pos rfl] at hnone
  exact nomatch hnone.symm.trans hr

/-! ## Runs -/

/-- The callback discipline of a run from `s`. -/
structure AckCallbacks (c : Config) (s : Sys) (calls : List Call) : Prop where
  /-- from the moment `m` that reserves a packet id on, as long as its record is there -/
  lifetime : ∀ front m life rest packetId r,
    runMoments c s calls = front ++ (m :: life) ++ rest → m.before.outgoing packetId = none →
    (m.after (Operation.run c)).outgoing packetId = some r →
    (∀ m' ∈ life, m'.before.outgoing packetId ≠ none) →
    (∃ info, m.operation = .request (.publish (some info) packetId) ∧ info.qos = r.qos) ∧
      AckDiscipline packetId r.qos ((m :: life).flatMap (marksOf c))
  /-- the callback is invoked with an acknowledgement only if its record waits for it -/
  awaited : ∀ m ∈ runMoments c s calls, ∀ packetType packetId,
    .acked packetType packetId ∈ marksOf c m → ¬ Unawaited m.before packetType packetId
  rejected : ∀ m ∈ runMoments c s calls, RejectsUnawaited c m.before
  rejected_end : RejectsUnawaited c (runAll c s calls)
  /-- no record waits for an acknowledgement after `MQTT_CancelCallback` -/
  cancelled : ∀ m ∈ runMoments c s calls, ∀ packetId,
    m.operation = .request (.cancelCallback packetId) →
    ∀ packetType, Unawaited (m.after (Operation.run c)) packetType packetId

/-- The lifetime of a record. -/
theorem lifetime_discipline {c : Config} {s : Sys} {calls : List Call}
    (h : ∀ m ∈ runMoments c s calls, Table .outgoing m.before.outgoingPublishRecords ∧
      OutgoingEffect m.operation m.before (m.after (Operation.run c)))
    {front life rest : List (Moment Sys Operation)} {m : Moment Sys Operation}
    {packetId : UInt16} {r : PubAckInfo}
    (hsplit : runMoments c s calls = front ++ (m :: life) ++ rest)
    (hnone : m.before.outgoing packetId = none)
    (hr : (m.after (Operation.run c)).outgoing packetId = some r)
    (hlive : ∀ m' ∈ life, m'.before.outgoing packetId ≠ none) :
    (∃ info, m.operation = .request (.publish (some info) packetId) ∧ info.qos = r.qos) ∧
      AckDiscipline packetId r.qos ((m :: life).flatMap (marksOf c)) := by
  have hpart : ∀ m' ∈ m :: life, m' ∈ runMoments c s calls := by
    intro m' hm'
    rw [hsplit]
    exact List.mem_append_left _ (List.mem_append_right _ hm')
  obtain ⟨info, hoperation, hqos, new, hmarks, hstart⟩ :=
    (h m (hpart m List.mem_cons_self)).2.reserves hnone hr
  refine ⟨⟨info, hoperation, hqos⟩, ?_⟩
  -- the rest of the lifetime is a run that starts with the record
  obtain ⟨operations, heq⟩ := runMoments_eq c s calls
  rw [heq, List.append_assoc] at hsplit
  obtain ⟨_, _, -, -, hsecond⟩ := exists_of_moments_eq_append hsplit
  obtain ⟨third, _, -, hthird, -⟩ := exists_of_moments_eq_append hsecond.symm
  cases third with
  | nil => exact nomatch hthird
  | cons operation third =>
    obtain ⟨rfl, rfl⟩ := List.cons.inj hthird
    rw [List.flatMap_cons, hmarks.marksOf_eq]
    refine (trace_invariant (marksOf c) (p := fun s => Lifelong packetId r.qos (s.outgoing packetId))
      (hr ▸ hstart) fun m' hm' before hbefore => ?_).1
    obtain ⟨htable, heffect⟩ := h m' (hpart m' (List.mem_cons_of_mem _ hm'))
    obtain ⟨new', hmarks', hlife⟩ := heffect.lifelong htable (hlive m' hm') hbefore
    rw [hmarks'.marksOf_eq]
    exact hlife

/-- An acknowledgement that reaches the callback. -/
theorem OutgoingEffect.awaited {c : Config} {m : Moment Sys Operation}
    (h : OutgoingEffect m.operation m.before (m.after (Operation.run c)))
    (htable : Table .outgoing m.before.outgoingPublishRecords) {packetType : PubAckType}
    {packetId : UInt16} (hm : .acked packetType packetId ∈ marksOf c m) :
    ¬ Unawaited m.before packetType packetId := by
  have hquiet : ∀ {marks : List Mark}, Marked m.before (m.after (Operation.run c)) marks →
      .acked packetType packetId ∈ marks := by
    intro marks hmarks
    rw [← hmarks.marksOf_eq]
    exact hm
  cases h with
  | none _ _ hmarks hacked => exact absurd trivial (hacked _ (hquiet hmarks))
  | publish _ _ _ _ _ _ h =>
    rcases h.record with ⟨-, new, hmarks, hnew⟩ | ⟨-, -, -, hmarks⟩
    · exact absurd trivial (hnew _ (hquiet hmarks))
    · exact absurd (hquiet hmarks) (by simp)
  | drop _ _ _ hmarks => exact absurd (hquiet hmarks) List.not_mem_nil
  | acked _ _ r htype hr hreact _ _ hmarks =>
    cases List.mem_singleton.1 (hquiet hmarks)
    intro hunawaited
    exact hunawaited r hr (publishState_of_react (htable.valid r (lookup_mem hr)) htype hreact)
  | released _ _ _ _ _ _ hmarks => exact absurd (hquiet hmarks) (by simp)
  | clean _ hmarks => exact absurd (hquiet hmarks) List.not_mem_nil

/-- The callback discipline for outgoing publishes: over every run of calls on a context whose
record arrays were zeroed, from the moment a packet id is reserved until its record leaves the
outgoing records, the callback gets PUBACK at most once and only for a QoS 1 publish that was
completely sent, PUBREC at most once for a QoS 2 publish, and PUBCOMP at most once after it and only
after the PUBREL was completely sent; other acknowledgements do not reach it and change no record. -/
theorem run_ackCallbacks (c : Config) {s : Sys} {n k : Nat}
    (hrecords : s.toPublishRecords = .zeroed n k) {calls : List Call}
    (hcalls : ∀ call ∈ calls, ¬ call.SetsRecords) : AckCallbacks c s calls := by
  obtain ⟨heffects, hend⟩ := runMoments_effect (table_of_zeroed hrecords) hcalls
  refine ⟨?_, ?_, fun m hm => rejectsUnawaited c (heffects m hm).1, rejectsUnawaited c hend, ?_⟩
  · intro front m life rest packetId r
    exact lifetime_discipline fun m hm => ⟨(heffects m hm).1, (heffects m hm).2.1⟩
  · intro m hm packetType packetId
    exact (heffects m hm).2.1.awaited (heffects m hm).1
  · intro m hm packetId hoperation packetType
    unfold Moment.after
    rw [hoperation]
    exact unawaited_cancelled (heffects m hm).1 packetId packetType

/-- A publish that is delivered exactly once. -/
def exactlyOnceInfo : PublishInfo where
  qos := .qos2
  retain := false
  dup := false
  pTopicName := some [0x74]
  topicNameLength := 1
  pPayload := none
  payloadLength := 0

/-- The handshake of a QoS 2 publish whose PUBREC comes twice. -/
def handshakeCalls : List Call :=
  [.connect (some clientInfo) none 1000, .api (.request (.publish (some exactlyOnceInfo) 1)),
    .api .receiveLoop, .api .receiveLoop, .api .receiveLoop]

def handshakeStart : Sys :=
  { Sys.initialized (World.still [0x20, 2, 0, 0, 0x50, 2, 0, 1, 0x50, 2, 0, 1, 0x70, 2, 0, 1]) 16 2
      with recvs := [1, 1, 2, 12, 0, 0] }

theorem run_ackCallbacks_handshake :
    AckCallbacks .default handshakeStart handshakeCalls ∧
      (runMoments .default handshakeStart handshakeCalls).flatMap (marksOf .default) =
        [.published 1 .qos2, .acked .pubrec 1, .released 1, .acked .pubcomp 1] := by
  have hcalls : ∀ call ∈ handshakeCalls, ¬ call.SetsRecords := by
    intro call hcall
    simp only [handshakeCalls, List.mem_cons, List.not_mem_nil, or_false] at hcall
    rcases hcall with rfl | rfl | rfl | rfl | rfl <;> exact id
  have hrecords : handshakeStart.toPublishRecords = .zeroed 2 2 := rfl
  exact ⟨run_ackCallbacks .default hrecords hcalls, by decide +kernel⟩

end FreeMqtt

import FreeMqtt.Core.Replies

/-!
# QoS 2 messages over a lossy connection

A broker that keeps to the handshake, the client, and the connection between them as a step
relation. The connection may be lost with all packets in flight, also with those that the
client's transport has accepted. `Consistent` says message by message that the two parties
agree, and every step keeps it as long as no accepted PUBCOMP is lost; no packet of the broker
is refused then (`exchange_accepts`).
-/

namespace FreeMqtt

open FourWay KeyedList Relation

/-! ## Packets of the broker -/

inductive BrokerPacket
  | publish (packetId : UInt16) (packet : PacketInfo)
  | pubrel (packetId : UInt16)

namespace BrokerPacket

def packetId : BrokerPacket → UInt16
  | .publish packetId _ | .pubrel packetId => packetId

def request : BrokerPacket → Request
  | .publish .. => .offer
  | .pubrel _ => .release

/-- The packet given to its handler. -/
def handled (c : Config) (s : Sys) : BrokerPacket → Status × Sys
  | .publish _ packet => handleIncomingPublish c s packet
  | .pubrel packetId => handlePublishAcks c s (ackInfo .pubrel packetId)

/-- A PUBLISH is a well-formed packet of QoS 2, with any other flags and any payload. -/
def WellFormed : BrokerPacket → Prop
  | .publish packetId packet => packetId ≠ 0 ∧ ∃ info,
      mqttDeserializePublish packet = (.success, some packetId, info) ∧ info.qos = .qos2
  | .pubrel packetId => packetId ≠ 0

/-- A PUBLISH of a message that is not known finds a free slot. -/
def HasRoom (records : List PubAckInfo) : BrokerPacket → Prop
  | .publish packetId _ => liveRecord records packetId = none → FreeSlot records
  | .pubrel _ => True

/-- A packet that the handshake accepts at the stage of its message is replied to. -/
theorem handled_replied (c : Config) {s : Sys} (ht : QoS2Table s.incomingPublishRecords)
    {p : BrokerPacket} (hp : p.WellFormed) (hroom : p.HasRoom s.incomingPublishRecords)
    (haccepted : FourWay.handle true (stage s.incomingPublishRecords p.packetId) p.request ≠ none) :
    ∃ (sent : Bool) (stage' : Option Stage),
      FourWay.handle sent (stage s.incomingPublishRecords p.packetId) p.request = some stage' ∧
      Replied s (p.handled c s) p.packetId p.request.reply sent stage' (Quiet s) := by
  cases p with
  | publish packetId packet =>
    obtain ⟨hid, info, hpacket, hqos⟩ := hp
    refine handleIncomingPublish_replied c ht hid hpacket hqos hroom fun hstage => ?_
    change FourWay.handle true (stage s.incomingPublishRecords packetId) .offer ≠ none at haccepted
    rw [hstage] at haccepted
    exact haccepted rfl
  | pubrel packetId =>
    change FourWay.handle true (stage s.incomingPublishRecords packetId) .release ≠ none
      at haccepted
    have hstage : stage s.incomingPublishRecords packetId = some .confirmed ∨
        stage s.incomingPublishRecords packetId = some .released := by
      revert haccepted
      generalize stage s.incomingPublishRecords packetId = stage
      rcases stage with _ | _ | _ | _ <;> simp [FourWay.handle]
    obtain ⟨sent, hreplied⟩ := handlePublishAcks_replied c ht hp hstage
    refine ⟨sent, _, ?_, hreplied⟩
    change FourWay.handle sent (stage s.incomingPublishRecords packetId) .release = _
    rcases hstage with h | h <;> rw [h] <;> rfl

end BrokerPacket

/-! ## The system -/

/-- The client, what the broker waits for in each message, and the packets in flight. `lost` is
a ghost field with the replies that the client's transport accepted but did not deliver. -/
structure Exchange where
  client : Sys
  phase : UInt16 → Phase
  up : Bool
  toClient : List BrokerPacket
  toBroker : List (UInt16 × Reply)
  lost : List (UInt16 × Reply)

/-- The start, with no message. -/
def Exchange.start (client : Sys) : Exchange := ⟨client, fun _ => .idle, true, [], [], []⟩

/-- The requests for a message among packets of the broker. -/
def requestsFor (packetId : UInt16) (packets : List BrokerPacket) : List Request :=
  packets.filterMap fun p => if p.packetId = packetId then some p.request else none

/-- The replies for a message. -/
def repliesFor (packetId : UInt16) (replies : List (UInt16 × Reply)) : List Reply :=
  replies.filterMap fun r => if r.1 = packetId then some r.2 else none

/-- The client handles a packet. Its replies are in flight as long as the connection is up. -/
def Exchange.receive (c : Config) (x : Exchange) (p : BrokerPacket) (packets : List BrokerPacket) :
    Exchange :=
  let s := (p.handled c x.client).2
  let replies := (s.log.drop x.client.log.length).filterMap replyOf
  { x with
    client := s
    toClient := packets
    toBroker := x.toBroker ++ if x.up then replies else []
    lost := x.lost ++ if x.up then [] else replies }

/-- The broker gets a reply. -/
def Exchange.take (x : Exchange) (packetId : UInt16) (reply : Reply)
    (replies : List (UInt16 × Reply)) : Exchange :=
  let taken := (x.phase packetId).take reply
  { x with
    phase := Function.update x.phase packetId taken.1
    toClient := x.toClient ++ taken.2.map fun _ => .pubrel packetId
    toBroker := replies }

inductive ExchangeStep (c : Config) (x : Exchange) : Exchange → Prop
  /-- the broker sends a new message, with a packet id that is not in use -/
  | publish (packetId : UInt16) (packet : PacketInfo) (hup : x.up = true)
      (hidle : x.phase packetId = .idle) (hp : (BrokerPacket.publish packetId packet).WellFormed) :
      ExchangeStep c x { x with
        phase := Function.update x.phase packetId .offering
        toClient := x.toClient ++ [.publish packetId packet] }
  | receive (p : BrokerPacket) (packets : List BrokerPacket) (h : x.toClient = p :: packets)
      (hroom : p.HasRoom x.client.incomingPublishRecords) :
      ExchangeStep c x (x.receive c p packets)
  | take (packetId : UInt16) (reply : Reply) (replies : List (UInt16 × Reply))
      (h : x.toBroker = (packetId, reply) :: replies) :
      ExchangeStep c x (x.take packetId reply replies)
  /-- the connection is lost; the client may have received some packets that it did not handle -/
  | lose (kept : List BrokerPacket) (h : kept <+: x.toClient) :
      ExchangeStep c x { x with
        up := false
        toClient := kept
        toBroker := []
        lost := x.lost ++ x.toBroker }
  /-- the session is resumed, and the broker sends each packet that is not acknowledged -/
  | connect (pConnectInfo : Option ConnectInfo) (pWillInfo : Option PublishInfo)
      (timeoutMs : UInt32) (resent : List BrokerPacket) (hdown : x.up = false)
      (hok : (mqttConnect c x.client pConnectInfo pWillInfo timeoutMs).1 = .success)
      (hpresent : (mqttConnect c x.client pConnectInfo pWillInfo timeoutMs).2.1 = some true)
      (hwell : ∀ p ∈ resent, p.WellFormed)
      (hresent : ∀ packetId, requestsFor packetId resent = (x.phase packetId).request.toList) :
      ExchangeStep c x { x with
        client := (mqttConnect c x.client pConnectInfo pWillInfo timeoutMs).2.2
        up := true
        toClient := resent }
  /-- the client does something else, as a call of the application or another packet -/
  | elsewhere (s : Sys) (h : Elsewhere x.client s) : ExchangeStep c x { x with client := s }

/-! ## Agreement -/

/-- The parties agree about every message. -/
structure Consistent (x : Exchange) : Prop where
  table : QoS2Table x.client.incomingPublishRecords
  wellFormed : ∀ p ∈ x.toClient, p.WellFormed
  zero : x.phase 0 = .idle
  down : x.up = false → x.toBroker = []
  agree : ∀ packetId, Agree (x.phase packetId) (stage x.client.incomingPublishRecords packetId)
    (requestsFor packetId x.toClient) (repliesFor packetId x.toBroker)

@[simp] theorem requestsFor_append (packetId : UInt16) (l l' : List BrokerPacket) :
    requestsFor packetId (l ++ l') = requestsFor packetId l ++ requestsFor packetId l' :=
  List.filterMap_append ..

@[simp] theorem repliesFor_append (packetId : UInt16) (l l' : List (UInt16 × Reply)) :
    repliesFor packetId (l ++ l') = repliesFor packetId l ++ repliesFor packetId l' :=
  List.filterMap_append ..

theorem requestsFor_cons (packetId : UInt16) (p : BrokerPacket) (l : List BrokerPacket) :
    requestsFor packetId (p :: l) =
      if p.packetId = packetId then p.request :: requestsFor packetId l
      else requestsFor packetId l := by
  simp only [requestsFor, List.filterMap_cons]
  split <;> simp_all

theorem repliesFor_cons (packetId : UInt16) (r : UInt16 × Reply) (l : List (UInt16 × Reply)) :
    repliesFor packetId (r :: l) =
      if r.1 = packetId then r.2 :: repliesFor packetId l else repliesFor packetId l := by
  simp only [repliesFor, List.filterMap_cons]
  split <;> simp_all

theorem requestsFor_taken (packetId id : UInt16) (phase : Phase) (reply : Reply) :
    requestsFor packetId ((phase.take reply).2.map fun _ => .pubrel id) =
      if id = packetId then (phase.take reply).2 else [] := by
  have hrelease : (phase.take reply).2 = [] ∨ (phase.take reply).2 = [.release] := by
    cases phase <;> cases reply <;> simp [Phase.take]
  rcases hrelease with h | h
  · rw [h]
    simp [requestsFor]
  · rw [h]
    simp only [List.map_cons, List.map_nil, requestsFor_cons]
    rfl

theorem consistent_start {client : Sys} {n : Nat}
    (hempty : client.incomingPublishRecords = List.replicate n .zero) :
    Consistent (.start client) := by
  have htable : Table .incoming (holes n) := table_holes .incoming n
  have hnone : ∀ packetId, liveRecord (holes n) packetId = none := fun packetId => by
    simp [liveRecord, KeyedList.lookup]
  refine ⟨?_, by simp [Exchange.start], rfl, fun h => absurd h (by simp [Exchange.start]),
    fun packetId => ?_⟩
  · change QoS2Table client.incomingPublishRecords
    rw [hempty]
    exact .of_lookup htable fun packetId r hr => absurd (hr.symm.trans (hnone packetId)) (by simp)
  · change Agree .idle (stage client.incomingPublishRecords packetId) [] []
    have hstage : stage client.incomingPublishRecords packetId = none := by
      rw [hempty, stage, show liveRecord (List.replicate n PubAckInfo.zero) packetId = none from
        hnone packetId, Option.bind_none]
    rw [hstage]
    exact .idle

/-- The client handles a packet: it is accepted and replied to, and the parties agree as long as no
PUBCOMP is lost. -/
theorem Consistent.receive (c : Config) {x : Exchange} (h : Consistent x) {p : BrokerPacket}
    {packets : List BrokerPacket} (hhead : x.toClient = p :: packets)
    (hroom : p.HasRoom x.client.incomingPublishRecords) :
    (∃ sent stage', Replied x.client (p.handled c x.client) p.packetId p.request.reply sent stage'
      (Quiet x.client)) ∧
    ((∀ packetId, (packetId, Reply.complete) ∉ (x.receive c p packets).lost) →
      Consistent (x.receive c p packets)) := by
  have hp : p.WellFormed := h.wellFormed p (by simp [hhead])
  have hagree := h.agree p.packetId
  rw [hhead, requestsFor_cons, if_pos rfl] at hagree
  obtain ⟨stage₁, haccepted, -⟩ := hagree.handle true
  obtain ⟨sent, stage', hhandle, hreplied⟩ :=
    BrokerPacket.handled_replied c h.table hp hroom (by simp [haccepted])
  refine ⟨⟨sent, stage', hreplied⟩, fun hlost => ?_⟩
  obtain ⟨events, hlog, hreplies, -⟩ := hreplied.log
  obtain ⟨stage₂, hhandle₂, hafter⟩ := hagree.handle sent
  obtain rfl : stage₂ = stage' := Option.some.inj (hhandle₂.symm.trans hhandle)
  have hsent : ((p.handled c x.client).2.log.drop x.client.log.length).filterMap replyOf =
      if sent then [(p.packetId, p.request.reply)] else [] := by
    rw [hlog, List.drop_left, hreplies]
  simp only [Exchange.receive, hsent] at hlost ⊢
  -- the other messages are as before
  have hothers : ∀ packetId, p.packetId ≠ packetId → Agree (x.phase packetId)
      (stage (p.handled c x.client).2.incomingPublishRecords packetId)
      (requestsFor packetId packets) (repliesFor packetId x.toBroker) := by
    intro packetId hne
    have hother := h.agree packetId
    rw [hhead, requestsFor_cons, if_neg hne] at hother
    rwa [hreplied.stage, if_neg (Ne.symm hne)]
  refine ⟨hreplied.table, fun q hq => h.wellFormed q (by simp [hhead, hq]), h.zero,
    fun hdown => ?_, fun packetId => ?_⟩
  · change x.up = false at hdown
    simp [h.down hdown, hdown]
  by_cases hid : p.packetId = packetId
  · subst hid
    dsimp only
    rw [hreplied.stage, if_pos rfl]
    cases hup : x.up with
    | true =>
      have hsame : repliesFor p.packetId (x.toBroker ++ if sent then
          [(p.packetId, p.request.reply)] else []) =
            if sent then repliesFor p.packetId x.toBroker ++ [p.request.reply]
            else repliesFor p.packetId x.toBroker := by
        cases sent <;> simp [repliesFor]
      rwa [if_pos rfl, hsame]
    | false =>
      have hnone : repliesFor p.packetId x.toBroker = [] := by rw [h.down hup]; rfl
      rw [hnone, List.nil_append] at hafter
      rw [if_neg (by simp), List.append_nil, hnone]
      refine hafter.lose ?_ List.prefix_rfl
      cases sent with
      | false => simp
      | true =>
        have hkept := hlost p.packetId
        rw [hup] at hkept
        intro hin
        rw [if_pos rfl, List.mem_singleton] at hin
        exact hkept (by simp [← hin])
  · have hsame : repliesFor packetId (x.toBroker ++ if x.up then if sent then
        [(p.packetId, p.request.reply)] else [] else []) = repliesFor packetId x.toBroker := by
      cases x.up <;> cases sent <;> simp [repliesFor, hid]
    dsimp only
    rw [hsame]
    exact hothers packetId hid

/-- The broker sends a new message. -/
theorem Consistent.publish {x : Exchange} (h : Consistent x) {packetId : UInt16}
    {packet : PacketInfo} (hidle : x.phase packetId = .idle)
    (hp : (BrokerPacket.publish packetId packet).WellFormed) :
    Consistent { x with
      phase := Function.update x.phase packetId .offering
      toClient := x.toClient ++ [.publish packetId packet] } := by
  refine ⟨h.table, fun q hq => ?_, ?_, h.down, fun id => ?_⟩
  · rcases List.mem_append.1 hq with hq | hq
    · exact h.wellFormed q hq
    · rw [List.mem_singleton.1 hq]
      exact hp
  · exact (Function.update_of_ne (Ne.symm hp.1) _ _).trans h.zero
  · have hagree := h.agree id
    have hnew : (BrokerPacket.publish packetId packet).packetId = packetId := rfl
    dsimp only
    rw [requestsFor_append, requestsFor_cons, hnew]
    by_cases hid : id = packetId
    · subst hid
      rw [hidle] at hagree
      rw [Function.update_self, if_pos rfl]
      exact hagree.start
    · rw [Function.update_of_ne hid, if_neg (Ne.symm hid)]
      simpa [requestsFor] using hagree

/-- No reply is on the connection for a message that was not sent. -/
theorem Consistent.packetId_ne {x : Exchange} (h : Consistent x) {packetId : UInt16} {reply : Reply}
    {replies : List (UInt16 × Reply)} (hhead : x.toBroker = (packetId, reply) :: replies) :
    packetId ≠ 0 := by
  rintro rfl
  have hagree := h.agree 0
  rw [h.zero, hhead, repliesFor_cons, if_pos rfl] at hagree
  exact absurd hagree.replies_of_idle (by simp)

/-- The broker gets a reply. -/
theorem Consistent.take {x : Exchange} (h : Consistent x) {packetId : UInt16} {reply : Reply}
    {replies : List (UInt16 × Reply)} (hhead : x.toBroker = (packetId, reply) :: replies) :
    Consistent (x.take packetId reply replies) := by
  have hpacket := h.packetId_ne hhead
  refine ⟨h.table, fun q hq => ?_, ?_, fun hdown => ?_, fun id => ?_⟩
  · rcases List.mem_append.1 hq with hq | hq
    · exact h.wellFormed q hq
    · obtain ⟨-, -, rfl⟩ := List.mem_map.1 hq
      exact hpacket
  · exact (Function.update_of_ne (Ne.symm hpacket) _ _).trans h.zero
  · have hnil := h.down hdown
    rw [hhead] at hnil
    exact absurd hnil (by simp)
  · have hagree := h.agree id
    rw [hhead, repliesFor_cons] at hagree
    unfold Exchange.take
    dsimp only
    rw [requestsFor_append, requestsFor_taken]
    by_cases hid : id = packetId
    · subst hid
      rw [if_pos rfl] at hagree ⊢
      rw [Function.update_self]
      exact hagree.take
    · rw [if_neg (Ne.symm hid)] at hagree ⊢
      rwa [Function.update_of_ne hid, List.append_nil]

/-- The connection is lost, and no PUBCOMP on it. -/
theorem Consistent.lose {x : Exchange} (h : Consistent x) {kept : List BrokerPacket}
    (hkept : kept <+: x.toClient)
    (hlost : ∀ packetId, (packetId, Reply.complete) ∉ x.lost ++ x.toBroker) :
    Consistent { x with
      up := false
      toClient := kept
      toBroker := []
      lost := x.lost ++ x.toBroker } := by
  refine ⟨h.table, fun q hq => h.wellFormed q (hkept.subset hq), h.zero, fun _ => rfl, fun id => ?_⟩
  refine (h.agree id).lose (fun hin => ?_) (hkept.filterMap _)
  obtain ⟨r, hr, heq⟩ := List.mem_filterMap.1 hin
  split at heq
  · rename_i hid
    refine hlost id (List.mem_append_right _ ?_)
    rwa [← Option.some.inj heq, ← hid]
  · exact absurd heq (by simp)

/-- Every step keeps the agreement, as long as no accepted PUBCOMP is lost. -/
theorem ExchangeStep.consistent {c : Config} {x x' : Exchange} (hstep : ExchangeStep c x x')
    (h : Consistent x) (hlost : ∀ packetId, (packetId, Reply.complete) ∉ x'.lost) :
    Consistent x' := by
  cases hstep with
  | publish packetId packet hup hidle hp => exact h.publish hidle hp
  | receive p packets hhead hroom => exact (h.receive c hhead hroom).2 hlost
  | take packetId reply replies hhead => exact h.take hhead
  | lose kept hkept => exact h.lose hkept hlost
  | connect pConnectInfo pWillInfo timeoutMs resent hdown hok hpresent hwell hresent =>
    have hincoming := (mqttConnect_elsewhere c x.client pConnectInfo pWillInfo timeoutMs
      fun _ => hpresent).incoming
    refine ⟨hincoming ▸ h.table, hwell, h.zero, fun hup => absurd hup (by simp), fun id => ?_⟩
    have hagree := h.agree id
    have hnone : repliesFor id x.toBroker = [] := by rw [h.down hdown]; rfl
    dsimp only
    rw [hincoming, hresent, hnone]
    rw [hnone] at hagree
    exact hagree.resend
  | elsewhere s helse =>
    refine ⟨?_, h.wellFormed, h.zero, h.down, fun id => ?_⟩
    · exact helse.incoming ▸ h.table
    · dsimp only
      rw [helse.incoming]
      exact h.agree id

theorem ExchangeStep.lost_subset {c : Config} {x x' : Exchange} (hstep : ExchangeStep c x x') :
    x.lost ⊆ x'.lost := by
  cases hstep with
  | publish => exact List.Subset.refl _
  | receive => exact List.subset_append_left ..
  | take => exact List.Subset.refl _
  | lose => exact List.subset_append_left ..
  | connect => exact List.Subset.refl _
  | elsewhere => exact List.Subset.refl _

theorem consistent_of_steps {c : Config} {x₀ x : Exchange} (hrun : ReflTransGen (ExchangeStep c) x₀ x)
    (h : Consistent x₀) (hlost : ∀ packetId, (packetId, Reply.complete) ∉ x.lost) : Consistent x := by
  induction hrun with
  | refl => exact h
  | tail _ hstep ih =>
    exact hstep.consistent (ih fun packetId hin => hlost packetId (hstep.lost_subset hin)) hlost

/-! ## Acceptance -/

/-- In every run in which no PUBCOMP is lost that the client's transport had accepted, the packet
that the broker sent first is accepted, and answered as long as the client is connected. -/
theorem exchange_accepts (c : Config) {client : Sys} {n : Nat}
    (hempty : client.incomingPublishRecords = List.replicate n .zero) {x : Exchange}
    (hrun : ReflTransGen (ExchangeStep c) (.start client) x)
    (hlost : ∀ packetId, (packetId, Reply.complete) ∉ x.lost) {p : BrokerPacket}
    {packets : List BrokerPacket} (hhead : x.toClient = p :: packets)
    (hroom : p.HasRoom x.client.incomingPublishRecords) :
    let handled := p.handled c x.client
    handled.1 ∉ [Status.badResponse, .illegalState] ∧
      (Quiet x.client ∨ handled.2.connectStatus = .connected → ∃ n stop,
        .sent (.ack (ackTypeOf p.request.reply) p.packetId)
          (ackPacket (ackTypeOf p.request.reply) p.packetId) n stop ∈
            handled.2.log.drop x.client.log.length) := by
  have h := consistent_of_steps hrun (consistent_start hempty) hlost
  obtain ⟨⟨sent, stage', hreplied⟩, -⟩ := h.receive c hhead hroom
  obtain ⟨events, hlog, -, htried⟩ := hreplied.log
  refine ⟨hreplied.status, fun hready => ?_⟩
  rw [hlog, List.drop_left]
  exact htried hready

/-! ## Two runs -/

/-- The exchange after the connection is lost, the client disconnects, and the session is resumed. -/
def Exchange.resumed (c : Config) (x : Exchange) (resent : List BrokerPacket) : Exchange :=
  { x with
    client := (mqttConnect c (mqttDisconnect c x.client).2 (some resumingInfo) none 1000).2.2
    up := true
    toClient := resent
    toBroker := []
    lost := x.lost ++ x.toBroker }

theorem exchange_resumes {c : Config} {x : Exchange} {resent : List BrokerPacket}
    (hok : (mqttConnect c (mqttDisconnect c x.client).2 (some resumingInfo) none 1000).1 = .success)
    (hpresent : (mqttConnect c (mqttDisconnect c x.client).2 (some resumingInfo) none 1000).2.1 =
      some true)
    (hwell : ∀ p ∈ resent, p.WellFormed)
    (hresent : ∀ packetId, requestsFor packetId resent = (x.phase packetId).request.toList) :
    ReflTransGen (ExchangeStep c) x (x.resumed c resent) := by
  have hdisconnect : Elsewhere x.client (mqttDisconnect c x.client).2 :=
    (mqttDisconnect_requests c x.client).elsewhere
  refine ((ReflTransGen.single (.lose [] List.nil_prefix)).tail
    (.elsewhere _ hdisconnect)).tail ?_
  exact .connect (some resumingInfo) none 1000 resent rfl hok hpresent hwell hresent

/-- The exchange after the broker has sent its first message and the client has handled it. -/
def firstExchange : Exchange :=
  let x := Exchange.start (mqttConnect .default (storingClient []) (some resumingInfo) none 1000).2.2
  { x with
    phase := Function.update x.phase 1 .offering
    toClient := [.publish 1 publishOne] }.receive .default (.publish 1 publishOne) []

theorem wellFormed_publishOne : (BrokerPacket.publish 1 publishOne).WellFormed :=
  ⟨by decide, _, rfl, rfl⟩

theorem exchange_first : ReflTransGen (ExchangeStep .default)
    (.start (mqttConnect .default (storingClient []) (some resumingInfo) none 1000).2.2)
    firstExchange :=
  (ReflTransGen.single (.publish 1 publishOne rfl rfl wellFormed_publishOne)).tail
    (.receive _ [] rfl fun _ => by decide)

/-- A packet resent for the only message in progress. -/
theorem requestsFor_only {p : BrokerPacket} {phase : UInt16 → Phase}
    (hphase : (phase p.packetId).request = some p.request)
    (hidle : ∀ packetId, packetId ≠ p.packetId → phase packetId = .idle) (packetId : UInt16) :
    requestsFor packetId [p] = (phase packetId).request.toList := by
  rw [requestsFor_cons]
  by_cases hid : p.packetId = packetId
  · rw [if_pos hid, ← hid, hphase]
    rfl
  · rw [if_neg hid, hidle packetId (Ne.symm hid)]
    rfl

/-- `exchange_accepts` after the PUBREC is lost: the PUBLISH that the broker sends once more is
answered. -/
theorem exchange_accepts_duplicate :
    let x := firstExchange.resumed .default [.publish 1 publishOne]
    (handleIncomingPublish .default x.client publishOne).1 ∉ [Status.badResponse, .illegalState] ∧
      x.lost = [(1, .confirm)] := by
  intro x
  have hlost : x.lost = [(1, .confirm)] := by decide
  have hresent := @requestsFor_only (.publish 1 publishOne) firstExchange.phase rfl
    fun packetId hne => Function.update_of_ne hne _ _
  have hrun : ReflTransGen (ExchangeStep .default) _ x := exchange_first.trans
    (exchange_resumes (by decide) (by decide) (by simpa using wellFormed_publishOne) hresent)
  exact ⟨(exchange_accepts .default (n := 2) rfl hrun (by simp [hlost]) rfl
    fun _ => by decide).1, hlost⟩

/-- The exchange after the client's transport has accepted the PUBCOMP of the first message. -/
def completedExchange : Exchange :=
  (firstExchange.take 1 .confirm []).receive .default (.pubrel 1) []

/-- The PUBCOMP is lost with the connection. The client has dropped its record, and refuses the
PUBREL that the broker sends once more. -/
theorem not_exchange_accepts_lost :
    let x := completedExchange.resumed .default [.pubrel 1]
    let handled := handlePublishAcks .default x.client (ackInfo .pubrel 1)
    ReflTransGen (ExchangeStep .default)
        (.start (mqttConnect .default (storingClient []) (some resumingInfo) none 1000).2.2) x ∧
      x.lost = [(1, .complete)] ∧ x.toClient = [.pubrel 1] ∧ Quiet x.client ∧
      handled.1 = .badResponse ∧ handled.2.log = x.client.log := by
  intro x handled
  have hresent := @requestsFor_only (.pubrel 1) completedExchange.phase rfl
    fun packetId hne => (Function.update_of_ne hne _ _).trans (Function.update_of_ne hne _ _)
  refine ⟨?_, by decide, rfl, ⟨by decide, by decide⟩, by decide, by decide⟩
  have hcompleted : ReflTransGen (ExchangeStep .default) firstExchange completedExchange :=
    (ReflTransGen.single (.take 1 .confirm [] (by decide))).tail
      (.receive (.pubrel 1) [] rfl trivial)
  exact (exchange_first.trans hcompleted).trans (exchange_resumes (by decide) (by decide)
    (by simp [BrokerPacket.WellFormed]) hresent)

end FreeMqtt

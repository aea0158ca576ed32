import FreeMqtt.Core.DownlinkEffects

/-!
# Publishes from a server over a lossy connection

A server that hands its messages over one at a time for each packet id, the client, and the
connection between them as a state. `Downlink.perform` is one operation of the client, with the
request that it takes from the connection, the replies that it puts there and the messages that it
gives to the application. `Consistent` says for every packet id that the three agree; an operation
of a run keeps it (`Downlink.perform_consistent`), if it acknowledges what is due (`Downlink.Fits`).
-/

namespace FreeMqtt

open Handover KeyedList Moments

/-! ## The system -/

/-- The client, what the server waits for, and the packets in flight. `started` and `forwarded` are
ghost fields: the messages of the server, and those that the client gave to the application, in
order. -/
structure Downlink where
  client : Sys
  phase : UInt16 → Phase Message
  /-- a packet of the client on the connection is incomplete -/
  broken : Bool
  requests : List (UInt16 × Request Message)
  replies : List (UInt16 × Reply)
  started : List (UInt16 × Message)
  forwarded : List (UInt16 × Message)

namespace Downlink

/-- The start, with no message. -/
def start (client : Sys) : Downlink := ⟨client, fun _ => .idle, false, [], [], [], []⟩

/-- An operation of the client. -/
def perform (c : Config) (x : Downlink) (operation : Operation) : Downlink :=
  let s := operation.run c x.client
  let events := s.log.drop x.client.log.length
  let broken := x.broken && !operation.reconnects
  { x with
    client := s
    broken := broken || events.any Event.incomplete
    requests :=
      if operation.reconnects then []
      else if operation.received = none then x.requests
      else x.requests.tail
    replies :=
      (if operation.reconnects then [] else x.replies) ++
        if broken then [] else events.filterMap Event.reply
    forwarded := x.forwarded ++ events.filterMap Event.message }

/-- What is asked of an operation: a packet of a message that it handles is the one that the server
sent first, and a new connection does not discard the session. -/
structure Admits (c : Config) (x : Downlink) (operation : Operation) : Prop where
  received : ∀ request ∈ operation.received, x.requests.head? = some request
  keeps : operation.reconnects = true → ∀ packetId,
    (operation.run c x.client).incoming packetId = x.client.incoming packetId

instance (c : Config) (x : Downlink) (operation : Operation) : Decidable (x.Admits c operation) :=
  decidable_of_iff
    ((∀ request ∈ operation.received, x.requests.head? = some request) ∧
      (operation.reconnects = true → ∀ r ∈ live (operation.run c x.client).incomingPublishRecords ++
          live x.client.incomingPublishRecords,
        (operation.run c x.client).incoming r.packetId = x.client.incoming r.packetId))
    ⟨fun h => ⟨h.1, fun hreconnects => lookup_eq_iff.2 (h.2 hreconnects)⟩,
      fun h => ⟨h.received, fun hreconnects => lookup_eq_iff.1 (h.keeps hreconnects)⟩⟩

/-! ## Agreement -/

/-- What the client holds of the message that the server waits for. -/
inductive Holds (s : Sys) (packetId : UInt16) : Phase Message → (held : Bool) → Prop
  | nothing {phase : Phase Message} (h : s.incoming packetId = none) : Holds s packetId phase false
  | offered (m : Message) (r : PubAckInfo) (hr : s.incoming packetId = some r)
      (hqos : r.qos = m.qos) : Holds s packetId (.offering m) true
  | released (r : PubAckInfo) (hr : s.incoming packetId = some r) (hqos : r.qos = .qos2) :
      Holds s packetId .releasing true

section Holding

variable {s s' : Sys} {packetId : UInt16} {phase : Phase Message} {held : Bool}

theorem Holds.congr (h : Holds s packetId phase held)
    (hrecord : s'.incoming packetId = s.incoming packetId) : Holds s' packetId phase held := by
  cases h with
  | nothing h => exact .nothing (hrecord.trans h)
  | offered m r hr hqos => exact .offered m r (hrecord.trans hr) hqos
  | released r hr hqos => exact .released r (hrecord.trans hr) hqos

theorem Holds.eq_false (h : Holds s packetId phase held) (hnone : s.incoming packetId = none) :
    held = false := by
  cases h with
  | nothing => rfl
  | offered m r hr => exact nomatch hnone.symm.trans hr
  | released r hr => exact nomatch hnone.symm.trans hr

theorem Holds.eq_true {r : PubAckInfo} (h : Holds s packetId phase held)
    (hr : s.incoming packetId = some r) : held = true := by
  cases h with
  | nothing hnone => exact nomatch hnone.symm.trans hr
  | offered => rfl
  | released => rfl

theorem Holds.qos_eq {m : Message} {r : PubAckInfo} (h : Holds s packetId (.offering m) held)
    (hr : s.incoming packetId = some r) : r.qos = m.qos := by
  cases h with
  | nothing hnone => exact nomatch hnone.symm.trans hr
  | offered _ r' hr' hqos =>
    obtain rfl := Option.some.inj (hr.symm.trans hr')
    exact hqos

end Holding

/-- The parties agree, for a client that may hold any message. -/
abbrev Agreed : Phase Message → (held : Bool) → List (Request Message) → List Reply →
    (started forwarded : List Message) → Prop :=
  Agree Message.Once fun _ => True

/-- The parties agree about the messages of a packet id. -/
def AgreesOn (x : Downlink) (packetId : UInt16) : Prop :=
  ∃ held, Holds x.client packetId (x.phase packetId) held ∧
    Agreed (x.phase packetId) held (valuesFor packetId x.requests)
      (valuesFor packetId x.replies) (valuesFor packetId x.started)
      (valuesFor packetId x.forwarded)

/-- The parties agree about all messages. -/
structure Consistent (x : Downlink) : Prop where
  table : Table .incoming x.client.incomingPublishRecords
  agree : ∀ packetId, x.AgreesOn packetId

/-- No packet of a packet id is in flight. -/
def Clear (x : Downlink) (packetId : UInt16) : Prop :=
  valuesFor packetId x.requests = [] ∧ valuesFor packetId x.replies = []

/-- A reply is due to the server, in this phase and with this record. -/
inductive Due (phase : Phase Message) (r : PubAckInfo) : Reply → Prop
  | acknowledge (m : Message) (hphase : phase = .offering m) (hm : ¬ m.Once) :
      Due phase r .acknowledge
  | confirm (m : Message) (hphase : phase = .offering m) (hm : m.Once) : Due phase r .confirm
  | complete (hphase : phase = .releasing) (hstate : r.publishState = .pubCompSend) :
      Due phase r .complete

/-- A reply is due for the record of a packet id of which nothing is in flight. -/
def Ready (x : Downlink) (packetId : UInt16) (reply : Reply) : Prop :=
  (∃ r, x.client.incoming packetId = some r ∧ Due (x.phase packetId) r reply) ∧ x.Clear packetId

/-- An acknowledgement is due. -/
def Fits (x : Downlink) : Operation → Prop
  | .acknowledge packetId state =>
      ∀ reply, (ackToSend state).bind serverReply = some reply → x.Ready packetId reply
  | _ => True

/-! ## The connection during an operation -/

section Perform

variable {c : Config} {x : Downlink} {operation : Operation}

theorem perform_exchanged {replies : List (UInt16 × Reply)} {messages : List (UInt16 × Message)}
    (h : Exchanged x.client (operation.run c x.client) replies messages) :
    (∃ sent, (sent = [] ∨ sent = replies) ∧ (x.perform c operation).replies =
      (if operation.reconnects then [] else x.replies) ++ sent) ∧
    (x.perform c operation).forwarded = x.forwarded ++ messages := by
  obtain ⟨events, hlog, rfl, rfl⟩ := h
  have hdrop : (operation.run c x.client).log.drop x.client.log.length = events := by
    rw [hlog, List.drop_left]
  unfold perform
  dsimp only
  rw [hdrop]
  refine ⟨⟨_, ?_, rfl⟩, rfl⟩
  split
  · exact .inl rfl
  · exact .inr rfl

theorem received_of_reconnects (h : operation.reconnects = true) : operation.received = none := by
  cases operation with
  | establish _ _ _ => rfl
  | _ => cases h

/-- The first request is taken. -/
theorem Admits.requests_eq (h : x.Admits c operation) {request : UInt16 × Request Message}
    (hreceived : operation.received = some request) :
    x.requests = request :: (x.perform c operation).requests ∧ operation.reconnects = false := by
  have hreconnects : operation.reconnects = false := by
    by_contra hreconnects
    rw [received_of_reconnects (Bool.eq_true_of_not_eq_false hreconnects)] at hreceived
    cases hreceived
  refine ⟨?_, hreconnects⟩
  have hhead := h.received request hreceived
  unfold perform
  dsimp only
  rw [hreconnects, if_neg Bool.false_ne_true, hreceived, if_neg (by simp)]
  exact List.eq_cons_of_mem_head? hhead

section Link

variable (hadmits : x.Admits c operation) {packetId : UInt16} {phase : Phase Message} {held : Bool}
  {started forwarded : List Message}
  (h : Agreed phase held (valuesFor packetId x.requests) (valuesFor packetId x.replies) started
    forwarded)

include hadmits h

/-- Nothing is done about a message: its packets may be lost, or a request is not answered. -/
theorem agreed_kept : Agreed phase held (valuesFor packetId (x.perform c operation).requests)
    (valuesFor packetId (if operation.reconnects then [] else x.replies)) started forwarded := by
  cases hreceived : operation.received with
  | some request =>
    obtain ⟨hrequests, hreconnects⟩ := hadmits.requests_eq hreceived
    rw [hreconnects, if_neg Bool.false_ne_true]
    obtain ⟨id, request⟩ := request
    rw [hrequests] at h
    by_cases hid : id = packetId
    · rw [hid, valuesFor_cons_self] at h
      exact h.drop
    · rwa [valuesFor_cons_of_ne hid] at h
  | none =>
    unfold perform
    dsimp only
    rw [if_pos hreceived]
    split
    · exact h.lose List.nil_prefix List.nil_prefix
    · exact h

/-- The request of a message is taken. -/
theorem agreed_received {request : Request Message}
    (hreceived : operation.received = some (packetId, request)) :
    Agreed phase held (request :: valuesFor packetId (x.perform c operation).requests)
      (valuesFor packetId x.replies) started forwarded := by
  obtain ⟨hrequests, -⟩ := hadmits.requests_eq hreceived
  rwa [hrequests, valuesFor_cons_self] at h

end Link

/-! ## One packet id -/

section One

variable {replies : List (UInt16 × Reply)} {messages : List (UInt16 × Message)}
  (hexchanged : Exchanged x.client (operation.run c x.client) replies messages)
  (hadmits : x.Admits c operation) {packetId : UInt16} (h : x.AgreesOn packetId)

include hexchanged hadmits h

/-- The client holds the same as before. -/
theorem agreesOn_kept (hreplies : valuesFor packetId replies = [])
    (hmessages : valuesFor packetId messages = [])
    (hrecord : (operation.run c x.client).incoming packetId = x.client.incoming packetId) :
    (x.perform c operation).AgreesOn packetId := by
  obtain ⟨held, hholds, hagree⟩ := h
  obtain ⟨⟨sent, hsent, heq⟩, hforwarded⟩ := perform_exchanged hexchanged
  have hnil : valuesFor packetId sent = [] := by
    rcases hsent with rfl | rfl
    · rfl
    · exact hreplies
  refine ⟨held, hholds.congr hrecord, ?_⟩
  rw [heq, hforwarded, valuesFor_append, valuesFor_append, hnil, hmessages, List.append_nil,
    List.append_nil]
  exact agreed_kept hadmits hagree

/-- The message that the server offers arrives. -/
theorem agreesOn_arrive {info : PublishInfo} (hreplies : replies = [])
    (hmessages : messages = [(packetId, info.message)])
    (hreceived : operation.received = some (packetId, .offer info.message))
    (hnew : x.client.incoming packetId = none)
    (hrecord : (operation.run c x.client).incoming packetId =
      some (firstRecord .incoming packetId info.qos)) :
    (x.perform c operation).AgreesOn packetId := by
  obtain ⟨held, hholds, hagree⟩ := h
  obtain ⟨⟨sent, hsent, heq⟩, hforwarded⟩ := perform_exchanged hexchanged
  obtain rfl : sent = [] := by
    rw [hreplies] at hsent
    exact or_self_iff.1 hsent
  obtain rfl := hholds.eq_false hnew
  have harrived := agreed_received hadmits hagree hreceived
  obtain ⟨hrequests, hnoreplies, hphase⟩ := harrived.requested
  have hphase : x.phase packetId = .offering info.message := hphase
  rw [hrequests, hnoreplies, hphase] at harrived
  refine ⟨true, ?_, ?_⟩
  · show Holds _ packetId (x.phase packetId) true
    rw [hphase]
    exact .offered info.message _ hrecord rfl
  · show Agreed (x.phase packetId) true _ _ (valuesFor packetId x.started) _
    rw [heq, hforwarded, hmessages, (hadmits.requests_eq hreceived).2, if_neg Bool.false_ne_true,
      List.append_nil, valuesFor_append, valuesFor_cons_self, valuesFor_nil, hrequests, hnoreplies,
      hphase]
    exact harrived.arrive trivial

/-- The message that the server releases is released. -/
theorem agreesOn_release {r : PubAckInfo} (hreplies : replies = []) (hmessages : messages = [])
    (hreceived : operation.received = some (packetId, .release))
    (hr : x.client.incoming packetId = some r) (hqos : r.qos = .qos2)
    (hrecord : (operation.run c x.client).incoming packetId =
      some { r with publishState := .pubCompSend }) :
    (x.perform c operation).AgreesOn packetId := by
  obtain ⟨held, hholds, hagree⟩ := h
  obtain ⟨⟨sent, hsent, heq⟩, hforwarded⟩ := perform_exchanged hexchanged
  obtain rfl : sent = [] := by
    rw [hreplies] at hsent
    exact or_self_iff.1 hsent
  obtain rfl := hholds.eq_true hr
  have hreleased := agreed_received hadmits hagree hreceived
  obtain ⟨-, -, hphase⟩ := hreleased.requested
  have hphase : x.phase packetId = .releasing := hphase
  refine ⟨true, ?_, ?_⟩
  · show Holds _ packetId (x.phase packetId) true
    rw [hphase]
    exact .released _ hrecord hqos
  · show Agreed (x.phase packetId) true _ _ (valuesFor packetId x.started) _
    rw [heq, hforwarded, hmessages, (hadmits.requests_eq hreceived).2, if_neg Bool.false_ne_true,
      List.append_nil, List.append_nil]
    exact hreleased.drop

end One

/-! ## Replies -/

section Records

variable {r : PubAckInfo} (hvalid : ValidRecord .incoming r)

include hvalid

theorem ackRecord_acknowledge (hqos : r.qos ≠ .qos2) :
    ackRecord .incoming .puback (some r) = none := by
  obtain ⟨packetId, qos, state⟩ := r
  change qos ≠ .qos2 at hqos
  change state ∈ phases .incoming qos at hvalid
  revert hqos hvalid
  cases qos <;> cases state <;> first
    | exact fun h => absurd rfl h
    | exact fun _ h => absurd h (by decide)
    | exact fun _ _ => rfl

theorem ackRecord_confirm (hqos : r.qos = .qos2) :
    ∃ r', ackRecord .incoming .pubrec (some r) = some r' ∧ r'.qos = r.qos := by
  rw [ackRecord, Option.bind_some]
  cases hreact : react .incoming r (.ack .pubrec) with
  | complete => exact absurd hreact (react_incoming_ne_complete hvalid hqos (by decide))
  | illegal => exact ⟨_, rfl, rfl⟩
  | keep => exact ⟨_, rfl, rfl⟩
  | advance state => exact ⟨_, rfl, rfl⟩

theorem ackRecord_complete (hstate : r.publishState = .pubCompSend) :
    ackRecord .incoming .pubcomp (some r) = none := by
  obtain ⟨packetId, qos, state⟩ := r
  subst hstate
  change .pubCompSend ∈ phases .incoming qos at hvalid
  revert hvalid
  cases qos with
  | qos2 => exact fun _ => rfl
  | _ => exact fun h => absurd h (by decide)

end Records

/-- The acknowledgement of a reply that is due leaves a record that the server agrees with, whether
or not the reply gets to the connection. -/
theorem agreed_reply {s s' : Sys} {packetId : UInt16} {phase : Phase Message} {held : Bool}
    {started forwarded : List Message} (hholds : Holds s packetId phase held)
    (hagree : Agreed phase held [] [] started forwarded) {packetType : PubAckType} {reply : Reply}
    (hreply : serverReply packetType = some reply) {r : PubAckInfo}
    (hvalid : ValidRecord .incoming r) (hr : s.incoming packetId = some r) (hdue : Due phase r reply)
    (hrecord : s'.incoming packetId = ackRecord .incoming packetType (some r)) {sent : List Reply}
    (hsent : sent = [] ∨ sent = [reply]) :
    ∃ held', Holds s' packetId phase held' ∧ Agreed phase held' [] sent started forwarded := by
  obtain rfl := hholds.eq_true hr
  cases hdue with
  | acknowledge m hphase hm =>
    subst hphase
    obtain rfl : packetType = .puback := by
      revert hreply
      cases packetType <;> simp [serverReply]
    have hnone := ackRecord_acknowledge hvalid fun hqos => hm ((hholds.qos_eq hr).symm.trans hqos)
    refine ⟨false, .nothing (hrecord.trans hnone), ?_⟩
    rcases hsent with rfl | rfl
    · exact (hagree.acknowledge hm).ignore
    · exact hagree.acknowledge hm
  | confirm m hphase hm =>
    subst hphase
    have hqos := hholds.qos_eq hr
    obtain rfl : packetType = .pubrec := by
      revert hreply
      cases packetType <;> simp [serverReply]
    obtain ⟨r', hr', hqos'⟩ := ackRecord_confirm hvalid (hqos.trans hm)
    refine ⟨true, .offered m r' (hrecord.trans hr') (hqos'.trans hqos), ?_⟩
    rcases hsent with rfl | rfl
    · exact hagree
    · exact hagree.confirm hm
  | complete hphase hstate =>
    subst hphase
    obtain rfl : packetType = .pubcomp := by
      revert hreply
      cases packetType <;> simp [serverReply]
    have hnone := ackRecord_complete hvalid hstate
    refine ⟨false, .nothing (hrecord.trans hnone), ?_⟩
    rcases hsent with rfl | rfl
    · exact hagree.complete.ignore
    · exact hagree.complete

/-! ## An operation -/

/-- An acknowledgement is sent for a record whose reply is due. -/
theorem agreesOn_acknowledge {packetId : UInt16} {packetType : PubAckType} {reply : Reply}
    (hexchanged : Exchanged x.client (operation.run c x.client) [(packetId, reply)] [])
    (hreconnects : operation.reconnects = false) (hreply : serverReply packetType = some reply)
    (htable : Table .incoming x.client.incomingPublishRecords) {r : PubAckInfo}
    (hr : x.client.incoming packetId = some r) (hdue : Due (x.phase packetId) r reply)
    (hrequests : valuesFor packetId (x.perform c operation).requests = [])
    (hreplies : valuesFor packetId x.replies = [])
    (hrecord : (operation.run c x.client).incoming packetId =
      ackRecord .incoming packetType (x.client.incoming packetId)) {held : Bool}
    (hholds : Holds x.client packetId (x.phase packetId) held)
    (hagree : Agreed (x.phase packetId) held [] [] (valuesFor packetId x.started)
      (valuesFor packetId x.forwarded)) :
    (x.perform c operation).AgreesOn packetId := by
  obtain ⟨⟨sent, hsent, heq⟩, hforwarded⟩ := perform_exchanged hexchanged
  rw [hr] at hrecord
  have hreplied : valuesFor packetId sent = [] ∨ valuesFor packetId sent = [reply] := by
    rcases hsent with rfl | rfl
    · exact .inl rfl
    · exact .inr (valuesFor_cons_self packetId reply [])
  obtain ⟨held', hholds', hagree'⟩ := agreed_reply hholds hagree hreply
    (htable.valid r (lookup_mem hr)) hr hdue hrecord hreplied
  refine ⟨held', hholds', ?_⟩
  rw [hrequests, heq, hforwarded, hreconnects, if_neg Bool.false_ne_true, valuesFor_append, hreplies,
    List.nil_append, List.append_nil]
  exact hagree'

/-- The reply that an offered message calls for. -/
theorem due_offered {phase : Phase Message} {m : Message} (hphase : phase = .offering m)
    {packetType : PubAckType} {reply : Reply} (r : PubAckInfo)
    (hack : ackToSend (mqttCalculateStatePublish .receive m.qos) = some packetType)
    (hreply : serverReply packetType = some reply) : Due phase r reply := by
  cases hqos : m.qos with
  | qos0 =>
    rw [hqos] at hack
    cases hack
  | qos1 =>
    rw [hqos] at hack
    cases hack
    cases hreply
    exact .acknowledge m hphase fun honce => nomatch hqos.symm.trans honce
  | qos2 =>
    rw [hqos] at hack
    cases hack
    cases hreply
    exact .confirm m hphase hqos

/-- Every operation of a run keeps the agreement. -/
theorem perform_consistent (hsets : ¬ operation.SetsRecords) (hadmits : x.Admits c operation)
    (hfits : x.Fits operation) (h : x.Consistent) : (x.perform c operation).Consistent := by
  obtain ⟨htable', replies, messages, hexchanged, heffect⟩ := operation.downlinkEffect c h.table hsets
  refine ⟨htable', fun id => ?_⟩
  have hid := h.agree id
  cases heffect with
  | none hrecords => exact agreesOn_kept hexchanged hadmits hid rfl rfl (congrFun hrecords id)
  | clean hreconnects _ =>
    exact agreesOn_kept hexchanged hadmits hid rfl rfl (hadmits.keeps hreconnects id)
  | arrive info packetId hreceived hqos hnew hrecords =>
    by_cases hne : id = packetId
    · subst hne
      exact agreesOn_arrive hexchanged hadmits hid rfl rfl hreceived hnew
        ((hrecords id).trans (if_pos rfl))
    · exact agreesOn_kept hexchanged hadmits hid rfl
        (valuesFor_cons_of_ne (Ne.symm hne) info.message []) ((hrecords id).trans (if_neg hne))
  | release packetId r hreceived hqos hr hrecords =>
    by_cases hne : id = packetId
    · subst hne
      exact agreesOn_release hexchanged hadmits hid rfl rfl hreceived hr hqos
        ((hrecords id).trans (if_pos rfl))
    · exact agreesOn_kept hexchanged hadmits hid rfl rfl ((hrecords id).trans (if_neg hne))
  | acknowledge packetType packetId reply hreply hacks hrecords =>
    by_cases hne : id = packetId
    swap
    · exact agreesOn_kept hexchanged hadmits hid (valuesFor_cons_of_ne (Ne.symm hne) reply []) rfl
        ((hrecords id).trans (if_neg hne))
    subst hne
    have hrecord := (hrecords id).trans (if_pos rfl)
    obtain ⟨held, hholds, hagree⟩ := hid
    cases hacks with
    | after state hoperation hack =>
      subst hoperation
      obtain ⟨⟨r, hr, hdue⟩, hclear⟩ := hfits reply (by rw [hack]; exact hreply)
      rw [hclear.1, hclear.2] at hagree
      exact agreesOn_acknowledge hexchanged rfl hreply h.table hr hdue hclear.1 hclear.2 hrecord
        hholds hagree
    | duplicate message hreceived hlive hack =>
      obtain ⟨r, hr⟩ := Option.ne_none_iff_exists'.1 hlive
      have htaken := agreed_received hadmits hagree hreceived
      obtain ⟨hrequests, hreplies, hphase⟩ := htaken.requested
      have hphase : x.phase id = .offering message := hphase
      rw [hrequests, hreplies] at htaken
      exact agreesOn_acknowledge hexchanged (hadmits.requests_eq hreceived).2 hreply h.table hr
        (due_offered hphase r hack hreply) hrequests hreplies hrecord hholds htaken.drop

end Perform

end Downlink

end FreeMqtt

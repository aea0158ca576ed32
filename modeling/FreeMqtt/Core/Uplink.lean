import FreeMqtt.Core.UplinkEffects

/-!
# Publishes to a server over a lossy connection

The client, a server that keeps to the protocol, and the connection between them as a state.
`Uplink.perform` is one operation of the client, with the requests that it puts on the connection
and the reply that it takes from it. `Consistent` says for every packet id that the three agree;
an operation of a run keeps it (`Uplink.perform_consistent`), if it sends nothing behind another
packet of the same id (`Uplink.Fits`).
-/

namespace FreeMqtt

open Handover KeyedList Moments

/-! ## The system -/

/-- The reply that a PUBACK, PUBREC or PUBCOMP is. -/
def serverReply : PubAckType → Option Reply
  | .puback => some .acknowledge
  | .pubrec => some .confirm
  | .pubcomp => some .complete
  | .pubrel => none

/-- The reply that an operation takes from the connection. -/
def Operation.taken (operation : Operation) : Option (UInt16 × Reply) :=
  operation.acks.bind fun ack => (serverReply ack.2).map (Prod.mk ack.1)

/-- A CONNECT is the first packet of a new connection. -/
def Operation.reconnects : Operation → Bool
  | .establish _ _ _ => true
  | _ => false

/-- The message that an operation accepts from the application: its record is new. -/
def Operation.starts (operation : Operation) (s s' : Sys) : List (UInt16 × Message) :=
  match operation.published with
  | some (info, packetId) =>
      if s.outgoing packetId = none ∧ s'.outgoing packetId ≠ none then [(packetId, info.message)]
      else []
  | none => []

/-- A packet that is not completely sent. A server reads nothing of what follows it on the
connection. -/
def Event.incomplete : Event → Bool
  | .sent _ _ _ stop => stop ≠ .complete
  | _ => false

/-- The client, the packets in flight, and the packet ids that the server holds. `started` and
`forwarded` are ghost fields: the messages that the client accepted from the application, and those
that the server passed on, in order. -/
structure Uplink where
  client : Sys
  started : List (UInt16 × Message)
  /-- a packet on the connection is incomplete -/
  broken : Bool
  requests : List (UInt16 × Request Message)
  replies : List (UInt16 × Reply)
  held : UInt16 → Bool
  forwarded : List (UInt16 × Message)

namespace Uplink

/-- The start, with no message. -/
def start (client : Sys) : Uplink := ⟨client, [], false, [], [], fun _ => false, []⟩

/-- An operation of the client. -/
def perform (c : Config) (x : Uplink) (operation : Operation) : Uplink :=
  let s := operation.run c x.client
  let events := s.log.drop x.client.log.length
  let broken := x.broken && !operation.reconnects
  { x with
    client := s
    started := x.started ++ operation.starts x.client s
    broken := broken || events.any Event.incomplete
    requests :=
      (if operation.reconnects then [] else x.requests) ++
        if broken then [] else events.filterMap Event.request
    replies :=
      if operation.reconnects then []
      else if operation.taken = none then x.replies
      else x.replies.tail }

/-- The server serves a request. -/
def serve (x : Uplink) (packetId : UInt16) (request : Request Message)
    (requests : List (UInt16 × Request Message)) : Uplink :=
  let served := Handover.serve Message.Once (x.held packetId) request
  { x with
    requests
    replies := x.replies ++ [(packetId, served.2.2)]
    held := Function.update x.held packetId served.1
    forwarded := x.forwarded ++ served.2.1.map (Prod.mk packetId) }

/-- What is asked of an operation: an acknowledgement that it takes is the one that the server sent
first, a record leaves by its PUBACK or PUBCOMP only, and a publish is new and stored. -/
structure Admits (c : Config) (x : Uplink) (operation : Operation) : Prop where
  taken : ∀ reply ∈ operation.taken, x.replies.head? = some reply
  keeps : ∀ r ∈ live x.client.outgoingPublishRecords,
    (operation.run c x.client).outgoing r.packetId = none →
      operation.taken = some (r.packetId, .acknowledge) ∨
        operation.taken = some (r.packetId, .complete)
  publishes : ∀ publish ∈ operation.published, publish.1.qos ≠ .qos0 →
    storesCopy x.client = true ∧ (publish.1.dup = true → x.client.outgoing publish.2 = none)

/-! ## Agreement -/

theorem not_mem_pubrelStates {state : PublishState} (h : state ∈ publishStates) :
    state ∉ pubrelStates := by
  revert h
  cases state <;> decide

/-- What the client waits for in a message. -/
inductive Waits (s : Sys) (packetId : UInt16) : Phase Message → Prop
  | idle (h : s.outgoing packetId = none) : Waits s packetId .idle
  | offering (r : PubAckInfo) (m : Message) (hr : s.outgoing packetId = some r)
      (hstate : r.publishState ∈ publishStates)
      (hcopy : (s.store packetId).bind serverPacket = some (packetId, .offer m)) :
      Waits s packetId (.offering m)
  | releasing (r : PubAckInfo) (hr : s.outgoing packetId = some r)
      (hstate : r.publishState ∈ pubrelStates) : Waits s packetId .releasing

theorem Waits.congr {s s' : Sys} {packetId : UInt16} {phase : Phase Message}
    (h : Waits s packetId phase) (hrecord : s'.outgoing packetId = s.outgoing packetId)
    (hstore : s'.store packetId = s.store packetId) : Waits s' packetId phase := by
  cases h with
  | idle h => exact .idle (hrecord.trans h)
  | offering r m hr hstate hcopy =>
    exact .offering r m (hrecord.trans hr) hstate (by rw [hstore]; exact hcopy)
  | releasing r hr hstate => exact .releasing r (hrecord.trans hr) hstate

section Waiting

variable {s : Sys} {packetId : UInt16} {phase : Phase Message} (h : Waits s packetId phase)

include h

theorem Waits.eq_idle (hnone : s.outgoing packetId = none) : phase = .idle := by
  cases h with
  | idle => rfl
  | offering r _ hr => exact nomatch hnone.symm.trans hr
  | releasing r hr => exact nomatch hnone.symm.trans hr

theorem Waits.eq_releasing {r : PubAckInfo} (hr : s.outgoing packetId = some r)
    (hstate : r.publishState ∈ pubrelStates) : phase = .releasing := by
  cases h with
  | idle hnone => exact nomatch hnone.symm.trans hr
  | offering r' _ hr' hstate' =>
    obtain rfl := Option.some.inj (hr.symm.trans hr')
    exact absurd hstate (not_mem_pubrelStates hstate')
  | releasing => rfl

theorem Waits.eq_offering {r : PubAckInfo} {m : Message} (hr : s.outgoing packetId = some r)
    (hstate : r.publishState ∈ publishStates)
    (hcopy : (s.store packetId).bind serverPacket = some (packetId, .offer m)) :
    phase = .offering m := by
  cases h with
  | idle hnone => exact nomatch hnone.symm.trans hr
  | offering r' m' hr' _ hcopy' =>
    cases hcopy.symm.trans hcopy'
    rfl
  | releasing r' hr' hstate' =>
    obtain rfl := Option.some.inj (hr.symm.trans hr')
    exact absurd hstate' (not_mem_pubrelStates hstate)

end Waiting

/-- The parties agree, for a server that holds the ids of messages with QoS 2 only. -/
abbrev Agreed : Phase Message → (held : Bool) → List (Request Message) → List Reply →
    (started forwarded : List Message) → Prop :=
  Agree Message.Once Message.Once

/-- The parties agree about the messages of a packet id. -/
def AgreesOn (x : Uplink) (packetId : UInt16) : Prop :=
  ∃ phase, Waits x.client packetId phase ∧
    Agreed phase (x.held packetId) (valuesFor packetId x.requests)
      (valuesFor packetId x.replies) (valuesFor packetId x.started)
      (valuesFor packetId x.forwarded)

/-- A record whose PUBLISH is to be sent has its copy. -/
theorem AgreesOn.copy {x : Uplink} {packetId : UInt16} (h : x.AgreesOn packetId) {r : PubAckInfo}
    (hr : x.client.outgoing packetId = some r) (hstate : r.publishState ∈ publishStates) :
    ∃ m, (x.client.store packetId).bind serverPacket = some (packetId, .offer m) := by
  obtain ⟨phase, hphase, -⟩ := h
  cases hphase with
  | idle hnone => exact nomatch hnone.symm.trans hr
  | offering _ m _ _ hcopy => exact ⟨m, hcopy⟩
  | releasing r' hr' hstate' =>
    obtain rfl := Option.some.inj (hr.symm.trans hr')
    exact absurd hstate' (not_mem_pubrelStates hstate)

/-- The parties agree about all messages. -/
structure Consistent (x : Uplink) : Prop where
  table : Table .outgoing x.client.outgoingPublishRecords
  agree : ∀ packetId, x.AgreesOn packetId

/-- No packet of a packet id is in flight. -/
def Clear (x : Uplink) (packetId : UInt16) : Prop :=
  valuesFor packetId x.requests = [] ∧ valuesFor packetId x.replies = []

/-- A record waits in one of these states, and no packet of it is in flight. -/
def Ready (x : Uplink) (states : List PublishState) (packetId : UInt16) : Prop :=
  (∃ r, x.client.outgoing packetId = some r ∧ r.publishState ∈ states) ∧ x.Clear packetId

/-- A PUBREL, or a stored PUBLISH, is sent for a record that waits for it, and alone. -/
def Fits (x : Uplink) : Operation → Prop
  | .acknowledge packetId state => ackToSend state = some .pubrel → x.Ready pubrelStates packetId
  | .resend packetId => x.Ready publishStates packetId
  | _ => True

/-! ## The connection during an operation -/

section Perform

variable {c : Config} {x : Uplink} {operation : Operation}

theorem perform_requests {requests : List (UInt16 × Request Message)}
    (h : Requested x.client (operation.run c x.client) requests) :
    ∃ sent, (sent = [] ∨ sent = requests) ∧ (x.perform c operation).requests =
      (if operation.reconnects then [] else x.requests) ++ sent := by
  obtain ⟨events, hlog, rfl⟩ := h
  refine ⟨_, ?_, rfl⟩
  rw [hlog, List.drop_left]
  split
  · exact .inl rfl
  · exact .inr rfl

/-- Nothing is sent for a packet id. -/
theorem perform_requests_for {requests : List (UInt16 × Request Message)}
    (h : Requested x.client (operation.run c x.client) requests) {packetId : UInt16}
    (hsent : valuesFor packetId requests = []) :
    valuesFor packetId (x.perform c operation).requests =
      valuesFor packetId (if operation.reconnects then [] else x.requests) := by
  obtain ⟨sent, hcases, heq⟩ := perform_requests h
  rw [heq, valuesFor_append]
  rcases hcases with rfl | rfl
  · exact List.append_nil _
  · rw [hsent, List.append_nil]

theorem perform_started {packetId : UInt16} {started : List Message}
    (h : valuesFor packetId (operation.starts x.client (operation.run c x.client)) = started) :
    valuesFor packetId (x.perform c operation).started =
      valuesFor packetId x.started ++ started := by
  rw [← h, ← valuesFor_append]
  rfl

theorem acks_of_reconnects (h : operation.reconnects = true) : operation.acks = none := by
  cases operation with
  | establish _ _ _ => rfl
  | _ => cases h

theorem taken_of_reconnects (h : operation.reconnects = true) : operation.taken = none := by
  rw [Operation.taken, acks_of_reconnects h]
  rfl

/-- The first reply is taken. -/
theorem Admits.replies_eq (h : x.Admits c operation) {reply : UInt16 × Reply}
    (htaken : operation.taken = some reply) :
    x.replies = reply :: (x.perform c operation).replies ∧
      operation.reconnects = false := by
  have hreconnects : operation.reconnects = false := by
    by_contra hreconnects
    rw [taken_of_reconnects (Bool.eq_true_of_not_eq_false hreconnects)] at htaken
    cases htaken
  refine ⟨?_, hreconnects⟩
  have hhead := h.taken reply htaken
  unfold perform
  dsimp only
  rw [hreconnects, if_neg Bool.false_ne_true, htaken, if_neg (by simp)]
  exact List.eq_cons_of_mem_head? hhead

section Link

variable (hadmits : x.Admits c operation) {packetId : UInt16} {phase : Phase Message} {held : Bool}
  {started forwarded : List Message}
  (h : Agreed phase held (valuesFor packetId x.requests) (valuesFor packetId x.replies) started
    forwarded)

include hadmits h

/-- The message does not go on: its packets may be lost, or a reply is not understood. -/
theorem agree_kept : Agreed phase held
    (valuesFor packetId (if operation.reconnects then [] else x.requests))
    (valuesFor packetId (x.perform c operation).replies) started forwarded := by
  cases htaken : operation.taken with
  | some reply =>
    obtain ⟨hreplies, hreconnects⟩ := hadmits.replies_eq htaken
    rw [hreconnects, if_neg Bool.false_ne_true]
    obtain ⟨id, reply⟩ := reply
    rw [hreplies] at h
    by_cases hid : id = packetId
    · rw [hid, valuesFor_cons_self] at h
      exact h.ignore
    · rwa [valuesFor_cons_of_ne hid] at h
  | none =>
    unfold perform
    dsimp only
    split
    · exact h.lose List.nil_prefix List.nil_prefix
    · exact h

/-- The reply of the message is taken. -/
theorem agree_taken {reply : Reply} (htaken : operation.taken = some (packetId, reply)) :
    Agreed phase held (valuesFor packetId x.requests)
        (reply :: valuesFor packetId (x.perform c operation).replies) started forwarded := by
  obtain ⟨hreplies, -⟩ := hadmits.replies_eq htaken
  rwa [hreplies, valuesFor_cons_self] at h

end Link

/-! ## One packet id -/

section One

variable {requests : List (UInt16 × Request Message)}
  (hrequested : Requested x.client (operation.run c x.client) requests)
  (hadmits : x.Admits c operation) {packetId : UInt16} (h : x.AgreesOn packetId)

include hrequested hadmits h

/-- The client waits for the same as before. -/
theorem agreesOn_kept
    (hwaits : ∀ phase, Waits x.client packetId phase →
      Waits (operation.run c x.client) packetId phase)
    (hsent : valuesFor packetId requests = [])
    (hstarts : valuesFor packetId (operation.starts x.client (operation.run c x.client)) = []) :
    (x.perform c operation).AgreesOn packetId := by
  obtain ⟨phase, hphase, hagree⟩ := h
  refine ⟨phase, hwaits phase hphase, ?_⟩
  rw [perform_requests_for hrequested hsent, perform_started hstarts, List.append_nil]
  exact agree_kept hadmits hagree

/-- The reply that the client waits for is taken. -/
theorem agreesOn_taken {reply : Reply} (htaken : operation.taken = some (packetId, reply))
    (hwaits : ∀ phase replies, Agreed phase (x.held packetId) (valuesFor packetId x.requests)
        (reply :: replies) (valuesFor packetId x.started) (valuesFor packetId x.forwarded) →
      Waits x.client packetId phase → Waits (operation.run c x.client) packetId (phase.take reply))
    (hsent : valuesFor packetId requests = [])
    (hstarts : valuesFor packetId (operation.starts x.client (operation.run c x.client)) = []) :
    (x.perform c operation).AgreesOn packetId := by
  obtain ⟨phase, hphase, hagree⟩ := h
  have hhead := agree_taken hadmits hagree htaken
  refine ⟨phase.take reply, hwaits phase _ hhead hphase, ?_⟩
  rw [perform_requests_for hrequested hsent, (hadmits.replies_eq htaken).2,
    if_neg Bool.false_ne_true, perform_started hstarts, List.append_nil]
  exact hhead.take

/-- The record of the message leaves. -/
theorem agreesOn_left {r : PubAckInfo} (hr : x.client.outgoing packetId = some r)
    (hnone : (operation.run c x.client).outgoing packetId = none)
    (hsent : valuesFor packetId requests = [])
    (hstarts : valuesFor packetId (operation.starts x.client (operation.run c x.client)) = []) :
    (x.perform c operation).AgreesOn packetId := by
  obtain rfl : r.packetId = packetId := lookup_key hr
  have hfinal : ∃ reply, operation.taken = some (r.packetId, reply) ∧ reply ≠ .confirm :=
    (hadmits.keeps r (lookup_mem hr) hnone).elim (fun h => ⟨_, h, nofun⟩) fun h => ⟨_, h, nofun⟩
  obtain ⟨reply, htaken, hreply⟩ := hfinal
  refine agreesOn_taken hrequested hadmits h htaken (fun phase replies hagree _ => ?_) hsent hstarts
  rw [hagree.take_idle hreply]
  exact .idle hnone

/-- The packet id has no record after the operation. -/
theorem agreesOn_gone (hnone : (operation.run c x.client).outgoing packetId = none)
    (hsent : valuesFor packetId requests = [])
    (hstarts : valuesFor packetId (operation.starts x.client (operation.run c x.client)) = []) :
    (x.perform c operation).AgreesOn packetId := by
  cases hr : x.client.outgoing packetId with
  | none =>
    refine agreesOn_kept hrequested hadmits h (fun phase hphase => ?_) hsent hstarts
    rw [hphase.eq_idle hr]
    exact .idle hnone
  | some r => exact agreesOn_left hrequested hadmits h hr hnone hsent hstarts

/-- An acknowledgement of the server. -/
theorem agreesOn_acked {packetType : PubAckType} {r : PubAckInfo}
    (htable : Table .outgoing x.client.outgoingPublishRecords)
    (hacks : operation.acks = some (packetId, packetType)) (htype : packetType ≠ .pubrel)
    (hr : x.client.outgoing packetId = some r)
    (hreact : react .outgoing r (.ack packetType) ≠ .illegal)
    (hrecord : (operation.run c x.client).outgoing packetId =
      (react .outgoing r (.ack packetType)).apply r)
    (hsent : valuesFor packetId requests = [])
    (hstarts : valuesFor packetId (operation.starts x.client (operation.run c x.client)) = []) :
    (x.perform c operation).AgreesOn packetId := by
  rcases react_outgoing_cases (htable.valid r (lookup_mem hr)) hreact with
    ⟨-, -, -, hleft⟩ | ⟨rfl, -, -, hpending⟩ | ⟨hpubrel, -⟩ | ⟨-, -, -, hleft⟩
  · exact agreesOn_left hrequested hadmits h hr (hrecord.trans hleft) hsent hstarts
  · have htaken : operation.taken = some (packetId, .confirm) := by
      rw [Operation.taken, hacks]
      rfl
    refine agreesOn_taken hrequested hadmits h htaken (fun phase replies hagree _ => ?_) hsent
      hstarts
    rw [hagree.take_confirm]
    exact .releasing _ (hrecord.trans hpending) (by simp [pubrelStates])
  · exact absurd hpubrel htype
  · exact agreesOn_left hrequested hadmits h hr (hrecord.trans hleft) hsent hstarts

end One

/-! ## A request of one packet id -/

/-- Without a new record no message starts. -/
theorem valuesFor_starts {s s' : Sys} (h : ∀ id, s.outgoing id = none → s'.outgoing id = none)
    (packetId : UInt16) : valuesFor packetId (operation.starts s s') = [] := by
  have hnil : operation.starts s s' = [] := by
    unfold Operation.starts
    split
    · exact if_neg fun hstarts => hstarts.2 (h _ hstarts.1)
    · rfl
  rw [hnil]
  rfl

theorem starts_publish {s s' : Sys} {info : PublishInfo} {packetId : UInt16}
    (hoperation : operation = .request (.publish (some info) packetId))
    (hnew : s.outgoing packetId = none) {r : PubAckInfo} (hr : s'.outgoing packetId = some r) :
    operation.starts s s' = [(packetId, info.message)] := by
  subst hoperation
  exact if_pos ⟨hnew, hr ▸ nofun⟩

/-- The sent requests of a packet id, when an operation sends for one packet id only. -/
theorem valuesFor_of_ne {requests : List (UInt16 × Request Message)} {request : Request Message}
    {id packetId : UInt16} (h : requests = [] ∨ requests = [(id, request)]) (hne : id ≠ packetId) :
    valuesFor packetId requests = [] := by
  rcases h with rfl | rfl
  · rfl
  · exact valuesFor_cons_of_ne hne request []

section OneRequest

variable {packetId : UInt16} {request : Request Message}
  {requests : List (UInt16 × Request Message)}
  (hrequested : Requested x.client (operation.run c x.client) requests)
  (hrequests : requests = [] ∨ requests = [(packetId, request)])

include hrequested hrequests

/-- An operation that sends a request for one packet id only changes nothing for another one. -/
theorem agreesOn_other (hadmits : x.Admits c operation) {id : UInt16} (hne : id ≠ packetId)
    (hrecord : (operation.run c x.client).outgoing id = x.client.outgoing id)
    (hstore : (operation.run c x.client).store id = x.client.store id)
    (hstarts : valuesFor id (operation.starts x.client (operation.run c x.client)) = [])
    (h : x.AgreesOn id) : (x.perform c operation).AgreesOn id :=
  agreesOn_kept hrequested hadmits h (fun _ hphase => hphase.congr hrecord hstore)
    (valuesFor_of_ne hrequests hne.symm) hstarts

/-- A request is sent for a packet id of which nothing is in flight. -/
theorem agreesOn_sent (hreconnects : operation.reconnects = false) (htaken : operation.taken = none)
    {phase : Phase Message} (hwaits : Waits (operation.run c x.client) packetId phase)
    (hclear : x.Clear packetId) {started : List Message}
    (hstarted : valuesFor packetId (x.perform c operation).started = started)
    (hunsent : Agreed phase (x.held packetId) [] [] started (valuesFor packetId x.forwarded))
    (hsent : Agreed phase (x.held packetId) [request] [] started
      (valuesFor packetId x.forwarded)) : (x.perform c operation).AgreesOn packetId := by
  refine ⟨phase, hwaits, ?_⟩
  have hreplies : (x.perform c operation).replies = x.replies := by
    unfold perform
    dsimp only
    rw [hreconnects, if_neg Bool.false_ne_true, if_pos htaken]
  obtain ⟨sent, hcases, heq⟩ := perform_requests hrequested
  rw [heq, hreconnects, if_neg Bool.false_ne_true, valuesFor_append, hclear.1, List.nil_append,
    hreplies, hclear.2, hstarted]
  rcases hcases with rfl | rfl
  · exact hunsent
  rcases hrequests with rfl | rfl
  · exact hunsent
  · rw [valuesFor_cons_self]
    exact hsent

end OneRequest

/-- The packet id of a new message was idle, and nothing of it is in flight. -/
theorem AgreesOn.idle {packetId : UInt16} (h : x.AgreesOn packetId)
    (hnew : x.client.outgoing packetId = none) :
    x.Clear packetId ∧ Agreed .idle (x.held packetId) [] [] (valuesFor packetId x.started)
      (valuesFor packetId x.forwarded) := by
  obtain ⟨phase, hphase, hagree⟩ := h
  obtain rfl : phase = .idle := hphase.eq_idle hnew
  have hclear : x.Clear packetId := hagree.nothing_in_flight
  rw [hclear.1, hclear.2] at hagree
  exact ⟨hclear, hagree⟩

/-- A message whose PUBREL is to be sent, with nothing of it in flight. -/
theorem AgreesOn.releasing {packetId : UInt16} (h : x.AgreesOn packetId)
    (hready : x.Ready pubrelStates packetId) :
    Waits x.client packetId .releasing ∧ Agreed .releasing (x.held packetId) [] []
      (valuesFor packetId x.started) (valuesFor packetId x.forwarded) := by
  obtain ⟨⟨r, hr, hstate⟩, hclear⟩ := hready
  obtain ⟨phase, hphase, hagree⟩ := h
  obtain rfl : phase = .releasing := hphase.eq_releasing hr hstate
  rw [hclear.1, hclear.2] at hagree
  exact ⟨hphase, hagree⟩

/-- A message whose PUBLISH is to be sent again, with nothing of it in flight, and its copy. -/
theorem AgreesOn.offering {packetId : UInt16} (h : x.AgreesOn packetId)
    (hready : x.Ready publishStates packetId) :
    ∃ m, (x.client.store packetId).bind serverPacket = some (packetId, .offer m) ∧
      Waits x.client packetId (.offering m) ∧ Agreed (.offering m) (x.held packetId) [] []
        (valuesFor packetId x.started) (valuesFor packetId x.forwarded) := by
  obtain ⟨⟨r, hr, hstate⟩, hclear⟩ := hready
  obtain ⟨m, hcopy⟩ := h.copy hr hstate
  obtain ⟨phase, hphase, hagree⟩ := h
  obtain rfl : phase = .offering m := hphase.eq_offering hr hstate hcopy
  rw [hclear.1, hclear.2] at hagree
  exact ⟨m, hcopy, hphase, hagree⟩

/-! ## What an operation does to a packet id -/

/-- A new message is offered. -/
theorem agreesOn_start {requests : List (UInt16 × Request Message)} {info : PublishInfo}
    {packetId : UInt16} {r : PubAckInfo} {copy : List UInt8}
    (hrequested : Requested x.client (operation.run c x.client) requests)
    (hoperation : operation = .request (.publish (some info) packetId))
    (hnew : x.client.outgoing packetId = none)
    (hr : (operation.run c x.client).outgoing packetId = some r)
    (hstate : r.publishState ∈ publishStates)
    (hcopy : serverPacket copy = some (packetId, .offer info.message))
    (hstore : (operation.run c x.client).store packetId = some copy)
    (hrequests : requests = [] ∨ requests = [(packetId, .offer info.message)])
    (h : x.AgreesOn packetId) : (x.perform c operation).AgreesOn packetId := by
  obtain ⟨hclear, hagree⟩ := h.idle hnew
  have hwaits : Waits (operation.run c x.client) packetId (.offering info.message) :=
    .offering r info.message hr hstate (by rw [hstore]; exact hcopy)
  have hstarted : valuesFor packetId (x.perform c operation).started =
      valuesFor packetId x.started ++ [info.message] := by
    apply perform_started
    rw [starts_publish hoperation hnew hr, valuesFor_cons_self, valuesFor_nil]
  have hoffered := hagree.start info.message
  exact agreesOn_sent hrequested hrequests (by rw [hoperation]; rfl) (by rw [hoperation]; rfl)
    hwaits hclear hstarted hoffered hoffered.offer

/-- A PUBREL is tried. -/
theorem agreesOn_released {requests : List (UInt16 × Request Message)} {packetId : UInt16}
    {state : PublishState}
    (hrequested : Requested x.client (Operation.run c x.client (.acknowledge packetId state))
      requests)
    (hready : x.Ready pubrelStates packetId)
    (hrecord : (Operation.run c x.client (.acknowledge packetId state)).outgoing packetId =
        x.client.outgoing packetId ∨
      ∃ r, (Operation.run c x.client (.acknowledge packetId state)).outgoing packetId = some r ∧
        r.publishState ∈ pubrelStates)
    (hrequests : requests = [] ∨ requests = [(packetId, .release)]) (h : x.AgreesOn packetId) :
    (x.perform c (.acknowledge packetId state)).AgreesOn packetId := by
  obtain ⟨-, hagree⟩ := h.releasing hready
  obtain ⟨⟨r, hr, hstate⟩, hclear⟩ := hready
  have hwaits : Waits (Operation.run c x.client (.acknowledge packetId state)) packetId
      .releasing := by
    rcases hrecord with hsame | ⟨r', hr', hstate'⟩
    · exact .releasing r (hsame.trans hr) hstate
    · exact .releasing r' hr' hstate'
  exact agreesOn_sent hrequested hrequests rfl rfl hwaits hclear
    ((perform_started rfl).trans (List.append_nil _)) hagree hagree.release

/-- A stored PUBLISH is sent again. -/
theorem agreesOn_resent {requests : List (UInt16 × Request Message)} {packetId : UInt16}
    (hrequested : Requested x.client (Operation.run c x.client (.resend packetId)) requests)
    (hready : x.Ready publishStates packetId)
    (hrecords : (Operation.run c x.client (.resend packetId)).outgoing = x.client.outgoing)
    (hstore : (Operation.run c x.client (.resend packetId)).store = x.client.store)
    (hrequests : requests = [] ∨
      requests = ((x.client.store packetId).bind serverPacket).toList)
    (h : x.AgreesOn packetId) : (x.perform c (.resend packetId)).AgreesOn packetId := by
  obtain ⟨m, hcopy, hphase, hagree⟩ := h.offering hready
  rw [hcopy] at hrequests
  exact agreesOn_sent hrequested hrequests rfl rfl
    (hphase.congr (congrFun hrecords packetId) (congrFun hstore packetId)) hready.2
    ((perform_started rfl).trans (List.append_nil _)) hagree hagree.offer

/-- Every operation of a run keeps the agreement. -/
theorem perform_consistent (hsets : ¬ operation.SetsRecords) (hadmits : x.Admits c operation)
    (hfits : x.Fits operation) (h : x.Consistent) : (x.perform c operation).Consistent := by
  obtain ⟨requests, hrequested, heffect⟩ :=
    operation.uplinkEffect c h.table hsets hadmits.publishes
  refine ⟨(operation.effect c h.table hsets).2.table h.table, fun id => ?_⟩
  have hid := h.agree id
  cases heffect with
  | none hrecords hstore =>
    exact agreesOn_kept hrequested hadmits hid
      (fun _ hphase => hphase.congr (congrFun hrecords id) (congrFun hstore id)) rfl
      (valuesFor_starts (fun id hnone => (congrFun hrecords id).trans hnone) id)
  | start info packetId r copy hoperation hnew hr hstate hothers hcopy hstore hrequests =>
    by_cases hne : id = packetId
    · subst hne
      exact agreesOn_start hrequested hoperation hnew hr hstate hcopy
        ((congrFun hstore id).trans (if_pos rfl)) hrequests hid
    · refine agreesOn_other hrequested hrequests hadmits hne (hothers id hne)
        ((congrFun hstore id).trans (if_neg hne)) ?_ hid
      rw [starts_publish hoperation hnew hr]
      exact valuesFor_cons_of_ne (Ne.symm hne) info.message []
  | drop packetId hrecords hstore =>
    have hstarts : valuesFor id (operation.starts x.client (operation.run c x.client)) = [] := by
      refine valuesFor_starts (fun id hnone => (hrecords id).trans ?_) id
      rw [hnone, ite_self]
    by_cases hne : id = packetId
    · exact agreesOn_gone hrequested hadmits hid ((hrecords id).trans (if_pos hne)) rfl hstarts
    · exact agreesOn_kept hrequested hadmits hid (fun _ hphase =>
        hphase.congr ((hrecords id).trans (if_neg hne)) (congrFun hstore id)) rfl hstarts
  | acked packetType packetId r hacks htype hr hreact hrecords hstore =>
    have hstarts : valuesFor id (operation.starts x.client (operation.run c x.client)) = [] := by
      refine valuesFor_starts (fun id hnone => (hrecords id).trans ?_) id
      rw [if_neg, hnone]
      rintro rfl
      rw [hr] at hnone
      cases hnone
    by_cases hne : id = packetId
    · subst hne
      exact agreesOn_acked hrequested hadmits hid h.table hacks htype hr hreact
        ((hrecords id).trans (if_pos rfl)) rfl hstarts
    · exact agreesOn_kept hrequested hadmits hid
        (fun _ hphase => hphase.congr ((hrecords id).trans (if_neg hne)) (hstore id hne)) rfl
        hstarts
  | release packetId state hoperation hack hothers hrecord hstore hrequests =>
    subst hoperation
    by_cases hne : id = packetId
    · subst hne
      exact agreesOn_released hrequested (hfits hack) hrecord hrequests hid
    · exact agreesOn_other hrequested hrequests hadmits hne (hothers id hne) (congrFun hstore id)
        rfl hid
  | resend packetId hoperation hrecords hstore hrequests =>
    subst hoperation
    by_cases hne : id = packetId
    · subst hne
      exact agreesOn_resent hrequested hfits hrecords hstore hrequests hid
    · obtain ⟨m, hcopy, -⟩ := (h.agree packetId).offering hfits
      rw [hcopy] at hrequests
      exact agreesOn_other hrequested hrequests hadmits hne (congrFun hrecords id)
        (congrFun hstore id) rfl hid
  | clean hrecords =>
    exact agreesOn_gone hrequested hadmits hid (hrecords id) rfl
      (valuesFor_starts (fun id _ => hrecords id) id)

end Perform

end Uplink

end FreeMqtt

import FreeMqtt.Core.ConnectEffects
import FreeMqtt.Core.Downlink
import FreeMqtt.Core.Iterations

/-!
# Every message reaches the application

A call of the library keeps the agreement of `Downlink.Consistent` (`Downlink.call_consistent`): the
acknowledgement of a packet follows the callback, and the requests that the application makes there
do not touch the message. Runs of the client, the server and the connection in any order of their
steps follow, and `downlink_settled` says which messages the application got.
-/

namespace FreeMqtt

open Handover KeyedList Moments Relation

/-- No acknowledgement that a server waits for. -/
def Operation.Unreplying : Operation → Prop
  | .acknowledge _ state => (ackToSend state).bind serverReply = none
  | _ => True

theorem Operation.IsHousekeeping.unreplying {operation : Operation} (h : operation.IsHousekeeping) :
    operation.Unreplying ∧ ¬ operation.SetsRecords := by
  cases operation with
  | acknowledge | setUp => exact absurd h id
  | _ => exact ⟨trivial, id⟩

/-- A connection is made without such an acknowledgement. -/
theorem unreplying_connect {c : Config} {s : Sys} {info : Option ConnectInfo}
    {will : Option PublishInfo} {timeoutMs : UInt32} :
    ∀ operation ∈ connectOperations c s info will timeoutMs,
      operation.Unreplying ∧ ¬ operation.SetsRecords := by
  intro operation hmem
  rcases connectOperations_cases operation hmem with
    rfl | ⟨_, _, _, rfl⟩ | ⟨packetId, rfl | rfl⟩
  · exact ⟨trivial, id⟩
  · exact ⟨trivial, id⟩
  · exact ⟨rfl, id⟩
  · exact ⟨trivial, id⟩

namespace Downlink

/-- Operations of the client, one after the other. -/
def performAll (c : Config) (x : Downlink) (operations : List Operation) : Downlink :=
  operations.foldl (perform c) x

/-- A call of the client. -/
def call (c : Config) (x : Downlink) (call : Call) : Downlink :=
  x.performAll c (call.operations c x.client)

/-- What is asked of operations, one after the other. -/
abbrev Admitted (c : Config) (x : Downlink) (operations : List Operation) : Prop :=
  Moments.Admitted (perform c) (Admits c) x operations

instance (c : Config) (x : Downlink) (operations : List Operation) :
    Decidable (x.Admitted c operations) :=
  List.decidableBAll _ _

variable {c : Config} {x : Downlink} {operation : Operation} {operations more : List Operation}

theorem performAll_append :
    x.performAll c (operations ++ more) = (x.performAll c operations).performAll c more :=
  List.foldl_append

theorem client_performAll (c : Config) (x : Downlink) (operations : List Operation) :
    (x.performAll c operations).client = operations.foldl (Operation.run c) x.client :=
  (List.foldl_hom client fun _ _ => rfl).symm

/-- Operations without an acknowledgement that the server waits for. -/
theorem performAll_consistent (hadmitted : x.Admitted c operations)
    (hunreplying : ∀ operation ∈ operations, operation.Unreplying ∧ ¬ operation.SetsRecords)
    (h : x.Consistent) : (x.performAll c operations).Consistent := by
  refine hadmitted.keeps h fun y operation hmem hadmits hbefore => ?_
  obtain ⟨hunreplying, hsets⟩ := hunreplying operation hmem
  refine perform_consistent hsets hadmits ?_ hbefore
  cases operation with
  | acknowledge packetId state =>
    intro reply hreply
    exact nomatch hunreplying.symm.trans hreply
  | _ => trivial

/-! ## Handlers -/

/-- The reply to a packet that the callback gets is due. -/
theorem ready_deliver {packet : PacketInfo} {manageKeepAlive : Bool}
    (hadmits : x.Admits c (.deliver packet manageKeepAlive)) (h : x.Consistent)
    {frame : CallbackFrame}
    (hframe : callbackFrame (x.client.dispatching packet) packet manageKeepAlive = some frame)
    {packetId : UInt16} {state : PublishState} (hframeReply : frame.reply = some (packetId, state))
    {reply : Reply} (hreply : (ackToSend state).bind serverReply = some reply) :
    (x.perform c (.deliver packet manageKeepAlive)).Ready packetId reply := by
  obtain ⟨-, harrival⟩ :=
    callbackFrame_arrival (s := x.client.dispatching packet) h.table hframe
  obtain ⟨⟨sent, hsent, hreplies⟩, -⟩ :=
    perform_exchanged (deliver_exchanged c packet manageKeepAlive hframe)
  obtain rfl : sent = [] := or_self_iff.1 hsent
  have hrun : ∀ id, (x.perform c (.deliver packet manageKeepAlive)).client.incoming id =
      frame.before.incoming id := by
    intro id
    show (Operation.run c x.client (.deliver packet manageKeepAlive)).incoming id = _
    rw [run_deliver c hframe]
    rfl
  -- the request of the packet is taken, and nothing else of the message is in flight
  have hclear : ∀ id request, packet.request = some (id, request) →
      (x.perform c (.deliver packet manageKeepAlive)).Clear id ∧ x.phase id = request.phase := by
    intro id request hrequest
    have hreceived : (Operation.deliver packet manageKeepAlive).received = some (id, request) :=
      hrequest
    obtain ⟨held, -, hagree⟩ := h.agree id
    obtain ⟨hrequests, hnoreplies, hphase⟩ := (agreed_received hadmits hagree hreceived).requested
    refine ⟨⟨hrequests, ?_⟩, hphase⟩
    rw [hreplies, (hadmits.requests_eq hreceived).2, if_neg Bool.false_ne_true, List.append_nil]
    exact hnoreplies
  obtain ⟨packetType, hack, hserver⟩ := Option.bind_eq_some_iff.1 hreply
  cases harrival with
  | other _ _ hunreplied => exact nomatch (hunreplied packetId state hframeReply).symm.trans hreply
  | publish info id hrequest _ _ hrecords _ hreply' =>
    obtain ⟨rfl, rfl⟩ := Prod.mk.inj (Option.some.inj (hframeReply.symm.trans hreply'))
    obtain ⟨hclear, hphase⟩ := hclear packetId _ hrequest
    have hr := (hrun packetId).trans ((hrecords packetId).trans (if_pos rfl))
    exact ⟨⟨_, hr, due_offered hphase _ hack hserver⟩, hclear⟩
  | pubrel id r hrequest _ _ hrecords _ hreply' =>
    obtain ⟨rfl, rfl⟩ := Prod.mk.inj (Option.some.inj (hframeReply.symm.trans hreply'))
    obtain ⟨hclear, hphase⟩ := hclear packetId _ hrequest
    have hr := (hrun packetId).trans ((hrecords packetId).trans (if_pos rfl))
    cases hack
    cases hserver
    exact ⟨⟨_, hr, .complete hphase rfl⟩, hclear⟩

/-- Requests of the application keep what a reply is due for. -/
theorem ready_requests {calls : List SendCall} {packetId : UInt16} {reply : Reply}
    (h : x.Ready packetId reply) :
    (x.performAll c (calls.map .request)).Ready packetId reply := by
  refine (invariant_moments (p := fun x : Downlink => x.Ready packetId reply) h
    fun m hm hbefore => ?_).2
  obtain ⟨call, -, hcall⟩ := List.mem_map.1 (operation_mem hm)
  unfold Moment.after
  rw [← hcall]
  obtain ⟨⟨r, hr, hdue⟩, hrequests, hreplies⟩ := hbefore
  obtain ⟨hrecords, hexchanged⟩ := (call.requests c m.before.client).exchanged
  have hexchanged : Exchanged m.before.client ((Operation.request call).run c m.before.client)
      [] [] := hexchanged
  obtain ⟨⟨sent, hsent, heq⟩, -⟩ := perform_exchanged hexchanged
  obtain rfl : sent = [] := or_self_iff.1 hsent
  refine ⟨⟨r, ?_, hdue⟩, hrequests, ?_⟩
  · exact (congrArg (liveRecord · packetId) hrecords).trans hr
  · rw [heq, List.append_nil]
    exact hreplies

theorem handler_consistent {packet : PacketInfo} {manageKeepAlive : Bool}
    (hadmitted : x.Admitted c (handlerOperations x.client packet manageKeepAlive))
    (h : x.Consistent) :
    (x.performAll c (handlerOperations x.client packet manageKeepAlive)).Consistent := by
  unfold handlerOperations at hadmitted ⊢
  cases hframe : callbackFrame (x.client.dispatching packet) packet manageKeepAlive with
  | none =>
    rw [hframe] at hadmitted
    exact performAll_consistent hadmitted (List.forall_mem_singleton.2 ⟨trivial, id⟩) h
  | some frame =>
    rw [hframe] at hadmitted
    obtain ⟨hdeliver, hrest⟩ := admitted_cons.1 hadmitted
    obtain ⟨hrequests, hreply⟩ := admitted_append.1 hrest
    have hdelivered := perform_consistent id hdeliver trivial h
    have hcalled : Consistent ((x.perform c (.deliver packet manageKeepAlive)).performAll c
        ((frame.before.callbacks.headD []).map .request)) := by
      refine performAll_consistent hrequests (fun operation hmem => ?_) hdelivered
      obtain ⟨call, -, rfl⟩ := List.mem_map.1 hmem
      exact ⟨trivial, id⟩
    dsimp only
    rw [← List.singleton_append, performAll_append, performAll_append]
    cases hframeReply : frame.reply with
    | none => exact hcalled
    | some reply =>
      obtain ⟨packetId, state⟩ := reply
      rw [hframeReply] at hreply
      refine perform_consistent id (admitted_cons.1 hreply).1 (fun reply hdue => ?_) hcalled
      exact ready_requests (ready_deliver hdeliver h hframe hframeReply hdue)

/-! ## Calls -/

/-- An iteration of a receive function. -/
theorem iteration_consistent {manageKeepAlive : Bool}
    (hadmitted : x.Admitted c (iterationOperations c x.client manageKeepAlive))
    (h : x.Consistent) :
    (x.performAll c (iterationOperations c x.client manageKeepAlive)).Consistent := by
  rcases iterationOperations_cases c x.client manageKeepAlive with
    hhousekeeping | ⟨front, packet, back, heq, hfront, hback⟩
  · exact performAll_consistent hadmitted (fun operation hmem =>
      (hhousekeeping operation hmem).unreplying) h
  rw [heq, ← client_performAll] at hadmitted
  rw [heq, ← client_performAll, performAll_append, performAll_append]
  obtain ⟨hbefore, hadmitted⟩ := admitted_append.1 hadmitted
  obtain ⟨hhandler, hafter⟩ := admitted_append.1 hadmitted
  have hread := performAll_consistent hbefore
    (fun operation hmem => (hfront operation hmem).unreplying) h
  exact performAll_consistent hafter (fun operation hmem => (hback operation hmem).unreplying)
    (handler_consistent hhandler hread)

/-- Every call keeps the agreement. -/
theorem call_consistent {call : Call} (hsets : ¬ call.SetsRecords)
    (hadmitted : x.Admitted c (call.operations c x.client)) (h : x.Consistent) :
    (x.call c call).Consistent := by
  have hsingle : ∀ {operation : Operation}, x.Admitted c [operation] → operation.Unreplying →
      ¬ operation.SetsRecords → (x.performAll c [operation]).Consistent :=
    fun hadmitted hunreplying hsets =>
      performAll_consistent hadmitted (List.forall_mem_singleton.2 ⟨hunreplying, hsets⟩) h
  unfold Downlink.call
  cases call with
  | connect info will timeoutMs => exact performAll_consistent hadmitted unreplying_connect h
  | api call =>
    cases call with
    | processLoop =>
      obtain ⟨hstart, hiteration⟩ := admitted_cons.1 hadmitted
      have hstarted : (x.perform c .startProcessLoop).Consistent :=
        perform_consistent id hstart trivial h
      exact iteration_consistent hiteration hstarted
    | receiveLoop => exact iteration_consistent hadmitted h
    | init _ _ _ _ => exact absurd trivial hsets
    | initStatefulQoS _ _ _ _ => exact absurd trivial hsets
    | initRetransmits _ _ _ => exact hsingle hadmitted trivial hsets
    | checkConnectStatus => exact hsingle hadmitted trivial hsets
    | request call => exact hsingle hadmitted trivial id

/-! ## The server and the connection -/

/-- The server has a new message, which it is going to offer. -/
def publish (x : Downlink) (packetId : UInt16) (message : Message) : Downlink :=
  { x with
    phase := Function.update x.phase packetId (.offering message)
    started := x.started ++ [(packetId, message)] }

/-- The server sends a request. -/
def send (x : Downlink) (packetId : UInt16) (request : Request Message) : Downlink :=
  { x with requests := x.requests ++ [(packetId, request)] }

/-- The server gets a reply. -/
def take (x : Downlink) (packetId : UInt16) (reply : Reply) (replies : List (UInt16 × Reply)) :
    Downlink :=
  { x with
    phase := Function.update x.phase packetId ((x.phase packetId).take reply)
    replies }

theorem publish_consistent {packetId : UInt16} {message : Message}
    (hidle : x.phase packetId = .idle) (h : x.Consistent) :
    (x.publish packetId message).Consistent := by
  refine ⟨h.table, fun id => ?_⟩
  obtain ⟨held, hholds, hagree⟩ := h.agree id
  unfold publish AgreesOn
  dsimp only
  rw [valuesFor_append]
  by_cases hid : id = packetId
  · subst hid
    rw [hidle] at hholds hagree
    rw [Function.update_self, valuesFor_cons_self, valuesFor_nil]
    cases hholds with
    | nothing hnone => exact ⟨false, .nothing hnone, hagree.start message⟩
  · rw [Function.update_of_ne hid, valuesFor_cons_of_ne (Ne.symm hid), valuesFor_nil,
      List.append_nil]
    exact ⟨held, hholds, hagree⟩

theorem send_consistent {packetId : UInt16} {request : Request Message}
    (hrequest : (x.phase packetId).request = some request) (hclear : x.Clear packetId)
    (h : x.Consistent) : (x.send packetId request).Consistent := by
  refine ⟨h.table, fun id => ?_⟩
  obtain ⟨held, hholds, hagree⟩ := h.agree id
  refine ⟨held, hholds, ?_⟩
  unfold send
  dsimp only
  rw [valuesFor_append]
  by_cases hid : packetId = id
  · subst hid
    rw [hclear.1, hclear.2] at hagree
    rw [hclear.1, hclear.2, valuesFor_cons_self, valuesFor_nil, List.nil_append]
    exact hagree.send hrequest
  · rwa [valuesFor_cons_of_ne hid, valuesFor_nil, List.append_nil]

/-- The client holds what the server waits for after a reply. -/
theorem Holds.take {s : Sys} {packetId : UInt16} {phase : Phase Message} {held : Bool}
    {requests : List (Request Message)} {reply : Reply} {replies : List Reply}
    {started forwarded : List Message} (h : Holds s packetId phase held)
    (hagree : Agreed phase held requests (reply :: replies) started forwarded) :
    Holds s packetId (phase.take reply) held := by
  cases h with
  | nothing hnone => exact .nothing hnone
  | offered m r hr hqos =>
    cases hagree with
    | confirmed _ honce => exact .released r hr (hqos.trans honce)
  | released r hr => cases hagree

theorem take_consistent {packetId : UInt16} {reply : Reply} {replies : List (UInt16 × Reply)}
    (hreplies : x.replies = (packetId, reply) :: replies) (h : x.Consistent) :
    (x.take packetId reply replies).Consistent := by
  refine ⟨h.table, fun id => ?_⟩
  obtain ⟨held, hholds, hagree⟩ := h.agree id
  rw [hreplies] at hagree
  unfold take AgreesOn
  dsimp only
  by_cases hid : id = packetId
  · subst hid
    rw [valuesFor_cons_self] at hagree
    rw [Function.update_self]
    exact ⟨held, hholds.take hagree, hagree.take⟩
  · rw [valuesFor_cons_of_ne (Ne.symm hid)] at hagree
    rw [Function.update_of_ne hid]
    exact ⟨held, hholds, hagree⟩

theorem lose_consistent {requests : List (UInt16 × Request Message)}
    {replies : List (UInt16 × Reply)} (hrequests : requests <+: x.requests)
    (hreplies : replies <+: x.replies) (h : x.Consistent) :
    Consistent { x with requests, replies } := by
  refine ⟨h.table, fun id => ?_⟩
  obtain ⟨held, hholds, hagree⟩ := h.agree id
  exact ⟨held, hholds,
    hagree.lose (valuesFor_initial hrequests id) (valuesFor_initial hreplies id)⟩

theorem start_consistent {client : Sys} {n m : Nat} (h : client.toPublishRecords = .zeroed n m) :
    (start client).Consistent := by
  have hincoming : client.incomingPublishRecords = holes m :=
    congrArg PublishRecords.incomingPublishRecords h
  refine ⟨?_, fun id => ⟨false, .nothing ?_, .idle .nil⟩⟩
  · show Table .incoming client.incomingPublishRecords
    rw [hincoming]
    exact table_holes .incoming m
  · show lookup PubAckInfo.packetId id (live client.incomingPublishRecords) = none
    rw [hincoming, live_holes]
    rfl

end Downlink

/-! ## Runs -/

/-- A step of the client, the server or the connection. The calls of the client are any but the
initializers `MQTT_Init` and `MQTT_InitStatefulQoS`, which are made before a run. The server sends a
packet again when nothing of the message is in flight any more, and the connection loses what is sent
last. -/
inductive DownlinkStep (c : Config) (x : Downlink) : Downlink → Prop
  | call (call : Call) (hsets : ¬ call.SetsRecords)
      (hadmitted : x.Admitted c (call.operations c x.client)) : DownlinkStep c x (x.call c call)
  | publish (packetId : UInt16) (message : Message) (hidle : x.phase packetId = .idle) :
      DownlinkStep c x (x.publish packetId message)
  | send (packetId : UInt16) (request : Request Message)
      (hrequest : (x.phase packetId).request = some request) (hclear : x.Clear packetId) :
      DownlinkStep c x (x.send packetId request)
  | take (packetId : UInt16) (reply : Reply) (replies : List (UInt16 × Reply))
      (hreplies : x.replies = (packetId, reply) :: replies) :
      DownlinkStep c x (x.take packetId reply replies)
  | lose (requests : List (UInt16 × Request Message)) (replies : List (UInt16 × Reply))
      (hrequests : requests <+: x.requests) (hreplies : replies <+: x.replies) :
      DownlinkStep c x { x with requests, replies }

theorem DownlinkStep.consistent {c : Config} {x y : Downlink} (h : DownlinkStep c x y)
    (hx : x.Consistent) : y.Consistent := by
  cases h with
  | call call hsets hadmitted => exact Downlink.call_consistent hsets hadmitted hx
  | publish packetId message hidle => exact Downlink.publish_consistent hidle hx
  | send packetId request hrequest hclear => exact Downlink.send_consistent hrequest hclear hx
  | take packetId reply replies hreplies => exact Downlink.take_consistent hreplies hx
  | lose requests replies hrequests hreplies => exact Downlink.lose_consistent hrequests hreplies hx

theorem downlink_consistent {c : Config} {client : Sys} {n m : Nat}
    (hzeroed : client.toPublishRecords = .zeroed n m) {x : Downlink}
    (h : ReflTransGen (DownlinkStep c) (.start client) x) : x.Consistent := by
  induction h with
  | refl => exact Downlink.start_consistent hzeroed
  | tail _ hstep ih => exact hstep.consistent ih

/-- In every run, the messages of a packet id that the server does not offer any more have been given
to the application. While it offers one, these are the messages before it, and one of QoS 2 has not
been given to the application twice. -/
theorem downlink_settled {c : Config} {client : Sys} {n m : Nat}
    (hzeroed : client.toPublishRecords = .zeroed n m) {x : Downlink}
    (h : ReflTransGen (DownlinkStep c) (.start client) x) (packetId : UInt16) :
    ((∀ message, x.phase packetId ≠ .offering message) →
      Settled Message.Once (valuesFor packetId x.started) (valuesFor packetId x.forwarded)) ∧
    ∀ message, x.phase packetId = .offering message →
      ∃ before arrived n, valuesFor packetId x.started = before ++ [message] ∧
        valuesFor packetId x.forwarded = arrived ++ List.replicate n message ∧
        Settled Message.Once before arrived ∧ (message.Once → n ≤ 1) := by
  obtain ⟨held, -, hagree⟩ := (downlink_consistent hzeroed h).agree packetId
  refine ⟨hagree.settled, fun message hphase => ?_⟩
  rw [hphase] at hagree
  exact hagree.settled_init

/-! ## Example -/

/-- The first connection breaks before the PUBREC arrives, and the server sends the publish again. -/
def repeatingClient : Sys :=
  { storingClient [] with
    inbound := [0x20, 2, 0, 0, 0x34, 5, 0, 1, 0x74, 0, 1, 0x20, 2, 1, 0,
      0x3C, 5, 0, 1, 0x74, 0, 1, 0x62, 2, 0, 1]
    recvs := [1, 1, 2, 7, 1, 1, 2, 7, 4] }

/-- The message of the server. -/
def repeatedMessage : Message := PublishInfo.message { publishInfoOne with qos := .qos2 }

/-- The server publishes, and the client passes the message on. -/
def repeatedOnce : Downlink :=
  let x := Downlink.start repeatingClient
  let x := x.call .default (.connect (some resumingInfo) none 1000)
  let x := (x.publish 1 repeatedMessage).send 1 (.offer repeatedMessage)
  x.call .default (.api .receiveLoop)

/-- All is lost. On the next connection the publish is sent again, and the handshake ends. -/
def repeatedTwice : Downlink :=
  let x : Downlink := { repeatedOnce with requests := [], replies := [] }
  let x := x.call .default (.api (.request .disconnect))
  let x := x.call .default (.connect (some resumingInfo) none 1000)
  let x := (x.send 1 (.offer repeatedMessage)).call .default (.api .receiveLoop)
  let x := ((x.take 1 .confirm []).send 1 .release).call .default (.api .receiveLoop)
  x.take 1 .complete []

/-- `downlink_settled` on a publish of QoS 2 that is sent twice. -/
theorem downlink_settled_repeated :
    valuesFor 1 repeatedTwice.started = [repeatedMessage] ∧ repeatedTwice.phase 1 = .idle ∧
      Settled Message.Once (valuesFor 1 repeatedTwice.started)
        (valuesFor 1 repeatedTwice.forwarded) := by
  have hfirst : ReflTransGen (DownlinkStep .default) (.start repeatingClient) repeatedOnce := by
    refine .tail (.tail (.tail (.tail .refl (.call (.connect (some resumingInfo) none 1000) id ?_))
      (.publish 1 repeatedMessage ?_)) (.send 1 (.offer repeatedMessage) ?_ ?_))
      (.call (.api .receiveLoop) id ?_)
    · decide +kernel
    · decide +kernel
    · decide +kernel
    · exact ⟨by decide +kernel, by decide +kernel⟩
    · decide +kernel
  have hrun : ReflTransGen (DownlinkStep .default) (.start repeatingClient) repeatedTwice := by
    refine .tail (.tail (.tail (.tail (.tail (.tail (.tail (.tail (.tail hfirst (.lose [] [] ?_ ?_))
      (.call (.api (.request .disconnect)) id ?_))
      (.call (.connect (some resumingInfo) none 1000) id ?_)) (.send 1 (.offer repeatedMessage) ?_ ?_))
      (.call (.api .receiveLoop) id ?_)) (.take 1 .confirm [] ?_)) (.send 1 .release ?_ ?_))
      (.call (.api .receiveLoop) id ?_)) (.take 1 .complete [] ?_)
    · exact List.nil_prefix
    · exact List.nil_prefix
    · decide +kernel
    · decide +kernel
    · decide +kernel
    · exact ⟨by decide +kernel, by decide +kernel⟩
    · decide +kernel
    · decide +kernel
    · decide +kernel
    · exact ⟨by decide +kernel, by decide +kernel⟩
    · decide +kernel
    · decide +kernel
  have hidle : repeatedTwice.phase 1 = .idle := by decide +kernel
  refine ⟨by decide +kernel, hidle, (downlink_settled (n := 2) (m := 2) rfl hrun 1).1 ?_⟩
  rw [hidle]
  exact nofun

end FreeMqtt

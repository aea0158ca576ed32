import FreeMqtt.Core.ConnectEffects
import FreeMqtt.Core.UplinkCalls

/-!
# Every message reaches the server

Runs of the client, the server and the connection in any order of their steps. Whatever is lost,
`uplink_settled` says which messages the server passed on: all those that the client accepted, in
order for every packet id, a message of QoS 2 once.
-/

namespace FreeMqtt

open Handover KeyedList Moments Relation

/-- A step of the client, the server or the connection. The calls of the client are any but the
initializers `MQTT_Init` and `MQTT_InitStatefulQoS`, which are made before a run. The connection loses
what is sent last. -/
inductive UplinkStep (c : Config) (x : Uplink) : Uplink → Prop
  | call (call : Call) (hsets : ¬ call.SetsRecords)
      (hadmitted : x.Admitted c (call.operations c x.client)) : UplinkStep c x (x.call c call)
  | serve (packetId : UInt16) (request : Request Message) (requests : List (UInt16 × Request Message))
      (hrequests : x.requests = (packetId, request) :: requests) :
      UplinkStep c x (x.serve packetId request requests)
  | lose (requests : List (UInt16 × Request Message)) (replies : List (UInt16 × Reply))
      (hrequests : requests <+: x.requests) (hreplies : replies <+: x.replies) :
      UplinkStep c x { x with requests, replies }

namespace Uplink

variable {c : Config} {x : Uplink}

theorem serve_consistent {packetId : UInt16} {request : Request Message}
    {requests : List (UInt16 × Request Message)}
    (hrequests : x.requests = (packetId, request) :: requests) (h : x.Consistent) :
    (x.serve packetId request requests).Consistent := by
  refine ⟨h.table, fun id => ?_⟩
  obtain ⟨phase, hwaits, hagree⟩ := h.agree id
  refine ⟨phase, hwaits, ?_⟩
  unfold serve
  dsimp only
  rw [hrequests] at hagree
  rw [valuesFor_append, valuesFor_append]
  by_cases hid : packetId = id
  · subst hid
    rw [valuesFor_cons_self] at hagree
    rw [Function.update_self, valuesFor_cons_self, valuesFor_map_mk]
    exact hagree.serve
  · rw [valuesFor_cons_of_ne hid] at hagree
    rw [Function.update_of_ne (Ne.symm hid), valuesFor_cons_of_ne hid, valuesFor_map_mk_of_ne hid,
      valuesFor_nil, List.append_nil, List.append_nil]
    exact hagree

theorem lose_consistent {requests : List (UInt16 × Request Message)}
    {replies : List (UInt16 × Reply)} (hrequests : requests <+: x.requests)
    (hreplies : replies <+: x.replies) (h : x.Consistent) :
    Consistent { x with requests, replies } := by
  refine ⟨h.table, fun id => ?_⟩
  obtain ⟨phase, hwaits, hagree⟩ := h.agree id
  exact ⟨phase, hwaits,
    hagree.lose (valuesFor_initial hrequests id) (valuesFor_initial hreplies id)⟩

theorem start_consistent {client : Sys} {n m : Nat} (h : client.toPublishRecords = .zeroed n m) :
    (start client).Consistent := by
  refine ⟨table_of_zeroed h, fun id => ⟨.idle, .idle ?_, .idle .nil⟩⟩
  show liveRecord client.toPublishRecords.outgoingPublishRecords id = none
  rw [h]
  show lookup PubAckInfo.packetId id (live (holes n)) = none
  rw [live_holes]
  rfl

end Uplink

theorem UplinkStep.consistent {c : Config} {x y : Uplink} (h : UplinkStep c x y)
    (hx : x.Consistent) : y.Consistent := by
  cases h with
  | call call hsets hadmitted => exact Uplink.call_consistent hsets hadmitted hx
  | serve packetId request requests hrequests => exact Uplink.serve_consistent hrequests hx
  | lose requests replies hrequests hreplies => exact Uplink.lose_consistent hrequests hreplies hx

theorem consistent_of_run {c : Config} {client : Sys} {n m : Nat}
    (hzeroed : client.toPublishRecords = .zeroed n m) {x : Uplink}
    (h : ReflTransGen (UplinkStep c) (.start client) x) : x.Consistent := by
  induction h with
  | refl => exact Uplink.start_consistent hzeroed
  | tail _ hstep ih => exact hstep.consistent ih

/-- In every run, the messages of a packet id that the client does not wait for any more have been
passed on by the server. While it has a PUBLISH to send again, these are the messages before the last
one, and a last message of QoS 2 has not been passed on twice. -/
theorem uplink_settled {c : Config} {client : Sys} {n m : Nat}
    (hzeroed : client.toPublishRecords = .zeroed n m) {x : Uplink}
    (h : ReflTransGen (UplinkStep c) (.start client) x) (packetId : UInt16) :
    ((∀ r ∈ x.client.outgoing packetId, r.publishState ∉ publishStates) →
      Settled Message.Once (valuesFor packetId x.started) (valuesFor packetId x.forwarded)) ∧
    ∀ r ∈ x.client.outgoing packetId, r.publishState ∈ publishStates →
      ∃ before arrived message n, valuesFor packetId x.started = before ++ [message] ∧
        valuesFor packetId x.forwarded = arrived ++ List.replicate n message ∧
        Settled Message.Once before arrived ∧ (message.Once → n ≤ 1) := by
  obtain ⟨phase, hwaits, hagree⟩ := (consistent_of_run hzeroed h).agree packetId
  constructor
  · intro hstates
    refine hagree.settled fun message hphase => ?_
    subst hphase
    cases hwaits with
    | offering r _ hr hstate => exact hstates r hr hstate
  · intro r hr hstate
    cases hwaits with
    | idle hnone => exact nomatch hnone.symm.trans hr
    | offering =>
      obtain ⟨before, arrived, n, hstarted, hforwarded, hsettled, honce⟩ := hagree.settled_init
      exact ⟨before, arrived, _, n, hstarted, hforwarded, hsettled, honce⟩
    | releasing r' hr' hstate' =>
      obtain rfl := Option.some.inj (hr.symm.trans hr')
      exact absurd hstate' (Uplink.not_mem_pubrelStates hstate)

/-! ## Example -/

instance (c : Config) (x : Uplink) (operation : Operation) : Decidable (x.Admits c operation) :=
  decidable_of_iff
    ((∀ reply ∈ operation.taken, x.replies.head? = some reply) ∧
      (∀ r ∈ live x.client.outgoingPublishRecords,
        (operation.run c x.client).outgoing r.packetId = none →
          operation.taken = some (r.packetId, .acknowledge) ∨
            operation.taken = some (r.packetId, .complete)) ∧
      ∀ publish ∈ operation.published, publish.1.qos ≠ .qos0 →
        storesCopy x.client = true ∧ (publish.1.dup = true → x.client.outgoing publish.2 = none))
    ⟨fun h => ⟨h.1, h.2.1, h.2.2⟩, fun h => ⟨h.taken, h.keeps, h.publishes⟩⟩

instance (c : Config) (x : Uplink) (operations : List Operation) :
    Decidable (x.Admitted c operations) :=
  List.decidableBAll _ _

/-- A publish of QoS 2. -/
def publishInfoTwo : PublishInfo := { publishInfoOne with qos := .qos2 }

/-- The first connection breaks before the PUBREC arrives. -/
def interruptedClient : Sys :=
  { storingClient [] with
    inbound := [0x20, 2, 0, 0, 0x20, 2, 1, 0, 0x50, 2, 0, 1, 0x70, 2, 0, 1]
    recvs := [1, 1, 2, 1, 1, 2, 4, 4] }

/-- The client publishes, and the server serves the publish. -/
def interruptedOnce : Uplink :=
  let x := Uplink.start interruptedClient
  let x := x.call .default (.connect (some resumingInfo) none 1000)
  let x := x.call .default (.api (.request (.publish (some publishInfoTwo) 1)))
  x.serve 1 (.offer publishInfoTwo.message) []

/-- All is lost. On the next connection the publish is sent again, and the handshake ends. -/
def interruptedTwice : Uplink :=
  let x : Uplink := { interruptedOnce with requests := [], replies := [] }
  let x := x.call .default (.api (.request .disconnect))
  let x := x.call .default (.connect (some resumingInfo) none 1000)
  let x := x.serve 1 (.offer publishInfoTwo.message) []
  let x := x.call .default (.api .receiveLoop)
  let x := x.serve 1 .release []
  x.call .default (.api .receiveLoop)

/-- `uplink_settled` on a publish of QoS 2 that is sent twice. -/
theorem uplink_settled_interrupted :
    valuesFor 1 interruptedTwice.started = [publishInfoTwo.message] ∧
      interruptedTwice.client.outgoing 1 = none ∧
      Settled Message.Once (valuesFor 1 interruptedTwice.started)
        (valuesFor 1 interruptedTwice.forwarded) := by
  have hfirst : ReflTransGen (UplinkStep .default) (.start interruptedClient) interruptedOnce := by
    refine .tail (.tail (.tail .refl (.call (.connect (some resumingInfo) none 1000) id ?_))
      (.call (.api (.request (.publish (some publishInfoTwo) 1))) id ?_)) (.serve 1 _ [] ?_)
    · decide +kernel
    · decide +kernel
    · decide +kernel
  have hrun : ReflTransGen (UplinkStep .default) (.start interruptedClient) interruptedTwice := by
    refine .tail (.tail (.tail (.tail (.tail (.tail (.tail hfirst (.lose [] [] ?_ ?_))
      (.call (.api (.request .disconnect)) id ?_))
      (.call (.connect (some resumingInfo) none 1000) id ?_)) (.serve 1 _ [] ?_))
      (.call (.api .receiveLoop) id ?_)) (.serve 1 _ [] ?_)) (.call (.api .receiveLoop) id ?_)
    · exact List.nil_prefix
    · exact List.nil_prefix
    · decide +kernel
    · decide +kernel
    · decide +kernel
    · decide +kernel
    · decide +kernel
    · decide +kernel
  have hnone : interruptedTwice.client.outgoing 1 = none := by decide +kernel
  refine ⟨by decide +kernel, hnone, (uplink_settled (n := 2) (m := 2) rfl hrun 1).1 ?_⟩
  rw [hnone]
  exact nofun

end FreeMqtt

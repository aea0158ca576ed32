import FreeMqtt.Core.ConnectionStates
import FreeMqtt.Core.Iterations
import FreeMqtt.Core.Resumption
import FreeMqtt.Core.Uplink

/-!
# The calls of a client that publishes to a server

A call of the library keeps the agreement of `Uplink.Consistent` (`Uplink.call_consistent`). Two
packets of one packet id never follow each other inside a call: a PUBREL answers the PUBREC that was
just taken, with the callback of the application in between, and a resumed session sends one packet
for every record, on a connection that is new.
-/

namespace FreeMqtt

open Handover KeyedList Moments

theorem mqttUpdateStatePublish_newState (t : PublishRecords) (packetId : UInt16) (qos : QoS) :
    (mqttUpdateStatePublish t packetId .receive qos).2.1.getD .null ∈
      [.null, .publishDone, mqttCalculateStatePublish .receive qos] := by
  unfold mqttUpdateStatePublish
  split
  · simp
  split
  · simp
  simp only [reduceCtorEq, false_and, if_false]
  generalize updateStatePublish t _ packetId .receive qos _ _ = updated
  by_cases hupdated : updated.1 = .success
  · simp [hupdated]
  · simp [hupdated]

/-- A PUBREL answers a PUBREC. -/
theorem callbackFrame_pubrel {s : Sys} {packet : PacketInfo} {manageKeepAlive : Bool}
    {frame : CallbackFrame} (h : callbackFrame s packet manageKeepAlive = some frame)
    {packetId : UInt16} {state : PublishState} (hreply : frame.reply = some (packetId, state))
    (hack : ackToSend state = some .pubrel) :
    outgoingAckType packet.type = some .pubrec ∧ ackPacketId packet = packetId := by
  obtain rfl : state = .pubRelSend := by
    revert hack
    cases state <;> decide
  unfold callbackFrame at h
  split at h
  · unfold publishFrame at h
    dsimp only at h
    split at h
    swap
    · cases h
    cases h
    obtain ⟨-, hstate⟩ := Prod.mk.inj (Option.some.inj hreply)
    have hmem := mqttUpdateStatePublish_newState s.toPublishRecords
      ((mqttDeserializePublish packet).2.1.getD 0) (mqttDeserializePublish packet).2.2.qos
    rw [hstate] at hmem
    refine absurd hmem ?_
    cases (mqttDeserializePublish packet).2.2.qos <;> decide
  unfold ackFrame at h
  dsimp only at h
  split_ifs at h with hpublish
  · unfold publishAckFrame at h
    dsimp only at h
    split at h
    swap
    · cases h
    cases h
    obtain ⟨hid, hstate⟩ := Prod.mk.inj (Option.some.inj hreply)
    have htype : getAckFromPacketType packet.type = .pubrec := by
      rcases mqttUpdateStateAck_newState s.toPublishRecords
        ((mqttDeserializeAck packet true false).2.1.getD 0) (getAckFromPacketType packet.type)
        .receive with hnew | ⟨qos, hnew⟩
      · rw [hnew] at hstate
        cases hstate
      · rw [hnew, Option.getD_some] at hstate
        revert hstate
        cases getAckFromPacketType packet.type <;> cases qos <;> decide
    exact ⟨outgoingAckType_eq hpublish htype nofun, hid⟩
  · cases h
    cases hreply
  · cases h
    cases hreply

/-! ## Operations one after the other -/

/-- No PUBREL and no stored PUBLISH. -/
def Operation.Plain : Operation → Prop
  | .acknowledge _ state => ackToSend state ≠ some .pubrel
  | .resend _ => False
  | _ => True

theorem Operation.IsHousekeeping.plain {operation : Operation} (h : operation.IsHousekeeping) :
    operation.Plain ∧ ¬ operation.SetsRecords := by
  cases operation with
  | acknowledge | resend | setUp => exact absurd h id
  | _ => exact ⟨trivial, id⟩

namespace Uplink

/-- Operations of the client, one after the other. -/
def performAll (c : Config) (x : Uplink) (operations : List Operation) : Uplink :=
  operations.foldl (perform c) x

/-- A call of the client. -/
def call (c : Config) (x : Uplink) (call : Call) : Uplink :=
  x.performAll c (call.operations c x.client)

/-- What is asked of operations, one after the other. -/
abbrev Admitted (c : Config) (x : Uplink) (operations : List Operation) : Prop :=
  Moments.Admitted (perform c) (Admits c) x operations

variable {c : Config} {x : Uplink} {operation : Operation} {operations more : List Operation}

theorem performAll_append :
    x.performAll c (operations ++ more) = (x.performAll c operations).performAll c more :=
  List.foldl_append

theorem client_performAll (c : Config) (x : Uplink) (operations : List Operation) :
    (x.performAll c operations).client = operations.foldl (Operation.run c) x.client :=
  (List.foldl_hom client fun _ _ => rfl).symm

/-- Operations of which none sends a PUBREL or a stored PUBLISH. -/
theorem performAll_consistent (hadmitted : x.Admitted c operations)
    (hplain : ∀ operation ∈ operations, operation.Plain)
    (hsets : ∀ operation ∈ operations, ¬ operation.SetsRecords) (h : x.Consistent) :
    (x.performAll c operations).Consistent := by
  refine hadmitted.keeps h fun y operation hmem hadmits hbefore => ?_
  refine perform_consistent (hsets operation hmem) hadmits ?_ hbefore
  have hplain := hplain operation hmem
  cases operation with
  | acknowledge packetId state => exact fun hack => absurd hack hplain
  | resend packetId => exact absurd hplain id
  | _ => trivial

/-- Without an acknowledgement no record leaves. -/
theorem Admits.stays (hadmits : x.Admits c operation) {id : UInt16} {r : PubAckInfo}
    (hr : x.client.outgoing id = some r) (hacks : operation.acks = none) :
    (operation.run c x.client).outgoing id ≠ none := by
  intro hnone
  obtain rfl : r.packetId = id := lookup_key hr
  have htaken := hadmits.keeps r (lookup_mem hr) hnone
  rw [Operation.taken, hacks] at htaken
  rcases htaken with htaken | htaken
  · cases htaken
  · cases htaken

/-! ## Other packet ids -/

section Other

variable (hsets : ¬ operation.SetsRecords) (hadmits : x.Admits c operation) (h : x.Consistent)

include hsets hadmits h

/-- An operation sends nothing for a record that it is not about. -/
theorem clear_other (hfits : x.Fits operation) {id : UInt16} (hlive : x.client.outgoing id ≠ none)
    (hresend : operation ≠ .resend id) (hack : ∀ state, operation ≠ .acknowledge id state)
    (hclear : x.Clear id) : (x.perform c operation).Clear id := by
  obtain ⟨requests, hrequested, heffect⟩ :=
    operation.uplinkEffect c h.table hsets hadmits.publishes
  have hsent : valuesFor id requests = [] := by
    cases heffect with
    | none => rfl
    | drop => rfl
    | acked => rfl
    | clean => rfl
    | start info packetId r copy _ hnew _ _ _ _ _ hrequests =>
      refine valuesFor_of_ne hrequests ?_
      rintro rfl
      exact hlive hnew
    | release packetId state hoperation _ _ _ _ hrequests =>
      refine valuesFor_of_ne hrequests ?_
      rintro rfl
      exact hack state hoperation
    | resend packetId hoperation _ _ hrequests =>
      subst hoperation
      obtain ⟨r, hr, hstate⟩ := hfits.1
      obtain ⟨m, hcopy⟩ := (h.agree packetId).copy hr hstate
      rw [hcopy] at hrequests
      refine valuesFor_of_ne hrequests ?_
      rintro rfl
      exact hresend rfl
  constructor
  · rw [perform_requests_for hrequested hsent]
    split
    · rfl
    · exact hclear.1
  · unfold perform
    dsimp only
    split
    · rfl
    split
    · exact hclear.2
    · cases hreplies : x.replies with
      | nil => rfl
      | cons reply replies =>
        have hnil := hclear.2
        rw [hreplies, ← List.singleton_append, valuesFor_append] at hnil
        exact (List.append_eq_nil_iff.1 hnil).2

/-- A record stays as it is when no acknowledgement is taken and no PUBREL is sent for it. -/
theorem outgoing_other {id : UInt16} {r : PubAckInfo} (hr : x.client.outgoing id = some r)
    (hacks : operation.acks = none) (hack : ∀ state, operation ≠ .acknowledge id state) :
    (operation.run c x.client).outgoing id = some r := by
  have hstays := hadmits.stays hr hacks
  obtain ⟨requests, -, heffect⟩ := operation.uplinkEffect c h.table hsets hadmits.publishes
  cases heffect with
  | none hrecords => exact (congrFun hrecords id).trans hr
  | start info packetId _ _ _ hnew _ _ hothers =>
    refine (hothers id ?_).trans hr
    rintro rfl
    exact nomatch hnew.symm.trans hr
  | drop packetId hrecords =>
    by_cases hid : id = packetId
    · exact absurd ((hrecords id).trans (if_pos hid)) hstays
    · exact (hrecords id).trans ((if_neg hid).trans hr)
  | acked _ _ _ hacks' => exact nomatch hacks.symm.trans hacks'
  | release packetId state hoperation _ hothers =>
    refine (hothers id ?_).trans hr
    rintro rfl
    exact hack state hoperation
  | resend _ _ hrecords => exact (congrFun hrecords id).trans hr
  | clean hrecords => exact absurd (hrecords id) hstays

end Other

/-- Requests of the application keep what a PUBREL waits for. -/
theorem ready_requests {calls : List SendCall}
    (hadmitted : x.Admitted c (calls.map .request)) {states : List PublishState}
    {packetId : UInt16} (h : x.Consistent) (hready : x.Ready states packetId) :
    (x.performAll c (calls.map .request)).Ready states packetId := by
  refine (hadmitted.keeps (p := fun x : Uplink => x.Consistent ∧ x.Ready states packetId)
    ⟨h, hready⟩ fun y operation hmem hadmits hbefore => ?_).2
  obtain ⟨call, -, rfl⟩ := List.mem_map.1 hmem
  obtain ⟨hconsistent, ⟨r, hr, hstate⟩, hclear⟩ := hbefore
  refine ⟨perform_consistent id hadmits trivial hconsistent, ⟨r, ?_, hstate⟩, ?_⟩
  · exact outgoing_other id hadmits hconsistent hr rfl nofun
  · exact clear_other id hadmits hconsistent trivial (hr ▸ nofun) nofun nofun hclear

/-! ## Handlers -/

/-- Nothing is in flight behind a reply that is taken. -/
theorem clear_taken (hrequested : Requested x.client (operation.run c x.client) [])
    (hadmits : x.Admits c operation) {packetId : UInt16} {reply : Reply}
    (htaken : operation.taken = some (packetId, reply)) (h : x.AgreesOn packetId) :
    (x.perform c operation).Clear packetId := by
  obtain ⟨phase, -, hagree⟩ := h
  obtain ⟨hrequests, hreplies⟩ := (agree_taken hadmits hagree htaken).alone
  refine ⟨?_, hreplies⟩
  rw [perform_requests_for hrequested rfl, (hadmits.replies_eq htaken).2,
    if_neg Bool.false_ne_true]
  exact hrequests

/-- A handler that is going to send a PUBREL took the PUBREC. -/
theorem ready_deliver {packet : PacketInfo} {manageKeepAlive : Bool}
    (hadmits : x.Admits c (.deliver packet manageKeepAlive)) (h : x.Consistent)
    {frame : CallbackFrame}
    (hframe : callbackFrame (x.client.dispatching packet) packet manageKeepAlive = some frame)
    {packetId : UInt16} {state : PublishState} (hreply : frame.reply = some (packetId, state))
    (hack : ackToSend state = some .pubrel) :
    (x.perform c (.deliver packet manageKeepAlive)).Ready pubrelStates packetId := by
  obtain ⟨htype, rfl⟩ := callbackFrame_pubrel hframe hreply hack
  have hacks : (Operation.deliver packet manageKeepAlive).acks =
      some (ackPacketId packet, .pubrec) := by
    unfold Operation.acks
    dsimp only
    rw [htype]
    rfl
  have htaken : (Operation.deliver packet manageKeepAlive).taken =
      some (ackPacketId packet, .confirm) := by
    rw [Operation.taken, hacks]
    rfl
  constructor
  · obtain ⟨t, store, hbefore, -, heffect⟩ :=
      callbackFrame_effect (s := x.client.dispatching packet) h.table hframe
    have hrun : ∀ id, (Operation.run c x.client (.deliver packet manageKeepAlive)).outgoing id =
        liveRecord t.outgoingPublishRecords id := by
      intro id
      rw [run_deliver c hframe, hbefore]
      rfl
    cases heffect with
    | none htype' => simp [htype] at htype'
    | acked packetType r htype' _ hr hreact hrecords =>
      obtain rfl := Option.some.inj (htype.symm.trans htype')
      rw [callbackFrame_packetId hframe (outgoingAckType_publishAck htype)] at hr hrecords
      have hrecord := (hrun (ackPacketId packet)).trans ((hrecords _).trans (if_pos rfl))
      have hvalid := h.table.valid r (lookup_mem hr)
      rcases react_outgoing_cases hvalid hreact with
        ⟨heq, -⟩ | ⟨-, -, -, hpending⟩ | ⟨heq, -⟩ | ⟨heq, -⟩
      · cases heq
      · exact ⟨_, hrecord.trans hpending, by simp [pubrelStates]⟩
      · cases heq
      · cases heq
  · obtain ⟨requests, hrequested, heffect⟩ := deliver_uplink c h.table packet manageKeepAlive
    have hnil : requests = [] := by
      cases heffect with
      | start _ _ _ _ hoperation => cases hoperation
      | release _ _ hoperation => cases hoperation
      | resend _ hoperation => cases hoperation
      | _ => rfl
    rw [hnil] at hrequested
    exact clear_taken hrequested hadmits htaken (h.agree _)

theorem handler_consistent {packet : PacketInfo} {manageKeepAlive : Bool}
    (hadmitted : x.Admitted c (handlerOperations x.client packet manageKeepAlive))
    (h : x.Consistent) :
    (x.performAll c (handlerOperations x.client packet manageKeepAlive)).Consistent := by
  unfold handlerOperations at hadmitted ⊢
  cases hframe : callbackFrame (x.client.dispatching packet) packet manageKeepAlive with
  | none =>
    rw [hframe] at hadmitted
    refine performAll_consistent hadmitted ?_ ?_ h
    · exact List.forall_mem_singleton.2 trivial
    · exact List.forall_mem_singleton.2 id
  | some frame =>
    rw [hframe] at hadmitted
    obtain ⟨hdeliver, hrest⟩ := admitted_cons.1 hadmitted
    obtain ⟨hrequests, hreply⟩ := admitted_append.1 hrest
    have hdelivered := perform_consistent id hdeliver trivial h
    have hcalled : Consistent ((x.perform c (.deliver packet manageKeepAlive)).performAll c
        ((frame.before.callbacks.headD []).map .request)) := by
      refine performAll_consistent hrequests (fun operation hmem => ?_) (fun operation hmem => ?_)
        hdelivered
      · obtain ⟨call, -, rfl⟩ := List.mem_map.1 hmem
        trivial
      · obtain ⟨call, -, rfl⟩ := List.mem_map.1 hmem
        exact id
    dsimp only
    rw [← List.singleton_append, performAll_append, performAll_append]
    cases hframeReply : frame.reply with
    | none => exact hcalled
    | some reply =>
      obtain ⟨packetId, state⟩ := reply
      rw [hframeReply] at hreply
      refine perform_consistent id (admitted_cons.1 hreply).1 (fun hack => ?_) hcalled
      exact ready_requests hrequests hdelivered (ready_deliver hdeliver h hframe hframeReply hack)

/-- An iteration of a receive function. -/
theorem iteration_consistent {manageKeepAlive : Bool}
    (hadmitted : x.Admitted c (iterationOperations c x.client manageKeepAlive))
    (h : x.Consistent) :
    (x.performAll c (iterationOperations c x.client manageKeepAlive)).Consistent := by
  have hkept : ∀ {y : Uplink} {operations : List Operation}, y.Admitted c operations →
      (∀ operation ∈ operations, operation.IsHousekeeping) → y.Consistent →
      (y.performAll c operations).Consistent := fun hadmitted hhousekeeping =>
    performAll_consistent hadmitted (fun operation hmem => (hhousekeeping operation hmem).plain.1)
      fun operation hmem => (hhousekeeping operation hmem).plain.2
  rcases iterationOperations_cases c x.client manageKeepAlive with
    hhousekeeping | ⟨front, packet, back, heq, hfront, hback⟩
  · exact hkept hadmitted hhousekeeping h
  rw [heq, ← client_performAll] at hadmitted
  rw [heq, ← client_performAll, performAll_append, performAll_append]
  obtain ⟨hbefore, hadmitted⟩ := admitted_append.1 hadmitted
  obtain ⟨hhandler, hafter⟩ := admitted_append.1 hadmitted
  exact hkept hafter hback (handler_consistent hhandler (hkept hbefore hfront h))

/-! ## Resumption -/

/-- The records whose PUBLISH is to be sent again have nothing in flight. -/
def Unsent (x : Uplink) : Prop :=
  ∀ id r, x.client.outgoing id = some r → r.publishState ∈ publishStates → x.Clear id

theorem Consistent.outgoing_of_mem (h : x.Consistent) {r : PubAckInfo}
    (hr : r ∈ x.client.outgoingPublishRecords) {states : List PublishState} (hnull : .null ∉ states)
    (hstate : r.publishState ∈ states) :
    r.packetId ≠ packetIdInvalid ∧ x.client.outgoing r.packetId = some r := by
  obtain ⟨hid, -⟩ := h.table.live_of_state hr hnull hstate
  exact ⟨hid, lookup_of_mem h.table.nodup (mem_live.2 ⟨hr, hid⟩)⟩

/-- A PUBREL for a record that waits for it. -/
theorem perform_pubrel {packetId : UInt16}
    (hadmits : x.Admits c (.acknowledge packetId .pubRelSend)) (h : x.Consistent)
    (hready : x.Ready pubrelStates packetId) :
    let y := x.perform c (.acknowledge packetId .pubRelSend)
    (∀ id, id ≠ packetId → y.client.outgoing id = x.client.outgoing id) ∧
      ∃ r, y.client.outgoing packetId = some r ∧ r.publishState ∈ pubrelStates := by
  obtain ⟨requests, -, heffect⟩ := sendPublishAcks_uplink c h.table packetId .pubRelSend
  obtain ⟨⟨r, hr, hstate⟩, -⟩ := hready
  have hstays := @Admits.stays c x _ hadmits packetId r hr rfl
  dsimp only
  cases heffect with
  | none hrecords =>
    exact ⟨fun id _ => congrFun hrecords id, r, (congrFun hrecords _).trans hr, hstate⟩
  | release _ _ hoperation _ hothers hrecord =>
    cases hoperation
    refine ⟨hothers, ?_⟩
    rcases hrecord with hsame | hchanged
    · exact ⟨r, hsame.trans hr, hstate⟩
    · exact hchanged
  | start _ _ _ _ hoperation => cases hoperation
  | acked _ _ _ hacks => cases hacks
  | resend _ hoperation => cases hoperation
  | drop dropped hrecords =>
    refine ⟨fun id _ => ?_, r, (hrecords packetId).trans ((if_neg ?_).trans hr), hstate⟩
    · by_cases hid : id = dropped
      · have hnone := (hrecords id).trans (if_pos hid)
        cases hlive : x.client.outgoing id with
        | none => exact hnone
        | some r' => exact absurd hnone (hadmits.stays hlive rfl)
      · exact (hrecords id).trans (if_neg hid)
    · rintro rfl
      exact hstays ((hrecords packetId).trans (if_pos rfl))
  | clean hrecords => exact absurd (hrecords packetId) hstays

/-- A PUBREL of a resumption. -/
theorem pubrel_consistent {packetId : UInt16}
    (hadmits : x.Admits c (.acknowledge packetId .pubRelSend)) (h : x.Consistent)
    (hready : x.Ready pubrelStates packetId) (hunsent : x.Unsent) :
    let y := x.perform c (.acknowledge packetId .pubRelSend)
    y.Consistent ∧ y.Unsent ∧
      ∀ id, id ≠ packetId → x.client.outgoing id ≠ none → x.Clear id → y.Clear id := by
  have hclear : ∀ id, id ≠ packetId → x.client.outgoing id ≠ none → x.Clear id →
      (x.perform c (.acknowledge packetId .pubRelSend)).Clear id := by
    intro id hne hlive hclear
    refine clear_other (by exact nofun) hadmits h (fun _ => hready) hlive nofun ?_ hclear
    rintro state hoperation
    cases hoperation
    exact hne rfl
  refine ⟨perform_consistent (by exact nofun) hadmits (fun _ => hready) h, fun id r hr hstate => ?_,
    hclear⟩
  obtain ⟨hothers, r', hr', hstate'⟩ := perform_pubrel hadmits h hready
  by_cases hne : id = packetId
  · subst hne
    obtain rfl := Option.some.inj (hr'.symm.trans hr)
    exact absurd hstate' (not_mem_pubrelStates hstate)
  · have hsame := (hothers id hne).symm.trans hr
    exact hclear id hne (hsame ▸ nofun) (hunsent id r hsame hstate)

/-- The loop over the PUBRELs, from a cursor with the slots `rest` behind it. -/
theorem pubrels_consistent {fuel : Nat} {front rest : List PubAckInfo}
    (hs : x.client.outgoingPublishRecords = front ++ rest)
    (hconn : x.client.connectStatus = .connected)
    (hrest : ∀ r ∈ rest, r.publishState ∈ pubrelStates → x.Clear r.packetId) (hunsent : x.Unsent)
    (h : x.Consistent) :
    let next := mqttPubrelToResend x.client.toPublishRecords front.length
    let operations := pubrelOperations c fuel next.1 next.2.1 x.client
    x.Admitted c operations →
      (x.performAll c operations).Consistent ∧ (x.performAll c operations).Unsent := by
  dsimp only
  induction rest generalizing fuel x front with
  | nil =>
    rw [List.append_nil] at hs
    cases fuel with
    | zero => exact fun _ => ⟨h, hunsent⟩
    | succ fuel =>
      rw [pubrelOperations, if_pos (mqttPubrelToResend_end hs)]
      exact fun _ => ⟨h, hunsent⟩
  | cons r rest ih =>
    have hfront : ∀ r : PubAckInfo, (front ++ [r]).length = front.length + 1 := by simp
    by_cases hr : r.publishState ∈ pubrelStates
    swap
    · have hs' : x.client.outgoingPublishRecords = (front ++ [r]) ++ rest := by simpa using hs
      rw [mqttPubrelToResend_skip hs hr, ← hfront r]
      exact ih hs' hconn (fun r hmem => hrest r (List.mem_cons_of_mem _ hmem)) hunsent h
    have hmem : r ∈ x.client.outgoingPublishRecords := by rw [hs]; simp
    obtain ⟨hid, hlive⟩ := h.outgoing_of_mem hmem (by decide) hr
    obtain ⟨hnext, hcursor⟩ := mqttPubrelToResend_select hs hr
    rw [hnext, hcursor]
    cases fuel with
    | zero => exact fun _ => ⟨h, hunsent⟩
    | succ fuel =>
      rw [pubrelOperations, if_neg hid]
      intro hadmitted
      obtain ⟨hadmits, hadmitted⟩ := admitted_cons.1 hadmitted
      have hready : x.Ready pubrelStates r.packetId :=
        ⟨⟨r, hlive, hr⟩, hrest r List.mem_cons_self hr⟩
      obtain ⟨hconsistent, hunsent', hclear⟩ := pubrel_consistent hadmits h hready hunsent
      have hsent := sendPublishAcks_pubrel c hs h.table hconn hr
      dsimp only at hsent hadmitted ⊢
      rw [← List.singleton_append, performAll_append]
      split at hadmitted
      swap
      · rename_i hfailed
        rw [if_neg hfailed]
        exact ⟨hconsistent, hunsent'⟩
      rename_i hok
      rw [if_pos hok]
      rcases hsent with ⟨e, -, hfail, -⟩ | ⟨-, hall, hrecords, -⟩
      · exact nomatch hfail.symm.trans hok
      rw [← hfront (afterPubrel r)] at hadmitted ⊢
      refine ih (x := x.perform c (.acknowledge r.packetId .pubRelSend)) ?_ ?_ ?_ hunsent'
        hconsistent hadmitted
      · rw [List.append_assoc]
        exact hrecords
      · exact hall.connectStatus.trans hconn
      · intro r' hmem' hstate'
        have hne := ((hs ▸ h.table.toSlots).packetId_ne hid).2 r' hmem'
        have hmem'' : r' ∈ x.client.outgoingPublishRecords := by rw [hs]; simp [hmem']
        exact hclear _ hne ((h.outgoing_of_mem hmem'' (by decide) hstate').2 ▸ nofun)
          (hrest r' (List.mem_cons_of_mem _ hmem') hstate')

theorem resend_records (c : Config) (s : Sys) (packetId : UInt16) :
    (Operation.run c s (.resend packetId)).outgoingPublishRecords = s.outgoingPublishRecords := by
  obtain ⟨-, retrieveResults, heq⟩ := callRetrieve_spec s packetId
  unfold Operation.run
  dsimp only
  rw [heq]
  split
  · rfl
  · obtain ⟨n, stop, hsent, -⟩ := sendPacket_spec c { s with retrieveResults } (.resend packetId) _
    exact hsent.kept.1

/-- A PUBLISH of a resumption. -/
theorem resend_consistent {packetId : UInt16} (hadmits : x.Admits c (.resend packetId))
    (h : x.Consistent) (hready : x.Ready publishStates packetId) :
    let y := x.perform c (.resend packetId)
    y.Consistent ∧ ∀ id, id ≠ packetId → x.client.outgoing id ≠ none → x.Clear id → y.Clear id := by
  have hsets : ¬ (Operation.resend packetId).SetsRecords := id
  refine ⟨perform_consistent hsets hadmits hready h, fun id hne hlive hclear => ?_⟩
  refine clear_other hsets hadmits h hready hlive ?_ ?_ hclear
  · exact fun hoperation => hne (Operation.resend.inj hoperation).symm
  · intro state hoperation
    cases hoperation

/-- The loop over the publishes, from a cursor with the slots `rest` behind it. -/
theorem publishes_consistent {fuel : Nat} {front rest : List PubAckInfo}
    (hs : x.client.outgoingPublishRecords = front ++ rest)
    (hrest : ∀ r ∈ rest, r.publishState ∈ publishStates → x.Clear r.packetId) (h : x.Consistent) :
    let operations := publishOperations c fuel front.length x.client
    x.Admitted c operations → (x.performAll c operations).Consistent := by
  dsimp only
  induction rest generalizing fuel x front with
  | nil =>
    rw [List.append_nil] at hs
    cases fuel with
    | zero => exact fun _ => h
    | succ fuel =>
      rw [publishOperations]
      dsimp only
      rw [if_pos (mqttPublishToResend_end hs)]
      exact fun _ => h
  | cons r rest ih =>
    have hs' : x.client.outgoingPublishRecords = (front ++ [r]) ++ rest := by simpa using hs
    have hfront : (front ++ [r]).length = front.length + 1 := by simp
    cases fuel with
    | zero => exact fun _ => h
    | succ fuel =>
      by_cases hr : r.publishState ∈ publishStates
      swap
      · have hskip : publishOperations c (fuel + 1) front.length x.client =
            publishOperations c (fuel + 1) (front ++ [r]).length x.client := by
          rw [publishOperations, mqttPublishToResend_skip hs hr, ← hfront]
          rfl
        rw [hskip]
        exact ih hs' (fun r hmem => hrest r (List.mem_cons_of_mem _ hmem)) h
      have hmem : r ∈ x.client.outgoingPublishRecords := by rw [hs]; simp
      obtain ⟨hid, hlive⟩ := h.outgoing_of_mem hmem (by decide) hr
      rw [publishOperations, mqttPublishToResend_select hs hr]
      dsimp only
      rw [if_neg hid]
      intro hadmitted
      obtain ⟨hadmits, hadmitted⟩ := admitted_cons.1 hadmitted
      have hready : x.Ready publishStates r.packetId :=
        ⟨⟨r, hlive, hr⟩, hrest r List.mem_cons_self hr⟩
      obtain ⟨hconsistent, hclear⟩ := resend_consistent hadmits h hready
      rw [← List.singleton_append, performAll_append]
      have hclient : (x.perform c (.resend r.packetId)).client =
          Operation.run c x.client (.resend r.packetId) := rfl
      unfold Operation.run at hclient
      dsimp only at hclient
      split at hadmitted
      · exact hconsistent
      rename_i packet hpacket
      rw [hpacket] at hclient
      dsimp only at hclient
      split at hadmitted
      · rename_i hfailed
        rw [if_pos hfailed]
        exact hconsistent
      rename_i hok
      rw [if_neg hok, ← hclient, ← hfront]
      rw [← hclient, ← hfront] at hadmitted
      refine ih (x := x.perform c (.resend r.packetId)) ?_ ?_ hconsistent hadmitted
      · exact (resend_records c x.client r.packetId).trans hs'
      · intro r' hmem' hstate'
        have hne := ((hs ▸ h.table.toSlots).packetId_ne hid).2 r' hmem'
        have hmem'' : r' ∈ x.client.outgoingPublishRecords := by rw [hs]; simp [hmem']
        have hlive' := (h.outgoing_of_mem hmem'' (by decide) hstate').2
        refine hclear r'.packetId hne ?_ (hrest r' (List.mem_cons_of_mem _ hmem') hstate')
        rw [hlive']
        exact Option.some_ne_none r'

/-- A resumption on a new connection. -/
theorem resumption_consistent (hconn : x.client.connectStatus = .connected)
    (hclear : ∀ id, x.Clear id) (h : x.Consistent)
    (hadmitted : x.Admitted c (resumptionOperations c x.client)) :
    (x.performAll c (resumptionOperations c x.client)).Consistent := by
  unfold resumptionOperations at hadmitted ⊢
  dsimp only at hadmitted ⊢
  obtain ⟨hpubrels, hpublishes⟩ := admitted_append.1 hadmitted
  change Admitted c (x.performAll c _) _ at hpublishes
  obtain ⟨hconsistent, hunsent⟩ := @pubrels_consistent c x _ [] _ rfl hconn
    (fun r _ _ => hclear r.packetId) (fun id _ _ _ => hclear id) h hpubrels
  rw [performAll_append]
  have hclient := client_performAll c x (pubrelOperations c
    (x.client.outgoingPublishRecords.length + 1) (mqttPubrelToResend x.client.toPublishRecords 0).1
    (mqttPubrelToResend x.client.toPublishRecords 0).2.1 x.client)
  rw [pubrelOperations_run] at hclient
  rw [← hclient] at hpublishes ⊢
  simp only [List.length_nil] at hconsistent hunsent
  generalize x.performAll c _ = y at hconsistent hunsent hpublishes ⊢
  split at hpublishes
  · rename_i hok
    rw [if_pos hok]
    refine @publishes_consistent c y _ [] _ rfl (fun r hmem hstate => ?_) hconsistent hpublishes
    exact hunsent _ r (hconsistent.outgoing_of_mem hmem (by decide) hstate).2 hstate
  · rename_i hfailed
    rw [if_neg hfailed]
    exact hconsistent

/-! ## Calls -/

/-- A CONNECT is the only packet on its connection. -/
theorem clear_establish {info : ConnectInfo} {will : Option PublishInfo} {timeoutMs : UInt32}
    (id : UInt16) : (x.perform c (.establish info will timeoutMs)).Clear id := by
  obtain ⟨requests, hrequested, heffect⟩ := establish_uplink c x.client info will timeoutMs
  have hnil : requests = [] := by
    cases heffect with
    | start _ _ _ _ hoperation => cases hoperation
    | release _ _ hoperation => cases hoperation
    | resend _ hoperation => cases hoperation
    | _ => rfl
  rw [hnil] at hrequested
  exact ⟨perform_requests_for hrequested rfl, rfl⟩

theorem giveUp_consistent (hadmitted : x.Admitted c [.giveUp]) (h : x.Consistent) :
    (x.performAll c [.giveUp]).Consistent :=
  performAll_consistent hadmitted (List.forall_mem_singleton.2 trivial)
    (List.forall_mem_singleton.2 id) h

/-- `MQTT_Connect` -/
theorem connect_consistent {info : Option ConnectInfo} {will : Option PublishInfo}
    {timeoutMs : UInt32}
    (hadmitted : x.Admitted c (connectOperations c x.client info will timeoutMs))
    (h : x.Consistent) :
    (x.performAll c (connectOperations c x.client info will timeoutMs)).Consistent := by
  unfold connectOperations at hadmitted ⊢
  cases info with
  | none => exact giveUp_consistent hadmitted h
  | some info =>
    dsimp only at hadmitted ⊢
    split at hadmitted
    · rename_i hsize
      rw [if_pos hsize]
      exact giveUp_consistent hadmitted h
    rename_i hsize
    rw [if_neg hsize]
    split at hadmitted
    · rename_i hstatus
      rw [if_pos hstatus]
      exact h
    rename_i hstatus
    rw [if_neg hstatus]
    obtain ⟨hadmits, hadmitted⟩ := admitted_cons.1 hadmitted
    have hconsistent : (x.perform c (.establish info will timeoutMs)).Consistent :=
      perform_consistent (by exact nofun) hadmits trivial h
    rw [← List.singleton_append, performAll_append]
    have hclient : (x.perform c (.establish info will timeoutMs)).client =
        (establish c x.client info will (mqttGetConnectPacketSize (some info) will).2.1
          timeoutMs).2.2 := rfl
    rw [← hclient] at hadmitted ⊢
    split at hadmitted
    · rename_i hfailed
      rw [if_pos hfailed]
      exact giveUp_consistent hadmitted hconsistent
    rename_i hok
    rw [if_neg hok]
    split at hadmitted
    · rename_i hpresent
      rw [if_pos hpresent]
      obtain ⟨hresumption, hend⟩ := admitted_append.1 hadmitted
      have hresumed := resumption_consistent
        (establish_connected c x.client info will timeoutMs (not_not.1 hok)) clear_establish
        hconsistent hresumption
      rw [performAll_append]
      split at hend
      · rename_i hresult
        rw [if_pos hresult]
        exact hresumed
      · rename_i hresult
        rw [if_neg hresult]
        exact giveUp_consistent hend hresumed
    · rename_i hpresent
      rw [if_neg hpresent]
      exact hconsistent

/-- Every call keeps the agreement. -/
theorem call_consistent {call : Call} (hsets : ¬ call.SetsRecords)
    (hadmitted : x.Admitted c (call.operations c x.client)) (h : x.Consistent) :
    (x.call c call).Consistent := by
  have hplain : ∀ {operation}, x.Admitted c [operation] → operation.Plain →
      ¬ operation.SetsRecords → (x.performAll c [operation]).Consistent := fun hadmitted hplain hsets =>
    performAll_consistent hadmitted (List.forall_mem_singleton.2 hplain)
      (List.forall_mem_singleton.2 hsets) h
  unfold Uplink.call
  cases call with
  | connect info will timeoutMs => exact connect_consistent hadmitted h
  | api call =>
    cases call with
    | processLoop =>
      obtain ⟨hstart, hiteration⟩ := admitted_cons.1 hadmitted
      have hstarted : (x.perform c .startProcessLoop).Consistent :=
        perform_consistent (by exact nofun) hstart trivial h
      exact iteration_consistent hiteration hstarted
    | receiveLoop => exact iteration_consistent hadmitted h
    | init _ _ _ _ => exact absurd trivial hsets
    | initStatefulQoS _ _ _ _ => exact absurd trivial hsets
    | initRetransmits _ _ _ => exact hplain hadmitted trivial hsets
    | checkConnectStatus => exact hplain hadmitted trivial hsets
    | request call => exact hplain hadmitted trivial (by exact nofun)

end Uplink

end FreeMqtt

import FreeMqtt.Core.Callback
import FreeMqtt.Lib.Moments

/-!
# Calls as operations

A call of the library as the list of the operations it performs, one after the other: each of them
sends at most one packet, or invokes the callback, or reads from the transport, or only changes the
context. `Call.operations_run` says that the operations together are the call, so a property of the
moments of a run is one of what goes on inside its calls.
-/

namespace FreeMqtt

open Moments

/-- A call of a public function. -/
inductive Call
  | connect (pConnectInfo : Option ConnectInfo) (pWillInfo : Option PublishInfo)
      (timeoutMs : UInt32)
  | api (call : ApiCall)

def Call.run (c : Config) (s : Sys) : Call → Sys
  | .connect pConnectInfo pWillInfo timeoutMs =>
      (mqttConnect c s pConnectInfo pWillInfo timeoutMs).2.2
  | .api call => call.run c s

/-- The operations that calls are made of. -/
inductive Operation
  /-- a request of the application, in a call of its own, in its callback or by the keep-alive -/
  | request (call : SendCall)
  /-- `sendPublishAcks` -/
  | acknowledge (packetId : UInt16) (publishState : PublishState)
  /-- the handler of a packet up to the callback that it invokes -/
  | deliver (packet : PacketInfo) (manageKeepAlive : Bool)
  /-- the handler of a packet that does not invoke the callback -/
  | handle (packet : PacketInfo) (manageKeepAlive : Bool)
  /-- `MQTT_Connect` up to the resumption of a session -/
  | establish (pConnectInfo : ConnectInfo) (pWillInfo : Option PublishInfo) (timeoutMs : UInt32)
  /-- a stored publish that a resumed session sends again -/
  | resend (packetId : UInt16)
  /-- the end of a failed `MQTT_Connect` -/
  | giveUp
  /-- the start of `MQTT_ProcessLoop` -/
  | startProcessLoop
  /-- the read of `receiveSingleIteration` -/
  | read
  | readClock
  /-- `discardStoredPacket` -/
  | discard (packet : PacketInfo)
  /-- a handled packet is taken out of the buffer -/
  | remove (totalMQTTPacketLength : Nat)
  | setLastPacketRxTime
  /-- an initializer, or `MQTT_CheckConnectStatus` -/
  | setUp (call : ApiCall)

def Operation.run (c : Config) (s : Sys) : Operation → Sys
  | .request call => call.run c s
  | .acknowledge packetId publishState => (sendPublishAcks c s packetId publishState).2
  | .deliver packet manageKeepAlive =>
      match callbackFrame (s.dispatching packet) packet manageKeepAlive with
      | some frame =>
          { frame.before.record (.callback packet frame.info) with
            callbacks := frame.before.callbacks.tail }
      | none => s
  | .handle packet manageKeepAlive =>
      match callbackFrame (s.dispatching packet) packet manageKeepAlive with
      | some _ => s
      | none => (handlePacket c manageKeepAlive packet s).2
  | .establish pConnectInfo pWillInfo timeoutMs =>
      (FreeMqtt.establish c s pConnectInfo pWillInfo
        (mqttGetConnectPacketSize (some pConnectInfo) pWillInfo).2.1 timeoutMs).2.2
  | .resend packetId =>
      let retrieved := callRetrieve s packetId
      match retrieved.1 with
      | none => retrieved.2
      | some packet => (sendPacket c retrieved.2 (.resend packetId) packet).2
  | .giveUp =>
      { s with
        connectStatus :=
          if s.connectStatus = .connected then .disconnectPending else s.connectStatus }
  | .startProcessLoop => { s with controlPacketSent := false }
  | .read => (readIntoBuffer c s).2.2.2
  | .readClock => (getTime s).2
  | .discard packet => (discardStoredPacket c s packet).2
  | .remove totalMQTTPacketLength =>
      let index := c.sizeSub s.index totalMQTTPacketLength
      { s with
        index
        networkBuffer := moveToFront s.networkBuffer totalMQTTPacketLength index }
  | .setLastPacketRxTime =>
      let now := getTime s
      { now.2 with lastPacketRxTime := now.1 }
  | .setUp call =>
      match call with
      | .request _ | .processLoop | .receiveLoop => s
      | call => call.run c s

section Handlers

variable (c : Config) {s : Sys} {packet : PacketInfo} {manageKeepAlive : Bool}

theorem run_deliver {frame : CallbackFrame}
    (h : callbackFrame (s.dispatching packet) packet manageKeepAlive = some frame) :
    Operation.run c s (.deliver packet manageKeepAlive) =
      { frame.before.record (.callback packet frame.info) with
        callbacks := frame.before.callbacks.tail } := by
  rw [Operation.run, h]

theorem run_deliver_none
    (h : callbackFrame (s.dispatching packet) packet manageKeepAlive = none) :
    Operation.run c s (.deliver packet manageKeepAlive) = s := by
  rw [Operation.run, h]

theorem run_handle (h : callbackFrame (s.dispatching packet) packet manageKeepAlive = none) :
    Operation.run c s (.handle packet manageKeepAlive) =
      (handlePacket c manageKeepAlive packet s).2 := by
  rw [Operation.run, h]

theorem run_handle_some {frame : CallbackFrame}
    (h : callbackFrame (s.dispatching packet) packet manageKeepAlive = some frame) :
    Operation.run c s (.handle packet manageKeepAlive) = s := by
  rw [Operation.run, h]

end Handlers

/-! ## Receiving -/

/-- The operations of the handler of a packet. -/
def handlerOperations (s : Sys) (packet : PacketInfo) (manageKeepAlive : Bool) : List Operation :=
  match callbackFrame (s.dispatching packet) packet manageKeepAlive with
  | some frame =>
      .deliver packet manageKeepAlive ::
        ((frame.before.callbacks.headD []).map .request ++
          frame.reply.toList.map fun (packetId, state) => .acknowledge packetId state)
  | none => [.handle packet manageKeepAlive]

theorem foldl_requests (c : Config) (s : Sys) (calls : List SendCall) :
    (calls.map Operation.request).foldl (Operation.run c) s = calls.foldl (SendCall.run c) s := by
  rw [List.foldl_map]
  rfl

theorem foldl_reply (c : Config) (s : Sys) (reply : Option (UInt16 × PublishState)) :
    (reply.toList.map fun (packetId, state) => Operation.acknowledge packetId state).foldl
      (Operation.run c) s = (sendReply c s reply).2 := by
  cases reply with
  | none => rfl
  | some reply => rfl

theorem handlerOperations_run (c : Config) (s : Sys) (packet : PacketInfo)
    (manageKeepAlive : Bool) :
    (handlerOperations s packet manageKeepAlive).foldl (Operation.run c) s =
      (handlePacket c manageKeepAlive packet s).2 := by
  unfold handlerOperations
  cases hframe : callbackFrame (s.dispatching packet) packet manageKeepAlive with
  | none => exact run_handle c hframe
  | some frame =>
    dsimp only
    rw [handlePacket_callback c hframe, List.foldl_cons, List.foldl_append, foldl_requests,
      foldl_reply, run_deliver c hframe]
    rfl

/-- Whether `handleKeepAlive` sends a PINGREQ. -/
def keepAlivePings (c : Config) (s : Sys) : Bool :=
  let now := getTime s
  let packetTxTimeoutMs := min c.packetTxTimeoutMs (1000 * s.keepAliveIntervalSec.toNat)
  let timeElapsed := (calculateElapsedTime now.1 s.lastPacketRxTime).toNat
  s.waitingForPingResp = false ∧
    (packetTxTimeoutMs ≠ 0 ∧
        packetTxTimeoutMs ≤ (calculateElapsedTime now.1 s.lastPacketTxTime).toNat ∨
      timeElapsed ≠ 0 ∧ c.packetRxTimeoutMs ≤ timeElapsed)

/-- The operations of `handleKeepAlive`. -/
def keepAliveOperations (c : Config) (s : Sys) : List Operation :=
  .readClock :: if keepAlivePings c s then [.request .ping] else []

theorem keepAliveOperations_run (c : Config) (s : Sys) :
    (keepAliveOperations c s).foldl (Operation.run c) s = (handleKeepAlive c s).2 := by
  unfold keepAliveOperations keepAlivePings handleKeepAlive
  dsimp only
  cases hwaiting : s.waitingForPingResp with
  | true =>
    have hpings : (getTime s).2.waitingForPingResp = true := hwaiting
    rw [if_pos hpings]
    simp [Operation.run]
  | false =>
    have hpings : (getTime s).2.waitingForPingResp = false := hwaiting
    rw [hpings, if_neg Bool.false_ne_true]
    have hfields : (getTime s).2.keepAliveIntervalSec = s.keepAliveIntervalSec ∧
        (getTime s).2.lastPacketTxTime = s.lastPacketTxTime ∧
        (getTime s).2.lastPacketRxTime = s.lastPacketRxTime := ⟨rfl, rfl, rfl⟩
    rw [hfields.1, hfields.2.1, hfields.2.2]
    simp only [true_and, decide_eq_true_eq]
    split
    · rename_i hping
      split
      · rfl
      · rename_i htx
        rw [if_pos (hping.resolve_left htx)]
        rfl
    · rename_i hping
      obtain ⟨htx, hrx⟩ := not_or.1 hping
      rw [if_neg htx, if_neg hrx]
      rfl

/-- The operations of `dispatchPacket`, with the packet as its handler gets it. -/
def dispatchOperations (c : Config) (s : Sys) (packet : PacketInfo) (manageKeepAlive : Bool) :
    List Operation :=
  handlerOperations s packet manageKeepAlive ++
    (.remove packet.totalLength ::
      if (handlePacket c manageKeepAlive packet s).1 = .success then [.setLastPacketRxTime] else [])

/-- The operations of `receiveSingleIteration`. -/
def iterationOperations (c : Config) (s : Sys) (manageKeepAlive : Bool) : List Operation :=
  let read := readIntoBuffer c s
  let kept := checkKeepAlive c read.1 manageKeepAlive read.2.1 read.2.2.2
  .read ::
    ((if read.1 = 0 ∧ manageKeepAlive then keepAliveOperations c read.2.2.2 else []) ++
      match dispatched c s manageKeepAlive with
      | some (packet, s₁) => dispatchOperations c s₁ packet manageKeepAlive
      | none =>
          if kept.1 = .success ∧ kept.2.networkBuffer.length < read.2.2.1.totalLength then
            [.discard read.2.2.1]
          else [])

theorem dispatchOperations_run (c : Config) (s : Sys) (packet : PacketInfo)
    (manageKeepAlive : Bool) :
    (dispatchOperations c s { packet with
        pRemainingData := some (s.networkBuffer.drop packet.headerLength) } manageKeepAlive).foldl
      (Operation.run c) s = (dispatchPacket c manageKeepAlive packet s).2 := by
  unfold dispatchOperations dispatchPacket
  dsimp only
  rw [List.foldl_append, handlerOperations_run, List.foldl_cons]
  split
  · rfl
  · rfl

theorem iterationOperations_run (c : Config) (s : Sys) (manageKeepAlive : Bool) :
    (iterationOperations c s manageKeepAlive).foldl (Operation.run c) s =
      (receiveSingleIteration c s manageKeepAlive).2 := by
  unfold iterationOperations receiveSingleIteration dispatched
  dsimp only
  rw [List.foldl_cons, List.foldl_append]
  have hread : Operation.run c s .read = (readIntoBuffer c s).2.2.2 := rfl
  rw [hread]
  generalize readIntoBuffer c s = read
  have hkept : (if read.1 = 0 ∧ manageKeepAlive = true then keepAliveOperations c read.2.2.2
      else []).foldl (Operation.run c) read.2.2.2 =
        (checkKeepAlive c read.1 manageKeepAlive read.2.1 read.2.2.2).2 := by
    unfold checkKeepAlive
    split
    · exact keepAliveOperations_run c read.2.2.2
    · rfl
  rw [hkept]
  generalize checkKeepAlive c read.1 manageKeepAlive read.2.1 read.2.2.2 = kept
  unfold checkComplete
  dsimp only
  by_cases hstatus : kept.1 = .success
  swap
  · simp [hstatus]
  by_cases hlong : kept.2.networkBuffer.length < read.2.2.1.remainingLength + read.2.2.1.headerLength
  · have hdiscard : (discardStoredPacket c kept.2 read.2.2.1).1 ≠ .success := by
      unfold discardStoredPacket
      dsimp only
      split <;> simp
    have htotal : kept.2.networkBuffer.length < read.2.2.1.totalLength := hlong
    simp only [hstatus, ne_eq, not_true_eq_false, if_false, if_pos hlong, if_neg hdiscard, htotal,
      and_self, if_true]
    rfl
  · have htotal : ¬ kept.2.networkBuffer.length < read.2.2.1.totalLength := hlong
    by_cases hmore : kept.2.index < read.2.2.1.remainingLength + read.2.2.1.headerLength
    · simp [hstatus, hlong, hmore, htotal]
    · simp only [hstatus, ne_eq, not_true_eq_false, if_false, if_neg hlong, if_neg hmore, if_true]
      exact dispatchOperations_run c kept.2 read.2.2.1 manageKeepAlive

/-! ## Connecting -/

/-- The operations of `resendPubrels`. -/
def pubrelOperations (c : Config) : (fuel : Nat) → (packetId : UInt16) → (cursor : Nat) → Sys →
    List Operation
  | 0, _, _, _ => []
  | fuel + 1, packetId, cursor, s =>
      if packetId = packetIdInvalid then []
      else
        let sent := sendPublishAcks c s packetId .pubRelSend
        let next := mqttPubrelToResend sent.2.toPublishRecords cursor
        .acknowledge packetId .pubRelSend ::
          if sent.1 = .success then pubrelOperations c fuel next.1 next.2.1 sent.2 else []

theorem pubrelOperations_run (c : Config) (fuel : Nat) (packetId : UInt16) (cursor : Nat)
    (s : Sys) : (pubrelOperations c fuel packetId cursor s).foldl (Operation.run c) s =
      (resendPubrels c fuel packetId cursor s).2 := by
  induction fuel generalizing packetId cursor s with
  | zero => rfl
  | succ fuel ih =>
    unfold pubrelOperations resendPubrels
    dsimp only
    split
    · rfl
    rw [List.foldl_cons]
    split
    · exact ih ..
    · rfl

/-- The operations of `resendPublishes`. -/
def publishOperations (c : Config) : (fuel : Nat) → (cursor : Nat) → Sys → List Operation
  | 0, _, _ => []
  | fuel + 1, cursor, s =>
      let next := mqttPublishToResend s.toPublishRecords cursor
      if next.1 = packetIdInvalid then []
      else
        .resend next.1 ::
          match (callRetrieve s next.1).1 with
          | none => []
          | some packet =>
              let sent := sendPacket c (callRetrieve s next.1).2 (.resend next.1) packet
              if sent.1 ≠ int32Cast packet.length then []
              else publishOperations c fuel next.2 sent.2

theorem publishOperations_run (c : Config) (fuel cursor : Nat) (s : Sys) :
    (publishOperations c fuel cursor s).foldl (Operation.run c) s =
      (resendPublishes c fuel cursor s).2 := by
  induction fuel generalizing cursor s with
  | zero => rfl
  | succ fuel ih =>
    unfold publishOperations resendPublishes
    dsimp only
    split
    · rfl
    rw [List.foldl_cons]
    have hresend : Operation.run c s (.resend (mqttPublishToResend s.toPublishRecords cursor).1) =
        match (callRetrieve s (mqttPublishToResend s.toPublishRecords cursor).1).1 with
        | none => (callRetrieve s (mqttPublishToResend s.toPublishRecords cursor).1).2
        | some packet => (sendPacket c
            (callRetrieve s (mqttPublishToResend s.toPublishRecords cursor).1).2
            (.resend (mqttPublishToResend s.toPublishRecords cursor).1) packet).2 := rfl
    rw [hresend]
    generalize callRetrieve s (mqttPublishToResend s.toPublishRecords cursor).1 = retrieved
    obtain ⟨_ | packet, s₁⟩ := retrieved
    · rfl
    · dsimp only
      split
      · rfl
      · exact ih ..

/-- The operations of `handleUncleanSessionResumption`. -/
def resumptionOperations (c : Config) (s : Sys) : List Operation :=
  let fuel := s.outgoingPublishRecords.length + 1
  let first := mqttPubrelToResend s.toPublishRecords 0
  let pubrels := resendPubrels c fuel first.1 first.2.1 s
  pubrelOperations c fuel first.1 first.2.1 s ++
    if pubrels.1 = .success ∧ pubrels.2.retrieveFunction then publishOperations c fuel 0 pubrels.2
    else []

theorem resumptionOperations_run (c : Config) (s : Sys) :
    (resumptionOperations c s).foldl (Operation.run c) s =
      (handleUncleanSessionResumption c s).2 := by
  unfold resumptionOperations handleUncleanSessionResumption
  dsimp only
  rw [List.foldl_append, pubrelOperations_run]
  split
  · exact publishOperations_run ..
  · rfl

theorem pubrelOperations_eq {c : Config} {fuel : Nat} {packetId : UInt16} {cursor : Nat}
    {s : Sys} : ∀ operation ∈ pubrelOperations c fuel packetId cursor s,
      ∃ packetId, operation = .acknowledge packetId .pubRelSend := by
  induction fuel generalizing packetId cursor s with
  | zero => exact fun operation hmem => absurd hmem List.not_mem_nil
  | succ fuel ih =>
    intro operation hmem
    unfold pubrelOperations at hmem
    dsimp only at hmem
    split at hmem
    · exact absurd hmem List.not_mem_nil
    rcases List.mem_cons.1 hmem with rfl | hmem
    · exact ⟨_, rfl⟩
    · split at hmem
      · exact ih operation hmem
      · exact absurd hmem List.not_mem_nil

theorem publishOperations_eq {c : Config} {fuel cursor : Nat} {s : Sys} :
    ∀ operation ∈ publishOperations c fuel cursor s, ∃ packetId, operation = .resend packetId := by
  induction fuel generalizing cursor s with
  | zero => exact fun operation hmem => absurd hmem List.not_mem_nil
  | succ fuel ih =>
    intro operation hmem
    unfold publishOperations at hmem
    dsimp only at hmem
    split at hmem
    · exact absurd hmem List.not_mem_nil
    rcases List.mem_cons.1 hmem with rfl | hmem
    · exact ⟨_, rfl⟩
    · split at hmem
      · exact absurd hmem List.not_mem_nil
      · split at hmem
        · exact absurd hmem List.not_mem_nil
        · exact ih operation hmem

/-- A resumption sends PUBRELs and stored publishes only. -/
theorem resumptionOperations_cases {c : Config} {s : Sys} :
    ∀ operation ∈ resumptionOperations c s, ∃ packetId,
      operation = .acknowledge packetId .pubRelSend ∨ operation = .resend packetId := by
  intro operation hmem
  unfold resumptionOperations at hmem
  rcases List.mem_append.1 hmem with hmem | hmem
  · exact (pubrelOperations_eq operation hmem).imp fun _ => .inl
  · split at hmem
    · exact (publishOperations_eq operation hmem).imp fun _ => .inr
    · exact absurd hmem List.not_mem_nil

section Resuming

variable {r : Sys → Sys → Prop} {c : Config} (hrefl : ∀ s, r s s)
  (htrans : ∀ {s s' s''}, r s s' → r s' s'' → r s s'')
  (hresend : ∀ s packetId, r s (Operation.run c s (.resend packetId)))

include hrefl htrans hresend

/-- A preorder that the resending of a publish keeps to. -/
theorem resendPublishes_rel (fuel cursor : Nat) (s : Sys) :
    r s (resendPublishes c fuel cursor s).2 := by
  rw [← publishOperations_run]
  refine foldl_rel hrefl htrans fun m hm => ?_
  obtain ⟨packetId, heq⟩ := publishOperations_eq m.operation (operation_mem hm)
  unfold Moment.after
  rw [heq]
  exact hresend m.before packetId

theorem resumption_rel (hpubrel : ∀ s packetId, r s (sendPublishAcks c s packetId .pubRelSend).2)
    (s : Sys) : r s (handleUncleanSessionResumption c s).2 := by
  rw [← resumptionOperations_run]
  refine foldl_rel hrefl htrans fun m hm => ?_
  unfold Moment.after
  obtain ⟨packetId, heq | heq⟩ := resumptionOperations_cases m.operation (operation_mem hm)
  · rw [heq]
    exact hpubrel m.before packetId
  · rw [heq]
    exact hresend m.before packetId

end Resuming

/-- The operations of `MQTT_Connect`. -/
def connectOperations (c : Config) (s : Sys) (pConnectInfo : Option ConnectInfo)
    (pWillInfo : Option PublishInfo) (timeoutMs : UInt32) : List Operation :=
  let sizes := mqttGetConnectPacketSize pConnectInfo pWillInfo
  match pConnectInfo with
  | none => [.giveUp]
  | some info =>
      if sizes.1 ≠ .success then [.giveUp]
      else if s.connectStatus ≠ .notConnected then []
      else
        let established := establish c s info pWillInfo sizes.2.1 timeoutMs
        .establish info pWillInfo timeoutMs ::
          if established.1 ≠ .success then [.giveUp]
          else if established.2.1 = some true then
            resumptionOperations c established.2.2 ++
              if (handleUncleanSessionResumption c established.2.2).1 = .success then []
              else [.giveUp]
          else []

theorem connectOperations_run (c : Config) (s : Sys) (pConnectInfo : Option ConnectInfo)
    (pWillInfo : Option PublishInfo) (timeoutMs : UInt32) :
    (connectOperations c s pConnectInfo pWillInfo timeoutMs).foldl (Operation.run c) s =
      (mqttConnect c s pConnectInfo pWillInfo timeoutMs).2.2 := by
  unfold connectOperations mqttConnect
  cases pConnectInfo with
  | none => rfl
  | some info =>
    dsimp only
    split
    · rfl
    split
    · rfl
    rw [List.foldl_cons]
    have hestablish : Operation.run c s (.establish info pWillInfo timeoutMs) =
        (establish c s info pWillInfo (mqttGetConnectPacketSize (some info) pWillInfo).2.1
          timeoutMs).2.2 := rfl
    rw [hestablish]
    generalize establish c s info pWillInfo (mqttGetConnectPacketSize (some info) pWillInfo).2.1
      timeoutMs = established
    split
    · rfl
    split
    · rw [List.foldl_append, resumptionOperations_run]
      split
      · rfl
      · rfl
    · rfl

/-! ## Runs -/

def ApiCall.operations (c : Config) (s : Sys) : ApiCall → List Operation
  | .request call => [.request call]
  | .processLoop =>
      .startProcessLoop :: iterationOperations c { s with controlPacketSent := false } true
  | .receiveLoop => iterationOperations c s false
  | call => [.setUp call]

/-- The operations of a call. -/
def Call.operations (c : Config) (s : Sys) : Call → List Operation
  | .connect pConnectInfo pWillInfo timeoutMs =>
      connectOperations c s pConnectInfo pWillInfo timeoutMs
  | .api call => call.operations c s

theorem Call.operations_run (c : Config) (s : Sys) (call : Call) :
    (call.operations c s).foldl (Operation.run c) s = call.run c s := by
  cases call with
  | connect info will timeoutMs => exact connectOperations_run c s info will timeoutMs
  | api call =>
    cases call with
    | processLoop => exact iterationOperations_run c { s with controlPacketSent := false } true
    | receiveLoop => exact iterationOperations_run c s false
    | _ => rfl

/-- The context after a sequence of calls. -/
def runAll (c : Config) (s : Sys) (calls : List Call) : Sys := calls.foldl (Call.run c) s

/-- The moments of a sequence of calls. -/
def runMoments (c : Config) (s : Sys) : List Call → List (Moment Sys Operation)
  | [] => []
  | call :: calls =>
      moments (Operation.run c) s (call.operations c s) ++ runMoments c (call.run c s) calls

/-- A sequence of calls is one of operations. -/
theorem runMoments_eq (c : Config) (s : Sys) (calls : List Call) :
    ∃ operations, runMoments c s calls = moments (Operation.run c) s operations := by
  induction calls generalizing s with
  | nil => exact ⟨[], rfl⟩
  | cons call calls ih =>
    obtain ⟨operations, heq⟩ := ih (call.run c s)
    refine ⟨call.operations c s ++ operations, ?_⟩
    rw [runMoments, heq, moments_append, call.operations_run]

/-- An invariant of the operations of a run. -/
theorem invariant_runMoments {c : Config} {p : Sys → Prop} {s : Sys} {calls : List Call} (hs : p s)
    (h : ∀ m ∈ runMoments c s calls, p m.before → p (m.after (Operation.run c))) :
    (∀ m ∈ runMoments c s calls, p m.before) ∧ p (runAll c s calls) := by
  induction calls generalizing s with
  | nil => exact ⟨fun m hm => absurd hm List.not_mem_nil, hs⟩
  | cons call calls ih =>
    rw [runMoments] at h ⊢
    obtain ⟨hcall, hnext⟩ := invariant_moments hs fun m hm =>
      h m (List.mem_append_left _ hm)
    rw [call.operations_run] at hnext
    obtain ⟨hrest, hend⟩ := ih hnext fun m hm => h m (List.mem_append_right _ hm)
    exact ⟨fun m hm => (List.mem_append.1 hm).elim (hcall m) (hrest m), hend⟩

end FreeMqtt

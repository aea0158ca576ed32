import FreeMqtt.Client.Task
import FreeMqtt.Core.ConnectionStates

/-!
# The client task and the library

`mqttClientTask` with the library context that it works on, and the calls that other threads make
between its own. In a round of its loop the task opens a socket, whose behaviour is data of the
round, and connects over it. At the head of the loop the context is not connected, whatever
happened before (`runRounds_idle`), so a stale connection never meets a fresh socket
(`round_reconnects`).
-/

namespace FreeMqtt.Reconnect

open Client

/-! ## The task -/

/-- The configuration macros of the client. -/
structure ClientConfig where
  /-- `MQTT_CLIENT_ID` -/
  clientId : List UInt8
  /-- `MQTT_KEEP_ALIVE` -/
  keepAlive : UInt16
  /-- `MQTT_BUF_SIZE` -/
  bufSize : Nat
  /-- `MQTT_OUTGOING_PUBLISH_COUNT` -/
  outgoingPublishCount : Nat

/-- The defaults of `core_mqtt_config.h`; the identifier is `"rtthread_mqtt_client"`. -/
def ClientConfig.default : ClientConfig where
  clientId := [0x72, 0x74, 0x74, 0x68, 0x72, 0x65, 0x61, 0x64, 0x5F, 0x6D, 0x71, 0x74, 0x74, 0x5F,
    0x63, 0x6C, 0x69, 0x65, 0x6E, 0x74]
  keepAlive := 60
  bufSize := 4096
  outgoingPublishCount := 30

/-- `connectInfo` of `mqttConnect`. -/
def ClientConfig.connectInfo (d : ClientConfig) : ConnectInfo where
  cleanSession := true
  keepAliveSeconds := d.keepAlive
  pClientIdentifier := some d.clientId
  clientIdentifierLength := UInt16.ofNat d.clientId.length
  pUserName := none
  userNameLength := 0
  pPassword := none
  passwordLength := 0

/-- A call of another thread. -/
inductive OtherCall
  | mqttPublish (publishInfo : Option PublishInfo)
  | mqttSubscribe (subscribeInfo : Option SubscribeInfo)
  deriving DecidableEq, Repr

def OtherCall.run (c : Config) (s : Sys) : OtherCall → Sys
  | .mqttPublish publishInfo =>
      let packetId := mqttGetPacketId s
      (FreeMqtt.mqttPublish c packetId.2 publishInfo packetId.1).2
  | .mqttSubscribe subscribeInfo =>
      let packetId := mqttGetPacketId s
      (FreeMqtt.mqttSubscribe c packetId.2 (subscribeInfo.map fun info => [info]) packetId.1).2

def runOthers (c : Config) (s : Sys) (calls : List OtherCall) : Sys :=
  calls.foldl (OtherCall.run c) s

/-- What happens in a round of the loop of `mqttClientTask`: the results of its calls to the
system, the transport of the new socket, and the calls of other threads. -/
structure Round where
  beforeSocket : List OtherCall
  socket : Int
  /-- `gethostbyname()` returns a host with an address -/
  resolved : Bool
  connect : Int
  sends : List Int
  recvs : List Int
  inbound : List UInt8
  beforeConnect : List OtherCall
  /-- one list for each call of `MQTT_ProcessLoop` -/
  beforeProcessLoop : List (List OtherCall)
  beforeDisconnect : List OtherCall
  beforeSecondDisconnect : List OtherCall

/-- The variables of the task, and the context of the library. -/
structure State where
  task : Task
  context : Sys

/-- `mqttInit`. -/
def mqttInit (d : ClientConfig) (s : Sys) (allocated : Bool) : Status × Sys :=
  if allocated = false then (.noMemory, s)
  else
    let status := FreeMqtt.mqttInit s (some ⟨true, true, false⟩) true true
      (some (List.replicate d.bufSize 0))
    if status.1 ≠ .success then status
    else
      (.success, (mqttInitStatefulQoS status.2
        (some (List.replicate d.outgoingPublishCount .zero)) d.outgoingPublishCount none 0).2)

/-- The context in which `mqttConnect` calls `MQTT_Connect`, over the socket of the round. -/
def Round.connectContext (r : Round) (c : Config) (s : Sys) : Sys :=
  runOthers c { runOthers c s r.beforeSocket with
    sends := r.sends, recvs := r.recvs, inbound := r.inbound } r.beforeConnect

/-- `mqttConnect`. -/
def mqttConnect (c : Config) (d : ClientConfig) (r : Round) (x : State) : Status × State :=
  let s := runOthers c x.context r.beforeSocket
  let t : Task := { x.task.call (.socket r.socket) with socket := r.socket }
  if t.socket < 0 then (.sendFailed, ⟨t, s⟩)
  else if r.resolved = false then (.sendFailed, ⟨t.closesocket, s⟩)
  else if r.connect < 0 then (.sendFailed, ⟨t.closesocket, s⟩)
  else
    let connected := FreeMqtt.mqttConnect c (r.connectContext c x.context) (some d.connectInfo)
      none 10000
    if connected.1 ≠ .success ∧ connected.1 ≠ .statusConnected then
      (connected.1, ⟨t.closesocket, connected.2.2⟩)
    else (.success, ⟨t, connected.2.2⟩)

/-- The inner loop of `mqttClientTask`: whether it has ended, and the state. -/
def processLoop (c : Config) (beforeDisconnect : List OtherCall) :
    List (List OtherCall) → State → Bool × State
  | [], x => (false, x)
  | others :: rest, x =>
      let looped := mqttProcessLoop c (runOthers c x.context others)
      if looped.1 ≠ .success ∧ looped.1 ≠ .needMoreBytes then
        (true, ⟨x.task.call .mqttDisconnect,
          (mqttDisconnect c (runOthers c looped.2 beforeDisconnect)).2⟩)
      else processLoop c beforeDisconnect rest ⟨x.task.call (.mdelay mqttLoopCnt), looped.2⟩

/-- The second call of `MQTT_Disconnect`. -/
def disconnectAgain (c : Config) (r : Round) (x : State) : State :=
  if x.task.isConnected ∧ x.task.socket ≥ 0 then
    ⟨{ x.task.call .mqttDisconnect with isConnected := false },
      (mqttDisconnect c (runOthers c x.context r.beforeSecondDisconnect)).2⟩
  else x

/-- What follows the inner loop in a round. -/
def afterProcessLoop (c : Config) (r : Round) (x : State) : State :=
  let x := disconnectAgain c r x
  let t := x.task.closeIfOpen.call (.mdelay x.task.closeIfOpen.backoffMs)
  ⟨{ t with backoffMs := min (t.backoffMs * 2) maxBackoffMs }, x.context⟩

/-- A round of the loop of `mqttClientTask`: whether it has ended, and the state. -/
def runRound (c : Config) (d : ClientConfig) (r : Round) (x : State) : Bool × State :=
  let connected := mqttConnect c d r ⟨x.task.closeIfOpen, x.context⟩
  if connected.1 ≠ .success then (true, ⟨backOff connected.2.task, connected.2.context⟩)
  else
    let processed := processLoop c r.beforeDisconnect r.beforeProcessLoop
      ⟨{ connected.2.task with isConnected := true, retryCount := 0, backoffMs := initialBackoffMs },
        connected.2.context⟩
    if processed.1 = false then processed else (true, afterProcessLoop c r processed.2)

/-- The loop of `mqttClientTask`: whether it is at its head after these rounds, and the state. -/
def runRounds (c : Config) (d : ClientConfig) : List Round → State → Bool × State
  | [], x => (true, x)
  | r :: rounds, x =>
      let ran := runRound c d r x
      if ran.1 then runRounds c d rounds ran.2 else ran

/-- `mqttClientTask` up to its loop; `networkContext` is a static variable, so its `socket` is
`0`. -/
def start (d : ClientConfig) (s : Sys) : State := ⟨.start 0, (mqttInit d s true).2⟩

/-! ## The task without the library -/

/-- The statuses that the calls of `MQTT_ProcessLoop` return. -/
def loopStatuses (c : Config) : List (List OtherCall) → Sys → List Status
  | [], _ => []
  | others :: rest, s =>
      let looped := mqttProcessLoop c (runOthers c s others)
      looped.1 :: loopStatuses c rest looped.2

/-- The results of a round as data. -/
def Round.pass (r : Round) (c : Config) (d : ClientConfig) (s : Sys) : Pass :=
  let connected := FreeMqtt.mqttConnect c (r.connectContext c s) (some d.connectInfo) none 10000
  ⟨r.socket, r.resolved, r.connect, connected.1,
    loopStatuses c r.beforeProcessLoop connected.2.2⟩

theorem mqttConnect_task (c : Config) (d : ClientConfig) (r : Round) (x : State) :
    (Client.mqttConnect (r.pass c d x.context) x.task).1 = (mqttConnect c d r x).1 ∧
      (Client.mqttConnect (r.pass c d x.context) x.task).2 = (mqttConnect c d r x).2.task := by
  unfold Client.mqttConnect mqttConnect Round.pass
  dsimp only
  split_ifs <;> exact ⟨rfl, rfl⟩

theorem processLoop_task (c : Config) (beforeDisconnect : List OtherCall)
    (calls : List (List OtherCall)) (x : State) :
    (Client.processLoop (loopStatuses c calls x.context) x.task).1 =
        (processLoop c beforeDisconnect calls x).1 ∧
      (Client.processLoop (loopStatuses c calls x.context) x.task).2 =
        (processLoop c beforeDisconnect calls x).2.task := by
  induction calls generalizing x with
  | nil => exact ⟨rfl, rfl⟩
  | cons others rest ih =>
    unfold loopStatuses Client.processLoop processLoop
    dsimp only
    split
    · exact ⟨rfl, rfl⟩
    · exact ih ⟨x.task.call (.mdelay mqttLoopCnt), _⟩

/-- The context of the library after `mqttConnect`. -/
theorem mqttConnect_context (c : Config) (d : ClientConfig) (r : Round) (x : State) :
    (mqttConnect c d r x).2.context = runOthers c x.context r.beforeSocket ∧
        (mqttConnect c d r x).1 ≠ .success ∨
      ∃ status sessionPresent s,
        FreeMqtt.mqttConnect c (r.connectContext c x.context) (some d.connectInfo) none 10000 =
          (status, sessionPresent, s) ∧ (mqttConnect c d r x).2.context = s ∧
        ((mqttConnect c d r x).1 = .success ↔ status = .success ∨ status = .statusConnected) := by
  unfold mqttConnect
  dsimp only
  generalize FreeMqtt.mqttConnect c (r.connectContext c x.context) (some d.connectInfo) none
    10000 = connected
  split
  · exact .inl ⟨rfl, by simp⟩
  split
  · exact .inl ⟨rfl, by simp⟩
  split
  · exact .inl ⟨rfl, by simp⟩
  split
  · rename_i hfail
    exact .inr ⟨_, _, _, rfl, rfl, iff_of_false hfail.1 (by tauto)⟩
  · rename_i hok
    exact .inr ⟨_, _, _, rfl, rfl, iff_of_true rfl (by tauto)⟩

/-- A round moves the variables of the task as its results do. -/
theorem runRound_task (c : Config) (d : ClientConfig) (r : Round) (x : State) :
    (runPass (r.pass c d x.context) x.task).1 = (runRound c d r x).1 ∧
      (runPass (r.pass c d x.context) x.task).2 = (runRound c d r x).2.task := by
  obtain ⟨hstatus, htask⟩ := mqttConnect_task c d r ⟨x.task.closeIfOpen, x.context⟩
  have hcontext := mqttConnect_context c d r ⟨x.task.closeIfOpen, x.context⟩
  have hagain : ∀ y : State, Client.afterProcessLoop y.task = (afterProcessLoop c r y).task := by
    intro y
    unfold Client.afterProcessLoop afterProcessLoop disconnectAgain
    dsimp only
    split_ifs <;> rfl
  unfold runPass runRound
  dsimp only at hstatus htask hcontext ⊢
  rw [hstatus, htask]
  generalize hconnected : mqttConnect c d r ⟨x.task.closeIfOpen, x.context⟩ = connected at *
  split
  · exact ⟨rfl, rfl⟩
  · rename_i hsuccess
    rcases hcontext with ⟨-, hfail⟩ | ⟨status, sessionPresent, s, hlibrary, hs, -⟩
    · exact absurd hfail hsuccess
    have hpass : (r.pass c d x.context).mqttProcessLoop =
        loopStatuses c r.beforeProcessLoop connected.2.context := by
      unfold Round.pass
      dsimp only
      rw [hlibrary, hs]
    obtain ⟨hended, hprocessed⟩ := processLoop_task c r.beforeDisconnect r.beforeProcessLoop
      ⟨{ connected.2.task with isConnected := true, retryCount := 0, backoffMs := initialBackoffMs },
        connected.2.context⟩
    dsimp only at hended hprocessed
    rw [hpass, hended, hprocessed]
    split
    · exact ⟨hended, hprocessed⟩
    · exact ⟨rfl, hagain _⟩

/-! ## Without a connection -/

/-- Other threads do nothing to a context that is not connected but take packet ids. -/
theorem runOthers_idle (c : Config) (calls : List OtherCall) {s : Sys}
    (h : s.connectStatus = .notConnected) :
    ∃ nextPacketId, runOthers c s calls = { s with nextPacketId } := by
  have hpublish : ∀ (s : Sys) info packetId, s.connectStatus = .notConnected →
      (FreeMqtt.mqttPublish c s info packetId).2 = s := by
    intro s info packetId h
    have hconn : s.connectStatus ≠ .connected := by rw [h]; simp
    cases info with
    | none => rfl
    | some info =>
      have houtcome := mqttPublish_cases c s info packetId
      generalize FreeMqtt.mqttPublish c s (some info) packetId = published at houtcome
      cases houtcome with
      | rejected => rfl
      | unreserved hchecks => exact absurd hchecks.connected hconn
      | reserved hchecks => exact absurd hchecks.connected hconn
  have hsubscribe : ∀ (s : Sys) list packetId, s.connectStatus = .notConnected →
      (FreeMqtt.mqttSubscribe c s list packetId).2 = s := by
    intro s list packetId h
    have hconn : s.connectStatus ≠ .connected := by rw [h]; simp
    unfold FreeMqtt.mqttSubscribe
    dsimp only
    split
    · rfl
    split
    · rfl
    · rfl
  induction calls generalizing s with
  | nil => exact ⟨s.nextPacketId, rfl⟩
  | cons call calls ih =>
    have hcall : ∃ nextPacketId, call.run c s = { s with nextPacketId } := by
      cases call with
      | mqttPublish info => exact ⟨_, hpublish (mqttGetPacketId s).2 info _ h⟩
      | mqttSubscribe info => exact ⟨_, hsubscribe (mqttGetPacketId s).2 _ _ h⟩
    obtain ⟨nextPacketId, heq⟩ := hcall
    show ∃ nextPacketId, runOthers c (call.run c s) calls = _
    rw [heq]
    exact ih h

theorem mqttDisconnect_idle (c : Config) (s : Sys) :
    (mqttDisconnect c s).2.connectStatus = .notConnected := by
  rcases mqttDisconnect_outcome c s with ⟨hconn, heq⟩ | ⟨-, n, stop, hsent⟩
  · rw [heq]
    exact hconn
  · exact hsent.bufferKept.status.2 rfl

/-! ## Connecting -/

theorem getIncomingPacket_ne_statusConnected (s : Sys) (packet : PacketInfo) :
    (mqttGetIncomingPacketTypeAndLength s packet).1 ≠ .statusConnected := by
  unfold mqttGetIncomingPacketTypeAndLength
  dsimp only
  split
  · split
    · split <;> simp
    · simp
  · split <;> simp

theorem receiveConnackLoop_ne_statusConnected (c : Config) (timeoutMs entryTimeMs : UInt32)
    (fuel loopCount : Nat) (packet : PacketInfo) (s : Sys) :
    (receiveConnackLoop c timeoutMs entryTimeMs fuel loopCount packet s).1 ≠ .statusConnected := by
  induction fuel generalizing loopCount packet s with
  | zero => simp [receiveConnackLoop]
  | succ fuel ih =>
    unfold receiveConnackLoop
    dsimp only
    generalize (if timeoutMs > 0 then getTime (mqttGetIncomingPacketTypeAndLength s packet).2.2
      else (0, (mqttGetIncomingPacketTypeAndLength s packet).2.2)) = now
    generalize (if timeoutMs > 0 then decide (timeoutMs ≤ calculateElapsedTime now.1 entryTimeMs)
      else decide (c.maxConnackReceiveRetryCount ≤ loopCount)) = breakFromLoop
    split
    · exact ih _ _ _
    · exact getIncomingPacket_ne_statusConnected s packet

theorem receivePacket_ne_statusConnected (c : Config) (s : Sys) (packet : PacketInfo)
    (remainingTimeMs : UInt32) :
    (receivePacket c s packet remainingTimeMs).1 ≠ .statusConnected := by
  unfold receivePacket discardPacket
  dsimp only
  split
  · split <;> simp
  · split <;> simp

theorem mqttDeserializeAck_connack (packet : PacketInfo) (htype : packet.type = packetTypeConnack) :
    (mqttDeserializeAck packet false true).1 ≠ .statusConnected := by
  unfold mqttDeserializeAck deserializeConnack
  dsimp only
  rw [if_neg (by simp [htype]), if_neg (by simp), if_pos htype]
  split_ifs <;> simp

theorem receiveConnack_ne_statusConnected (c : Config) (s : Sys) (timeoutMs : UInt32)
    (cleanSession : Bool) : (receiveConnack c s timeoutMs cleanSession).1 ≠ .statusConnected := by
  unfold receiveConnack
  dsimp only
  split
  · exact receiveConnackLoop_ne_statusConnected c timeoutMs _ _ _ _ _
  split
  · simp
  rename_i htype
  generalize (if calculateElapsedTime _ _ < timeoutMs then _ else _) = remainingTimeMs
  split
  · exact receivePacket_ne_statusConnected c _ _ _
  split
  · exact mqttDeserializeAck_connack _ (not_not.1 htype)
  split
  · simp
  · simp

theorem establish_ne_statusConnected (c : Config) (s : Sys) (info : ConnectInfo)
    (will : Option PublishInfo) (remainingLength : Nat) (timeoutMs : UInt32) :
    (establish c s info will remainingLength timeoutMs).1 ≠ .statusConnected := by
  have hsend : (sendConnectWithoutCopy c s info will remainingLength).1 ≠ .statusConnected := by
    unfold sendConnectWithoutCopy
    dsimp only
    split
    · simp
    · split <;> simp
  unfold establish
  dsimp only
  split
  · exact hsend
  split
  · exact receiveConnack_ne_statusConnected c _ _ _
  · simp

/-- What `MQTT_Connect` does on a context that is not connected, for a clean session. -/
structure ConnectsFresh (s : Sys) (status : Status) (s' : Sys) : Prop where
  status_ne : status ≠ .statusConnected
  failed : status ≠ .success → s'.connectStatus = .notConnected
  accepted : status = .success → s.inbound = connackBytes false ++ s'.inbound ∧ s'.index = 0 ∧
    ∃ n m, s'.toPublishRecords = .zeroed n m
  first : s'.log = s.log ∧ status ≠ .success ∨
    ∃ bytes n stop, s'.log = s.log ++ [.sent .connect bytes n stop]

theorem mqttConnect_fresh (c : Config) {s : Sys} (hconn : s.connectStatus = .notConnected)
    {info : ConnectInfo} (hclean : info.cleanSession = true) (timeoutMs : UInt32) :
    ConnectsFresh s (FreeMqtt.mqttConnect c s (some info) none timeoutMs).1
      (FreeMqtt.mqttConnect c s (some info) none timeoutMs).2.2 := by
  have hlength := connectPacketSize_le (some info) none
  have hne := establish_ne_statusConnected c s info none
    (mqttGetConnectPacketSize (some info) none).2.1 timeoutMs
  have houtcome := establish_outcome c s info none hlength timeoutMs
  have hconnack := @establish_connack c s info none timeoutMs _ hlength
  unfold FreeMqtt.mqttConnect
  dsimp only at hconnack ⊢
  split
  · rename_i hsize
    refine ⟨?_, fun _ => ?_, fun h => absurd h hsize, .inl ⟨rfl, hsize⟩⟩
    · unfold mqttGetConnectPacketSize
      dsimp only
      split_ifs <;> simp
    · dsimp only
      rw [hconn]
      rfl
  rw [if_neg (not_not_intro hconn)]
  generalize establish c s info none (mqttGetConnectPacketSize (some info) none).2.1 timeoutMs =
    established at hne houtcome hconnack ⊢
  have hlog : established.2.2.log = s.log ∧ established.1 ≠ .success ∨
      ∃ bytes n stop, established.2.2.log = s.log ++ [.sent .connect bytes n stop] := by
    cases houtcome with
    | unsent hfail => exact .inl ⟨rfl, hfail⟩
    | refused hsent hreceived _ => exact .inr ⟨_, _, _, hreceived.log.trans hsent.log_eq⟩
    | accepted hsent _ hlog _ _ => exact .inr ⟨_, _, _, hlog.trans hsent.log_eq⟩
  split
  · rename_i hfail
    refine ⟨hne, fun _ => ?_, fun h => absurd h hfail, hlog⟩
    have hnot : established.2.2.connectStatus = .notConnected := by
      cases houtcome with
      | unsent _ => exact hconn
      | refused hsent hreceived _ =>
        exact eq_notConnected_of_level_le hreceived.status (hsent.bufferKept.status.2 hconn)
      | accepted _ _ _ _ _ => exact absurd rfl hfail
    dsimp only
    rw [hnot]
    rfl
  rename_i hok
  obtain ⟨sessionPresent, hpresent, hnew, hinbound, hempty⟩ := hconnack (not_not.1 hok)
  rw [hnew hclean] at hpresent hinbound
  obtain ⟨hindex, hrecords⟩ := hempty (hnew hclean)
  rw [if_neg (by rw [hpresent]; simp)]
  exact ⟨hne, fun h => absurd (not_not.1 hok) h, fun _ => ⟨hinbound, hindex, hrecords⟩, hlog⟩

/-! ## Rounds -/

/-- Nothing is added to the log, or a CONNECT comes first. -/
def StartsWithConnect (s s' : Sys) : Prop :=
  ∃ events, s'.log = s.log ++ events ∧
    (events = [] ∨ ∃ bytes n stop rest, events = .sent .connect bytes n stop :: rest)

/-- The context in which `MQTT_Connect` is called. -/
theorem connectContext_idle (c : Config) (r : Round) {s : Sys}
    (h : s.connectStatus = .notConnected) :
    (r.connectContext c s).connectStatus = .notConnected ∧
      (r.connectContext c s).inbound = r.inbound ∧ (r.connectContext c s).log = s.log := by
  obtain ⟨nextPacketId, heq⟩ := runOthers_idle c r.beforeSocket h
  obtain ⟨nextPacketId', heq'⟩ := runOthers_idle c r.beforeConnect
    (s := { s with nextPacketId, sends := r.sends, recvs := r.recvs, inbound := r.inbound }) h
  unfold Round.connectContext
  rw [heq, heq']
  exact ⟨h, rfl, rfl⟩

/-- `mqttConnect` on a context that is not connected. -/
theorem mqttConnect_idle (c : Config) (d : ClientConfig) (r : Round) {x : State}
    (h : x.context.connectStatus = .notConnected) :
    let connected := mqttConnect c d r x
    (connected.1 ≠ .success → connected.2.context.connectStatus = .notConnected) ∧
      (connected.1 = .success → r.inbound = connackBytes false ++ connected.2.context.inbound ∧
        connected.2.context.index = 0 ∧ ∃ n m, connected.2.context.toPublishRecords = .zeroed n m) ∧
      (connected.2.context.log = x.context.log ∧ connected.1 ≠ .success ∨ ∃ bytes n stop,
        connected.2.context.log = x.context.log ++ [.sent .connect bytes n stop]) := by
  obtain ⟨hidle, hinbound, hlog⟩ := connectContext_idle c r h
  have hfresh := mqttConnect_fresh c hidle (show d.connectInfo.cleanSession = true from rfl) 10000
  dsimp only
  rcases mqttConnect_context c d r x with ⟨hcontext, hfail⟩ |
    ⟨status, sessionPresent, s, hlibrary, hcontext, hsuccess⟩
  · obtain ⟨nextPacketId, heq⟩ := runOthers_idle c r.beforeSocket h
    rw [hcontext, heq]
    exact ⟨fun _ => h, fun hok => absurd hok hfail, .inl ⟨rfl, hfail⟩⟩
  · rw [hlibrary] at hfresh
    dsimp only at hfresh
    rw [hcontext, hsuccess]
    refine ⟨fun hfail => hfresh.failed fun hok => hfail (hsuccess.2 (.inl hok)), fun hok => ?_, ?_⟩
    · rw [← hinbound]
      exact hfresh.accepted (hok.resolve_right hfresh.status_ne)
    · rw [← hlog]
      refine hfresh.first.imp_left fun hnone => ⟨hnone.1, fun hok => ?_⟩
      exact (hsuccess.1 hok).elim hnone.2 hfresh.status_ne

theorem runOthers_library (c : Config) (calls : List OtherCall) (s : Sys) :
    Library s (runOthers c s calls) := by
  induction calls generalizing s with
  | nil => exact .refl
  | cons call calls ih =>
    refine Relation.ReflTransGen.trans ?_ (ih (call.run c s))
    have hid := ((SendCall.getPacketId).requests c s).library
    cases call with
    | mqttPublish info => exact hid.trans (mqttPublish_requests c _ info _).library
    | mqttSubscribe info => exact hid.trans (mqttSubscribe_requests c _ _ _).library

/-- The inner loop ends with a call of `MQTT_Disconnect`. -/
theorem processLoop_idle (c : Config) (beforeDisconnect : List OtherCall)
    (calls : List (List OtherCall)) (x : State) :
    let processed := processLoop c beforeDisconnect calls x
    Library x.context processed.2.context ∧
      (processed.1 = true → processed.2.context.connectStatus = .notConnected) := by
  induction calls generalizing x with
  | nil => exact ⟨.refl, by simp [processLoop]⟩
  | cons others rest ih =>
    have hlooped : Library x.context (mqttProcessLoop c (runOthers c x.context others)).2 :=
      (runOthers_library c others x.context).trans (ApiCall.library c _ .processLoop)
    unfold processLoop
    dsimp only
    split
    · refine ⟨?_, fun _ => mqttDisconnect_idle c _⟩
      exact (hlooped.trans (runOthers_library ..)).trans (mqttDisconnect_requests c _).library
    · obtain ⟨hrest, hended⟩ := ih ⟨x.task.call (.mdelay mqttLoopCnt),
        (mqttProcessLoop c (runOthers c x.context others)).2⟩
      exact ⟨hlooped.trans hrest, hended⟩

/-- A second `MQTT_Disconnect` finds nothing to disconnect. -/
theorem afterProcessLoop_idle (c : Config) (r : Round) {x : State}
    (h : x.context.connectStatus = .notConnected) :
    ∃ nextPacketId, (afterProcessLoop c r x).context = { x.context with nextPacketId } := by
  obtain ⟨nextPacketId, heq⟩ := runOthers_idle c r.beforeSecondDisconnect h
  unfold afterProcessLoop disconnectAgain
  dsimp only
  split
  · refine ⟨nextPacketId, ?_⟩
    dsimp only
    rw [heq, mqttDisconnect, if_pos h]
  · exact ⟨x.context.nextPacketId, rfl⟩

theorem runRound_idle (c : Config) (d : ClientConfig) (r : Round) {x : State}
    (h : x.context.connectStatus = .notConnected) :
    ((runRound c d r x).1 = true → (runRound c d r x).2.context.connectStatus = .notConnected) ∧
      StartsWithConnect x.context (runRound c d r x).2.context := by
  obtain ⟨hfailed, -, hfirst⟩ := mqttConnect_idle c d r (x := ⟨x.task.closeIfOpen, x.context⟩) h
  unfold runRound
  dsimp only at hfailed hfirst ⊢
  generalize mqttConnect c d r ⟨x.task.closeIfOpen, x.context⟩ = connected at hfailed hfirst ⊢
  split
  · rename_i hfail
    refine ⟨fun _ => hfailed hfail, ?_⟩
    rcases hfirst with ⟨hnone, -⟩ | ⟨bytes, n, stop, hsent⟩
    · exact ⟨[], by rw [List.append_nil]; exact hnone, .inl rfl⟩
    · exact ⟨_, hsent, .inr ⟨bytes, n, stop, [], rfl⟩⟩
  · rename_i hok
    obtain ⟨bytes, n, stop, hsent⟩ := hfirst.resolve_left fun hnone => hok hnone.2
    have hstart : ∀ s', (∃ events, s'.log = connected.2.context.log ++ events) →
        StartsWithConnect x.context s' := by
      rintro s' ⟨events, hlog⟩
      refine ⟨.sent .connect bytes n stop :: events, ?_, .inr ⟨_, _, _, _, rfl⟩⟩
      rw [hlog, hsent, List.append_assoc]
      rfl
    obtain ⟨hlibrary, hended⟩ := processLoop_idle c r.beforeDisconnect r.beforeProcessLoop
      ⟨{ connected.2.task with isConnected := true, retryCount := 0, backoffMs := initialBackoffMs },
        connected.2.context⟩
    dsimp only at hlibrary hended
    split
    · rename_i hrunning
      exact ⟨fun h => absurd h (by rw [hrunning]; simp), hstart _ hlibrary.log_extends⟩
    · rename_i hdone
      have hidle := hended (Bool.eq_true_of_not_eq_false hdone)
      obtain ⟨nextPacketId, hafter⟩ := afterProcessLoop_idle c r hidle
      dsimp only
      rw [hafter]
      exact ⟨fun _ => hidle, hstart _ hlibrary.log_extends⟩

/-! ## Runs -/

theorem mqttInit_idle (d : ClientConfig) (s : Sys) :
    (start d s).context.connectStatus = .notConnected := by
  have hinit : FreeMqtt.mqttInit s (some ⟨true, true, false⟩) true true
      (some (List.replicate d.bufSize 0)) = (.success, { s with
        toContext := { Context.zero with
          connectStatus := .notConnected
          writev := false
          networkBuffer := List.replicate d.bufSize 0
          nextPacketId := 1 } }) := rfl
  unfold start mqttInit
  dsimp only
  rw [if_neg (by simp), hinit]
  unfold mqttInitStatefulQoS
  dsimp only
  split_ifs <;> rfl

/-- At the head of its loop the task is not connected. -/
theorem runRounds_idle (c : Config) (d : ClientConfig) (rounds : List Round) {x : State}
    (h : x.context.connectStatus = .notConnected) (hended : (runRounds c d rounds x).1 = true) :
    (runRounds c d rounds x).2.context.connectStatus = .notConnected := by
  induction rounds generalizing x with
  | nil => exact h
  | cons r rounds ih =>
    unfold runRounds at hended ⊢
    dsimp only at hended ⊢
    split at hended
    · rename_i hround
      rw [if_pos hround]
      exact ih ((runRound_idle c d r h).1 hround) hended
    · rename_i hround
      exact absurd hended hround

/-- How a round connects. -/
structure Reconnects (c : Config) (d : ClientConfig) (r : Round) (x : State) : Prop where
  /-- `MQTT_Connect` is called on a context that is not connected -/
  idle : (r.connectContext c x.context).connectStatus = .notConnected
  /-- the first packet on the new socket is CONNECT -/
  first : StartsWithConnect x.context (runRound c d r x).2.context
  /-- `MQTT_Connect` never returns `MQTTStatusConnected` -/
  shortcut : (FreeMqtt.mqttConnect c (r.connectContext c x.context) (some d.connectInfo) none
    10000).1 ≠ .statusConnected
  /-- the connection is accepted by a CONNACK of this socket, and starts empty -/
  accepted : (mqttConnect c d r x).1 = .success →
    r.inbound = connackBytes false ++ (mqttConnect c d r x).2.context.inbound ∧
      (mqttConnect c d r x).2.context.index = 0 ∧
      ∃ n m, (mqttConnect c d r x).2.context.toPublishRecords = .zeroed n m

/-- Whatever happened in the rounds before, and in this one. -/
theorem round_reconnects (c : Config) (d : ClientConfig) (s : Sys) (rounds : List Round) (r : Round)
    (hended : (runRounds c d rounds (start d s)).1 = true) :
    Reconnects c d r (runRounds c d rounds (start d s)).2 := by
  have hidle := runRounds_idle c d rounds (mqttInit_idle d s) hended
  obtain ⟨hcontext, -, -⟩ := connectContext_idle c r hidle
  exact ⟨hcontext, (runRound_idle c d r hidle).2,
    (mqttConnect_fresh c hcontext (show d.connectInfo.cleanSession = true from rfl)
      10000).status_ne,
    (mqttConnect_idle c d r hidle).2.1⟩

/-- A round whose broker accepts the connection and closes it at once. -/
def acceptedOnce : Round where
  beforeSocket := []
  socket := 3
  resolved := true
  connect := 0
  sends := []
  recvs := []
  inbound := connackBytes false
  beforeConnect := [.mqttPublish none]
  beforeProcessLoop := [[.mqttSubscribe none]]
  beforeDisconnect := []
  beforeSecondDisconnect := []

theorem round_reconnects_again :
    (runRounds .default .default [acceptedOnce] (start .default (.initialized (.still []) 0 0))).1 =
      true ∧
    Reconnects .default .default acceptedOnce (runRounds .default .default [acceptedOnce]
      (start .default (.initialized (.still []) 0 0))).2 := by
  have hended : (runRounds .default .default [acceptedOnce]
      (start .default (.initialized (.still []) 0 0))).1 = true := by decide +kernel
  exact ⟨hended, round_reconnects .default .default (.initialized (.still []) 0 0) [acceptedOnce]
    acceptedOnce hended⟩

end FreeMqtt.Reconnect

import FreeMqtt.Core.ConnectEffects
import FreeMqtt.Core.KeepAlive

/-!
# A server that falls silent

An application calls `MQTT_ProcessLoop` again and again, and no byte arrives any more. Whatever it
sends in between, and however long the calls take, the loss of the server is noticed:
`silentServer_noticed` bounds the time in which all calls of `MQTT_ProcessLoop` can succeed.
-/

namespace FreeMqtt

/-- What is in the buffer is no whole packet yet, and one that fits. -/
def Sys.Incomplete (s : Sys) : Prop :=
  let packet := mqttProcessIncomingPacketTypeAndLength s.networkBuffer s.index
  s.index = 0 ∨ packet.1 = .needMoreBytes ∨
    packet.1 = .success ∧ s.index < packet.2.totalLength ∧
      packet.2.totalLength ≤ s.networkBuffer.length

/-- The transport has no byte to deliver: `recv` returns 0, or fails. -/
structure Sys.Silent (s : Sys) : Prop where
  inbound : s.inbound = []
  incomplete : s.Incomplete

/-- The calls of an application that waits for the server: all but `MQTT_Ping`, `MQTT_Connect` and the
initializers. -/
def ApiCall.Quiet : ApiCall → Prop
  | .request call => call ≠ .ping
  | .processLoop | .receiveLoop | .checkConnectStatus => True
  | .init _ _ _ _ | .initStatefulQoS _ _ _ _ | .initRetransmits _ _ _ => False

/-- The contexts in which `MQTT_ProcessLoop` is called. -/
def processLoops (c : Config) (s : Sys) : List ApiCall → List Sys
  | [] => []
  | .processLoop :: calls => s :: processLoops c (mqttProcessLoop c s).2 calls
  | call :: calls => processLoops c (call.run c s) calls

/-- The times that the clock shows in these calls, when they read it first. -/
def loopTimes (time : Nat → Nat) (c : Config) (s : Sys) (calls : List ApiCall) : List Nat :=
  (processLoops c s calls).map fun loop => time loop.ticks

/-! ## Calls that read nothing -/

/-- Nothing was received, and the clock runs on. -/
structure Unread (s s' : Sys) : Prop where
  clock : s'.clock = s.clock
  ticks : s.ticks ≤ s'.ticks
  inbound : s'.inbound = s.inbound
  networkBuffer : s'.networkBuffer = s.networkBuffer
  index : s'.index = s.index
  lastPacketRxTime : s'.lastPacketRxTime = s.lastPacketRxTime

theorem unread_preorder : SendPreorder Unread where
  refl _ := ⟨rfl, Nat.le_refl _, rfl, rfl, rfl, rfl⟩
  trans h h' := ⟨h'.1.trans h.1, h.2.trans h'.2, h'.3.trans h.3, h'.4.trans h.4, h'.5.trans h.5,
    h'.6.trans h.6⟩
  clock _ := ⟨rfl, Nat.le_succ _, rfl, rfl, rfl, rfl⟩
  error s := by
    unfold networkError
    split <;> exact ⟨rfl, Nat.le_refl _, rfl, rfl, rfl, rfl⟩
  send s offered := by
    obtain ⟨sends, wire, heq⟩ := transportSend_kept s offered
    rw [heq]
    exact ⟨rfl, Nat.le_refl _, rfl, rfl, rfl, rfl⟩
  stamp _ := ⟨rfl, Nat.le_succ _, rfl, rfl, rfl, rfl⟩
  record _ _ _ _ _ := ⟨rfl, Nat.le_refl _, rfl, rfl, rfl, rfl⟩
  context _ _ _ _ _ _ := ⟨rfl, Nat.le_refl _, rfl, rfl, rfl, rfl⟩

theorem mqttPing_unread (c : Config) (s : Sys) : Unread s (mqttPing c s).2 :=
  unread_preorder.mqttPing c (fun _ _ _ => ⟨rfl, Nat.le_refl _, rfl, rfl, rfl, rfl⟩) s

/-- What a call of a silent connection leaves. -/
structure Silence (s s' : Sys) : Prop where
  clock : s'.clock = s.clock
  ticks : s.ticks ≤ s'.ticks
  lastPacketRxTime : s'.lastPacketRxTime = s.lastPacketRxTime
  silent : s'.Silent

theorem Unread.silence {s s' : Sys} (h : Unread s s') (hs : s.Silent) : Silence s s' := by
  refine ⟨h.clock, h.ticks, h.lastPacketRxTime, h.inbound.trans hs.inbound, ?_⟩
  unfold Sys.Incomplete
  rw [h.networkBuffer, h.index]
  exact hs.incomplete

theorem Silence.trans {s s' s'' : Sys} (h : Silence s s') (h' : Silence s' s'') : Silence s s'' :=
  ⟨h'.clock.trans h.clock, h.ticks.trans h'.ticks, h'.lastPacketRxTime.trans h.lastPacketRxTime,
    h'.silent⟩

theorem request_silence (c : Config) {s : Sys} (hs : s.Silent) (call : SendCall) :
    Silence s (call.run c s) := by
  by_cases hcall : call = .disconnect
  swap
  · exact (unread_preorder.request c (mqttPing_unread c) s hcall).silence hs
  subst hcall
  show Silence s (mqttDisconnect c s).2
  unfold mqttDisconnect
  split
  · exact (unread_preorder.refl s).silence hs
  · have hreset : Silence s { s with connectStatus := .notConnected }.clearBuffer :=
      ⟨rfl, Nat.le_refl _, rfl, hs.inbound, .inl rfl⟩
    exact hreset.trans ((unread_preorder.sendPacket c _ .disconnect _).silence hreset.silent)

/-- No PINGREQ was sent. -/
structure Unpinged (s s' : Sys) : Prop where
  pingReqSendTimeMs : s'.pingReqSendTimeMs = s.pingReqSendTimeMs
  waitingForPingResp : s'.waitingForPingResp = s.waitingForPingResp

theorem unpinged_preorder : SendPreorder Unpinged where
  refl _ := ⟨rfl, rfl⟩
  trans h h' := ⟨h'.1.trans h.1, h'.2.trans h.2⟩
  clock _ := ⟨rfl, rfl⟩
  error s := by
    unfold networkError
    split <;> exact ⟨rfl, rfl⟩
  send s offered := by
    obtain ⟨sends, wire, heq⟩ := transportSend_kept s offered
    rw [heq]
    exact ⟨rfl, rfl⟩
  stamp _ := ⟨rfl, rfl⟩
  record _ _ _ _ _ := ⟨rfl, rfl⟩
  context _ _ _ _ _ _ := ⟨rfl, rfl⟩

theorem request_unpinged (c : Config) (s : Sys) {call : SendCall} (hping : call ≠ .ping) :
    Unpinged s (call.run c s) := by
  have h := unpinged_preorder
  cases call with
  | publish info packetId => exact h.mqttPublish c s info packetId
  | subscribe list packetId => exact h.mqttSubscribe c s list packetId
  | unsubscribe list packetId => exact h.mqttUnsubscribe c s list packetId
  | ping => exact absurd rfl hping
  | disconnect => exact h.mqttDisconnect c (fun _ => ⟨rfl, rfl⟩) s
  | cancelCallback packetId => exact h.mqttCancelCallback s packetId
  | getPacketId => exact h.context s s.toPublishRecords s.controlPacketSent _ s.store s.storeResults

/-! ## The keep-alive check -/

/-- The time of the last packet stays, or is read from the clock. -/
structure Dated (s s' : Sys) : Prop where
  clock : s'.clock = s.clock
  ticks : s.ticks ≤ s'.ticks
  stamp : s'.lastPacketTxTime = s.lastPacketTxTime ∨
    ∃ n, s.ticks ≤ n ∧ n < s'.ticks ∧ s'.lastPacketTxTime = s.clock n

theorem Dated.of_eq {s s' : Sys} (hclock : s'.clock = s.clock) (hticks : s.ticks ≤ s'.ticks)
    (hstamp : s'.lastPacketTxTime = s.lastPacketTxTime) : Dated s s' :=
  ⟨hclock, hticks, .inl hstamp⟩

theorem Dated.trans {s s' s'' : Sys} (h : Dated s s') (h' : Dated s' s'') : Dated s s'' := by
  refine ⟨h'.clock.trans h.clock, h.ticks.trans h'.ticks, ?_⟩
  rcases h'.stamp with hkept | ⟨n, hle, hlt, htime⟩
  · rw [hkept]
    exact h.stamp.imp_right fun ⟨n, hle, hlt, htime⟩ => ⟨n, hle, hlt.trans_le h'.ticks, htime⟩
  · exact .inr ⟨n, h.ticks.trans hle, hlt, htime.trans (congrFun h.clock n)⟩

theorem dated_preorder : SendPreorder Dated where
  refl _ := .of_eq rfl (Nat.le_refl _) rfl
  trans := .trans
  clock _ := .of_eq rfl (Nat.le_succ _) rfl
  error s := by
    unfold networkError
    split <;> exact .of_eq rfl (Nat.le_refl _) rfl
  send s offered := by
    obtain ⟨sends, wire, heq⟩ := transportSend_kept s offered
    rw [heq]
    exact .of_eq rfl (Nat.le_refl _) rfl
  stamp s := ⟨rfl, Nat.le_succ _, .inr ⟨s.ticks, Nat.le_refl _, Nat.lt_succ_self _, rfl⟩⟩
  record _ _ _ _ _ := .of_eq rfl (Nat.le_refl _) rfl
  context _ _ _ _ _ _ := .of_eq rfl (Nat.le_refl _) rfl

/-- The time of a PINGREQ is one that the clock showed while it was sent. -/
theorem mqttPing_dated (c : Config) {s : Sys} (h : (mqttPing c s).1 = .success) :
    (mqttPing c s).2.waitingForPingResp = true ∧
      ∃ n, s.ticks ≤ n ∧ n < (mqttPing c s).2.ticks ∧
        (mqttPing c s).2.pingReqSendTimeMs = s.clock n := by
  obtain ⟨hpos, heq⟩ := mqttPing_sent h
  obtain ⟨s₁, hbefore, hafter⟩ := dated_preorder.sendPacket_stamps c hpos
  rw [heq]
  refine ⟨rfl, ?_⟩
  rcases hafter.stamp with hkept | ⟨n, hle, hlt, htime⟩
  · exact ⟨s₁.ticks, hbefore.ticks, hafter.ticks, hkept.trans (congrFun hbefore.clock _)⟩
  · exact ⟨n, hbefore.ticks.trans (Nat.le_of_succ_le hle), hlt,
      htime.trans (congrFun hbefore.clock n)⟩

/-- What the keep-alive check does at the time that it reads. -/
inductive KeptAlive (c : Config) (s : Sys) : Status × Sys → Prop
  | failed {result : Status × Sys} (hstatus : result.1 ∉ continuing) : KeptAlive c s result
  | waits (ticks : Nat) (hwaiting : s.waitingForPingResp = true)
      (htime : (calculateElapsedTime (s.clock s.ticks) s.pingReqSendTimeMs).toNat ≤
        c.pingrespTimeoutMs) : KeptAlive c s (.success, { s with ticks })
  | idle (ticks : Nat) (hwaiting : s.waitingForPingResp = false)
      (htime : (calculateElapsedTime (s.clock s.ticks) s.lastPacketRxTime).toNat ≤
        c.packetRxTimeoutMs) : KeptAlive c s (.success, { s with ticks })
  | pings (s' : Sys) (hwaiting : s.waitingForPingResp = false)
      (hwaits : s'.waitingForPingResp = true) (n : Nat) (hle : s.ticks ≤ n) (hlt : n < s'.ticks)
      (htime : s'.pingReqSendTimeMs = s.clock n) : KeptAlive c s (.success, s')

theorem mqttPing_keptAlive (c : Config) {s : Sys} (hwaiting : s.waitingForPingResp = false) :
    KeptAlive c s (mqttPing c (getTime s).2) := by
  have hstatus := mqttPing_status c (getTime s).2
  by_cases hok : (mqttPing c (getTime s).2).1 = .success
  swap
  · exact .failed (not_continuing _ hstatus hok)
  obtain ⟨hwaits, n, hle, hlt, htime⟩ := mqttPing_dated c hok
  have hpings := @KeptAlive.pings c s (mqttPing c (getTime s).2).2 hwaiting hwaits n
    (Nat.le_of_succ_le hle) hlt htime
  rw [← hok] at hpings
  exact hpings

theorem handleKeepAlive_keptAlive (c : Config) (s : Sys) : KeptAlive c s (handleKeepAlive c s) := by
  unfold handleKeepAlive
  dsimp only
  split
  · rename_i hwaiting
    split
    · exact .failed (by simp [continuing])
    · rename_i htime
      exact .waits _ hwaiting (Nat.not_lt.1 htime)
  rename_i hwaiting
  have hwaiting' : s.waitingForPingResp = false := Bool.eq_false_of_not_eq_true hwaiting
  split
  · exact mqttPing_keptAlive c hwaiting'
  split
  · exact mqttPing_keptAlive c hwaiting'
  · rename_i htime
    refine .idle _ hwaiting' ?_
    have htime' : ¬ ((calculateElapsedTime (s.clock s.ticks) s.lastPacketRxTime).toNat ≠ 0 ∧
        c.packetRxTimeoutMs ≤ (calculateElapsedTime (s.clock s.ticks) s.lastPacketRxTime).toNat) :=
      htime
    omega

/-! ## An iteration -/

theorem transportRecv_silent {s : Sys} (hs : s.inbound = []) (bytesToRecv : Nat) :
    ∃ result recvs, result ≤ 0 ∧ transportRecv s bytesToRecv = (result, [], { s with recvs }) := by
  have hdrop : ∀ n, s.inbound.drop n = s.inbound := by
    intro n
    rw [hs, List.drop_nil]
  have htake : ∀ n, s.inbound.take n = [] := by
    intro n
    rw [hs, List.take_nil]
  unfold transportRecv
  split
  · dsimp only
    rw [hdrop, htake]
    refine ⟨_, s.recvs, ?_, rfl⟩
    split <;> simp
  dsimp only
  split
  · rename_i hneg
    exact ⟨_, _, Int.le_of_lt hneg, rfl⟩
  · rw [hdrop, htake]
    exact ⟨_, _, Int.le_refl 0, rfl⟩

/-- The read fails, or leaves the buffer as it is. -/
theorem readIntoBuffer_silent (c : Config) {s : Sys} (hs : s.Silent) :
    let read := readIntoBuffer c s
    Unread s read.2.2.2 ∧ (read.1 < 0 ∧ read.2.1 = .recvFailed ∨
      read.1 = 0 ∧ (∃ recvs, read.2.2.2 = { s with recvs }) ∧ (read.2.1 = .success →
        s.index < read.2.2.1.totalLength ∧ read.2.2.1.totalLength ≤ s.networkBuffer.length)) := by
  obtain ⟨result, recvs, hresult, hreceived⟩ :=
    transportRecv_silent hs.inbound (c.sizeSub s.networkBuffer.length s.index)
  have hwrite : writeAt s.networkBuffer s.index [] = s.networkBuffer := by
    unfold writeAt
    simp
  have hread : Unread s { s with recvs } := ⟨rfl, Nat.le_refl _, rfl, rfl, rfl, rfl⟩
  unfold readIntoBuffer
  rw [hreceived]
  dsimp only
  rw [hwrite]
  split
  · rename_i hneg
    exact ⟨unread_preorder.trans hread (unread_preorder.error _), .inl ⟨hneg, rfl⟩⟩
  rename_i hneg
  obtain rfl : result = 0 := by omega
  split
  · exact ⟨hread, .inr ⟨rfl, ⟨recvs, rfl⟩, nofun⟩⟩
  rename_i hindex
  refine ⟨hread, .inr ⟨rfl, ⟨recvs, rfl⟩, fun hok => ?_⟩⟩
  rcases hs.incomplete with hzero | hmore | ⟨-, hmissing⟩
  · exact absurd ⟨rfl, hzero⟩ hindex
  · exact nomatch hmore.symm.trans hok
  · exact hmissing

/-- A packet of which bytes are missing. -/
theorem checkComplete_missing (c : Config) {status : Status} {packet : PacketInfo} {s : Sys}
    (h : status = .success →
      s.index < packet.totalLength ∧ packet.totalLength ≤ s.networkBuffer.length) :
    (checkComplete c status packet s).1 ≠ .success ∧ (checkComplete c status packet s).2 = s ∧
      (status ≠ .success → (checkComplete c status packet s).1 = status) := by
  unfold checkComplete
  dsimp only
  by_cases hok : status = .success
  · obtain ⟨hmore, hfits⟩ := h hok
    unfold PacketInfo.totalLength at hmore hfits
    rw [if_neg (not_not_intro hok), if_neg (Nat.not_lt.2 hfits), if_pos hmore]
    exact ⟨nofun, rfl, fun hne => absurd hok hne⟩
  · rw [if_pos hok]
    exact ⟨hok, rfl, fun _ => rfl⟩

/-- An iteration makes the keep-alive check only. -/
theorem receiveSingleIteration_silent (c : Config) {s : Sys} (hs : s.Silent)
    (manageKeepAlive : Bool) :
    let read := readIntoBuffer c s
    let kept := checkKeepAlive c read.1 manageKeepAlive read.2.1 read.2.2.2
    let result := receiveSingleIteration c s manageKeepAlive
    Silence s result.2 ∧ result.2 = kept.2 ∧
      (result.1 = .success ∨ result.1 = .needMoreBytes → kept.1 ∈ continuing) := by
  obtain ⟨hread, hstatus⟩ := readIntoBuffer_silent c hs
  unfold receiveSingleIteration
  dsimp only
  generalize readIntoBuffer c s = read at hread hstatus ⊢
  have hkept := unread_preorder.trans hread (unread_preorder.checkKeepAlive c (mqttPing_unread c)
    read.1 manageKeepAlive read.2.1 read.2.2.2)
  have hshort : (checkKeepAlive c read.1 manageKeepAlive read.2.1 read.2.2.2).1 = .success →
      s.index < read.2.2.1.totalLength ∧ read.2.2.1.totalLength ≤ s.networkBuffer.length := by
    intro hok
    have hok' := checkKeepAlive_success hok
    rcases hstatus with ⟨-, hrecv⟩ | ⟨-, -, hincomplete⟩
    · exact nomatch hrecv.symm.trans hok'
    · exact hincomplete hok'
  generalize checkKeepAlive c read.1 manageKeepAlive read.2.1 read.2.2.2 = kept at hkept hshort ⊢
  rw [← hkept.index, ← hkept.networkBuffer] at hshort
  obtain ⟨hmissing, heq, hfailed⟩ := checkComplete_missing c hshort
  rw [if_neg hmissing, heq]
  refine ⟨hkept.silence hs, rfl, fun hok => ?_⟩
  by_cases hsuccess : kept.1 = .success
  · rw [hsuccess]
    decide
  · rw [hfailed hsuccess] at hok
    revert hok
    cases kept.1 <;> decide

theorem mqttReceiveLoop_unpinged (c : Config) {s : Sys} (hs : s.Silent) :
    Unpinged s (mqttReceiveLoop c s).2 := by
  have hkept : Unpinged s (checkKeepAlive c (readIntoBuffer c s).1 false (readIntoBuffer c s).2.1
      (readIntoBuffer c s).2.2.2).2 := by
    obtain ⟨_, _, _, _, _, _, -, heq⟩ := reads_readIntoBuffer c s
    unfold checkKeepAlive
    rw [if_neg fun h => Bool.false_ne_true h.2, heq]
    exact ⟨rfl, rfl⟩
  obtain ⟨-, heq, -⟩ := receiveSingleIteration_silent c hs false
  rw [← heq] at hkept
  exact hkept

/-- `MQTT_ProcessLoop`, with the keep-alive check when it succeeds. -/
theorem mqttProcessLoop_silent (c : Config) {s : Sys} (hs : s.Silent) :
    let result := mqttProcessLoop c s
    Silence s result.2 ∧ (result.1 = .success ∨ result.1 = .needMoreBytes → ∃ recvs,
      KeptAlive c { s with recvs, controlPacketSent := false } (.success, result.2)) := by
  have hs' : Sys.Silent { s with controlPacketSent := false } := ⟨hs.inbound, hs.incomplete⟩
  obtain ⟨hsilence, heq, hcontinues⟩ := receiveSingleIteration_silent c hs' true
  obtain ⟨-, hstatus⟩ := readIntoBuffer_silent c hs'
  refine ⟨⟨hsilence.clock, hsilence.ticks, hsilence.lastPacketRxTime, hsilence.silent⟩, fun hok => ?_⟩
  have hcontinues := hcontinues hok
  unfold mqttProcessLoop
  rw [heq]
  unfold checkKeepAlive at hcontinues ⊢
  rcases hstatus with ⟨hneg, hrecv⟩ | ⟨hzero, ⟨recvs, hrecvs⟩, -⟩
  · rw [if_neg fun h => absurd h.1 (Int.ne_of_lt hneg), hrecv] at hcontinues
    exact absurd hcontinues (by decide)
  rw [if_pos ⟨hzero, rfl⟩, hrecvs] at hcontinues
  rw [if_pos ⟨hzero, rfl⟩, hrecvs]
  refine ⟨recvs, ?_⟩
  have hkept := handleKeepAlive_keptAlive c { s with recvs, controlPacketSent := false }
  dsimp only at hcontinues ⊢
  generalize handleKeepAlive c { s with recvs, controlPacketSent := false } = kept at *
  cases hkept with
  | failed hstatus =>
    by_cases hsuccess : kept.1 = .success
    · rw [hsuccess] at hstatus
      exact absurd (show Status.success ∈ continuing by decide) hstatus
    · rw [if_neg hsuccess] at hcontinues
      exact absurd hcontinues hstatus
  | waits ticks hwaiting htime => exact .waits ticks hwaiting htime
  | idle ticks hwaiting htime => exact .idle ticks hwaiting htime
  | pings s' hwaiting hwaits n hle hlt htime => exact .pings s' hwaiting hwaits n hle hlt htime

/-! ## Runs -/

/-- The time since `start`, as `calculateElapsedTime` gives it. -/
def since (now : Nat) (start : UInt32) : Nat :=
  (calculateElapsedTime (UInt32.ofNat now) start).toNat

/-- Time runs on, as long as the difference is less than the range of the clock. -/
theorem since_later {now later : Nat} {start : UInt32} (hle : now ≤ later)
    (hlt : since now start + (later - now) < 2 ^ 32) :
    since later start = since now start + (later - now) := by
  have hstart := start.toNat_lt
  unfold since calculateElapsedTime at hlt ⊢
  rw [UInt32.toNat_sub, UInt32.toNat_ofNat'] at hlt
  rw [UInt32.toNat_sub, UInt32.toNat_sub, UInt32.toNat_ofNat', UInt32.toNat_ofNat']
  omega

theorem since_ofNat {now start : Nat} (hle : start ≤ now) (hlt : now - start < 2 ^ 32) :
    since now (UInt32.ofNat start) = now - start := by
  have hzero : since start (UInt32.ofNat start) = 0 := by
    unfold since calculateElapsedTime
    rw [UInt32.sub_self]
    rfl
  rw [since_later hle (by omega), hzero, Nat.zero_add]

/-- What is known after calls of which the first and the last call of `MQTT_ProcessLoop` were made
at `first` and `last`, and all of these succeeded. -/
structure Unanswered (c : Config) (time : Nat → Nat) (gap : Nat) (s : Sys) (first last : Nat) :
    Prop where
  silent : s.Silent
  clock : ∀ n, s.clock n = UInt32.ofNat (time n)
  last_le : last ≤ time s.ticks
  idle : s.waitingForPingResp = false → since last s.lastPacketRxTime ≤ c.packetRxTimeoutMs ∧
    last ≤ first + since last s.lastPacketRxTime
  /-- a PINGREQ was sent in the last call of `MQTT_ProcessLoop`, or it was so before that -/
  waits : s.waitingForPingResp = true →
    (∃ sent, s.pingReqSendTimeMs = UInt32.ofNat sent ∧ last ≤ sent ∧ sent ≤ time s.ticks ∧
      last ≤ first + c.packetRxTimeoutMs + gap) ∨
    since last s.pingReqSendTimeMs ≤ c.pingrespTimeoutMs ∧
      last ≤ first + c.packetRxTimeoutMs + 2 * gap + since last s.pingReqSendTimeMs

section Runs

variable {c : Config} {time : Nat → Nat} {gap first last : Nat} {s : Sys} {calls : List ApiCall}

/-- Calls of `MQTT_ProcessLoop` succeed for this long only. -/
theorem Unanswered.last_le_bound (h : Unanswered c time gap s first last) :
    last ≤ first + c.packetRxTimeoutMs + 2 * gap + c.pingrespTimeoutMs := by
  cases hwaiting : s.waitingForPingResp with
  | false =>
    have hidle := h.idle hwaiting
    omega
  | true =>
    rcases h.waits hwaiting with ⟨sent, -, -, -, hle⟩ | ⟨htime, hle⟩
    · omega
    · omega

/-- A call that sends no PINGREQ. -/
theorem Unanswered.unpinged (h : Unanswered c time gap s first last) (hmono : Monotone time)
    {s' : Sys} (hsilence : Silence s s') (hunpinged : Unpinged s s') :
    Unanswered c time gap s' first last := by
  have hlater := hmono hsilence.ticks
  refine ⟨hsilence.silent, fun n => (congrFun hsilence.clock n).trans (h.clock n),
    h.last_le.trans hlater, ?_, ?_⟩
  · rw [hunpinged.waitingForPingResp, hsilence.lastPacketRxTime]
    exact h.idle
  · rw [hunpinged.waitingForPingResp, hunpinged.pingReqSendTimeMs]
    intro hwaiting
    rcases h.waits hwaiting with ⟨sent, hsent, hle, hlt, hfirst⟩ | hsince
    · exact .inl ⟨sent, hsent, hle, hlt.trans hlater, hfirst⟩
    · exact .inr hsince

/-- The first call of `MQTT_ProcessLoop`. -/
theorem unanswered_first (hs : s.Silent) (hclock : ∀ n, s.clock n = UInt32.ofNat (time n))
    (hmono : Monotone time)
    (hok : (mqttProcessLoop c s).1 = .success ∨ (mqttProcessLoop c s).1 = .needMoreBytes) :
    Unanswered c time gap (mqttProcessLoop c s).2 (time s.ticks) (time s.ticks) := by
  obtain ⟨hsilence, hkept⟩ := mqttProcessLoop_silent c hs
  obtain ⟨recvs, hkept⟩ := hkept hok
  have hclock' := fun n => (congrFun hsilence.clock n).trans (hclock n)
  have hlater := hmono hsilence.ticks
  have hsilent := hsilence.silent
  generalize (mqttProcessLoop c s).2 = s' at hkept hclock' hlater hsilent
  cases hkept with
  | failed hstatus => exact absurd (show Status.success ∈ continuing by decide) hstatus
  | waits ticks hwaiting htime =>
    change (calculateElapsedTime (s.clock s.ticks) s.pingReqSendTimeMs).toNat ≤ _ at htime
    rw [hclock] at htime
    refine ⟨hsilent, hclock', hlater, fun hidle => ?_, fun _ => ?_⟩
    · exact nomatch hwaiting.symm.trans hidle
    exact .inr ⟨htime, by omega⟩
  | idle ticks hwaiting htime =>
    change (calculateElapsedTime (s.clock s.ticks) s.lastPacketRxTime).toNat ≤ _ at htime
    rw [hclock] at htime
    refine ⟨hsilent, hclock', hlater, fun _ => ⟨htime, by omega⟩, fun hwaits => ?_⟩
    exact nomatch hwaiting.symm.trans hwaits
  | pings _ hwaiting hwaits n hle hlt htime =>
    refine ⟨hsilent, hclock', hlater, fun hidle => ?_, fun _ => ?_⟩
    · exact nomatch hwaits.symm.trans hidle
    exact .inl ⟨time n, htime.trans (hclock n), hmono hle, hmono (Nat.le_of_lt hlt), by omega⟩

/-- A further call of `MQTT_ProcessLoop`. -/
theorem Unanswered.processLoop (h : Unanswered c time gap s first last) (hmono : Monotone time)
    (hsmall : c.packetRxTimeoutMs + 2 * gap + c.pingrespTimeoutMs < 2 ^ 32)
    (hpaced : time s.ticks ≤ last + gap)
    (hok : (mqttProcessLoop c s).1 = .success ∨ (mqttProcessLoop c s).1 = .needMoreBytes) :
    Unanswered c time gap (mqttProcessLoop c s).2 first (time s.ticks) := by
  obtain ⟨hsilence, hkept⟩ := mqttProcessLoop_silent c h.silent
  obtain ⟨recvs, hkept⟩ := hkept hok
  have hclock := fun n => (congrFun hsilence.clock n).trans (h.clock n)
  have hlater := hmono hsilence.ticks
  have hsilent := hsilence.silent
  have hlast := h.last_le
  generalize (mqttProcessLoop c s).2 = s' at hkept hclock hlater hsilent
  cases hkept with
  | failed hstatus => exact absurd (show Status.success ∈ continuing by decide) hstatus
  | waits ticks hwaiting htime =>
    change (calculateElapsedTime (s.clock s.ticks) s.pingReqSendTimeMs).toNat ≤ _ at htime
    rw [h.clock] at htime
    refine ⟨hsilent, hclock, hlater, fun hidle => ?_, fun _ => ?_⟩
    · exact nomatch hwaiting.symm.trans hidle
    refine .inr ⟨htime, ?_⟩
    show time s.ticks ≤ first + c.packetRxTimeoutMs + 2 * gap + since (time s.ticks) s.pingReqSendTimeMs
    rcases h.waits hwaiting with ⟨sent, hsent, hle, hlt, hfirst⟩ | ⟨hsince, hfirst⟩
    · rw [hsent, since_ofNat hlt (by omega)]
      omega
    · rw [since_later hlast (by omega)]
      omega
  | idle ticks hwaiting htime =>
    change (calculateElapsedTime (s.clock s.ticks) s.lastPacketRxTime).toNat ≤ _ at htime
    rw [h.clock] at htime
    refine ⟨hsilent, hclock, hlater, fun _ => ⟨htime, ?_⟩, fun hwaits => ?_⟩
    · obtain ⟨hsince, hfirst⟩ := h.idle hwaiting
      show time s.ticks ≤ first + since (time s.ticks) s.lastPacketRxTime
      rw [since_later hlast (by omega)]
      omega
    · exact nomatch hwaiting.symm.trans hwaits
  | pings _ hwaiting hwaits n hle hlt htime =>
    refine ⟨hsilent, hclock, hlater, fun hidle => ?_, fun _ => ?_⟩
    · exact nomatch hwaits.symm.trans hidle
    obtain ⟨hsince, hfirst⟩ := h.idle hwaiting
    exact .inl ⟨time n, htime.trans (h.clock n), hmono hle, hmono (Nat.le_of_lt hlt), by omega⟩

/-- A call other than of `MQTT_ProcessLoop`. -/
theorem quiet_silence (hs : s.Silent) {call : ApiCall} (hcall : call.Quiet)
    (hloop : call ≠ .processLoop) : Silence s (call.run c s) ∧ Unpinged s (call.run c s) := by
  cases call with
  | request call => exact ⟨request_silence c hs call, request_unpinged c s hcall⟩
  | processLoop => exact absurd rfl hloop
  | receiveLoop =>
    exact ⟨(receiveSingleIteration_silent c hs false).1, mqttReceiveLoop_unpinged c hs⟩
  | checkConnectStatus => exact ⟨(unread_preorder.refl s).silence hs, rfl, rfl⟩
  | init _ _ _ _ => exact absurd hcall id
  | initStatefulQoS _ _ _ _ => exact absurd hcall id
  | initRetransmits _ _ _ => exact absurd hcall id

theorem processLoops_of_ne {call : ApiCall} (hloop : call ≠ .processLoop) :
    processLoops c s (call :: calls) = processLoops c (call.run c s) calls := by
  cases call with
  | processLoop => exact absurd rfl hloop
  | _ => rfl

variable (hmono : Monotone time)
  (hsmall : c.packetRxTimeoutMs + 2 * gap + c.pingrespTimeoutMs < 2 ^ 32)
  (hcalls : ∀ call ∈ calls, call.Quiet)
  (hok : ∀ loop ∈ processLoops c s calls,
    (mqttProcessLoop c loop).1 = .success ∨ (mqttProcessLoop c loop).1 = .needMoreBytes)

include hmono hsmall hcalls hok

/-- All calls succeed for a bounded time only. -/
theorem Unanswered.loopTimes_le (h : Unanswered c time gap s first last)
    (hpaced : (last :: loopTimes time c s calls).IsChain fun a b => b ≤ a + gap) :
    ∀ t ∈ loopTimes time c s calls,
      t ≤ first + c.packetRxTimeoutMs + 2 * gap + c.pingrespTimeoutMs := by
  induction calls generalizing s last with
  | nil => exact fun t ht => absurd ht List.not_mem_nil
  | cons call calls ih =>
    obtain ⟨hcall, hquiet⟩ := List.forall_mem_cons.1 hcalls
    unfold loopTimes at hpaced ⊢
    by_cases hloop : call = .processLoop
    · subst hloop
      obtain ⟨hnext, hpaced⟩ := List.isChain_cons_cons.1 hpaced
      obtain ⟨hfirst, hok⟩ := List.forall_mem_cons.1 hok
      have hlast := h.processLoop hmono hsmall hnext hfirst
      intro t ht
      rcases List.mem_cons.1 ht with rfl | ht
      · exact hlast.last_le_bound
      · exact ih hquiet hok hlast hpaced t ht
    · rw [processLoops_of_ne hloop] at hpaced hok ⊢
      obtain ⟨hsilence, hunpinged⟩ := quiet_silence h.silent hcall hloop
      exact ih hquiet hok (h.unpinged hmono hsilence hunpinged) hpaced

theorem silent_loopTimes_le (hs : s.Silent) (hclock : ∀ n, s.clock n = UInt32.ofNat (time n))
    (hpaced : (loopTimes time c s calls).IsChain fun a b => b ≤ a + gap)
    (hfirst : (loopTimes time c s calls).head? = some first) :
    ∀ t ∈ loopTimes time c s calls,
      t ≤ first + c.packetRxTimeoutMs + 2 * gap + c.pingrespTimeoutMs := by
  induction calls generalizing s with
  | nil => exact fun t ht => absurd ht List.not_mem_nil
  | cons call calls ih =>
    obtain ⟨hcall, hquiet⟩ := List.forall_mem_cons.1 hcalls
    unfold loopTimes at hpaced hfirst ⊢
    by_cases hloop : call = .processLoop
    · subst hloop
      obtain rfl : time s.ticks = first := Option.some.inj hfirst
      obtain ⟨hhead, hok⟩ := List.forall_mem_cons.1 hok
      have hstart := @unanswered_first c time gap s hs hclock hmono hhead
      intro t ht
      rcases List.mem_cons.1 ht with rfl | ht
      · dsimp only
        omega
      · exact hstart.loopTimes_le hmono hsmall hquiet hok hpaced t ht
    · rw [processLoops_of_ne hloop] at hpaced hfirst hok ⊢
      obtain ⟨hsilence, -⟩ := quiet_silence (c := c) hs hcall hloop
      exact ih hquiet hok hsilence.silent
        (fun n => (congrFun hsilence.clock n).trans (hclock n)) hpaced hfirst

end Runs

/-- A server that has fallen silent is noticed. On a clock that runs on, and may wrap, a call of
`MQTT_ProcessLoop` reads the time first at most `gap` milliseconds after the call before did, the
transport has no byte to deliver, and the buffer holds at most a part of a packet, which fits. Then
a call fails, if one is made later than `PACKET_RX_TIMEOUT_MS`, `MQTT_PINGRESP_TIMEOUT_MS` and twice
`gap` after the first, and these are less than 2^32, whatever `ApiCall.Quiet` calls the application
makes in between. -/
theorem silentServer_noticed {c : Config} {s : Sys} {time : Nat → Nat}
    (hclock : ∀ n, s.clock n = UInt32.ofNat (time n)) (hmono : Monotone time) (hs : s.Silent)
    {calls : List ApiCall} (hcalls : ∀ call ∈ calls, call.Quiet) {gap : Nat}
    (hsmall : c.packetRxTimeoutMs + 2 * gap + c.pingrespTimeoutMs < 2 ^ 32)
    (hpaced : (loopTimes time c s calls).IsChain fun a b => b ≤ a + gap) {first : Nat}
    (hfirst : (loopTimes time c s calls).head? = some first)
    (hlate : ∃ t ∈ loopTimes time c s calls,
      first + c.packetRxTimeoutMs + 2 * gap + c.pingrespTimeoutMs < t) :
    ∃ loop ∈ processLoops c s calls,
      (mqttProcessLoop c loop).1 ≠ .success ∧ (mqttProcessLoop c loop).1 ≠ .needMoreBytes := by
  by_contra hnone
  have hok : ∀ loop ∈ processLoops c s calls,
      (mqttProcessLoop c loop).1 = .success ∨ (mqttProcessLoop c loop).1 = .needMoreBytes := by
    intro loop hmem
    by_contra hfailed
    exact hnone ⟨loop, hmem, not_or.1 hfailed⟩
  obtain ⟨t, ht, hlt⟩ := hlate
  have hle := silent_loopTimes_le hmono hsmall hcalls hok hs hclock hpaced hfirst t ht
  omega

/-- A connection with a part of a packet, on a clock that goes on by 5 seconds with every reading. -/
def silentConnection : Sys :=
  { connectedOnce with
    clock := fun n => UInt32.ofNat (5000 * n)
    inbound := []
    recvs := List.replicate 5 0
    networkBuffer := 0x30 :: List.replicate 15 0
    index := 1 }

/-- The application publishes between the calls of `MQTT_ProcessLoop`. -/
def silentCalls : List ApiCall :=
  let publish : ApiCall := .request (.publish (some { publishInfoOne with qos := .qos0 }) 1)
  [.processLoop, .processLoop, publish, .processLoop, publish, .processLoop, publish, .processLoop]

/-- `silentServer_noticed` when a PINGREQ and every publish take some time. -/
theorem silentServer_noticed_publish :
    ∃ loop ∈ processLoops .default silentConnection silentCalls,
      (mqttProcessLoop .default loop).1 ≠ .success ∧
        (mqttProcessLoop .default loop).1 ≠ .needMoreBytes :=
  @silentServer_noticed .default silentConnection (fun n => 5000 * n) (fun _ => rfl)
    (fun _ _ h => Nat.mul_le_mul_left 5000 h) ⟨rfl, .inr (.inl (by decide +kernel))⟩ silentCalls
    (by simp [silentCalls, ApiCall.Quiet]) 30000 (by decide) (by decide +kernel) 60000
    (by decide +kernel) (by decide +kernel)

end FreeMqtt

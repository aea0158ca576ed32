import FreeMqtt.Core.BufferBounds
import FreeMqtt.Core.Completion
import FreeMqtt.Core.ConnectionStates
import FreeMqtt.Core.Stream

/-!
# What a call of `MQTT_Connect` leaves, and what it starts with

On a context that has a connection, `MQTT_Connect` is to change nothing at all. The end that all its
failures share breaks this for a call with bad arguments (`connect_leaves_iff`). After a successful
call the receive buffer is to be empty. The index is reset for a new session only, so bytes that are
in the buffer when a session is resumed stay there (`run_startsEmpty_iff`).
-/

namespace FreeMqtt

open Moments

/-! ## A call on a connection -/

/-- `MQTT_Connect` with a pointer `pSessionPresent` that is not `NULL` if the flag is set. -/
def mqttConnectWith (c : Config) (s : Sys) (pConnectInfo : Option ConnectInfo)
    (pWillInfo : Option PublishInfo) (timeoutMs : UInt32) (pSessionPresent : Bool) :
    Status × Option Bool × Sys :=
  if pSessionPresent = false then (.badParameter, none, Operation.run c s .giveUp)
  else mqttConnect c s pConnectInfo pWillInfo timeoutMs

/-- The arguments of a call of `MQTT_Connect` pass its checks. -/
def ConnectArguments (pConnectInfo : Option ConnectInfo) (pWillInfo : Option PublishInfo)
    (pSessionPresent : Bool) : Prop :=
  pSessionPresent = true ∧ pConnectInfo ≠ none ∧
    (mqttGetConnectPacketSize pConnectInfo pWillInfo).1 = .success

instance (pConnectInfo : Option ConnectInfo) (pWillInfo : Option PublishInfo) (pSessionPresent : Bool) :
    Decidable (ConnectArguments pConnectInfo pWillInfo pSessionPresent) :=
  inferInstanceAs (Decidable (_ ∧ _))

/-- Whatever transport and clock there are, the call uses neither and leaves the context alone. -/
def LeavesConnection (c : Config) (s : Sys) (pConnectInfo : Option ConnectInfo)
    (pWillInfo : Option PublishInfo) (timeoutMs : UInt32) (pSessionPresent : Bool) : Prop :=
  ∀ world : World,
    (mqttConnectWith c { s with toWorld := world } pConnectInfo pWillInfo timeoutMs
      pSessionPresent).2.2 = { s with toWorld := world }

section Connected

variable (c : Config) {s : Sys} {pConnectInfo : Option ConnectInfo} {pWillInfo : Option PublishInfo}
  {timeoutMs : UInt32} {pSessionPresent : Bool}

/-- With arguments that pass the checks, the call stops at the check of the connection status. -/
theorem mqttConnectWith_valid (hconn : s.connectStatus ≠ .notConnected)
    (h : ConnectArguments pConnectInfo pWillInfo pSessionPresent) :
    (mqttConnectWith c s pConnectInfo pWillInfo timeoutMs pSessionPresent).2.2 = s := by
  obtain ⟨hpresent, hinfo, hsize⟩ := h
  obtain ⟨info, rfl⟩ := Option.ne_none_iff_exists'.1 hinfo
  unfold mqttConnectWith mqttConnect
  rw [if_neg (by simp [hpresent])]
  dsimp only
  rw [if_neg (not_not_intro hsize), if_pos hconn]

/-- With other arguments, it ends as if the connection had failed. -/
theorem mqttConnectWith_invalid (h : ¬ ConnectArguments pConnectInfo pWillInfo pSessionPresent) :
    (mqttConnectWith c s pConnectInfo pWillInfo timeoutMs pSessionPresent).2.2 =
      Operation.run c s .giveUp := by
  unfold mqttConnectWith
  cases pSessionPresent with
  | false => rfl
  | true =>
    rw [if_neg (by simp)]
    unfold mqttConnect
    cases pConnectInfo with
    | none => rfl
    | some info =>
      have hsize : (mqttGetConnectPacketSize (some info) pWillInfo).1 ≠ .success :=
        fun heq => h ⟨rfl, by simp, heq⟩
      dsimp only
      rw [if_pos hsize]
      rfl

/-- A call of `MQTT_Connect` on a connection leaves it alone exactly if the connection is pending to
be disconnected or the arguments pass the checks. -/
theorem connect_leaves_iff (hconn : s.connectStatus ≠ .notConnected) :
    LeavesConnection c s pConnectInfo pWillInfo timeoutMs pSessionPresent ↔
      s.connectStatus = .disconnectPending ∨
        ConnectArguments pConnectInfo pWillInfo pSessionPresent := by
  by_cases hvalid : ConnectArguments pConnectInfo pWillInfo pSessionPresent
  · exact iff_of_true (fun world => mqttConnectWith_valid c hconn hvalid) (.inr hvalid)
  have hgiveUp := fun s => @mqttConnectWith_invalid c s _ _ timeoutMs _ hvalid
  constructor
  · intro h
    have hsame := congrArg (fun s : Sys => s.connectStatus) ((hgiveUp _).symm.trans (h s.toWorld))
    change (if s.connectStatus = .connected then ConnectionStatus.disconnectPending
      else s.connectStatus) = s.connectStatus at hsame
    left
    cases hstatus : s.connectStatus with
    | notConnected => exact absurd hstatus hconn
    | disconnectPending => rfl
    | connected =>
      rw [hstatus] at hsame
      exact absurd hsame (by simp)
  · rintro (hpending | h) world
    · rw [hgiveUp, Operation.run]
      show ({ ({ s with toWorld := world } : Sys) with connectStatus := if s.connectStatus =
        .connected then _ else _ } : Sys) = _
      rw [if_neg (by rw [hpending]; simp)]
    · exact absurd h hvalid

end Connected

/-- A client after its first `MQTT_Connect`. -/
def connectedOnce : Sys := runAll .default (storingClient []) [.connect (some resumingInfo) none 1000]

/-- `connect_leaves_iff` on a second call with the arguments of the first. -/
theorem connect_leaves_again :
    LeavesConnection .default connectedOnce (some resumingInfo) none 1000 true := by
  rw [connect_leaves_iff .default (show connectedOnce.connectStatus ≠ .notConnected by decide +kernel)]
  exact .inr (by decide)

/-- A second call without connect information takes the connection away. -/
theorem not_connect_leaves :
    let again := mqttConnectWith .default connectedOnce none none 1000 true
    connectedOnce.connectStatus = .connected ∧ again.1 = .badParameter ∧
      again.2.2.connectStatus = .disconnectPending ∧
      ¬ LeavesConnection .default connectedOnce none none 1000 true := by
  intro again
  have hbefore : connectedOnce.connectStatus = .connected := by decide +kernel
  have hafter : again.2.2.connectStatus = .disconnectPending := by decide +kernel
  refine ⟨hbefore, rfl, hafter, fun h => ?_⟩
  have hsame := congrArg (fun s : Sys => s.connectStatus) (h connectedOnce.toWorld)
  exact absurd (hafter.symm.trans (hsame.trans hbefore)) (by simp)

/-! ## The buffer after a call -/

theorem resend_streamKept (c : Config) (s : Sys) (packetId : UInt16) :
    StreamKept s (Operation.run c s (.resend packetId)) := by
  obtain ⟨-, retrieveResults, heq⟩ := callRetrieve_spec s packetId
  have hretrieved : StreamKept s { s with retrieveResults } := ⟨rfl, rfl, rfl, rfl, rfl, id⟩
  unfold Operation.run
  dsimp only
  rw [heq]
  split
  · exact hretrieved
  · obtain ⟨n, stop, hsent, -⟩ := sendPacket_spec c { s with retrieveResults } (.resend packetId) _
    exact hretrieved.trans hsent.streamKept

theorem handleUncleanSessionResumption_streamKept (c : Config) (s : Sys) :
    StreamKept s (handleUncleanSessionResumption c s).2 :=
  resumption_rel .refl .trans (resend_streamKept c)
    (fun s packetId => streamKept_sendPreorder.sendPublishAcks c s packetId .pubRelSend) s

/-- The index after `establish`: a new session resets it. -/
theorem establish_index (c : Config) {s : Sys} {info : ConnectInfo} {will : Option PublishInfo}
    {timeoutMs : UInt32} {remainingLength : Nat} (hlength : remainingLength ≤ maxRemainingLength)
    (h : (establish c s info will remainingLength timeoutMs).1 = .success) :
    let established := establish c s info will remainingLength timeoutMs
    established.2.2.index = if established.2.1 = some true then s.index else 0 := by
  have hsend := sendConnectWithoutCopy_spec c s info will hlength
  obtain ⟨hsent, -, heq⟩ := establish_success h
  rw [heq]
  dsimp only at hsend ⊢
  generalize sendConnectWithoutCopy c s info will remainingLength = sent at hsend hsent ⊢
  have hkept : sent.2.index = s.index := by
    rcases hsend with ⟨hfail, -⟩ | ⟨packet, n, stop, hpacket, -⟩
    · exact absurd hsent hfail
    · exact hpacket.bufferKept.index
  have hconnack := (bufferKept_preorder.receiveConnack c sent.2 timeoutMs info.cleanSession).index
  generalize receiveConnack c sent.2 timeoutMs info.cleanSession = connack at hconnack ⊢
  by_cases hpresent : connack.2.1 = some true
  · simp only [hpresent, ne_eq, not_true_eq_false, if_false, if_true]
    exact hconnack.trans hkept
  · obtain ⟨store, heq⟩ := handleCleanSession_eq connack.2.2
    simp only [hpresent, ne_eq, not_false_eq_true, if_false, if_true]
    rw [heq]
    rfl

/-- What is received after a successful call of `MQTT_Connect` is parsed from an empty buffer, and
begins behind the CONNACK. -/
def StartsEmpty (s s' : Sys) : Prop :=
  s'.index = 0 ∧ ∃ sessionPresent, s.inbound = connackBytes sessionPresent ++ s'.inbound

/-- There are bytes in the buffer, and the next CONNACK is that of a session to resume. -/
def ResumesOverBytes (s : Sys) : Prop :=
  s.index ≠ 0 ∧ s.inbound.take 4 = connackBytes true

instance (s : Sys) : Decidable (ResumesOverBytes s) := inferInstanceAs (Decidable (_ ∧ _))

theorem take_connackBytes (sessionPresent : Bool) (rest : List UInt8) :
    (connackBytes sessionPresent ++ rest).take 4 = connackBytes true ↔ sessionPresent = true := by
  cases sessionPresent <;> simp [connackBytes]

/-- A successful call starts with an empty buffer exactly if it does not resume a session over bytes
that are in it. -/
theorem mqttConnect_startsEmpty_iff (c : Config) {s : Sys} {pConnectInfo : Option ConnectInfo}
    {pWillInfo : Option PublishInfo} {timeoutMs : UInt32}
    (h : (mqttConnect c s pConnectInfo pWillInfo timeoutMs).1 = .success) :
    StartsEmpty s (mqttConnect c s pConnectInfo pWillInfo timeoutMs).2.2 ↔ ¬ ResumesOverBytes s := by
  unfold mqttConnect at h ⊢
  dsimp only at h ⊢
  cases pConnectInfo with
  | none => exact absurd h (by simp)
  | some info =>
    dsimp only at h ⊢
    split at h
    · rename_i hsize
      exact absurd h hsize
    rename_i hsize
    rw [if_neg hsize]
    split at h
    · split at h <;> exact absurd h (by simp)
    rename_i hconn
    rw [if_neg hconn]
    have hlength := connectPacketSize_le (some info) pWillInfo
    have hindex := @establish_index c s info pWillInfo timeoutMs _ hlength
    have hconnack := @establish_connack c s info pWillInfo timeoutMs _ hlength
    generalize establish c s info pWillInfo (mqttGetConnectPacketSize (some info) pWillInfo).2.1
      timeoutMs = established at h hindex hconnack ⊢
    split at h
    · rename_i hfail
      exact absurd h hfail
    rename_i hok
    rw [if_neg hok]
    obtain ⟨sessionPresent, hpresent, -, hinbound, -⟩ := hconnack (not_not.1 hok)
    have hindex := hindex (not_not.1 hok)
    dsimp only at hindex
    unfold ResumesOverBytes
    rw [hinbound, take_connackBytes]
    rw [hpresent] at h hindex ⊢
    cases sessionPresent with
    | false =>
      rw [if_neg (by simp)] at hindex ⊢
      exact iff_of_true ⟨hindex, false, hinbound⟩ (by simp)
    | true =>
      rw [if_pos rfl] at h hindex ⊢
      split at h
      swap
      · rename_i hfail
        exact absurd h hfail
      rename_i hresumed
      have hkept := handleUncleanSessionResumption_streamKept c established.2.2
      rw [if_pos hresumed]
      unfold StartsEmpty
      rw [hkept.index, hkept.inbound, hindex]
      constructor
      · exact fun hempty hbytes => hbytes.1 hempty.1
      · intro hbytes
        refine ⟨?_, true, hinbound⟩
        by_contra hne
        exact hbytes ⟨hne, rfl⟩

/-! ## Runs -/

/-- The successful calls of `MQTT_Connect` in a run. -/
def successfulConnects (c : Config) (s : Sys) (calls : List Call) : List (Moment Sys Call) :=
  (moments (Call.run c) s calls).filter fun m => match m.operation with
    | .connect info will timeoutMs => decide ((mqttConnect c m.before info will timeoutMs).1 = .success)
    | .api _ => false

/-- In a run, every successful call of `MQTT_Connect` starts with an empty buffer exactly if none of
them resumes a session over bytes that are in it. -/
theorem run_startsEmpty_iff (c : Config) (s : Sys) (calls : List Call) :
    (∀ m ∈ successfulConnects c s calls, StartsEmpty m.before (m.after (Call.run c))) ↔
      ∀ m ∈ successfulConnects c s calls, ¬ ResumesOverBytes m.before := by
  refine forall₂_congr fun m hm => ?_
  obtain ⟨-, hconnect⟩ := List.mem_filter.1 hm
  obtain ⟨before, call⟩ := m
  cases call with
  | api call => exact absurd hconnect (by simp)
  | connect info will timeoutMs => exact mqttConnect_startsEmpty_iff c (of_decide_eq_true hconnect)

/-- A client whose transport delivers one more byte after the first connection was closed. -/
def lateByte : Sys :=
  { Sys.initialized { World.still [0x20, 2, 0, 0, 0x30, 0x20, 2, 1, 0] with recvs := [1, 1, 2, 1] }
    16 2 with storeFunction := true, retrieveFunction := true, clearFunction := true }

/-- A receive loop after an `MQTT_Disconnect` leaves that byte in the buffer, where a resumed session
finds it. -/
theorem not_run_startsEmpty :
    let calls := [.connect (some resumingInfo) none 1000, .api (.request .disconnect),
      .api .receiveLoop, .connect (some resumingInfo) none 1000]
    (runAll .default lateByte calls).connectStatus = .connected ∧
      (runAll .default lateByte calls).index = 1 ∧
      ¬ ∀ m ∈ successfulConnects .default lateByte calls,
        StartsEmpty m.before (m.after (Call.run .default)) := by
  intro calls
  refine ⟨by decide +kernel, by decide +kernel, fun h => ?_⟩
  rw [run_startsEmpty_iff] at h
  revert h
  decide +kernel

end FreeMqtt

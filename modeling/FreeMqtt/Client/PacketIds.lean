import FreeMqtt.Client.Reconnect
import FreeMqtt.Core.ConnectEffects
import FreeMqtt.Core.PublishTrace
import FreeMqtt.Core.RecordSteps
import FreeMqtt.Lib.Cyclic

/-!
# Packet ids over a run

`MQTT_GetPacketId` is a counter of period 65535 that skips 0. When every publish of QoS 1 or 2 goes
through `mqttPublish`, a live record has a packet id that the counter handed out, or it was in an
array that the application gave to `MQTT_InitStatefulQoS` (`Allocated`). So a publish collides only
with a record that the counter has caught up with, or with a record of such an array
(`packetIds_run`). An array of an earlier session does bring such a collision
(`not_packetIds_restarted`), for `MQTT_Init` starts the counter anew.
-/

namespace FreeMqtt.Reconnect

open Moments Function

/-- `mqttPublish`. -/
def mqttPublish (c : Config) (s : Sys) (publishInfo : Option PublishInfo) : Status × Sys :=
  let packetId := mqttGetPacketId s
  FreeMqtt.mqttPublish c packetId.2 publishInfo packetId.1

/-! ## The counter -/

/-- `nextPacketId` after a call of `MQTT_GetPacketId`. -/
def nextId (id : UInt16) : UInt16 := if id = 65535 then 1 else id + 1

theorem toNat_iterate_nextId (n : ℕ) : (nextId^[n] 1).toNat = n % 65535 + 1 := by
  induction n with
  | zero => rfl
  | succ n ih =>
    rw [iterate_succ_apply']
    generalize nextId^[n] 1 = id at ih
    unfold nextId
    split
    · rename_i hmax
      rw [hmax] at ih
      change 65535 = n % 65535 + 1 at ih
      change 1 = (n + 1) % 65535 + 1
      omega
    · rename_i hne
      have hlt : id.toNat ≠ 65535 := fun heq => hne (UInt16.toNat_inj.1 heq)
      rw [UInt16.toNat_add]
      change (id.toNat + 1) % 65536 = (n + 1) % 65535 + 1
      omega

theorem iterate_nextId_ne_zero (n : ℕ) : nextId^[n] 1 ≠ 0 := by
  intro h
  have hvalue := toNat_iterate_nextId n
  rw [h] at hvalue
  exact absurd hvalue (Nat.succ_ne_zero _).symm

theorem isPeriodicPt_nextId_iff (n : ℕ) : IsPeriodicPt nextId n 1 ↔ 65535 ∣ n := by
  rw [Nat.dvd_iff_mod_eq_zero]
  constructor
  · intro h
    have hone : nextId^[n] 1 = 1 := h
    have hvalue := toNat_iterate_nextId n
    rw [hone] at hvalue
    exact (Nat.succ.inj hvalue).symm
  · intro h
    apply UInt16.toNat_inj.1
    rw [toNat_iterate_nextId, h]
    rfl

theorem minimalPeriod_nextId : minimalPeriod nextId 1 = 65535 := by
  apply Nat.dvd_antisymm
  · exact ((isPeriodicPt_nextId_iff 65535).2 dvd_rfl).minimalPeriod_dvd
  · exact (isPeriodicPt_nextId_iff _).1 (isPeriodicPt_minimalPeriod nextId 1)

theorem one_mem_periodicPts : 1 ∈ periodicPts nextId := by
  rw [← minimalPeriod_pos_iff_mem_periodicPts, minimalPeriod_nextId]
  decide

/-! ## Runs -/

/-- The packet id that `MQTT_GetPacketId` returns in a moment. -/
def returnedId (m : Moment Sys Operation) : Option UInt16 :=
  match m.operation with
  | .request .getPacketId => some (mqttGetPacketId m.before).1
  | _ => none

/-- The packet ids that a run handed out. -/
def handedOut (run : List (Moment Sys Operation)) : List UInt16 := run.filterMap returnedId

/-- The live packet ids of the arrays that `MQTT_InitStatefulQoS` was given in a run. -/
def restored (run : List (Moment Sys Operation)) : List UInt16 :=
  run.flatMap fun m => m.operation.restoredIds

/-- Every publish of QoS 1 or 2 takes its packet id from the call of `MQTT_GetPacketId` right before
it. -/
def ThroughMqttPublish (run : List (Moment Sys Operation)) : Prop :=
  ∀ front m rest, run = front ++ m :: rest → ∀ id ∈ m.operation.reservedId,
    front.getLast?.bind returnedId = some id

/-- The context after the moments of a run. -/
def afterMoments (c : Config) (s : Sys) (front : List (Moment Sys Operation)) : Sys :=
  (front.map Moment.operation).foldl (Operation.run c) s

theorem ThroughMqttPublish.front {front rest : List (Moment Sys Operation)}
    (h : ThroughMqttPublish (front ++ rest)) : ThroughMqttPublish front := by
  intro earlier m later heq id hid
  refine h earlier m (later ++ rest) ?_ id hid
  rw [heq, List.append_assoc, List.cons_append]

/-- The context of a run counts what was handed out. -/
def Counts (s : Sys) (ids : List UInt16) : Prop :=
  s.nextPacketId = nextId^[ids.length] 1 ∧ ids = List.iterate nextId 1 ids.length

theorem Counts.step (c : Config) {m : Moment Sys Operation} (hinit : ¬ m.operation.IsInit)
    {ids : List UInt16} (h : Counts m.before ids) :
    Counts (m.after (Operation.run c)) (ids ++ (returnedId m).toList) := by
  obtain ⟨before, operation⟩ := m
  by_cases hid : operation = .request .getPacketId
  · subst hid
    obtain ⟨hnext, hids⟩ := h
    have hreturned : returnedId ⟨before, .request .getPacketId⟩ = some before.nextPacketId := rfl
    rw [hreturned]
    refine ⟨?_, ?_⟩
    · show nextId before.nextPacketId = _
      rw [hnext, Option.toList_some, List.length_append, List.length_singleton, iterate_succ_apply']
    · rw [Option.toList_some, List.length_append, List.length_singleton, List.iterate_add, ← hids,
        hnext]
      rfl
  · have hnone : returnedId ⟨before, operation⟩ = none := by
      unfold returnedId
      split
      · rename_i heq
        exact absurd heq hid
      · rfl
    rw [hnone, Option.toList_none, List.append_nil]
    refine ⟨?_, h.2⟩
    show (operation.run c before).nextPacketId = _
    rw [Operation.nextPacketId_run c before hinit hid]
    exact h.1

/-- The live packet ids of a context were handed out or restored. -/
def Allocated (s : Sys) (run : List (Moment Sys Operation)) : Prop :=
  ThroughMqttPublish run →
    ∀ id ∈ liveIds s.outgoingPublishRecords, id ∈ handedOut run ∨ id ∈ restored run

theorem Allocated.step (c : Config) {m : Moment Sys Operation} (hinit : ¬ m.operation.IsInit)
    {before : List (Moment Sys Operation)} (h : Allocated m.before before) :
    Allocated (m.after (Operation.run c)) (before ++ [m]) := by
  intro hthrough id hid
  unfold handedOut restored
  rw [List.filterMap_append, List.flatMap_append, List.mem_append, List.mem_append]
  rcases m.operation.mem_liveIds_run c m.before hinit hid with hreserved | hrestored | hid
  · have hlast := hthrough before m [] rfl id hreserved
    obtain ⟨last, hmem, hreturned⟩ := Option.bind_eq_some_iff.1 hlast
    exact .inl (.inl (List.mem_filterMap.2 ⟨last, List.mem_of_getLast? hmem, hreturned⟩))
  · exact .inr (.inr (by simpa using hrestored))
  · exact (h hthrough.front id hid).imp .inl .inl

/-- Both invariants hold behind every part of a run that starts in an initialized context. -/
theorem counts_allocated (c : Config) {s : Sys} (hnext : s.nextPacketId = 1)
    (hrecords : s.outgoingPublishRecords = []) {operations : List Operation}
    (hinit : ∀ m ∈ moments (Operation.run c) s operations, ¬ m.operation.IsInit) :
    let run := moments (Operation.run c) s operations
    Counts (operations.foldl (Operation.run c) s) (handedOut run) ∧
      Allocated (operations.foldl (Operation.run c) s) run := by
  intro run
  have hcounts : Counts (operations.foldl (Operation.run c) s)
      ([] ++ run.flatMap fun m => (returnedId m).toList) :=
    trace_invariant _ ⟨hnext, rfl⟩ fun m hm _ h => h.step c (hinit m hm)
  have hallocated : Allocated (operations.foldl (Operation.run c) s)
      ([] ++ run.flatMap fun m => [m]) := by
    refine trace_invariant _ (fun _ id hid => ?_) fun m hm _ h => h.step c (hinit m hm)
    rw [hrecords] at hid
    exact absurd hid List.not_mem_nil
  rw [List.nil_append] at hcounts hallocated
  rw [List.flatMap_singleton'] at hallocated
  refine ⟨?_, hallocated⟩
  unfold handedOut
  rwa [List.filterMap_eq_flatMap_toList]

/-- `MQTT_Init` starts the counter and clears the arrays. -/
theorem mqttInit_success {s₀ s : Sys} {pTransportInterface : Option TransportInterface}
    {getTimeFunction userCallback : Bool} {pNetworkBuffer : Option (List UInt8)}
    (h : FreeMqtt.mqttInit s₀ pTransportInterface getTimeFunction userCallback pNetworkBuffer =
      (.success, s)) : s.nextPacketId = 1 ∧ s.outgoingPublishRecords = [] := by
  unfold FreeMqtt.mqttInit at h
  split at h
  · split_ifs at h
    · cases h
    · cases h
    · cases h
    · cases h
    · obtain ⟨-, rfl⟩ := Prod.mk.inj h
      exact ⟨rfl, rfl⟩
  · cases h

/-- A publish collides with a record that the counter has caught up with, or with one of an array of
the application. -/
theorem mqttPublish_collision (c : Config) {s : Sys} {run : List (Moment Sys Operation)}
    (hcounts : Counts s (handedOut run)) (hallocated : Allocated s run)
    (hthrough : ThroughMqttPublish run) {publishInfo : Option PublishInfo}
    (hcollision : (mqttPublish c s publishInfo).1 = .stateCollision) :
    ∃ r ∈ live s.outgoingPublishRecords, r.packetId = (mqttGetPacketId s).1 ∧
      (r.packetId ∈ restored run ∨ ∃ i, (handedOut run)[i]? = some r.packetId ∧
        i + 65535 ≤ (handedOut run).length) := by
  obtain ⟨r, hr, hid⟩ := List.mem_map.1 (FreeMqtt.mqttPublish_collision hcollision)
  refine ⟨r, hr, hid, ?_⟩
  rcases hallocated hthrough r.packetId (List.mem_map_of_mem hr) with hhanded | hrestored
  swap
  · exact .inl hrestored
  right
  obtain ⟨hcount, hids⟩ := hcounts
  generalize handedOut run = ids at hcount hids hhanded
  rw [hids] at hhanded
  obtain ⟨i, hi, hri⟩ := List.mem_iterate.1 hhanded
  refine ⟨i, ?_, ?_⟩
  · rw [hids, hri]
    exact List.getElem?_iterate nextId 1 ids.length i hi
  · -- the counter is at the packet id again
    have hagain : nextId^[i] 1 = nextId^[ids.length] 1 := by
      rw [← hri, hid, ← hcount]
      rfl
    rw [← minimalPeriod_nextId]
    exact Cyclic.add_minimalPeriod_le one_mem_periodicPts hi hagain

/-- In a run behind `MQTT_Init` no packet id is 0, and 65535 in a row are distinct. When the publishes
so far went through `mqttPublish`, one that collides does so with a live record whose packet id was
handed out at least 65535 packet ids before, or came with an array of the application. -/
theorem packetIds_run (c : Config) {s₀ s : Sys} {pTransportInterface : Option TransportInterface}
    {getTimeFunction userCallback : Bool} {pNetworkBuffer : Option (List UInt8)}
    (hsuccess : FreeMqtt.mqttInit s₀ pTransportInterface getTimeFunction userCallback pNetworkBuffer =
      (.success, s)) {calls : List Call} (hcalls : ∀ call ∈ calls, ¬ call.IsInit) :
    let run := runMoments c s calls
    0 ∉ handedOut run ∧
      (∀ window, window <:+: handedOut run → window.length ≤ 65535 → window.Nodup) ∧
      ∀ front rest, run = front ++ rest → ThroughMqttPublish front → ∀ publishInfo,
        (mqttPublish c (afterMoments c s front) publishInfo).1 = .stateCollision →
        ∃ r ∈ live (afterMoments c s front).outgoingPublishRecords,
          r.packetId = (mqttGetPacketId (afterMoments c s front)).1 ∧
          (r.packetId ∈ restored front ∨ ∃ i, (handedOut front)[i]? = some r.packetId ∧
            i + 65535 ≤ (handedOut front).length) := by
  intro run
  obtain ⟨hnext, hrecords⟩ := mqttInit_success hsuccess
  have hinit : ∀ m ∈ run, ¬ m.operation.IsInit :=
    runMoments_operation fun call hmem _ => Call.not_isInit (hcalls call hmem)
  obtain ⟨operations, hrun⟩ := runMoments_eq c s calls
  change run = _ at hrun
  clear_value run
  subst hrun
  obtain ⟨⟨-, hids⟩, -⟩ := counts_allocated c hnext hrecords hinit
  refine ⟨fun hzero => ?_, fun window hwindow hlength => ?_, ?_⟩
  · rw [hids] at hzero
    obtain ⟨n, -, hn⟩ := List.mem_iterate.1 hzero
    exact iterate_nextId_ne_zero n hn.symm
  · rw [hids] at hwindow
    apply Cyclic.nodup_of_infix_iterate one_mem_periodicPts hwindow
    rwa [minimalPeriod_nextId]
  · intro front rest hsplit hthrough publishInfo hcollision
    obtain ⟨first, second, rfl, rfl, rfl⟩ := exists_of_moments_eq_append hsplit
    have hafter : afterMoments c s (moments (Operation.run c) s first) =
        first.foldl (Operation.run c) s := by
      unfold afterMoments
      rw [map_operation_moments]
    rw [hafter] at hcollision ⊢
    obtain ⟨hcounts, hallocated⟩ := counts_allocated c hnext hrecords fun m hm =>
      hinit m (hsplit ▸ List.mem_append_left _ hm)
    exact mqttPublish_collision c hcounts hallocated hthrough hcollision

/-! ## An array of an earlier session -/

theorem throughMqttPublish_of_none {run : List (Moment Sys Operation)}
    (h : run.all (fun m => m.operation.reservedId.isNone) = true) : ThroughMqttPublish run := by
  rintro front m rest rfl id hid
  have hnone := List.all_eq_true.1 h m (List.mem_append_right _ List.mem_cons_self)
  rw [Option.isNone_iff_eq_none.1 hnone] at hid
  cases hid

/-- A client that waits for a PUBACK. -/
def unansweredClient : Sys := (mqttPublish .default connectedOnce (some publishInfoOne)).2

/-- `MQTT_Init` with a buffer of 16 bytes. -/
def restartInit (s : Sys) : Status × Sys :=
  FreeMqtt.mqttInit s (some ⟨true, true, false⟩) true true (some (List.replicate 16 0))

/-- The client is initialized again, keeps its array and resumes the session. -/
def restartCalls : List Call :=
  [.api (.initStatefulQoS (some unansweredClient.outgoingPublishRecords) 2 none 0),
    .connect (some resumingInfo) none 1000]

def restartMoments : List (Moment Sys Operation) :=
  runMoments .default (restartInit unansweredClient).2 restartCalls

def restartedClient : Sys := afterMoments .default (restartInit unansweredClient).2 restartMoments

theorem restartCalls_not_isInit : ∀ call ∈ restartCalls, ¬ call.IsInit := by
  simp [restartCalls, Call.IsInit, ApiCall.IsInit]

theorem throughMqttPublish_restart : ThroughMqttPublish restartMoments :=
  throughMqttPublish_of_none (by decide +kernel)

theorem mqttPublish_restarted :
    (mqttPublish .default restartedClient (some publishInfoOne)).1 = .stateCollision := by
  decide +kernel

/-- The first publish of the new run collides with the record of the earlier session. -/
theorem not_packetIds_restarted :
    (restartInit unansweredClient).1 = .success ∧ (∀ call ∈ restartCalls, ¬ call.IsInit) ∧
      ThroughMqttPublish restartMoments ∧
      (mqttPublish .default restartedClient (some publishInfoOne)).1 = .stateCollision ∧
      ¬ ∃ r ∈ live restartedClient.outgoingPublishRecords, ∃ i,
        (handedOut restartMoments)[i]? = some r.packetId ∧
          i + 65535 ≤ (handedOut restartMoments).length := by
  refine ⟨rfl, restartCalls_not_isInit, throughMqttPublish_restart, mqttPublish_restarted, ?_⟩
  rintro ⟨r, -, i, hi, -⟩
  have hnone : handedOut restartMoments = [] := by decide +kernel
  rw [hnone] at hi
  cases hi

/-- `packetIds_run` on this collision. -/
theorem packetIds_run_restarted :
    ∃ r ∈ live restartedClient.outgoingPublishRecords, r.packetId = 1 ∧
      (r.packetId ∈ restored restartMoments ∨ ∃ i,
        (handedOut restartMoments)[i]? = some r.packetId ∧
          i + 65535 ≤ (handedOut restartMoments).length) := by
  have hsuccess : restartInit unansweredClient = (.success, (restartInit unansweredClient).2) := rfl
  have hrun := packetIds_run .default hsuccess restartCalls_not_isInit
  obtain ⟨r, hr, hid, hcase⟩ := hrun.2.2 restartMoments [] (List.append_nil _).symm
    throughMqttPublish_restart (some publishInfoOne) mqttPublish_restarted
  exact ⟨r, hr, hid.trans (by decide +kernel), hcase⟩

end FreeMqtt.Reconnect

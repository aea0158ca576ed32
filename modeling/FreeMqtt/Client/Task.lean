import FreeMqtt.Types
import FreeMqtt.Lib.Ownership

/-!
# The client task

`mqttClientTask` and `mqttConnect` of `mqtt_api.c`, as far as the socket and the delays are
concerned. The results of the calls that they make are data, one `Pass` for each pass of
the loop of the task. `calls` is the trace of the calls to the system, in order.
-/

namespace FreeMqtt.Client

/-- `MAX_RETRY_ATTEMPTS` -/
def maxRetryAttempts : UInt32 := 5

/-- `INITIAL_BACKOFF_MS` -/
def initialBackoffMs : UInt32 := 1000

/-- `MAX_BACKOFF_MS` -/
def maxBackoffMs : UInt32 := 60000

/-- `MQTT_LOOP_CNT` -/
def mqttLoopCnt : UInt32 := 60

/-- A call of the task to the system or, for `MQTT_Disconnect`, to the library. -/
inductive Call
  /-- `socket()`, with its result -/
  | socket (result : Int)
  | closesocket (socket : Int)
  | mqttDisconnect
  | mdelay (ms : UInt32)
  deriving DecidableEq, Repr

/-- The results of the calls of one pass of the loop of `mqttClientTask`. -/
structure Pass where
  socket : Int
  /-- `gethostbyname()` returns a host with an address -/
  resolved : Bool
  connect : Int
  /-- `MQTT_Connect` -/
  mqttConnect : Status
  /-- `MQTT_ProcessLoop`; the results after the first failure are not used -/
  mqttProcessLoop : List Status
  deriving DecidableEq, Repr

/-- The variables of the task; `socket` is `networkContext.socket`. -/
structure Task where
  socket : Int
  retryCount : UInt32
  backoffMs : UInt32
  isConnected : Bool
  calls : List Call
  deriving DecidableEq, Repr

/-- A call appended to the trace. -/
def Task.call (t : Task) (c : Call) : Task := { t with calls := t.calls ++ [c] }

/-- `closesocket(networkContext->socket)` -/
def Task.closesocket (t : Task) : Task := t.call (.closesocket t.socket)

/-- The check of the loop, before and after a connection: an open socket is closed and the
stored descriptor reset. -/
def Task.closeIfOpen (t : Task) : Task :=
  if t.socket ≥ 0 then { t.closesocket with socket := -1 } else t

/-- `mqttConnect`. -/
def mqttConnect (p : Pass) (t : Task) : Status × Task :=
  let t := { t.call (.socket p.socket) with socket := p.socket }
  if t.socket < 0 then (.sendFailed, t)
  else if p.resolved = false then (.sendFailed, t.closesocket)
  else if p.connect < 0 then (.sendFailed, t.closesocket)
  else if p.mqttConnect ≠ .success ∧ p.mqttConnect ≠ .statusConnected then
    (p.mqttConnect, t.closesocket)
  else (.success, t)

/-- The inner loop of `mqttClientTask`: whether it has ended, and the task. -/
def processLoop : List Status → Task → Bool × Task
  | [], t => (false, t)
  | status :: rest, t =>
      if status ≠ .success ∧ status ≠ .needMoreBytes then (true, t.call .mqttDisconnect)
      else processLoop rest (t.call (.mdelay mqttLoopCnt))

/-- The end of a failed attempt to connect. -/
def backOff (t : Task) : Task :=
  let exhausted : Bool := decide (t.retryCount ≥ maxRetryAttempts)
  let t := { t with retryCount := t.retryCount + 1 }
  if exhausted then
    { t.call (.mdelay 30000) with retryCount := 0, backoffMs := initialBackoffMs }
  else { t.call (.mdelay t.backoffMs) with backoffMs := min (t.backoffMs * 2) maxBackoffMs }

/-- What follows the inner loop in a pass of `mqttClientTask`. -/
def afterProcessLoop (t : Task) : Task :=
  let t :=
    if t.isConnected ∧ t.socket ≥ 0 then { t.call .mqttDisconnect with isConnected := false }
    else t
  let t := t.closeIfOpen
  let t := t.call (.mdelay t.backoffMs)
  { t with backoffMs := min (t.backoffMs * 2) maxBackoffMs }

/-- One pass of the loop of `mqttClientTask`: whether it has ended, and the task. -/
def runPass (p : Pass) (t : Task) : Bool × Task :=
  let connected := mqttConnect p t.closeIfOpen
  if connected.1 ≠ .success then (true, backOff connected.2)
  else
    let processed := processLoop p.mqttProcessLoop
      { connected.2 with isConnected := true, retryCount := 0, backoffMs := initialBackoffMs }
    if processed.1 = false then processed else (true, afterProcessLoop processed.2)

/-- The loop of `mqttClientTask`. A pass that has not ended is the last one. -/
def runPasses : List Pass → Task → Task
  | [], t => t
  | p :: passes, t =>
      let ran := runPass p t
      if ran.1 then runPasses passes ran.2 else ran.2

/-- The task before its first call, with this descriptor stored. -/
def Task.start (socket : Int) : Task := ⟨socket, 0, initialBackoffMs, false, []⟩

/-- `mqttClientTask`, with the result of `mqttInit`. `networkContext` is a static variable,
so its `socket` is `0`. -/
def mqttClientTask (mqttInit : Status) (passes : List Pass) : Task :=
  if mqttInit ≠ .success then .start 0 else runPasses passes (.start 0)

/-! ## Ownership -/

/-- A call of the task as an event of the ownership of descriptors. -/
def Call.event : Call → Option (Ownership.Event Int)
  | .socket result => some (.acquire (if result < 0 then none else some result))
  | .closesocket descriptor => some (.release descriptor)
  | .mqttDisconnect | .mdelay _ => none

/-- The trace of the descriptors. -/
def Task.events (t : Task) : List (Ownership.Event Int) := t.calls.filterMap Call.event

/-- Every descriptor that the task closes was returned by an earlier `socket()` and not
closed since, and every descriptor is closed before the next `socket()`. -/
def Task.OwnsSockets (t : Task) : Prop := Ownership.Exclusive t.events

@[simp] theorem events_call (t : Task) (c : Call) :
    (t.call c).events = t.events ++ c.event.toList := by
  unfold Task.events Task.call
  cases h : c.event <;> simp [List.filterMap_append, h]

@[simp] theorem events_start (socket : Int) : (Task.start socket).events = [] := rfl

@[simp] theorem socket_call (t : Task) (c : Call) : (t.call c).socket = t.socket := rfl

/-- Variables other than the trace do not matter for it. -/
theorem events_mk (socket : Int) (retryCount backoffMs : UInt32) (isConnected : Bool) (t : Task) :
    Task.events ⟨socket, retryCount, backoffMs, isConnected, t.calls⟩ = t.events := rfl

/-- The attempt of a pass succeeds. -/
def Pass.Connects (p : Pass) : Prop :=
  0 ≤ p.socket ∧ p.resolved = true ∧ 0 ≤ p.connect ∧
    (p.mqttConnect = .success ∨ p.mqttConnect = .statusConnected)

/-- The attempt of a pass fails after `socket()`: the descriptor is closed and stays stored. -/
def Pass.LeavesSocket (p : Pass) : Prop := 0 ≤ p.socket ∧ ¬ p.Connects

/-- The pass ends: its attempt fails, or a call of `MQTT_ProcessLoop` does. -/
def Pass.Ends (p : Pass) : Prop :=
  ¬ p.Connects ∨ ∃ status ∈ p.mqttProcessLoop, status ≠ .success ∧ status ≠ .needMoreBytes

instance (p : Pass) : Decidable p.Connects := inferInstanceAs (Decidable (_ ∧ _))

instance (p : Pass) : Decidable p.LeavesSocket := inferInstanceAs (Decidable (_ ∧ _))

instance (p : Pass) : Decidable p.Ends := inferInstanceAs (Decidable (_ ∨ _))

/-! ## One pass -/

theorem closeIfOpen_of_nonneg {t : Task} (h : 0 ≤ t.socket) :
    t.closeIfOpen.events = t.events ++ [.release t.socket] ∧ t.closeIfOpen.socket = -1 := by
  rw [Task.closeIfOpen, if_pos h]
  exact ⟨events_call t (.closesocket t.socket), rfl⟩

theorem closeIfOpen_of_neg {t : Task} (h : t.socket < 0) : t.closeIfOpen = t :=
  if_neg (Int.not_le.2 h)

/-- `socket()` as an event. -/
def Pass.acquire (p : Pass) : Ownership.Event Int :=
  .acquire (if p.socket < 0 then none else some p.socket)

theorem mqttConnect_spec (p : Pass) (t : Task) :
    ((mqttConnect p t).1 = .success ↔ p.Connects) ∧ (mqttConnect p t).2.socket = p.socket ∧
      (mqttConnect p t).2.events =
        t.events ++ p.acquire :: if p.LeavesSocket then [.release p.socket] else [] := by
  unfold mqttConnect Pass.LeavesSocket Pass.Connects Task.closesocket
  generalize hu : ({ t.call (.socket p.socket) with socket := p.socket } : Task) = u
  have hsocket : u.socket = p.socket := by rw [← hu]
  have hevents : u.events = t.events ++ [p.acquire] := by
    rw [← hu]
    exact events_call t (.socket p.socket)
  by_cases hneg : p.socket < 0
  · simp [hsocket, hneg, hevents, Int.not_le.2 hneg]
  · by_cases hres : p.resolved = true
    · by_cases hconn : p.connect < 0
      · simp [hsocket, hneg, hres, hconn, hevents, Int.not_lt.1 hneg, Int.not_le.2 hconn,
          Call.event]
      · by_cases hmqtt : p.mqttConnect = .success ∨ p.mqttConnect = .statusConnected
        · have hok : ¬ (p.mqttConnect ≠ .success ∧ p.mqttConnect ≠ .statusConnected) := by
            tauto
          simp [hsocket, hneg, hres, hconn, hok, hevents, hmqtt, Int.not_lt.1 hconn,
            Int.not_lt.1 hneg]
        · have hbad : p.mqttConnect ≠ .success ∧ p.mqttConnect ≠ .statusConnected := by
            tauto
          simp [hsocket, hneg, hres, hconn, hevents, hbad, Int.not_lt.1 hneg, Call.event]
    · simp [hsocket, hneg, hres, hevents, Int.not_lt.1 hneg, Call.event]

theorem processLoop_spec (statuses : List Status) (t : Task) :
    ((processLoop statuses t).1 = true ↔
        ∃ status ∈ statuses, status ≠ .success ∧ status ≠ .needMoreBytes) ∧
      (processLoop statuses t).2.socket = t.socket ∧
      (processLoop statuses t).2.isConnected = t.isConnected ∧
      (processLoop statuses t).2.events = t.events := by
  induction statuses generalizing t with
  | nil => simp [processLoop]
  | cons status rest ih =>
    unfold processLoop
    split
    · rename_i hfail
      exact ⟨by simp [hfail], rfl, rfl, by simp [Call.event]⟩
    · rename_i hok
      obtain ⟨hended, hsocket, hconn, hevents⟩ := ih (t.call (.mdelay mqttLoopCnt))
      refine ⟨?_, hsocket, hconn, by rw [hevents]; simp [Call.event]⟩
      rw [hended, List.exists_mem_cons_iff, or_iff_right hok]

theorem backOff_spec (t : Task) :
    (backOff t).socket = t.socket ∧ (backOff t).events = t.events := by
  unfold backOff
  dsimp only
  split
  · exact ⟨rfl, (events_call t (.mdelay 30000)).trans (List.append_nil _)⟩
  · exact ⟨rfl, (events_call t (.mdelay t.backoffMs)).trans (List.append_nil _)⟩

theorem afterProcessLoop_spec {t : Task} (h : 0 ≤ t.socket) :
    (afterProcessLoop t).socket = -1 ∧
      (afterProcessLoop t).events = t.events ++ [.release t.socket] := by
  have hclose : ∀ u : Task, u.socket = t.socket → u.events = t.events →
      u.closeIfOpen.socket = -1 ∧ u.closeIfOpen.events = t.events ++ [.release t.socket] := by
    intro u hsocket hevents
    obtain ⟨hclosed, hreset⟩ := closeIfOpen_of_nonneg (t := u) (hsocket ▸ h)
    exact ⟨hreset, by rw [hclosed, hevents, hsocket]⟩
  unfold afterProcessLoop
  dsimp only
  rw [events_mk, events_call, socket_call]
  simp only [Call.event, Option.toList_none, List.append_nil]
  split
  · exact hclose _ rfl ((events_call t .mqttDisconnect).trans (List.append_nil _))
  · exact hclose t rfl rfl

/-- The events of the check for an open socket. -/
def closing (socket : Int) : List (Ownership.Event Int) :=
  if 0 ≤ socket then [.release socket] else []

theorem events_closeIfOpen (t : Task) : t.closeIfOpen.events = t.events ++ closing t.socket := by
  unfold closing
  split
  · rename_i h
    exact (closeIfOpen_of_nonneg h).1
  · rename_i h
    rw [closeIfOpen_of_neg (Int.not_le.1 h), List.append_nil]

/-- What a pass does to the descriptors: it closes the stored one, opens its own, and closes
it again, but a failed attempt leaves it stored. -/
theorem runPass_spec (p : Pass) (t : Task) :
    ((runPass p t).1 = true ↔ p.Ends) ∧
      (runPass p t).2.socket = (if p.Connects ∧ p.Ends then -1 else p.socket) ∧
      (runPass p t).2.events =
        t.events ++ (closing t.socket ++ p.acquire :: if p.Ends then closing p.socket else []) := by
  obtain ⟨hstatus, hsocket, hevents⟩ := mqttConnect_spec p t.closeIfOpen
  unfold runPass
  dsimp only
  by_cases hc : p.Connects
  · have hleave : ¬ p.LeavesSocket := fun h => h.2 hc
    have hends : p.Ends ↔
        ∃ status ∈ p.mqttProcessLoop, status ≠ .success ∧ status ≠ .needMoreBytes :=
      or_iff_right (not_not_intro hc)
    rw [if_neg hleave, events_closeIfOpen] at hevents
    rw [if_neg (not_not_intro (hstatus.2 hc))]
    obtain ⟨hended, hsocket', -, hevents'⟩ := processLoop_spec p.mqttProcessLoop
      { (mqttConnect p t.closeIfOpen).2 with
        isConnected := true, retryCount := 0, backoffMs := initialBackoffMs }
    rw [← hends] at hended
    replace hevents' := hevents'.trans hevents
    replace hsocket' := hsocket'.trans hsocket
    dsimp only at hended hsocket' hevents'
    by_cases he : p.Ends
    · obtain ⟨hreset, hclosed⟩ := afterProcessLoop_spec (hsocket'.symm ▸ hc.1)
      rw [if_neg (by rw [hended.2 he]; simp), if_pos ⟨hc, he⟩, if_pos he]
      refine ⟨by simp [he], hreset, ?_⟩
      rw [hclosed, hevents', hsocket', closing, closing, if_pos hc.1]
      simp
    · rw [if_pos (by simpa using mt hended.1 he), if_neg (fun h => he h.2), if_neg he]
      refine ⟨hended, hsocket', ?_⟩
      rw [hevents', List.append_assoc]
  · have hends : p.Ends := .inl hc
    obtain ⟨hsocket', hevents'⟩ := backOff_spec (mqttConnect p t.closeIfOpen).2
    rw [if_pos (mt hstatus.1 hc)]
    refine ⟨by simp [hends], by rw [hsocket', hsocket, if_neg (fun h => hc h.1)], ?_⟩
    rw [hevents', hevents, events_closeIfOpen, if_pos hends]
    simp [Pass.LeavesSocket, hc, closing]

/-! ## Runs -/

/-- The events of the passes of a run that starts with `socket` stored. -/
def runEvents (socket : Int) : List Pass → List (Ownership.Event Int)
  | [] => []
  | p :: passes =>
      closing socket ++ p.acquire ::
        if p.Ends then
          closing p.socket ++ runEvents (if p.Connects then -1 else p.socket) passes
        else []

theorem events_runPasses (passes : List Pass) (t : Task) :
    (runPasses passes t).events = t.events ++ runEvents t.socket passes := by
  induction passes generalizing t with
  | nil => simp [runPasses, runEvents]
  | cons p passes ih =>
    obtain ⟨hended, hsocket, hevents⟩ := runPass_spec p t
    unfold runPasses runEvents
    dsimp only
    by_cases he : p.Ends
    · rw [if_pos (hended.2 he), ih, hsocket, hevents]
      simp [he]
    · rw [if_neg (mt hended.1 he), hevents]
      simp [he]

/-- The passes that a run reaches. -/
def reached : List Pass → List Pass
  | [] => []
  | p :: passes => p :: if p.Ends then reached passes else []

theorem owned_closing_none {socket : Int} (h : 0 ≤ socket) (events : List (Ownership.Event Int)) :
    Ownership.owned none (closing socket ++ events) = none := by
  simp [closing, h]

/-- From a stored descriptor that is not open, a run is in order as long as no pass follows
one that left its descriptor stored. -/
theorem owned_runEvents {socket : Int} (h : socket < 0) (passes : List Pass) :
    (Ownership.owned none (runEvents socket passes)).isSome ↔
      ∀ p ∈ (reached passes).dropLast, ¬ p.LeavesSocket := by
  induction passes generalizing socket with
  | nil => simp [runEvents, reached]
  | cons p passes ih =>
    have hdrop : ∀ {q : Pass → Prop}, (∀ x ∈ (p :: reached passes).dropLast, q x) ↔
        (passes ≠ [] → q p) ∧ ∀ x ∈ (reached passes).dropLast, q x := by
      cases passes <;> simp [reached, List.dropLast_cons_of_ne_nil]
    have hclosed : closing socket = [] := if_neg (Int.not_le.2 h)
    unfold runEvents reached
    rw [hclosed, List.nil_append]
    by_cases hneg : p.socket < 0
    · -- no descriptor was opened, and none is stored
      have hc : ¬ p.Connects := fun hc => absurd hc.1 (Int.not_le.2 hneg)
      have hends : p.Ends := .inl hc
      have hleave : ¬ p.LeavesSocket := fun hl => absurd hl.1 (Int.not_le.2 hneg)
      have hclosed' : closing p.socket = [] := if_neg (Int.not_le.2 hneg)
      rw [if_pos hends, if_pos hends, hclosed', if_neg hc, hdrop]
      simp only [Pass.acquire, if_pos hneg, Ownership.owned_cons, Ownership.next_acquire,
        Option.bind_some, List.nil_append, ih hneg]
      simp [hleave]
    · have hclosed' : closing p.socket = [.release p.socket] := if_pos (Int.not_lt.1 hneg)
      have hrest : ∀ stored, Ownership.owned none
          (p.acquire :: (closing p.socket ++ runEvents stored passes)) =
            Ownership.owned none (runEvents stored passes) := by
        intro stored
        simp [hclosed', Pass.acquire, hneg]
      by_cases hc : p.Connects
      · have hleave : ¬ p.LeavesSocket := fun hl => hl.2 hc
        by_cases hends : p.Ends
        · rw [if_pos hends, if_pos hends, hrest, if_pos hc, ih (by decide), hdrop]
          simp [hleave]
        · rw [if_neg hends, if_neg hends]
          simp [Pass.acquire, hneg]
      · -- the closed descriptor stays stored, and the next pass closes it once more
        have hends : p.Ends := .inl hc
        have hleave : p.LeavesSocket := ⟨Int.not_lt.1 hneg, hc⟩
        rw [if_pos hends, if_pos hends, hrest, if_neg hc, hdrop]
        cases passes with
        | nil => simp [runEvents, reached]
        | cons q passes =>
          rw [runEvents, owned_closing_none (Int.not_lt.1 hneg)]
          simp [hleave]

/-- From a stored descriptor that is open, the first pass closes it. -/
theorem owned_runEvents_of_nonneg {socket : Int} (h : 0 ≤ socket) (p : Pass)
    (passes : List Pass) : Ownership.owned none (runEvents socket (p :: passes)) = none := by
  rw [runEvents, owned_closing_none h]

/-- Were the stored descriptor invalid at first, the task would be in order until a pass
follows one that failed after `socket()`. -/
theorem ownsSockets_runPasses_iff {socket : Int} (h : socket < 0) (passes : List Pass) :
    (runPasses passes (.start socket)).OwnsSockets ↔
      ∀ p ∈ (reached passes).dropLast, ¬ p.LeavesSocket := by
  rw [Task.OwnsSockets, Ownership.exclusive_iff, events_runPasses, events_start, List.nil_append]
  exact owned_runEvents h passes

/-- The stored descriptor is `0` at first, which the task does not own: the ownership of
descriptors holds only of the runs that never enter the loop. -/
theorem ownsSockets_mqttClientTask_iff (mqttInit : Status) (passes : List Pass) :
    (mqttClientTask mqttInit passes).OwnsSockets ↔ mqttInit ≠ .success ∨ passes = [] := by
  rw [Task.OwnsSockets, Ownership.exclusive_iff, mqttClientTask]
  by_cases hinit : mqttInit ≠ .success
  · simp [hinit]
  · rw [if_neg hinit, events_runPasses, events_start, List.nil_append]
    cases passes with
    | nil => simp [runEvents]
    | cons p passes =>
      change (Ownership.owned none (runEvents 0 (p :: passes))).isSome ↔ _
      rw [owned_runEvents_of_nonneg (Int.le_refl 0)]
      simpa using hinit

/-- Descriptor `0` is closed before any `socket()`. -/
theorem not_ownsSockets_unresolved :
    ¬ (mqttClientTask .success [⟨3, false, 0, .success, []⟩]).OwnsSockets := by
  rw [Task.OwnsSockets, Ownership.exclusive_iff]
  decide

end FreeMqtt.Client

import FreeMqtt.Client.Task

/-!
# The delays of the client task

`Streak.delay` is the delay of the task after an attempt, by how many attempts in a row failed.
`delays_mqttClientTask` says that the delays of every run are these: they double from one second on,
and after the sixth failure the task waits half a minute and starts anew. The bound `MAX_BACKOFF_MS`
is never waited for.
-/

namespace FreeMqtt.Client

def Call.delay : Call → Option UInt32
  | .mdelay ms => some ms
  | _ => none

/-- The delays of the task so far, in milliseconds. -/
def Task.delays (t : Task) : List Nat := (t.calls.filterMap Call.delay).map UInt32.toNat

@[simp] theorem delays_call (t : Task) (c : Call) :
    (t.call c).delays = t.delays ++ c.delay.toList.map UInt32.toNat := by
  unfold Task.delays Task.call
  cases h : c.delay <;> simp [List.filterMap_append, h]

/-- Variables other than the trace do not matter for the delays. -/
theorem delays_mk (socket : Int) (retryCount backoffMs : UInt32) (isConnected : Bool) (t : Task) :
    Task.delays ⟨socket, retryCount, backoffMs, isConnected, t.calls⟩ = t.delays := rfl

/-! ## Failures in a row -/

/-- The failed attempts since the last connection, or since the last long delay. -/
structure Streak where
  failures : Nat
  /-- they follow a connection that was lost -/
  lost : Bool
  bounded : failures ≤ 5

namespace Streak

/-- No attempt failed. -/
def start : Streak := ⟨0, false, Nat.zero_le 5⟩

/-- After a connection that was lost. -/
def afterLoss : Streak := ⟨0, true, Nat.zero_le 5⟩

/-- `backoffMs`, without its bound. -/
def backoff (k : Streak) : Nat := 1000 * 2 ^ (k.failures + k.lost.toNat)

/-- The delay after one more failure. -/
def delay (k : Streak) : Nat := if k.failures = 5 then 30000 else k.backoff

/-- One more failure. -/
def next (k : Streak) : Streak :=
  if h : k.failures = 5 then start
  else ⟨k.failures + 1, k.lost, Nat.lt_of_le_of_ne k.bounded h⟩

end Streak

/-- The delays between calls of `MQTT_ProcessLoop` with these results. -/
def loopDelays (statuses : List Status) : List Nat :=
  (statuses.takeWhile fun status => status = .success ∨ status = .needMoreBytes).map fun _ => 60

/-- The delays of the passes of a run. -/
def scheduled : Streak → List Pass → List Nat
  | _, [] => []
  | k, p :: passes =>
      if p.Connects then
        loopDelays p.mqttProcessLoop ++ if p.Ends then 1000 :: scheduled .afterLoss passes else []
      else k.delay :: scheduled k.next passes

/-- The variables of the task after the failures of a streak. -/
structure Follows (t : Task) (k : Streak) : Prop where
  retryCount : t.retryCount.toNat = k.failures
  backoffMs : t.backoffMs.toNat = min k.backoff 60000

theorem follows_initial (t : Task) :
    Follows { t with retryCount := 0, backoffMs := initialBackoffMs } .start :=
  ⟨rfl, rfl⟩

/-- The next back-off. -/
theorem toNat_doubled {backoffMs : UInt32} {n : Nat} (h : backoffMs.toNat = min n 60000) :
    (min (backoffMs * 2) maxBackoffMs).toNat = min (n * 2) 60000 := by
  have hlt : backoffMs.toNat * 2 < 2 ^ 32 := by omega
  have hdouble : (backoffMs * 2).toNat = backoffMs.toNat * 2 := by
    rw [UInt32.toNat_mul]
    exact Nat.mod_eq_of_lt hlt
  have hmin : (min (backoffMs * 2) maxBackoffMs).toNat = min (backoffMs.toNat * 2) 60000 := by
    rw [← hdouble]
    show (if backoffMs * 2 ≤ maxBackoffMs then backoffMs * 2 else maxBackoffMs).toNat = _
    have hmax : maxBackoffMs.toNat = 60000 := rfl
    split
    · rename_i hle
      rw [UInt32.le_iff_toNat_le] at hle
      omega
    · rename_i hle
      rw [UInt32.le_iff_toNat_le] at hle
      omega
  rw [hmin, h]
  omega

/-! ## One pass -/

/-- A failed attempt. -/
theorem backOff_follows {t : Task} {k : Streak} (h : Follows t k) :
    (backOff t).delays = t.delays ++ [k.delay] ∧ Follows (backOff t) k.next := by
  unfold backOff Streak.delay Streak.next
  dsimp only
  have hexhausted : t.retryCount ≥ maxRetryAttempts ↔ k.failures = 5 := by
    have hbounded := k.bounded
    rw [ge_iff_le, UInt32.le_iff_toNat_le, h.retryCount]
    show 5 ≤ k.failures ↔ _
    omega
  by_cases hlast : k.failures = 5
  · rw [if_pos (decide_eq_true (hexhausted.2 hlast)), if_pos hlast, dif_pos hlast, delays_mk,
      delays_call]
    exact ⟨rfl, rfl, rfl⟩
  · have hfailures : k.failures < 5 := Nat.lt_of_le_of_ne k.bounded hlast
    rw [if_neg (by simpa using mt hexhausted.1 hlast), if_neg hlast, dif_neg hlast, delays_mk,
      delays_call]
    refine ⟨?_, ?_, ?_⟩
    · have hbackoff : k.backoff ≤ 1000 * 2 ^ 5 := by
        refine Nat.mul_le_mul_left 1000 (Nat.pow_le_pow_right (by omega) ?_)
        have := k.lost.toNat_le
        omega
      have hdelay : t.backoffMs.toNat = k.backoff := h.backoffMs.trans (by omega)
      show t.delays ++ [t.backoffMs.toNat] = _
      rw [hdelay]
    · show (t.retryCount + 1).toNat = k.failures + 1
      rw [UInt32.toNat_add, h.retryCount]
      have hone : (1 : UInt32).toNat = 1 := rfl
      omega
    · have hdoubled := toNat_doubled h.backoffMs
      refine hdoubled.trans ?_
      unfold Streak.backoff
      rw [Nat.succ_add, pow_succ, Nat.mul_assoc]

@[simp] theorem delays_closeIfOpen (t : Task) : t.closeIfOpen.delays = t.delays := by
  unfold Task.closeIfOpen
  split
  · exact (delays_call t (.closesocket t.socket)).trans (List.append_nil _)
  · rfl

/-- A lost connection. -/
theorem afterProcessLoop_follows {t : Task} (hretry : t.retryCount = 0)
    (hbackoff : t.backoffMs = initialBackoffMs) :
    (afterProcessLoop t).delays = t.delays ++ [1000] ∧ Follows (afterProcessLoop t) .afterLoss := by
  have hclosed : ∀ u : Task, u.closeIfOpen.retryCount = u.retryCount ∧
      u.closeIfOpen.backoffMs = u.backoffMs := by
    intro u
    unfold Task.closeIfOpen
    split
    · exact ⟨rfl, rfl⟩
    · exact ⟨rfl, rfl⟩
  unfold afterProcessLoop
  dsimp only
  generalize hu : (if t.isConnected = true ∧ t.socket ≥ 0 then
    { t.call .mqttDisconnect with isConnected := false } else t) = u
  have hsame : u.delays = t.delays ∧ u.retryCount = 0 ∧ u.backoffMs = initialBackoffMs := by
    rw [← hu]
    split
    · exact ⟨(delays_call t .mqttDisconnect).trans (List.append_nil _), hretry, hbackoff⟩
    · exact ⟨rfl, hretry, hbackoff⟩
  obtain ⟨hretry', hbackoff'⟩ := hclosed u
  rw [delays_mk, delays_call, delays_closeIfOpen, hsame.1]
  have hinitial : u.closeIfOpen.backoffMs = initialBackoffMs := hbackoff'.trans hsame.2.2
  refine ⟨?_, ?_, ?_⟩
  · rw [hinitial]
    rfl
  · show u.closeIfOpen.retryCount.toNat = 0
    rw [hretry', hsame.2.1]
    rfl
  · show (min (u.closeIfOpen.backoffMs * 2) maxBackoffMs).toNat = _
    rw [hinitial]
    rfl

theorem delays_mqttConnect (p : Pass) (t : Task) :
    (mqttConnect p t).2.delays = t.delays ∧
      (mqttConnect p t).2.retryCount = t.retryCount ∧
      (mqttConnect p t).2.backoffMs = t.backoffMs := by
  have hclose : ∀ u : Task, u.delays = t.delays → u.closesocket.delays = t.delays := fun u h =>
    (delays_call u (.closesocket u.socket)).trans ((List.append_nil _).trans h)
  have hsocket : Task.delays { t.call (.socket p.socket) with socket := p.socket } = t.delays :=
    (delays_call t (.socket p.socket)).trans (List.append_nil _)
  unfold mqttConnect
  dsimp only
  split
  · exact ⟨hsocket, rfl, rfl⟩
  split
  · exact ⟨hclose _ hsocket, rfl, rfl⟩
  split
  · exact ⟨hclose _ hsocket, rfl, rfl⟩
  split
  · exact ⟨hclose _ hsocket, rfl, rfl⟩
  · exact ⟨hsocket, rfl, rfl⟩

theorem delays_processLoop (statuses : List Status) (t : Task) :
    (processLoop statuses t).2.delays = t.delays ++ loopDelays statuses ∧
      (processLoop statuses t).2.retryCount = t.retryCount ∧
      (processLoop statuses t).2.backoffMs = t.backoffMs := by
  induction statuses generalizing t with
  | nil => exact ⟨(List.append_nil _).symm, rfl, rfl⟩
  | cons status rest ih =>
    unfold processLoop
    split
    · rename_i hfail
      have hnot : ¬ (status = .success ∨ status = .needMoreBytes) := not_or.2 hfail
      rw [loopDelays, List.takeWhile_cons_of_neg (by simpa using hnot)]
      exact ⟨delays_call t .mqttDisconnect, rfl, rfl⟩
    · rename_i hok
      obtain ⟨hdelays, hretry, hbackoff⟩ := ih (t.call (.mdelay mqttLoopCnt))
      have hok' : status = .success ∨ status = .needMoreBytes := by
        by_contra hfail
        exact hok (not_or.1 hfail)
      refine ⟨?_, hretry, hbackoff⟩
      rw [hdelays, delays_call, loopDelays, loopDelays,
        List.takeWhile_cons_of_pos (by simpa using hok'), List.append_assoc]
      rfl

/-! ## Runs -/

theorem delays_runPasses (passes : List Pass) {t : Task} {k : Streak} (h : Follows t k) :
    (runPasses passes t).delays = t.delays ++ scheduled k passes := by
  induction passes generalizing t k with
  | nil => exact (List.append_nil _).symm
  | cons p passes ih =>
    obtain ⟨hstatus, -⟩ := mqttConnect_spec p t.closeIfOpen
    obtain ⟨hdelays, hretry, hbackoff⟩ := delays_mqttConnect p t.closeIfOpen
    have hclosed : Follows (mqttConnect p t.closeIfOpen).2 k := by
      have hsame : t.closeIfOpen.retryCount = t.retryCount ∧
          t.closeIfOpen.backoffMs = t.backoffMs := by
        unfold Task.closeIfOpen
        split
        · exact ⟨rfl, rfl⟩
        · exact ⟨rfl, rfl⟩
      refine ⟨?_, ?_⟩
      · rw [hretry, hsame.1, h.retryCount]
      · rw [hbackoff, hsame.2, h.backoffMs]
    rw [delays_closeIfOpen] at hdelays
    unfold runPasses runPass scheduled
    dsimp only
    by_cases hc : p.Connects
    swap
    · obtain ⟨hfailed, hnext⟩ := backOff_follows hclosed
      rw [if_pos (mt hstatus.1 hc), if_neg hc]
      dsimp only
      rw [if_pos rfl, ih hnext, hfailed, hdelays, List.append_assoc]
      rfl
    rw [if_neg (not_not_intro (hstatus.2 hc)), if_pos hc]
    obtain ⟨hended, -⟩ := processLoop_spec p.mqttProcessLoop
      { (mqttConnect p t.closeIfOpen).2 with
        isConnected := true, retryCount := 0, backoffMs := initialBackoffMs }
    obtain ⟨hlooped, hretry', hbackoff'⟩ := delays_processLoop p.mqttProcessLoop
      { (mqttConnect p t.closeIfOpen).2 with
        isConnected := true, retryCount := 0, backoffMs := initialBackoffMs }
    dsimp only at hended hlooped hretry' hbackoff'
    replace hlooped := hlooped.trans (congrArg (· ++ loopDelays p.mqttProcessLoop) hdelays)
    have hends : p.Ends ↔
        ∃ status ∈ p.mqttProcessLoop, status ≠ .success ∧ status ≠ .needMoreBytes :=
      or_iff_right (not_not_intro hc)
    rw [← hends] at hended
    generalize processLoop p.mqttProcessLoop _ = processed at hended hlooped hretry' hbackoff' ⊢
    obtain ⟨ended, u⟩ := processed
    cases ended with
    | true =>
      obtain ⟨hlost, hnext⟩ := afterProcessLoop_follows hretry' hbackoff'
      rw [if_neg (show ¬ (true = false) by decide), if_pos (hended.1 rfl)]
      dsimp only
      rw [if_pos rfl, ih hnext, hlost, hlooped]
      simp
    | false =>
      have hends' : ¬ p.Ends := fun he => absurd (hended.2 he) Bool.false_ne_true
      rw [if_pos (show false = false from rfl), if_neg hends', if_neg (by simp), hlooped,
        List.append_nil]

theorem Streak.delay_eq (k : Streak) : k.delay = 30000 ∨ ∃ n ≤ 5, k.delay = 1000 * 2 ^ n := by
  unfold Streak.delay
  split
  · exact .inl rfl
  · rename_i hlast
    refine .inr ⟨k.failures + k.lost.toNat, ?_, rfl⟩
    have hfailures := Nat.lt_of_le_of_ne k.bounded hlast
    have hlost := k.lost.toNat_le
    omega

theorem scheduled_mem {k : Streak} {passes : List Pass} :
    ∀ d ∈ scheduled k passes, d = 60 ∨ d = 30000 ∨ ∃ n ≤ 5, d = 1000 * 2 ^ n := by
  induction passes generalizing k with
  | nil => exact fun d hd => absurd hd List.not_mem_nil
  | cons p passes ih =>
    intro d hd
    unfold scheduled at hd
    split at hd
    · rcases List.mem_append.1 hd with hd | hd
      · obtain ⟨_, -, rfl⟩ := List.mem_map.1 hd
        exact .inl rfl
      split at hd
      · rcases List.mem_cons.1 hd with rfl | hd
        · exact .inr (.inr ⟨0, Nat.zero_le 5, rfl⟩)
        · exact ih d hd
      · exact absurd hd List.not_mem_nil
    · rcases List.mem_cons.1 hd with rfl | hd
      · exact .inr k.delay_eq
      · exact ih d hd

/-- The delays of every run of the task are those of its failures in a row, and none of them is
`MAX_BACKOFF_MS`: the longest is 32 seconds, after the fifth failure behind a lost connection. -/
theorem delays_mqttClientTask (passes : List Pass) :
    (mqttClientTask .success passes).delays = scheduled .start passes ∧
      (∀ d ∈ (mqttClientTask .success passes).delays,
        d = 60 ∨ d = 30000 ∨ ∃ n ≤ 5, d = 1000 * 2 ^ n) ∧
      maxBackoffMs.toNat ∉ (mqttClientTask .success passes).delays := by
  have hdelays : (mqttClientTask .success passes).delays = scheduled .start passes := by
    have hrun := delays_runPasses passes (follows_initial (.start 0))
    rw [mqttClientTask, if_neg (by simp)]
    exact hrun
  rw [hdelays]
  refine ⟨rfl, scheduled_mem, fun hmax => ?_⟩
  rcases scheduled_mem _ hmax with h | h | ⟨n, hn, h⟩
  · exact absurd h (by decide)
  · exact absurd h (by decide)
  · have hpow : 2 ^ n ≤ 2 ^ 5 := Nat.pow_le_pow_right (by decide) hn
    have hvalue : maxBackoffMs.toNat = 60000 := rfl
    omega

/-- A connection is lost, and the broker stays away. -/
example :
    let away : Pass := ⟨3, false, 0, .success, []⟩
    scheduled .start (⟨3, true, 0, .success, [.success, .recvFailed]⟩ :: List.replicate 8 away) =
      [60, 1000, 2000, 4000, 8000, 16000, 32000, 30000, 1000, 2000] := by
  decide

end FreeMqtt.Client

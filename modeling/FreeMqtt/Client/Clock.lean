import FreeMqtt.Core.Receive
import Mathlib.NumberTheory.Divisors
import Mathlib.Tactic.Linarith
import Mathlib.Tactic.LinearCombination

/-!
# The clock of the port

`getCurrentTime` divides the tick counter by the milliseconds of a tick instead of multiplying with
them. At any rate but 1000 ticks a second the time that `calculateElapsedTime` finds is then too
short, but for one coincidence when the counter wraps around (`measuresMilliseconds_iff`).
-/

namespace FreeMqtt

/-! ## Ticks and milliseconds -/

/-- `getCurrentTime`, for `RT_TICK_PER_SECOND` and the value of `rt_tick_get()`. -/
def getCurrentTime (tickPerSecond : Nat) (tick : UInt32) : UInt32 :=
  tick / UInt32.ofNat (1000 / tickPerSecond)

/-- The milliseconds of a number of ticks. -/
def tickMilliseconds (tickPerSecond ticks : Nat) : Nat := ticks * (1000 / tickPerSecond)

/-- What the timeouts see when `ticks` have passed since `start`. -/
def elapsedMs (tickPerSecond : Nat) (start : UInt32) (ticks : Nat) : UInt32 :=
  calculateElapsedTime (getCurrentTime tickPerSecond (start + UInt32.ofNat ticks))
    (getCurrentTime tickPerSecond start)

/-- The milliseconds that have passed are the ones that the code sees, and so each timeout of
`handleKeepAlive`, `sendBuffer`, `sendMessageVector` and `receiveConnack`, whether it has to be reached
or to be exceeded, elapses after its own number of milliseconds. -/
def MeasuresMilliseconds (tickPerSecond : Nat) (start : UInt32) (ticks : Nat) : Prop :=
  let elapsed := (elapsedMs tickPerSecond start ticks).toNat
  elapsed = tickMilliseconds tickPerSecond ticks ∧
    ∀ timeoutMs : Nat, (timeoutMs ≤ elapsed ↔ timeoutMs ≤ tickMilliseconds tickPerSecond ticks) ∧
      (timeoutMs < elapsed ↔ timeoutMs < tickMilliseconds tickPerSecond ticks)

theorem measuresMilliseconds_iff_eq {tickPerSecond : Nat} {start : UInt32} {ticks : Nat} :
    MeasuresMilliseconds tickPerSecond start ticks ↔
      (elapsedMs tickPerSecond start ticks).toNat = tickMilliseconds tickPerSecond ticks := by
  constructor
  · exact fun h => h.1
  · intro h
    unfold MeasuresMilliseconds
    dsimp only
    rw [h]
    exact ⟨rfl, fun timeoutMs => ⟨Iff.rfl, Iff.rfl⟩⟩

/-! ## Elapsed time -/

section

variable {k start ticks : Nat}

/-- The elapsed time when the counter does not wrap around: it is no longer than the ticks. -/
theorem elapsed_le (hk : 1 < k) (hticks : 0 < ticks) :
    (start + ticks) / k - start / k < ticks * k := by
  have hle : (start + ticks) / k ≤ start / k + ticks := by
    rw [← Nat.add_mul_div_right _ _ (by omega : 0 < k)]
    exact Nat.div_le_div_right (Nat.add_le_add_left (Nat.le_mul_of_pos_right _ (by omega)) _)
  have hmul : ticks * 1 < ticks * k := Nat.mul_lt_mul_of_pos_left hk hticks
  omega

/-- No rate fits these two sums of ticks. -/
theorem not_dvd_of_rate (hk : 1 < k) (h : k ∣ 1000) : ¬ k + 1 ∣ 2 ^ 32 ∧ ¬ k + 1 ∣ 2 ^ 32 + 1 := by
  have hall : ∀ k ∈ Nat.divisors 1000, 1 < k → ¬ k + 1 ∣ 2 ^ 32 ∧ ¬ k + 1 ∣ 2 ^ 32 + 1 := by
    decide +kernel
  exact hall k (Nat.mem_divisors.2 ⟨h, by decide⟩) hk

/-- The elapsed time when the counter wraps around: it is right when the counter started at a
multiple and the ticks fit the rate. -/
theorem elapsed_wrapped (hk : 1 < k) (hrate : k ∣ 1000) (hstart : start < 2 ^ 32)
    (hwrap : 2 ^ 32 ≤ start + ticks) :
    2 ^ 32 - start / k + (start + ticks - 2 ^ 32) / k = ticks * k ↔
      k ∣ start ∧ ticks * (k + 1) = 2 ^ 32 - 1 := by
  obtain ⟨later, hlater⟩ : ∃ later, start + ticks = 2 ^ 32 + later :=
    ⟨start + ticks - 2 ^ 32, by omega⟩
  have hquotient : start / k ≤ start := Nat.div_le_self _ _
  rw [show start + ticks - 2 ^ 32 = later by omega]
  constructor
  · intro h
    have hstartMod := Nat.div_add_mod start k
    have hlaterMod := Nat.div_add_mod later k
    have hr := Nat.mod_lt start (by omega : 0 < k)
    have hr' := Nat.mod_lt later (by omega : 0 < k)
    generalize start / k = q at h hquotient hstartMod
    generalize later / k = q' at h hlaterMod
    generalize hmod : start % k = r at hr hstartMod
    generalize later % k = r' at hr' hlaterMod
    have hdifference : (2 ^ 32 - q + q' : Int) = ticks * k := by omega
    have hremainders : ((k : Int) - 1) * (ticks * (k + 1) - 2 ^ 32) = r - r' := by
      zify at hlater hstartMod hlaterMod
      linear_combination hlaterMod - hstartMod - hlater - (k : Int) * hdifference
    have hpos : (0 : Int) < k - 1 := by omega
    have hmore : (ticks * (k + 1) - 2 ^ 32 : Int) ≤ 1 :=
      le_of_mul_le_mul_left (hremainders.trans_le (by omega)) hpos
    have hless : (-1 : Int) ≤ ticks * (k + 1) - 2 ^ 32 :=
      le_of_mul_le_mul_left (le_of_le_of_eq (by omega) hremainders.symm) hpos
    obtain ⟨hzero, hone⟩ := not_dvd_of_rate hk hrate
    have hsum : ((ticks * (k + 1) : Nat) : Int) = ticks * (k + 1) := by push_cast; rfl
    rcases (by omega : ticks * (k + 1) = 2 ^ 32 - 1 ∨ ticks * (k + 1) = 2 ^ 32 ∨
      ticks * (k + 1) = 2 ^ 32 + 1) with heq | heq | heq
    · have hlast : (r : Int) - r' = -(k - 1) := by
        rw [← hremainders, ← hsum, heq]
        norm_num
      exact ⟨Nat.dvd_of_mod_eq_zero (by omega), heq⟩
    · exact absurd ⟨ticks, by rw [Nat.mul_comm, heq]⟩ hzero
    · exact absurd ⟨ticks, by rw [Nat.mul_comm, heq]⟩ hone
  · rintro ⟨⟨q, rfl⟩, hticks⟩
    rw [Nat.mul_succ] at hticks
    have hbefore : ticks + 1 ≤ q := by
      by_contra hsmall
      have hmul : k * q ≤ k * ticks := Nat.mul_le_mul_left k (by omega)
      rw [Nat.mul_comm k ticks] at hmul
      omega
    obtain ⟨before, rfl⟩ : ∃ before, q = ticks + 1 + before := ⟨q - (ticks + 1), by omega⟩
    have hlaterEq : later = k - 1 + k * before := by
      rw [Nat.mul_add, Nat.mul_add, Nat.mul_comm k ticks] at hlater
      omega
    rw [Nat.mul_div_cancel_left _ (by omega : 0 < k), hlaterEq,
      Nat.add_mul_div_left _ _ (by omega : 0 < k), Nat.div_eq_of_lt (by omega : k - 1 < k)]
    have hfit := Nat.le_mul_of_pos_left (ticks + 1 + before) (by omega : 0 < k)
    omega

end

/-! ## The clock -/

theorem toNat_getCurrentTime {tickPerSecond : Nat} (tick : UInt32) :
    (getCurrentTime tickPerSecond tick).toNat = tick.toNat / (1000 / tickPerSecond) := by
  have hsmall : 1000 / tickPerSecond < 2 ^ 32 :=
    Nat.lt_of_le_of_lt (Nat.div_le_self ..) (by decide)
  rw [getCurrentTime, UInt32.toNat_div, UInt32.toNat_ofNat', Nat.mod_eq_of_lt hsmall]

/-- The elapsed time as a number. -/
theorem toNat_elapsedMs {tickPerSecond : Nat} {start : UInt32} {ticks : Nat}
    (hticks : ticks < 2 ^ 32) :
    (elapsedMs tickPerSecond start ticks).toNat =
      (2 ^ 32 - start.toNat / (1000 / tickPerSecond) +
        (start.toNat + ticks) % 2 ^ 32 / (1000 / tickPerSecond)) % 2 ^ 32 := by
  rw [elapsedMs, calculateElapsedTime, UInt32.toNat_sub, toNat_getCurrentTime,
    toNat_getCurrentTime, UInt32.toNat_add, UInt32.toNat_ofNat', Nat.mod_eq_of_lt hticks]

/-- The moments at which the clock of the port has measured milliseconds. -/
theorem measuresMilliseconds_iff {tickPerSecond : Nat} (hrate : tickPerSecond ∣ 1000)
    (start : UInt32) {ticks : Nat} (hticks : tickMilliseconds tickPerSecond ticks < 2 ^ 32) :
    MeasuresMilliseconds tickPerSecond start ticks ↔
      tickPerSecond = 1000 ∨ ticks = 0 ∨
        2 ^ 32 ≤ start.toNat + ticks ∧ 1000 / tickPerSecond ∣ start.toNat ∧
          ticks * (1000 / tickPerSecond + 1) = 2 ^ 32 - 1 := by
  obtain ⟨k, hk⟩ := hrate
  have hpos : 0 < tickPerSecond := by
    by_contra hzero
    obtain rfl : tickPerSecond = 0 := by omega
    omega
  have hquotient : 1000 / tickPerSecond = k := by rw [hk, Nat.mul_div_cancel_left _ hpos]
  have hstart := start.toNat_lt
  unfold tickMilliseconds at hticks
  rw [hquotient] at hticks
  have hkpos : 0 < k := by
    by_contra hzero
    obtain rfl : k = 0 := by omega
    omega
  have hsmall : ticks < 2 ^ 32 := Nat.lt_of_le_of_lt (Nat.le_mul_of_pos_right _ hkpos) hticks
  rw [measuresMilliseconds_iff_eq, toNat_elapsedMs hsmall, tickMilliseconds, hquotient]
  generalize start.toNat = start at hstart
  rcases Nat.lt_or_eq_of_le hkpos with hk1 | rfl
  swap
  · refine iff_of_true ?_ (.inl (by omega))
    rw [Nat.div_one, Nat.div_one]
    omega
  have hother : tickPerSecond ≠ 1000 := by
    rintro rfl
    omega
  rw [or_iff_right hother]
  rcases Nat.eq_zero_or_pos ticks with rfl | htick
  · refine iff_of_true ?_ (.inl rfl)
    have hle : start / k ≤ start := Nat.div_le_self _ _
    rw [Nat.add_zero, Nat.mod_eq_of_lt hstart, Nat.zero_mul, Nat.sub_add_cancel (by omega)]
    exact Nat.mod_self _
  rw [or_iff_right (by omega : ticks ≠ 0)]
  have hdiv : start / k ≤ start := Nat.div_le_self _ _
  by_cases hwrap : 2 ^ 32 ≤ start + ticks
  · rw [and_iff_right hwrap, ← elapsed_wrapped hk1 ⟨tickPerSecond, by rw [hk, Nat.mul_comm]⟩ hstart
      hwrap, show (start + ticks) % 2 ^ 32 = start + ticks - 2 ^ 32 by omega]
    have hle : (start + ticks - 2 ^ 32) / k ≤ start / k := Nat.div_le_div_right (by omega)
    have hmul : 0 < ticks * k := Nat.mul_pos htick hkpos
    rcases Nat.lt_or_eq_of_le hle with hlt | heq
    · rw [Nat.mod_eq_of_lt (by omega)]
    · rw [heq, Nat.sub_add_cancel (by omega), Nat.mod_self]
      exact iff_of_false (by omega) (by omega)
  · refine iff_of_false ?_ fun h => hwrap h.1
    have hshort := @elapsed_le k start ticks hk1 htick
    have hle : start / k ≤ (start + ticks) / k := Nat.div_le_div_right (by omega)
    rw [Nat.mod_eq_of_lt (by omega : start + ticks < 2 ^ 32)]
    omega

/-- With such a clock the wait for a PINGRESP times out after its number of milliseconds. -/
theorem MeasuresMilliseconds.pingresp {tickPerSecond ticks : Nat} {start : UInt32}
    (h : MeasuresMilliseconds tickPerSecond start ticks) (c : Config) {s : Sys}
    (hnow : s.clock s.ticks = getCurrentTime tickPerSecond (start + UInt32.ofNat ticks))
    (hsent : s.pingReqSendTimeMs = getCurrentTime tickPerSecond start)
    (hwaiting : s.waitingForPingResp = true) :
    (handleKeepAlive c s).1 = .keepAliveTimeout ↔
      c.pingrespTimeoutMs < tickMilliseconds tickPerSecond ticks := by
  rw [← (h.2 c.pingrespTimeoutMs).2, elapsedMs, ← hnow, ← hsent]
  unfold handleKeepAlive getTime
  dsimp only
  rw [if_pos hwaiting]
  dsimp only
  split
  · rename_i hlong
    exact iff_of_true rfl hlong
  · rename_i hshort
    exact iff_of_false (by simp) hshort

theorem measuresMilliseconds_iff_sample : MeasuresMilliseconds 1000 4294967290 10 :=
  (measuresMilliseconds_iff (by decide) 4294967290 (by decide)).2 (.inl rfl)

/-- A second at 100 ticks a second is ten milliseconds for the clock. -/
theorem not_measuresMilliseconds :
    tickMilliseconds 100 100 = 1000 ∧ elapsedMs 100 0 100 = 10 ∧ ¬ MeasuresMilliseconds 100 0 100 := by
  refine ⟨rfl, rfl, fun h => ?_⟩
  exact absurd h.1 (by decide)

end FreeMqtt

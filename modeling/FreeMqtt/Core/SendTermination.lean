import FreeMqtt.Core.PartialWrites
import Mathlib.Algebra.Order.BigOperators.Group.Finset

/-!
# Sending without a clock

An application without a clock provides one that stands still, and sets `MQTT_SEND_TIMEOUT_MS` to
zero. `sendBuffer` then gives up after one call of the transport, since it compares the elapsed
time with `>=`. `sendMessageVector` compares with `>`: it never gives up, and returns only when
the transport fails or has accepted everything (`sending_ends_iff`).
-/

namespace FreeMqtt

open AnsweredLoop

/-- The configuration for an application without a clock: no timeout, and a time that never
changes. -/
structure NoClock (c : Config) (s : Sys) : Prop where
  timeout : c.sendTimeoutMs = 0
  clock : ∀ n, s.clock n = s.clock 0

/-- The results are within the contract of the transport: no call accepts more than it is
offered. -/
def VectorContract (c : Config) (s : Sys) (pIoVec : List (List UInt8)) (results : Nat → Int) :
    Prop :=
  let loop := vectorLoop c (getTime s).1 pIoVec.flatten.length
  ∀ n x, loop.head results (.start s pIoVec) n = some x → loop.more x = true →
    results n ≤ x.offered.length

/-- At some point the transport has reported an error, or its results add up to the message. -/
def TransportFinishes (results : Nat → Int) (bytesToSend : Int) : Prop :=
  ∃ n, (∃ i < n, results i < 0) ∨ bytesToSend ≤ ∑ i ∈ Finset.range n, results i

/-! ## One call of the transport -/

theorem answerSend_result {offered : List UInt8} {result : Int} (h : result ≤ offered.length)
    (s : Sys) : (answerSend s offered result).1 = result := by
  unfold answerSend
  split
  · rfl
  · rename_i hneg
    dsimp only
    rw [List.length_take, Nat.min_eq_left (by omega), Int.toNat_of_nonneg (Int.not_lt.1 hneg)]

theorem clock_answerSend (s : Sys) (offered : List UInt8) (result : Int) :
    (answerSend s offered result).2.clock = s.clock := by
  unfold answerSend
  split <;> rfl

theorem clock_afterSend (bytesSentOrError sendResult : Int) (s : Sys) :
    (afterSend bytesSentOrError sendResult s).2.clock = s.clock := by
  unfold afterSend
  split_ifs <;> rfl

theorem afterSend_count (bytesSentOrError sendResult : Int) (s : Sys) :
    (afterSend bytesSentOrError sendResult s).1 =
      if sendResult < 0 then sendResult else bytesSentOrError + sendResult := by
  unfold afterSend
  split_ifs <;> dsimp only <;> omega

/-! ## `sendBuffer` -/

/-- With no timeout `sendBuffer` is done after its first call of the transport. -/
theorem bufferLoop_returns_first {c : Config} (h : c.sendTimeoutMs = 0) (startTime : UInt32)
    (buffer : List UInt8) (results : Nat → Int) (x : BufferSend) :
    ∃ z, (bufferLoop c startTime buffer).Returns results x 0 z := by
  cases hmore : (bufferLoop c startTime buffer).more x with
  | false => exact ⟨x, x, rfl, .inl ⟨hmore, rfl⟩⟩
  | true =>
    refine ⟨((bufferLoop c startTime buffer).body x (results 0)).2, x, rfl, .inr ⟨hmore, ?_⟩⟩
    rw [bufferLoop_body_eq c startTime rfl, h]
    dsimp only
    rw [decide_eq_true (Nat.zero_le _)]

/-! ## `sendMessageVector` -/

section

variable {c : Config} {s : Sys} {pIoVec : List (List UInt8)} {results : Nat → Int}

/-- With a time that never changes the loop never breaks. -/
theorem vectorLoop_body_noClock (h : NoClock c s) {x : VectorSend} (hx : x.context.clock = s.clock)
    (bytesToSend : Nat) {result : Int} (hle : result ≤ x.offered.length) :
    let next := (vectorLoop c (getTime s).1 bytesToSend).body x result
    next.1 = false ∧ next.2.context.clock = s.clock ∧
      next.2.bytesSentOrError = if result < 0 then result else x.bytesSentOrError + result := by
  have hclock : ∀ b r, (afterSend b r (answerSend x.context x.offered result).2).2.clock = s.clock :=
    fun b r => (clock_afterSend ..).trans ((clock_answerSend ..).trans hx)
  have htime : ∀ b r, ¬ c.sendTimeoutMs < (calculateElapsedTime
      (getTime (afterSend b r (answerSend x.context x.offered result).2).2).1
      (getTime s).1).toNat := by
    intro b r
    unfold getTime calculateElapsedTime
    rw [hclock, h.clock, h.clock s.ticks, h.timeout, UInt32.sub_self]
    exact Nat.lt_irrefl 0
  unfold vectorLoop
  dsimp only
  rw [if_neg (htime x.bytesSentOrError (answerSend x.context x.offered result).1)]
  refine ⟨rfl, hclock .., ?_⟩
  rw [answerSend_result hle]
  exact afterSend_count ..

/-- At every loop test `bytesSentOrError` is the sum of the results, unless one of them was an
error. -/
theorem vectorLoop_head_noClock (h : NoClock c s) (hcontract : VectorContract c s pIoVec results)
    {n : Nat} {x : VectorSend}
    (hx : (vectorLoop c (getTime s).1 pIoVec.flatten.length).head results (.start s pIoVec) n =
      some x) :
    x.context.clock = s.clock ∧
      ((∃ i < n, results i < 0) ∨ x.bytesSentOrError = ∑ i ∈ Finset.range n, results i) := by
  induction n generalizing x with
  | zero =>
    cases hx
    exact ⟨rfl, .inr rfl⟩
  | succ n ih =>
    obtain ⟨y, hy, hmore, hbody⟩ := Loop.head_succ.1 hx
    obtain ⟨hclock, hcount⟩ := ih hy
    obtain ⟨-, hclock', hcount'⟩ := vectorLoop_body_noClock h hclock pIoVec.flatten.length
      (hcontract n y hy hmore)
    rw [hbody] at hclock' hcount'
    refine ⟨hclock', ?_⟩
    rcases hcount with ⟨i, hi, hneg⟩ | hsum
    · exact .inl ⟨i, Nat.lt_succ_of_lt hi, hneg⟩
    · by_cases hneg : results n < 0
      · exact .inl ⟨n, Nat.lt_succ_self n, hneg⟩
      · right
        rw [Finset.sum_range_succ, ← hsum]
        exact hcount'.trans (if_neg hneg)

/-- An error of the transport ends the loop. -/
theorem vectorLoop_ends_of_error (h : NoClock c s) (hcontract : VectorContract c s pIoVec results)
    {i : Nat} (hneg : results i < 0) :
    (vectorLoop c (getTime s).1 pIoVec.flatten.length).Ends results (.start s pIoVec) := by
  by_contra hends
  obtain ⟨z, hz⟩ := Loop.not_ends_iff.1 hends (i + 2)
  obtain ⟨y, hy, hmore, -⟩ := Loop.head_succ.1 hz
  obtain ⟨x, hx, hmore', hbody⟩ := Loop.head_succ.1 hy
  obtain ⟨-, -, hcount⟩ := vectorLoop_body_noClock h (vectorLoop_head_noClock h hcontract hx).1
    pIoVec.flatten.length (hcontract i x hx hmore')
  rw [hbody, if_pos hneg] at hcount
  have hge := (of_decide_eq_true hmore).2
  dsimp only at hcount
  omega

/-- With a time that never changes `sendMessageVector` returns when the transport is done, and
only then. -/
theorem vectorLoop_ends_iff (h : NoClock c s) (hcontract : VectorContract c s pIoVec results) :
    (vectorLoop c (getTime s).1 pIoVec.flatten.length).Ends results (.start s pIoVec) ↔
      TransportFinishes results (int32Cast pIoVec.flatten.length) := by
  constructor
  · rintro ⟨n, z, y, hy, ⟨hmore, -⟩ | ⟨hmore, hbody⟩⟩
    · obtain ⟨-, hneg | hsum⟩ := vectorLoop_head_noClock h hcontract hy
      · exact ⟨n, .inl hneg⟩
      · have hstop := of_decide_eq_false hmore
        by_cases hge : 0 ≤ y.bytesSentOrError
        · exact ⟨n, .inr (by omega)⟩
        · refine ⟨n, .inl ?_⟩
          by_contra hnone
          have hnonneg : 0 ≤ ∑ i ∈ Finset.range n, results i :=
            Finset.sum_nonneg fun i hi =>
              Int.not_lt.1 fun hneg => hnone ⟨i, Finset.mem_range.1 hi, hneg⟩
          omega
    · obtain ⟨hfalse, -⟩ := vectorLoop_body_noClock h (vectorLoop_head_noClock h hcontract hy).1
        pIoVec.flatten.length (hcontract n y hy hmore)
      rw [hbody] at hfalse
      exact absurd hfalse (by simp)
  · rintro ⟨n, ⟨i, -, hneg⟩ | hsum⟩
    · exact vectorLoop_ends_of_error h hcontract hneg
    · by_contra hends
      obtain ⟨z, hz⟩ := Loop.not_ends_iff.1 hends (n + 1)
      obtain ⟨y, hy, hmore, -⟩ := Loop.head_succ.1 hz
      obtain ⟨-, ⟨i, -, hneg⟩ | hcount⟩ := vectorLoop_head_noClock h hcontract hy
      · exact hends (vectorLoop_ends_of_error h hcontract hneg)
      · have hlt := (of_decide_eq_true hmore).1
        omega

end

/-! ## Both loops -/

/-- Without a clock `sendBuffer` always returns, and `sendMessageVector` exactly when the transport
fails at some point or accepts the whole message: not when it returns zero from some call on. -/
theorem sending_ends_iff {c : Config} {s : Sys} (h : NoClock c s) (buffer : List UInt8)
    {pIoVec : List (List UInt8)} {results : Nat → Int}
    (hcontract : VectorContract c s pIoVec results) :
    (bufferLoop c (getTime s).1 buffer).Ends results (.start s) ∧
        (vectorLoop c (getTime s).1 pIoVec.flatten.length).Ends results (.start s pIoVec) ↔
      TransportFinishes results (int32Cast pIoVec.flatten.length) := by
  rw [← vectorLoop_ends_iff h hcontract]
  exact and_iff_right ⟨0, bufferLoop_returns_first h.timeout _ buffer results _⟩

/-- No timeout. -/
def Config.noClock : Config := { Config.default with sendTimeoutMs := 0 }

theorem noClock_initialized (bytes : List UInt8) (bufferSize count : Nat) :
    NoClock .noClock (Sys.initialized (.still bytes) bufferSize count) :=
  ⟨rfl, fun _ => rfl⟩

/-- The vectors that are left after some results of the transport. -/
def unsentAfter (pIoVec : List (List UInt8)) (results : Nat → Int) : Nat → List (List UInt8)
  | 0 => pIoVec
  | n + 1 => advanceVectors (results n) (unsentAfter pIoVec results n)

theorem vectorLoop_head_unsent {c : Config} {startTime : UInt32} {bytesToSend : Nat} {s : Sys}
    {pIoVec : List (List UInt8)} {results : Nat → Int} {n : Nat} {x : VectorSend}
    (hcontract : ∀ m < n, ∀ y, (vectorLoop c startTime bytesToSend).head results (.start s pIoVec) m =
      some y → results m ≤ y.offered.length)
    (hx : (vectorLoop c startTime bytesToSend).head results (.start s pIoVec) n = some x) :
    x.Counted ∧ x.unsent = unsentAfter pIoVec results n := by
  induction n generalizing x with
  | zero =>
    cases hx
    have hcounted : (VectorSend.start s pIoVec).Counted := Nat.zero_add _
    exact ⟨hcounted, hcounted.unsent_eq⟩
  | succ n ih =>
    obtain ⟨y, hy, -, hbody⟩ := Loop.head_succ.1 hx
    obtain ⟨hcounted, hunsent⟩ := ih (fun m hm => hcontract m (Nat.lt_succ_of_lt hm)) hy
    have hnext := vectorLoop_unsent hcounted hbody
    rw [answerSend_result (hcontract n (Nat.lt_succ_self n) y hy), hunsent] at hnext
    refine ⟨?_, hnext⟩
    unfold vectorLoop at hbody
    dsimp only at hbody
    split at hbody
    · exact absurd (congrArg Prod.fst hbody) (by simp)
    · obtain ⟨-, rfl⟩ := Prod.ext_iff.1 hbody
      exact (VectorSend.Counted.advance hcounted _).1

/-- A transport that returns zero twice and then accepts two vectors, one in each call. -/
def slowResults : Nat → Int
  | 2 => 2
  | 3 => 1
  | _ => 0

/-- `sending_ends_iff` on this transport. -/
theorem sending_ends_iff_slow :
    let s := Sys.initialized (.still []) 16 1
    (bufferLoop .noClock 0 [1, 2, 3]).Ends slowResults (.start s) ∧
      (vectorLoop .noClock 0 3).Ends slowResults (.start s [[1, 2], [3]]) := by
  intro s
  have hoffered : ∀ {n x}, (∀ m < n, ∀ y,
      (vectorLoop .noClock 0 3).head slowResults (.start s [[1, 2], [3]]) m = some y →
        slowResults m ≤ y.offered.length) →
      (vectorLoop .noClock 0 3).head slowResults (.start s [[1, 2], [3]]) n = some x →
      ((unsentAfter [[1, 2], [3]] slowResults n).headD []).length ≤ x.offered.length := by
    intro n x hbefore hx
    obtain ⟨hcounted, hunsent⟩ := vectorLoop_head_unsent hbefore hx
    rw [hcounted.offered_eq, hunsent]
    generalize unsentAfter [[1, 2], [3]] slowResults n = unsent
    split
    · cases unsent <;> simp
    · exact Nat.le_refl _
  have hcontract : ∀ n x, (vectorLoop .noClock 0 3).head slowResults (.start s [[1, 2], [3]]) n =
      some x → slowResults n ≤ x.offered.length := by
    intro n
    induction n using Nat.strongRecOn with
    | ind n ih =>
      intro x hx
      have hlength := hoffered ih hx
      match n with
      | 0 => exact Int.natCast_nonneg _
      | 1 => exact Int.natCast_nonneg _
      | 2 => exact Int.ofNat_le.2 hlength
      | 3 => exact Int.ofNat_le.2 hlength
      | _ + 4 => exact Int.natCast_nonneg _
  have hfinishes : TransportFinishes slowResults 3 := ⟨4, .inr (by decide)⟩
  exact (@sending_ends_iff .noClock s (noClock_initialized [] 16 1) [1, 2, 3] [[1, 2], [3]]
    slowResults fun n x hx _ => hcontract n x hx).2 hfinishes

/-- A transport that never accepts a byte keeps `sendMessageVector` in its loop. -/
theorem not_sending_ends :
    NoClock .noClock (Sys.initialized (.still []) 16 1) ∧
      VectorContract .noClock (Sys.initialized (.still []) 16 1) [[1]] (fun _ => 0) ∧
      ¬ (vectorLoop .noClock 0 1).Ends (fun _ => 0)
        (.start (Sys.initialized (.still []) 16 1) [[1]]) := by
  have hcontract : VectorContract .noClock (Sys.initialized (.still []) 16 1) [[1]] (fun _ => 0) :=
    fun n x _ _ => Int.natCast_nonneg _
  refine ⟨noClock_initialized [] 16 1, hcontract, fun hends => ?_⟩
  obtain ⟨n, ⟨i, -, hneg⟩ | hsum⟩ :=
    (vectorLoop_ends_iff (noClock_initialized [] 16 1) hcontract).1 hends
  · exact absurd hneg (Int.lt_irrefl 0)
  · rw [Finset.sum_const_zero] at hsum
    exact absurd hsum (by decide)

end FreeMqtt

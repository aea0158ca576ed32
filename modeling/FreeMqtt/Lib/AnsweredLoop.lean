import Mathlib.Data.Nat.Init
import Mathlib.Tactic.Common

/-!
# Loops that ask

A loop whose body asks its environment once an iteration, and may break. The answers are a
stream, so a run may be infinite: `head` is the state at a loop test, as long as the loop gets
there, `Returns` says how it ends, and `Ends` that it does.
-/

namespace AnsweredLoop

variable {α σ : Type*}

/-- The test of a loop, and its body: whether it breaks, and the state. -/
structure Loop (α σ : Type*) where
  more : σ → Bool
  body : σ → α → Bool × σ

variable (l : Loop α σ)

/-- One iteration from a loop test to the next one, `none` when the loop ends before. -/
def Loop.next (answer : α) (x : σ) : Option σ :=
  if l.more x = true ∧ (l.body x answer).1 = false then some (l.body x answer).2 else none

/-- The state at the loop test behind `n` iterations, `none` when the loop has ended before. -/
def Loop.head (answers : Nat → α) (x : σ) : Nat → Option σ
  | 0 => some x
  | n + 1 => (head answers x n).bind (l.next (answers n))

/-- The loop ends in `z` after `n` full iterations, by its test or by a break. -/
def Loop.Returns (answers : Nat → α) (x : σ) (n : Nat) (z : σ) : Prop :=
  ∃ y, l.head answers x n = some y ∧
    (l.more y = false ∧ z = y ∨ l.more y = true ∧ l.body y (answers n) = (true, z))

/-- The loop ends. -/
def Loop.Ends (answers : Nat → α) (x : σ) : Prop := ∃ n z, l.Returns answers x n z

variable {l} {answers : Nat → α} {x y z : σ} {n : Nat}

/-! ## Iterations -/

theorem Loop.next_eq_some {answer : α} :
    l.next answer y = some z ↔ l.more y = true ∧ l.body y answer = (false, z) := by
  unfold Loop.next
  rw [Prod.ext_iff]
  split
  · rename_i h
    simp [h]
  · rename_i h
    refine ⟨fun hn => absurd hn (by simp), fun hn => absurd ⟨hn.1, hn.2.1⟩ h⟩

theorem Loop.head_succ :
    l.head answers x (n + 1) = some z ↔
      ∃ y, l.head answers x n = some y ∧ l.more y = true ∧ l.body y (answers n) = (false, z) := by
  rw [Loop.head, Option.bind_eq_some_iff]
  simp only [Loop.next_eq_some]

/-- The first iteration split off. -/
theorem Loop.head_succ' :
    l.head answers x (n + 1) =
      (l.next (answers 0) x).bind fun y => l.head (fun i => answers (i + 1)) y n := by
  induction n with
  | zero => cases h : l.next (answers 0) x <;> simp [Loop.head, h]
  | succ n ih =>
    rw [Loop.head, ih, Option.bind_assoc]
    rfl

/-- A loop that is at no test after `n` iterations has ended by then. -/
theorem Loop.ends_of_head_eq_none (h : l.head answers x n = none) : l.Ends answers x := by
  induction n with
  | zero => exact absurd h (by simp [Loop.head])
  | succ n ih =>
    cases hy : l.head answers x n with
    | none => exact ih hy
    | some y =>
      rw [Loop.head, hy, Option.bind_some] at h
      cases hmore : l.more y with
      | false => exact ⟨n, y, y, hy, .inl ⟨hmore, rfl⟩⟩
      | true =>
        refine ⟨n, (l.body y (answers n)).2, y, hy, .inr ⟨hmore, Prod.ext_iff.2 ⟨?_, rfl⟩⟩⟩
        by_contra hbreak
        rw [Bool.not_eq_true] at hbreak
        simp [Loop.next, hmore, hbreak] at h

/-- A loop that has ended after `n` full iterations is at no later test. -/
theorem Loop.Returns.head_eq_none (h : l.Returns answers x n z) {m : Nat} (hm : n < m) :
    l.head answers x m = none := by
  induction m, hm using Nat.le_induction with
  | base =>
    obtain ⟨y, hy, ⟨hmore, -⟩ | ⟨hmore, hbody⟩⟩ := h
    · simp [Loop.head, hy, Loop.next, hmore]
    · simp [Loop.head, hy, Loop.next, hmore, hbody]
  | succ m _ ih => rw [Loop.head, ih, Option.bind_none]

/-- A loop that goes on after its first iteration ends as it does from there. -/
theorem Loop.Returns.of_next (hmore : l.more x = true) (hbody : l.body x (answers 0) = (false, y))
    (h : l.Returns (fun i => answers (i + 1)) y n z) : l.Returns answers x (n + 1) z := by
  obtain ⟨u, hu, hend⟩ := h
  refine ⟨u, ?_, hend⟩
  rw [Loop.head_succ', Loop.next_eq_some.2 ⟨hmore, hbody⟩]
  exact hu

/-- A loop does not end when it gets to every test. -/
theorem Loop.not_ends_iff : ¬ l.Ends answers x ↔ ∀ n, ∃ y, l.head answers x n = some y := by
  constructor
  · intro h n
    cases hy : l.head answers x n with
    | none => exact absurd (Loop.ends_of_head_eq_none hy) h
    | some y => exact ⟨y, rfl⟩
  · rintro h ⟨n, z, hz⟩
    obtain ⟨y, hy⟩ := h (n + 1)
    rw [hz.head_eq_none (Nat.lt_succ_self n)] at hy
    exact absurd hy (by simp)

/-! ## Invariants -/

/-- What holds at first and is preserved by an iteration holds at every loop test. -/
theorem Loop.head_invariant (Inv : Nat → σ → Prop) (h : Inv 0 x)
    (hstep : ∀ n y z, Inv n y → l.more y = true → l.body y (answers n) = (false, z) →
      Inv (n + 1) z) :
    ∀ {n y}, l.head answers x n = some y → Inv n y := by
  intro n
  induction n with
  | zero =>
    intro y hy
    cases hy
    exact h
  | succ n ih =>
    intro z hz
    obtain ⟨y, hy, hmore, hbody⟩ := Loop.head_succ.1 hz
    exact hstep n y z (ih hy) hmore hbody

end AnsweredLoop

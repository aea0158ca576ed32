import Mathlib.Algebra.Group.Int.Defs
import Mathlib.Algebra.Group.Nat.Defs
import Mathlib.Data.List.Basic

/-!
# Audited computations

A computation that reports events on its way: the bytes that it reads, the exact results of its
arithmetic, the conditions that it asserts. `value` is what it computes, and `All P` says that
every event reported satisfies `P`. `All` distributes over the steps of a computation, each of
which is judged at the value of the one before. `Agrees` compares two properties of the events,
and carries an invariant of the values through the steps.

The last section is arithmetic of an unsigned type that reports its exact results.
-/

universe u

/-- A value, with the events reported on the way to it. -/
structure Audit (ε α : Type*) where
  value : α
  events : List ε

namespace Audit

variable {ε : Type*} {α β : Type u}

instance : Monad (Audit ε) where
  pure a := ⟨a, []⟩
  bind x f := ⟨(f x.value).value, x.events ++ (f x.value).events⟩

/-- One event. -/
def report (e : ε) : Audit ε Unit := ⟨(), [e]⟩

/-- Every event satisfies `P`. -/
def All (P : ε → Prop) (x : Audit ε α) : Prop := ∀ e ∈ x.events, P e

/-- `&&`, which evaluates the second operand behind a true one. -/
def and (x y : Audit ε Bool) : Audit ε Bool := do
  if ← x then y else pure false

/-- `||`, which evaluates the second operand behind a false one. -/
def or (x y : Audit ε Bool) : Audit ε Bool := do
  if ← x then pure true else y

/-! ## Values -/

@[simp] theorem value_pure (a : α) : (pure a : Audit ε α).value = a := rfl

@[simp] theorem value_bind (x : Audit ε α) (f : α → Audit ε β) :
    (x >>= f).value = (f x.value).value := rfl

@[simp] theorem value_ite (p : Prop) [Decidable p] (x y : Audit ε α) :
    (if p then x else y).value = if p then x.value else y.value := by
  split <;> rfl

@[simp] theorem value_and (x y : Audit ε Bool) : (x.and y).value = (x.value && y.value) := by
  unfold Audit.and
  cases hx : x.value <;> simp [hx]

@[simp] theorem value_or (x y : Audit ε Bool) : (x.or y).value = (x.value || y.value) := by
  unfold Audit.or
  cases hx : x.value <;> simp [hx]

/-! ## Events -/

variable {P : ε → Prop}

@[simp] theorem all_pure (a : α) : All P (pure a : Audit ε α) := fun _ he => absurd he List.not_mem_nil

@[simp] theorem all_report {e : ε} : All P (report e) ↔ P e := by
  simp [All, report]

@[simp] theorem all_bind {x : Audit ε α} {f : α → Audit ε β} :
    All P (x >>= f) ↔ All P x ∧ All P (f x.value) := List.forall_mem_append

theorem all_ite {p : Prop} [Decidable p] {x y : Audit ε α} (hx : p → All P x)
    (hy : ¬ p → All P y) : All P (if p then x else y) := by
  split
  · rename_i h
    exact hx h
  · rename_i h
    exact hy h

theorem all_and {x y : Audit ε Bool} (hx : All P x) (hy : All P y) : All P (x.and y) :=
  all_bind.2 ⟨hx, all_ite (fun _ => hy) fun _ => all_pure _⟩

theorem all_or {x y : Audit ε Bool} (hx : All P x) (hy : All P y) : All P (x.or y) :=
  all_bind.2 ⟨hx, all_ite (fun _ => all_pure _) fun _ => hy⟩

/-! ## Two properties of the events -/

/-- A computation of `a`, which satisfies `I`: its events all satisfy `P` if and only if they all
satisfy `Q`. -/
structure Agrees (P Q : ε → Prop) (I : α → Prop) (x : Audit ε α) (a : α) : Prop where
  value_eq : x.value = a
  post : I a
  all_iff : All P x ↔ All Q x

namespace Agrees

variable {Q : ε → Prop} {I : α → Prop} {J : β → Prop}

theorem pure {a : α} (h : I a) : Agrees P Q I (Pure.pure a) a :=
  ⟨rfl, h, iff_of_true (all_pure a) (all_pure a)⟩

/-- An event that satisfies both. -/
theorem report {e : ε} (hP : P e) (hQ : Q e) : Agrees P Q (fun _ => True) (Audit.report e) () :=
  ⟨rfl, trivial, iff_of_true (all_report.2 hP) (all_report.2 hQ)⟩

theorem bind {x : Audit ε α} {a : α} {f : α → Audit ε β} {b : β} (hx : Agrees P Q I x a)
    (hf : I a → Agrees P Q J (f a) b) : Agrees P Q J (x >>= f) b := by
  obtain ⟨rfl, hpost, hiff⟩ := hx
  obtain ⟨hvalue, hpost', hiff'⟩ := hf hpost
  exact ⟨hvalue, hpost', by rw [all_bind, all_bind, hiff, hiff']⟩

theorem ite {p : Prop} [Decidable p] {x y : Audit ε α} {a b : α} (hx : p → Agrees P Q I x a)
    (hy : ¬ p → Agrees P Q I y b) :
    Agrees P Q I (if p then x else y) (if p then a else b) := by
  split
  · rename_i h
    exact hx h
  · rename_i h
    exact hy h

/-- A loop over a list whose body keeps `I`. -/
theorem foldlM {γ : Type*} {f : α → γ → Audit ε α} {g : α → γ → α}
    (hf : ∀ a c, I a → Agrees P Q I (f a c) (g a c)) (cs : List γ) {a : α} (ha : I a) :
    Agrees P Q I (cs.foldlM f a) (cs.foldl g a) := by
  induction cs generalizing a with
  | nil => exact .pure ha
  | cons c cs ih => exact (hf a c ha).bind fun hnext => ih hnext

end Agrees

/-! ## Unsigned arithmetic -/

/-- The sum modulo `2 ^ width`. -/
def addWord (event : Int → ε) (width a b : Nat) : Audit ε Nat :=
  ⟨(a + b) % 2 ^ width, [event (a + b)]⟩

/-- The difference modulo `2 ^ width`. -/
def subWord (event : Int → ε) (width a b : Nat) : Audit ε Nat :=
  ⟨(a + 2 ^ width - b) % 2 ^ width, [event (a - b)]⟩

/-- An exact result that needs no wrapping. -/
def Fits (width : Nat) (result : Int) : Prop := 0 ≤ result ∧ result < 2 ^ width

variable {event : Int → ε} {width a b : Nat}

theorem value_addWord (h : a + b < 2 ^ width) : (addWord event width a b).value = a + b :=
  Nat.mod_eq_of_lt h

theorem value_subWord (hle : b ≤ a) (ha : a < 2 ^ width) :
    (subWord event width a b).value = a - b := by
  unfold subWord
  rw [Nat.sub_add_comm hle, Nat.add_mod_right, Nat.mod_eq_of_lt (by omega)]

@[simp] theorem all_addWord : All P (addWord event width a b) ↔ P (event (a + b)) := by
  simp [All, addWord]

@[simp] theorem all_subWord : All P (subWord event width a b) ↔ P (event (a - b)) := by
  simp [All, subWord]

theorem fits_add (h : a + b < 2 ^ width) : Fits width (a + b) := by
  have hcast : ((2 ^ width : Nat) : Int) = 2 ^ width := by simp
  unfold Fits
  omega

theorem fits_sub (hle : b ≤ a) (ha : a < 2 ^ width) : Fits width (a - b) := by
  have hcast : ((2 ^ width : Nat) : Int) = 2 ^ width := by simp
  unfold Fits
  omega

end Audit

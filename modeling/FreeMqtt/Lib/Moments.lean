import Mathlib.Data.List.Basic
import Mathlib.Data.List.Induction

/-!
# Moments of a run

A deterministic machine performs a list of operations. `moments` pairs each operation with the
state in which it starts, so that a property of a run can speak of the states in between.
Invariants and preorders are carried from the single operations to the whole run.
-/

namespace Moments

variable {σ ω : Type*}

/-- An operation and the state in which it starts. -/
structure Moment (σ ω : Type*) where
  before : σ
  operation : ω

variable (run : σ → ω → σ)

/-- The state in which the operation of a moment ends. -/
def Moment.after (m : Moment σ ω) : σ := run m.before m.operation

/-- The moments of a run that starts in `s`. -/
def moments (s : σ) : List ω → List (Moment σ ω)
  | [] => []
  | operation :: operations => ⟨s, operation⟩ :: moments (run s operation) operations

variable {run}

@[simp] theorem moments_nil (s : σ) : moments run s [] = [] := rfl

@[simp] theorem moments_cons (s : σ) (operation : ω) (operations : List ω) :
    moments run s (operation :: operations) =
      ⟨s, operation⟩ :: moments run (run s operation) operations := rfl

theorem moments_append (s : σ) (operations more : List ω) :
    moments run s (operations ++ more) =
      moments run s operations ++ moments run (operations.foldl run s) more := by
  induction operations generalizing s with
  | nil => rfl
  | cons operation operations ih => rw [List.cons_append, moments_cons, ih]; rfl

theorem map_operation_moments (s : σ) (operations : List ω) :
    (moments run s operations).map Moment.operation = operations := by
  induction operations generalizing s with
  | nil => rfl
  | cons operation operations ih => rw [moments_cons, List.map_cons, ih]

theorem operation_mem {s : σ} {operations : List ω} {m : Moment σ ω}
    (h : m ∈ moments run s operations) : m.operation ∈ operations := by
  have hmem := List.mem_map_of_mem (f := Moment.operation) h
  rwa [map_operation_moments] at hmem

/-- A moment splits the run that it belongs to. -/
theorem exists_split {s : σ} {operations : List ω} {m : Moment σ ω}
    (h : m ∈ moments run s operations) :
    ∃ front rest, operations = front ++ m.operation :: rest ∧ m.before = front.foldl run s := by
  induction operations generalizing s with
  | nil => exact absurd h List.not_mem_nil
  | cons operation operations ih =>
    rcases List.mem_cons.1 h with rfl | h
    · exact ⟨[], operations, rfl, rfl⟩
    · obtain ⟨front, rest, rfl, hbefore⟩ := ih h
      exact ⟨operation :: front, rest, rfl, hbefore⟩

/-- The parts of a run are runs. -/
theorem exists_of_moments_eq_append {s : σ} {operations : List ω} {front rest : List (Moment σ ω)}
    (h : moments run s operations = front ++ rest) :
    ∃ first second, operations = first ++ second ∧ front = moments run s first ∧
      rest = moments run (first.foldl run s) second := by
  induction front generalizing s operations with
  | nil => exact ⟨[], operations, rfl, rfl, h.symm⟩
  | cons m front ih =>
    cases operations with
    | nil => exact nomatch h
    | cons operation operations =>
      obtain ⟨rfl, htail⟩ := List.cons.inj h
      obtain ⟨first, second, rfl, rfl, rfl⟩ := ih htail
      exact ⟨operation :: first, second, rfl, rfl, rfl⟩

/-- What holds at the start of a moment if every operation keeps it. -/
theorem invariant_moments {p : σ → Prop} {s : σ} {operations : List ω} (hs : p s)
    (h : ∀ m ∈ moments run s operations, p m.before → p (m.after run)) :
    (∀ m ∈ moments run s operations, p m.before) ∧ p (operations.foldl run s) := by
  induction operations generalizing s with
  | nil => exact ⟨fun m hm => absurd hm List.not_mem_nil, hs⟩
  | cons operation operations ih =>
    rw [moments_cons] at h ⊢
    have hnext : p (run s operation) := h ⟨s, operation⟩ List.mem_cons_self hs
    obtain ⟨hbefore, hend⟩ := ih hnext fun m hm => h m (List.mem_cons_of_mem _ hm)
    refine ⟨fun m hm => ?_, hend⟩
    rcases List.mem_cons.1 hm with rfl | hm
    · exact hs
    · exact hbefore m hm

/-- An invariant that also speaks of what the operations so far left in a trace. -/
theorem trace_invariant {ε : Type*} (trace : Moment σ ω → List ε) {p : σ → List ε → Prop} {s : σ}
    {operations : List ω} {before : List ε} (hs : p s before)
    (h : ∀ m ∈ moments run s operations, ∀ before, p m.before before →
      p (m.after run) (before ++ trace m)) :
    p (operations.foldl run s) (before ++ (moments run s operations).flatMap trace) := by
  induction operations generalizing s before with
  | nil =>
    rw [moments_nil, List.flatMap_nil, List.append_nil]
    exact hs
  | cons operation operations ih =>
    rw [moments_cons] at h ⊢
    rw [List.flatMap_cons, ← List.append_assoc]
    exact ih (h ⟨s, operation⟩ List.mem_cons_self before hs) fun m hm =>
      h m (List.mem_cons_of_mem _ hm)

/-- A preorder along every operation is one along the run. -/
theorem foldl_rel {r : σ → σ → Prop} (hrefl : ∀ s, r s s)
    (htrans : ∀ {s s' s''}, r s s' → r s' s'' → r s s'') {s : σ} {operations : List ω}
    (h : ∀ m ∈ moments run s operations, r m.before (m.after run)) :
    r s (operations.foldl run s) :=
  (invariant_moments (p := r s) (hrefl s) fun m hm hbefore => htrans hbefore (h m hm)).2

/-- A cell of the state that is not as it was at the start was changed by some moment, and by none
after it. -/
theorem exists_last_change {α : Type*} (cell : σ → α) {s : σ} {operations : List ω}
    (h : cell (operations.foldl run s) ≠ cell s) :
    ∃ front m rest, moments run s operations = front ++ m :: rest ∧
      cell (m.after run) ≠ cell m.before ∧ cell (m.after run) = cell (operations.foldl run s) ∧
      ∀ m' ∈ rest, cell (m'.after run) = cell m'.before := by
  induction operations using List.reverseRecOn with
  | nil => exact absurd rfl h
  | append_singleton operations operation ih =>
    rw [List.foldl_concat] at h ⊢
    rw [moments_append, moments_cons, moments_nil]
    by_cases hlast : cell (run (operations.foldl run s) operation) = cell (operations.foldl run s)
    · obtain ⟨front, m, rest, heq, hchange, hend, hrest⟩ := ih (hlast ▸ h)
      refine ⟨front, m, rest ++ [⟨operations.foldl run s, operation⟩], ?_, hchange,
        hend.trans hlast.symm, ?_⟩
      · rw [heq, List.append_assoc, List.cons_append]
      · intro m' hm'
        rcases List.mem_append.1 hm' with hm' | hm'
        · exact hrest m' hm'
        · rw [List.mem_singleton.1 hm']
          exact hlast
    · exact ⟨_, _, [], rfl, hlast, rfl, fun m' hm' => absurd hm' List.not_mem_nil⟩

/-! ## Admitted operations -/

section Admitted

variable {admits : σ → ω → Prop} {s : σ} {operation : ω} {operations more : List ω}

variable (run admits) in
/-- Every operation is admitted in the state in which it starts. -/
def Admitted (s : σ) (operations : List ω) : Prop :=
  ∀ m ∈ moments run s operations, admits m.before m.operation

theorem admitted_cons : Admitted run admits s (operation :: operations) ↔
    admits s operation ∧ Admitted run admits (run s operation) operations :=
  List.forall_mem_cons

theorem admitted_append : Admitted run admits s (operations ++ more) ↔
    Admitted run admits s operations ∧ Admitted run admits (operations.foldl run s) more := by
  unfold Admitted
  rw [moments_append]
  exact List.forall_mem_append

/-- What every admitted operation keeps. -/
theorem Admitted.keeps {p : σ → Prop} (h : Admitted run admits s operations) (hs : p s)
    (hstep : ∀ s, ∀ operation ∈ operations, admits s operation → p s → p (run s operation)) :
    p (operations.foldl run s) :=
  (invariant_moments hs fun m hm => hstep m.before m.operation (operation_mem hm) (h m hm)).2

end Admitted

/-! ## Histories -/

/-- Every element of a list has a property that may speak of those before it. -/
def EachAfter {α : Type*} (p : List α → α → Prop) : (earlier : List α) → List α → Prop
  | _, [] => True
  | earlier, x :: l => p earlier x ∧ EachAfter p (earlier ++ [x]) l

section EachAfter

variable {α : Type*} {p : List α → α → Prop} {earlier l l' : List α}

theorem EachAfter.of_forall (h : ∀ earlier, ∀ x ∈ l, p earlier x) (earlier : List α) :
    EachAfter p earlier l := by
  induction l generalizing earlier with
  | nil => trivial
  | cons x l ih =>
    exact ⟨h earlier x List.mem_cons_self, ih (fun e y hy => h e y (List.mem_cons_of_mem x hy)) _⟩

theorem eachAfter_append :
    EachAfter p earlier (l ++ l') ↔ EachAfter p earlier l ∧ EachAfter p (earlier ++ l) l' := by
  induction l generalizing earlier with
  | nil => simp [EachAfter]
  | cons x l ih =>
    rw [List.cons_append, EachAfter, EachAfter, ih, and_assoc, List.append_assoc,
      List.singleton_append]

theorem EachAfter.split {x : α} (h : EachAfter p earlier (l ++ x :: l')) : p (earlier ++ l) x :=
  (eachAfter_append.1 h).2.1

end EachAfter

end Moments

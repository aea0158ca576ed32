import Mathlib.Data.List.Basic
import Mathlib.Data.List.Induction
import Mathlib.Data.Set.Insert

/-!
# Deliveries once each

Traces of a receiver that holds the keys of messages it has delivered until their exchange
is completed. In a trace, `Since` says that a delivery came after the last completion,
`Separated` that between any two deliveries of a key the exchange was completed, and
`Guarded` that an acknowledgement only follows a delivery of its exchange. A receiver that
delivers a key only when it does not hold it keeps all three (`Run.separated`,
`Run.guarded`).
-/

namespace Delivery

/-! ## Traces -/

section Traces

variable {α : Type*} (set reset : α → Prop)

/-- `set` occurred, and no `reset` after it. -/
def Since (l : List α) : Prop := ∃ a x b, l = a ++ x :: b ∧ set x ∧ ∀ e ∈ b, ¬ reset e

/-- Between any two occurrences of `set` there is a `reset`. -/
def Separated (l : List α) : Prop :=
  ∀ a x b y d, l = a ++ x :: (b ++ y :: d) → set x → set y → ∃ e ∈ b, reset e

/-- `guarded` occurs only when `set` occurred, and no `reset` after it. -/
def Guarded (guarded : α → Prop) (l : List α) : Prop :=
  ∀ a x b, l = a ++ x :: b → guarded x → Since set reset a

variable {set reset}

/-- A trace with one more event, split at an event. -/
theorem concat_eq_append_cons {l a b : List α} {e x : α} (h : l ++ [e] = a ++ x :: b) :
    (l = a ∧ e = x ∧ b = []) ∨ ∃ b', b = b' ++ [e] ∧ l = a ++ x :: b' := by
  rcases List.eq_nil_or_concat' b with rfl | ⟨b', y, rfl⟩
  · obtain ⟨hl, hlast⟩ := List.append_inj' h rfl
    exact .inl ⟨hl, List.singleton_inj.1 hlast, rfl⟩
  · rw [← List.cons_append, ← List.append_assoc] at h
    obtain ⟨hl, hlast⟩ := List.append_inj' h rfl
    exact .inr ⟨b', by rw [List.singleton_inj.1 hlast], hl⟩

theorem not_since_nil : ¬ Since set reset [] := by
  rintro ⟨a, x, b, h, -⟩
  exact absurd h (by simp)

theorem since_concat {l : List α} {e : α} :
    Since set reset (l ++ [e]) ↔ set e ∨ ¬ reset e ∧ Since set reset l := by
  constructor
  · rintro ⟨a, x, b, heq, hx, hb⟩
    rcases concat_eq_append_cons heq with ⟨-, rfl, -⟩ | ⟨b', rfl, rfl⟩
    · exact .inl hx
    · exact .inr ⟨hb e (by simp), a, x, b', rfl, hx, fun e he => hb e (by simp [he])⟩
  · rintro (he | ⟨hreset, a, x, b, rfl, hx, hb⟩)
    · exact ⟨l, e, [], rfl, he, by simp⟩
    · refine ⟨a, x, b ++ [e], by simp, hx, fun y hy => ?_⟩
      rcases List.mem_append.1 hy with hy | hy
      · exact hb y hy
      · rwa [List.mem_singleton.1 hy]

theorem separated_nil : Separated set reset [] := by
  intro a x b y d h
  exact absurd h (by simp)

theorem Separated.concat {l : List α} {e : α} (h : Separated set reset l)
    (he : set e → ¬ Since set reset l) : Separated set reset (l ++ [e]) := by
  intro a x b y d heq hx hy
  rw [← List.cons_append, ← List.append_assoc] at heq
  rcases concat_eq_append_cons heq with ⟨rfl, rfl, -⟩ | ⟨d', rfl, rfl⟩
  · by_contra hnone
    push Not at hnone
    exact he hy ⟨a, x, b, rfl, hx, hnone⟩
  · exact h a x b y d' (by simp) hx hy

theorem guarded_nil {guarded : α → Prop} : Guarded set reset guarded [] := by
  intro a x b h
  exact absurd h (by simp)

theorem Guarded.concat {guarded : α → Prop} {l : List α} {e : α}
    (h : Guarded set reset guarded l) (he : guarded e → Since set reset l) :
    Guarded set reset guarded (l ++ [e]) := by
  intro a x b heq hx
  rcases concat_eq_append_cons heq with ⟨rfl, rfl, -⟩ | ⟨b', rfl, rfl⟩
  · exact he hx
  · exact h a x b' rfl hx

end Traces

/-! ## The receiver -/

/-- What an event is to the receiver. -/
inductive Label (κ : Type*)
  | deliver (k : κ)
  | acknowledge (k : κ)
  | complete (k : κ)

variable {κ ε : Type*} (label : ε → Option (Label κ))

def Delivers (k : κ) (e : ε) : Prop := label e = some (.deliver k)

def Acknowledges (k : κ) (e : ε) : Prop := label e = some (.acknowledge k)

def Completes (k : κ) (e : ε) : Prop := label e = some (.complete k)

/-- One event of a receiver that holds the keys `held`, with the keys it holds afterwards. -/
inductive Step (held : Set κ) (e : ε) : Set κ → Prop
  | silent (h : label e = none) : Step held e held
  | deliver {k : κ} (h : label e = some (.deliver k)) (hk : k ∉ held) : Step held e (insert k held)
  | acknowledge {k : κ} (h : label e = some (.acknowledge k)) (hk : k ∈ held) : Step held e held
  | complete {k : κ} (h : label e = some (.complete k)) : Step held e (held \ {k})

/-- The events of a receiver from one set of held keys to another. -/
inductive Run (held : Set κ) : List ε → Set κ → Prop
  | nil : Run held [] held
  | concat {events : List ε} {e : ε} {held' held'' : Set κ} (h : Run held events held')
      (hstep : Step label held' e held'') : Run held (events ++ [e]) held''

variable {label}

theorem Run.trans {held held' held'' : Set κ} {events more : List ε}
    (h : Run label held events held') (h' : Run label held' more held'') :
    Run label held (events ++ more) held'' := by
  induction h' with
  | nil => simpa using h
  | concat _ hstep ih =>
    rw [← List.append_assoc]
    exact ih.concat hstep

theorem Run.silent (held : Set κ) {events : List ε} (h : ∀ e ∈ events, label e = none) :
    Run label held events held := by
  induction events using List.reverseRecOn with
  | nil => exact .nil
  | append_singleton l e ih =>
    exact (ih fun x hx => h x (by simp [hx])).concat (.silent (h e (by simp)))

theorem Run.single {held held' : Set κ} {e : ε} (h : Step label held e held') :
    Run label held [e] held' :=
  Run.concat .nil h

/-- The keys held are those delivered and not completed. -/
theorem Run.mem_iff_since {held : Set κ} {events : List ε} (h : Run label ∅ events held) (k : κ) :
    k ∈ held ↔ Since (Delivers label k) (Completes label k) events := by
  induction h with
  | nil => simp [not_since_nil]
  | concat _ hstep ih =>
    rw [since_concat, ← ih]
    unfold Delivers Completes
    cases hstep with
    | silent hlabel => simp [hlabel]
    | deliver hlabel hk => simp [hlabel, Set.mem_insert_iff, eq_comm]
    | acknowledge hlabel hk => simp [hlabel]
    | complete hlabel => simp [hlabel, and_comm, eq_comm]

/-- No key is delivered twice in one exchange. -/
theorem Run.separated {held : Set κ} {events : List ε} (h : Run label ∅ events held) (k : κ) :
    Separated (Delivers label k) (Completes label k) events := by
  induction h with
  | nil => exact separated_nil
  | @concat events e held' held'' hrun hstep ih =>
    refine ih.concat fun he => ?_
    rw [← hrun.mem_iff_since]
    cases hstep with
    | silent hlabel => exact absurd (hlabel.symm.trans he) (by simp)
    | deliver hlabel hk =>
      have heq := hlabel.symm.trans he
      simp only [Option.some.injEq, Label.deliver.injEq] at heq
      rwa [← heq]
    | acknowledge hlabel hk => exact absurd (hlabel.symm.trans he) (by simp)
    | complete hlabel => exact absurd (hlabel.symm.trans he) (by simp)

/-- A key is acknowledged only in an exchange in which it was delivered. -/
theorem Run.guarded {held : Set κ} {events : List ε} (h : Run label ∅ events held) (k : κ) :
    Guarded (Delivers label k) (Completes label k) (Acknowledges label k) events := by
  induction h with
  | nil => exact guarded_nil
  | @concat events e held' held'' hrun hstep ih =>
    refine ih.concat fun he => ?_
    rw [← hrun.mem_iff_since]
    cases hstep with
    | silent hlabel => exact absurd (hlabel.symm.trans he) (by simp)
    | deliver hlabel hk => exact absurd (hlabel.symm.trans he) (by simp)
    | acknowledge hlabel hk =>
      have heq := hlabel.symm.trans he
      simp only [Option.some.injEq, Label.acknowledge.injEq] at heq
      rwa [← heq]
    | complete hlabel => exact absurd (hlabel.symm.trans he) (by simp)

end Delivery

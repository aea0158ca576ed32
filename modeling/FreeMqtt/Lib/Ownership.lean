import Mathlib.Data.List.Basic
import Mathlib.Tactic.Common

/-!
# Exclusive ownership of a resource

Traces of a program that acquires handles one at a time and gives each one back before it
acquires the next. `Exclusive` states the discipline on the positions of a trace,
`owned` is the automaton that checks it step by step, and `exclusive_iff` says that they
agree.
-/

namespace Ownership

variable {α : Type*}

/-- An attempt to acquire a handle, which may fail, or the release of a handle. -/
inductive Event (α : Type*)
  | acquire (handle : Option α)
  | release (handle : α)

/-- Every release is of a handle that was acquired and not released since, and every handle
is released before the next attempt to acquire one. -/
structure Exclusive (events : List (Event α)) : Prop where
  acquired : ∀ before a after, events = before ++ .release a :: after →
    ∃ front back, before = front ++ .acquire (some a) :: back ∧ .release a ∉ back
  released : ∀ before a between handle after,
    events = before ++ .acquire (some a) :: (between ++ .acquire handle :: after) →
      .release a ∈ between

theorem exclusive_nil : Exclusive ([] : List (Event α)) where
  acquired before a after h := by simp at h
  released before a between handle after h := by simp at h

/-- The discipline holds of every part of a run up to some point. -/
theorem Exclusive.front {front back : List (Event α)} (h : Exclusive (front ++ back)) :
    Exclusive front where
  acquired before a after he := h.acquired before a (after ++ back) (by simp [he])
  released before a between handle after he :=
    h.released before a between handle (after ++ back) (by simp [he])

variable [DecidableEq α]

/-- The handle owned after one more event; `none` when the event breaks the discipline. -/
def next : Option α → Event α → Option (Option α)
  | none, .acquire handle => some handle
  | some a, .release b => if a = b then some none else none
  | _, _ => none

/-- The handle owned after a trace, from the one owned before it. -/
def owned (handle : Option α) (events : List (Event α)) : Option (Option α) :=
  events.foldlM next handle

@[simp] theorem owned_nil (handle : Option α) : owned handle [] = some handle := rfl

@[simp] theorem owned_cons (handle : Option α) (e : Event α) (events : List (Event α)) :
    owned handle (e :: events) = (next handle e).bind fun h => owned h events := by
  simp [owned, List.foldlM_cons]

@[simp] theorem next_acquire (handle : Option α) :
    next (none : Option α) (.acquire handle) = some handle := rfl

@[simp] theorem next_release_self (a : α) : next (some a) (.release a) = some none := by
  simp [next]

@[simp] theorem next_release_none (a : α) : next (none : Option α) (.release a) = none := rfl

@[simp] theorem next_acquire_some (a : α) (handle : Option α) :
    next (some a) (.acquire handle) = none := rfl

/-! ## The automaton and the positions -/

omit [DecidableEq α] in
/-- An event of a trace with one more event is the last one or lies in the trace. -/
theorem snoc_eq_append_cons {events before after : List (Event α)} {e x : Event α}
    (h : events ++ [e] = before ++ x :: after) :
    (after = [] ∧ events = before ∧ e = x) ∨
      ∃ l, after = l ++ [e] ∧ events = before ++ x :: l := by
  rcases List.eq_nil_or_concat' after with rfl | ⟨l, y, rfl⟩
  · obtain ⟨hevents, he⟩ := List.append_inj' h rfl
    exact .inl ⟨rfl, hevents, by simpa using he⟩
  · rw [← List.cons_append, ← List.append_assoc] at h
    obtain ⟨hevents, he⟩ := List.append_inj' h rfl
    have hy : e = y := by simpa using he
    exact .inr ⟨l, by rw [hy], hevents⟩

/-- What the automaton knows of a trace: the handle it owns is the one acquired by the last
event, and every other one was released after it was acquired. -/
structure Knows (events : List (Event α)) (handle : Option α) : Prop where
  last : ∀ a, handle = some a → ∃ front, events = front ++ [.acquire (some a)]
  others : ∀ before a after, events = before ++ .acquire (some a) :: after →
    .release a ∈ after ∨ handle = some a ∧ after = []

omit [DecidableEq α] in
theorem knows_nil : Knows ([] : List (Event α)) none where
  last a h := absurd h (by simp)
  others before a after h := by simp at h

omit [DecidableEq α] in
theorem knows_acquire {events : List (Event α)} (h : Knows events none) (handle : Option α) :
    Knows (events ++ [.acquire handle]) handle where
  last a ha := ⟨events, by rw [ha]⟩
  others before a after he := by
    rcases snoc_eq_append_cons he with ⟨rfl, -, heq⟩ | ⟨l, rfl, hevents⟩
    · exact .inr ⟨Event.acquire.inj heq, rfl⟩
    · rcases h.others _ _ _ hevents with hmem | ⟨hnone, -⟩
      · exact .inl (List.mem_append_left _ hmem)
      · exact absurd hnone (by simp)

omit [DecidableEq α] in
theorem knows_release {events : List (Event α)} {a : α} (h : Knows events (some a)) :
    Knows (events ++ [.release a]) none where
  last b hb := absurd hb (by simp)
  others before b after he := by
    rcases snoc_eq_append_cons he with ⟨-, -, heq⟩ | ⟨l, rfl, hevents⟩
    · exact absurd heq (by simp)
    · rcases h.others _ _ _ hevents with hmem | ⟨hab, -⟩
      · exact .inl (List.mem_append_left _ hmem)
      · rw [Option.some.inj hab]
        exact .inl (by simp)

theorem knows_next {events : List (Event α)} {handle handle' : Option α} {e : Event α}
    (h : Knows events handle) (he : next handle e = some handle') :
    Knows (events ++ [e]) handle' := by
  cases handle with
  | none =>
    cases e with
    | acquire b =>
      rw [next_acquire, Option.some.injEq] at he
      exact he ▸ knows_acquire h b
    | release b => exact absurd he (by simp)
  | some a =>
    cases e with
    | acquire b => exact absurd he (by simp)
    | release b =>
      rw [next] at he
      split at he
      · rename_i hab
        subst hab
        rw [Option.some.injEq] at he
        exact he ▸ knows_release h
      · exact absurd he (by simp)

/-- One more event keeps the discipline exactly when the automaton accepts it. -/
theorem exclusive_snoc {events : List (Event α)} {handle : Option α} (h : Exclusive events)
    (hk : Knows events handle) (e : Event α) :
    Exclusive (events ++ [e]) ↔ (next handle e).isSome := by
  constructor
  · intro hx
    cases e with
    | acquire b =>
      cases handle with
      | none => rfl
      | some a =>
        obtain ⟨front, hfront⟩ := hk.last a rfl
        have := hx.released front a [] b [] (by simp [hfront])
        simp at this
    | release b =>
      obtain ⟨front, back, hfront, hback⟩ := hx.acquired events b [] rfl
      rcases hk.others _ _ _ hfront with hmem | ⟨rfl, -⟩
      · exact absurd hmem hback
      · simp
  · intro hn
    cases handle with
    | none =>
      cases e with
      | release b => simp at hn
      | acquire b =>
        refine ⟨fun before a after he => ?_, fun before a between handle after he => ?_⟩
        · rcases snoc_eq_append_cons he with ⟨-, -, heq⟩ | ⟨l, -, hevents⟩
          · exact absurd heq (by simp)
          · exact h.acquired _ _ _ hevents
        · rw [← List.cons_append, ← List.append_assoc] at he
          rcases snoc_eq_append_cons he with ⟨-, hevents, -⟩ | ⟨l, -, hevents⟩
          · rcases hk.others _ _ _ hevents with hmem | ⟨hnone, -⟩
            · exact hmem
            · exact absurd hnone (by simp)
          · exact h.released before a between handle l (by rw [hevents]; simp)
    | some a =>
      cases e with
      | acquire b => simp at hn
      | release b =>
        obtain rfl : a = b := by
          by_contra hab
          simp [next, hab] at hn
        obtain ⟨front, hfront⟩ := hk.last a rfl
        refine ⟨fun before b after he => ?_, fun before b between handle after he => ?_⟩
        · rcases snoc_eq_append_cons he with ⟨-, rfl, heq⟩ | ⟨l, -, hevents⟩
          · exact ⟨front, [], by rw [hfront, Event.release.inj heq], by simp⟩
          · exact h.acquired _ _ _ hevents
        · rw [← List.cons_append, ← List.append_assoc] at he
          rcases snoc_eq_append_cons he with ⟨-, -, heq⟩ | ⟨l, -, hevents⟩
          · exact absurd heq (by simp)
          · exact h.released before b between handle l (by rw [hevents]; simp)

/-- From a trace that keeps the discipline, the discipline holds as long as the automaton
accepts what follows. -/
theorem exclusive_append_iff {events : List (Event α)} {handle : Option α}
    (h : Exclusive events) (hk : Knows events handle) (more : List (Event α)) :
    Exclusive (events ++ more) ↔ (owned handle more).isSome := by
  induction more generalizing events handle with
  | nil => simpa using h
  | cons e more ih =>
    rw [List.append_cons, owned_cons]
    cases he : next handle e with
    | none =>
      have hbad : ¬ Exclusive (events ++ [e]) := by
        rw [exclusive_snoc h hk, he]
        simp
      simpa using fun hx : Exclusive (events ++ [e] ++ more) => hbad hx.front
    | some handle' =>
      have hgood : Exclusive (events ++ [e]) := by
        rw [exclusive_snoc h hk, he]
        rfl
      simpa using ih hgood (knows_next hk he)

/-- The discipline holds of a trace exactly when the automaton accepts it. -/
theorem exclusive_iff (events : List (Event α)) :
    Exclusive events ↔ (owned none events).isSome :=
  exclusive_append_iff exclusive_nil knows_nil events

end Ownership

import Mathlib.Data.List.Basic

/-!
# Messages handed over one at a time

A sender hands messages over to a receiver, one after the other, on a link that may drop all that
is in flight. It offers a message until there is an answer. A message that is to arrive `once` is
confirmed by the receiver, which then holds it and does not take it again, until the sender
releases it and the receiver has completed that; any other message is acknowledged, and may arrive
more than once.

`Settled` is what this is for: all messages arrived, in order, those to arrive once exactly once.
`Agree` says how the two parties and the link stand to each other. Every step keeps it, also when
the sender does not understand an answer, and `Agree.settled_init` and `Agree.settled` read off what
has arrived.

There are two kinds of receivers. One answers a request at once (`serve`, `Agree.serve`). The other
one holds a message until it gets around to the answer (`Agree.arrive`, and then `Agree.acknowledge`,
`Agree.confirm` or `Agree.complete`).
-/

namespace Handover

/-- What the sender waits for. -/
inductive Phase (μ : Type*)
  | idle
  | offering (m : μ)
  | releasing
  deriving DecidableEq, Repr

inductive Request (μ : Type*)
  | offer (m : μ)
  | release
  deriving DecidableEq, Repr

inductive Reply
  | acknowledge
  | confirm
  | complete
  deriving DecidableEq, Repr

variable {μ : Type*} (once : μ → Prop)

/-! ## What is to arrive -/

/-- All messages arrived, in order. -/
inductive Settled : (started forwarded : List μ) → Prop
  | nil : Settled [] []
  | message {started forwarded : List μ} (h : Settled started forwarded) {m : μ} {n : Nat}
      (hn : 0 < n) (honce : once m → n = 1) :
      Settled (started ++ [m]) (forwarded ++ List.replicate n m)

/-! ## The receiver -/

/-- What the receiver does with a request: whether it holds a message then, what it passes on, and
its reply. -/
def serve [DecidablePred once] (held : Bool) : Request μ → Bool × List μ × Reply
  | .offer m =>
      if once m then (true, if held then [] else [m], .confirm) else (held, [m], .acknowledge)
  | .release => (false, [], .complete)

variable {once}

/-! ## The sender -/

/-- What a reply makes of the phase. Replies that the sender does not wait for are ignored. -/
def Phase.take : Phase μ → Reply → Phase μ
  | .offering _, .acknowledge => .idle
  | .offering _, .confirm => .releasing
  | .releasing, .complete => .idle
  | phase, _ => phase

/-- The request that the sender repeats until it is answered. -/
def Phase.request : Phase μ → Option (Request μ)
  | .idle => none
  | .offering m => some (.offer m)
  | .releasing => some .release

/-- The phase in which a request is sent. -/
def Request.phase : Request μ → Phase μ
  | .offer m => .offering m
  | .release => .releasing

/-! ## Agreement -/

variable (once) (holds : μ → Prop) in
/-- The phase of the sender, whether the receiver holds a message, the packets in flight, and the
messages so far. A receiver may hold the messages of `holds`. -/
inductive Agree : Phase μ → (held : Bool) → List (Request μ) → List Reply →
    (started forwarded : List μ) → Prop
  | idle {started forwarded : List μ} (h : Settled once started forwarded) :
      Agree .idle false [] [] started forwarded
  /-- the message arrived `n` times so far -/
  | offering {started forwarded : List μ} (h : Settled once started forwarded) {m : μ} {n : Nat}
      {held : Bool} (honce : once m → n = if held then 1 else 0)
      (hheld : held = true → holds m ∧ 0 < n)
      {requests : List (Request μ)} (hrequests : requests = [] ∨ requests = [.offer m]) :
      Agree (.offering m) held requests [] (started ++ [m]) (forwarded ++ List.replicate n m)
  | acknowledged {started forwarded : List μ} (h : Settled once started forwarded) {m : μ} {n : Nat}
      (hn : 0 < n) (honce : ¬ once m) :
      Agree (.offering m) false [] [.acknowledge] (started ++ [m]) (forwarded ++ List.replicate n m)
  | confirmed {started forwarded : List μ} (h : Settled once started forwarded) {m : μ}
      (honce : once m) (hholds : holds m) :
      Agree (.offering m) true [] [.confirm] (started ++ [m]) (forwarded ++ [m])
  | releasing {started forwarded : List μ} (h : Settled once started forwarded) {held : Bool}
      {requests : List (Request μ)} (hrequests : requests = [] ∨ requests = [.release]) :
      Agree .releasing held requests [] started forwarded
  | completed {started forwarded : List μ} (h : Settled once started forwarded) :
      Agree .releasing false [] [.complete] started forwarded

section Steps

variable {holds : μ → Prop} {phase : Phase μ} {held : Bool} {requests : List (Request μ)}
  {replies : List Reply} {started forwarded : List μ}

/-- Nothing is in flight beside a reply. -/
theorem Agree.alone {reply : Reply}
    (h : Agree once holds phase held requests (reply :: replies) started forwarded) :
    requests = [] ∧ replies = [] := by
  cases h <;> exact ⟨rfl, rfl⟩

theorem Agree.nothing_in_flight (h : Agree once holds .idle held requests replies started forwarded) :
    requests = [] ∧ replies = [] := by
  cases h with
  | idle => exact ⟨rfl, rfl⟩

/-- A new message. -/
theorem Agree.start (h : Agree once holds .idle held requests replies started forwarded) (m : μ) :
    Agree once holds (.offering m) held requests replies (started ++ [m]) forwarded := by
  cases h with
  | idle h =>
    have hnew : Agree once holds (.offering m) false [] [] (started ++ [m])
        (forwarded ++ List.replicate 0 m) := by
      refine .offering h ?_ ?_ (.inl rfl)
      · exact fun _ => rfl
      · exact nofun
    rwa [List.replicate_zero, List.append_nil] at hnew

/-- The message is offered. -/
theorem Agree.offer {m : μ} (h : Agree once holds (.offering m) held [] [] started forwarded) :
    Agree once holds (.offering m) held [.offer m] [] started forwarded := by
  cases h with
  | offering h honce hheld => exact .offering h honce hheld (.inr rfl)

/-- The message is released. -/
theorem Agree.release (h : Agree once holds .releasing held [] [] started forwarded) :
    Agree once holds .releasing held [.release] [] started forwarded := by
  cases h with
  | releasing h => exact .releasing h (.inr rfl)

/-- The request of the phase is sent. -/
theorem Agree.send {request : Request μ} (hrequest : phase.request = some request)
    (h : Agree once holds phase held [] [] started forwarded) :
    Agree once holds phase held [request] [] started forwarded := by
  cases phase with
  | idle => cases hrequest
  | offering m =>
    cases hrequest
    exact h.offer
  | releasing =>
    cases hrequest
    exact h.release

/-- A reply that the sender waits for. -/
theorem Agree.take {reply : Reply}
    (h : Agree once holds phase held requests (reply :: replies) started forwarded) :
    Agree once holds (phase.take reply) held requests replies started forwarded := by
  cases h with
  | acknowledged h hn honce => exact .idle (h.message hn fun ho => absurd ho honce)
  | confirmed h honce => exact .releasing (h.message (n := 1) Nat.one_pos fun _ => rfl) (.inl rfl)
  | completed h => exact .idle h

/-- The last reply of a message. -/
theorem Agree.take_idle {reply : Reply}
    (h : Agree once holds phase held requests (reply :: replies) started forwarded)
    (hreply : reply ≠ .confirm) : phase.take reply = .idle := by
  cases h with
  | acknowledged | completed => rfl
  | confirmed => exact absurd rfl hreply

/-- The reply to a message that is to arrive once. -/
theorem Agree.take_confirm
    (h : Agree once holds phase held requests (.confirm :: replies) started forwarded) :
    phase.take .confirm = .releasing := by
  cases h with
  | confirmed => rfl

/-- A reply that the sender does not understand. -/
theorem Agree.ignore {reply : Reply}
    (h : Agree once holds phase held requests (reply :: replies) started forwarded) :
    Agree once holds phase held requests replies started forwarded := by
  cases h with
  | acknowledged h hn honce =>
    refine .offering h (fun ho => absurd ho honce) ?_ (.inl rfl)
    exact nofun
  | confirmed h honce hholds =>
    exact .offering (n := 1) h (fun _ => rfl) (fun _ => ⟨hholds, Nat.one_pos⟩) (.inl rfl)
  | completed h => exact .releasing h (.inl rfl)

theorem short_of_initial {α : Type*} {x : α} {l l' : List α} (hinitial : l' <+: l)
    (h : l = [] ∨ l = [x]) : l' = [] ∨ l' = [x] := by
  rcases h with rfl | rfl
  · exact .inl (List.prefix_nil.1 hinitial)
  · exact (List.prefix_cons_iff.1 hinitial).imp id fun ⟨l, hl, hnil⟩ => by
      rw [hl, List.prefix_nil.1 hnil]

/-- The last packets in flight may be lost. -/
theorem Agree.lose (h : Agree once holds phase held requests replies started forwarded)
    {requests' : List (Request μ)} {replies' : List Reply} (hrequests : requests' <+: requests)
    (hreplies : replies' <+: replies) :
    Agree once holds phase held requests' replies' started forwarded := by
  cases h with
  | idle h =>
    rw [List.prefix_nil.1 hrequests, List.prefix_nil.1 hreplies]
    exact .idle h
  | offering h honce hheld hr =>
    rw [List.prefix_nil.1 hreplies]
    exact .offering h honce hheld (short_of_initial hrequests hr)
  | acknowledged h hn honce =>
    rw [List.prefix_nil.1 hrequests]
    rcases short_of_initial hreplies (.inr rfl) with rfl | rfl
    · exact (Agree.acknowledged h hn honce).ignore
    · exact .acknowledged h hn honce
  | confirmed h honce hholds =>
    rw [List.prefix_nil.1 hrequests]
    rcases short_of_initial hreplies (.inr rfl) with rfl | rfl
    · exact (Agree.confirmed h honce hholds).ignore
    · exact .confirmed h honce hholds
  | releasing h hr =>
    rw [List.prefix_nil.1 hreplies]
    exact .releasing h (short_of_initial hrequests hr)
  | completed h =>
    rw [List.prefix_nil.1 hrequests]
    rcases short_of_initial hreplies (.inr rfl) with rfl | rfl
    · exact (Agree.completed h).ignore
    · exact .completed h

/-! ### Requests -/

/-- Nothing is in flight beside a request. -/
theorem Agree.requested {request : Request μ}
    (h : Agree once holds phase held (request :: requests) replies started forwarded) :
    requests = [] ∧ replies = [] ∧ phase = request.phase := by
  cases h with
  | offering _ _ _ hrequests =>
    obtain ⟨rfl, rfl⟩ := List.cons.inj (hrequests.resolve_left (List.cons_ne_nil _ _))
    exact ⟨rfl, rfl, rfl⟩
  | releasing _ hrequests =>
    obtain ⟨rfl, rfl⟩ := List.cons.inj (hrequests.resolve_left (List.cons_ne_nil _ _))
    exact ⟨rfl, rfl, rfl⟩

/-- A request that the receiver does not answer. -/
theorem Agree.drop {request : Request μ}
    (h : Agree once holds phase held (request :: requests) replies started forwarded) :
    Agree once holds phase held requests replies started forwarded := by
  obtain ⟨rfl, rfl, -⟩ := h.requested
  exact h.lose List.nil_prefix List.nil_prefix

/-- A message arrives, and the receiver holds it. -/
theorem Agree.arrive {m : μ} (hholds : holds m)
    (h : Agree once holds (.offering m) false [.offer m] [] started forwarded) :
    Agree once holds (.offering m) true [] [] started (forwarded ++ [m]) := by
  cases h with
  | @offering _ _ h _ n _ honce =>
    rw [List.append_assoc, ← List.replicate_succ']
    refine .offering h (fun ho => ?_) (fun _ => ⟨hholds, Nat.succ_pos n⟩) (.inl rfl)
    rw [honce ho, if_neg Bool.false_ne_true, if_pos rfl]

/-- A held message is acknowledged. -/
theorem Agree.acknowledge {m : μ} (hm : ¬ once m)
    (h : Agree once holds (.offering m) true [] [] started forwarded) :
    Agree once holds (.offering m) false [] [.acknowledge] started forwarded := by
  cases h with
  | offering h _ hheld => exact .acknowledged h (hheld rfl).2 hm

/-- A held message is confirmed. -/
theorem Agree.confirm {m : μ} (hm : once m)
    (h : Agree once holds (.offering m) true [] [] started forwarded) :
    Agree once holds (.offering m) true [] [.confirm] started forwarded := by
  cases h with
  | offering h honce hheld =>
    rw [honce hm, if_pos rfl]
    exact .confirmed h hm (hheld rfl).1

/-- The release of a message is completed. -/
theorem Agree.complete (h : Agree once holds .releasing held [] [] started forwarded) :
    Agree once holds .releasing false [] [.complete] started forwarded := by
  cases h with
  | releasing h => exact .completed h

/-- A receiver that holds no other messages serves a request. -/
theorem Agree.serve [DecidablePred once] {request : Request μ}
    (h : Agree once once phase held (request :: requests) replies started forwarded) :
    let served := serve once held request
    Agree once once phase served.1 requests (replies ++ [served.2.2]) started
      (forwarded ++ served.2.1) := by
  cases h with
  | @offering _ _ h m n _ hn hheld _ hrequests =>
    obtain ⟨rfl, rfl⟩ := List.cons.inj (hrequests.resolve_left (List.cons_ne_nil _ _))
    dsimp only [Handover.serve]
    by_cases honce : once m
    · rw [if_pos honce]
      obtain rfl := hn honce
      cases held with
      | true => simpa using Agree.confirmed h honce honce
      | false => simpa using Agree.confirmed h honce honce
    · rw [if_neg honce]
      obtain rfl : held = false := by
        cases held with
        | true => exact absurd (hheld rfl).1 honce
        | false => rfl
      rw [List.append_assoc, ← List.replicate_succ']
      exact .acknowledged h (Nat.succ_pos n) honce
  | releasing h hrequests =>
    obtain ⟨rfl, rfl⟩ := List.cons.inj (hrequests.resolve_left (List.cons_ne_nil _ _))
    dsimp only [Handover.serve]
    rw [List.append_nil]
    exact .completed h

/-! ## What has arrived -/

/-- While a message is offered, those before it arrived. -/
theorem Agree.settled_init {m : μ} (h : Agree once holds (.offering m) held requests replies started
    forwarded) : ∃ front arrived n, started = front ++ [m] ∧
      forwarded = arrived ++ List.replicate n m ∧ Settled once front arrived ∧
      (once m → n ≤ 1) := by
  cases h with
  | @offering _ _ h _ n _ honce _ _ _ =>
    refine ⟨_, _, n, rfl, rfl, h, fun ho => ?_⟩
    rw [honce ho]
    split <;> decide
  | @acknowledged _ _ h _ n _ honce => exact ⟨_, _, n, rfl, rfl, h, fun ho => absurd ho honce⟩
  | confirmed h => exact ⟨_, _, 1, rfl, rfl, h, fun _ => Nat.le_refl 1⟩

/-- Otherwise all messages arrived. -/
theorem Agree.settled (h : Agree once holds phase held requests replies started forwarded)
    (hphase : ∀ m, phase ≠ .offering m) : Settled once started forwarded := by
  cases h with
  | idle h => exact h
  | releasing h => exact h
  | completed h => exact h
  | offering | acknowledged | confirmed => exact absurd rfl (hphase _)

end Steps

/-! ## Several senders on one link -/

section Keys

variable {κ α : Type*} [DecidableEq κ]

/-- What a list has for a key. -/
def valuesFor (k : κ) (l : List (κ × α)) : List α :=
  l.filterMap fun e => if e.1 = k then some e.2 else none

@[simp] theorem valuesFor_nil (k : κ) : valuesFor k ([] : List (κ × α)) = [] := rfl

@[simp] theorem valuesFor_append (k : κ) (l l' : List (κ × α)) :
    valuesFor k (l ++ l') = valuesFor k l ++ valuesFor k l' :=
  List.filterMap_append ..

theorem valuesFor_cons_self (k : κ) (a : α) (l : List (κ × α)) :
    valuesFor k ((k, a) :: l) = a :: valuesFor k l := by
  simp [valuesFor]

theorem valuesFor_cons_of_ne {k k' : κ} (h : k' ≠ k) (a : α) (l : List (κ × α)) :
    valuesFor k ((k', a) :: l) = valuesFor k l := by
  simp [valuesFor, h]

theorem valuesFor_map_mk (k : κ) (l : List α) : valuesFor k (l.map (Prod.mk k)) = l := by
  induction l with
  | nil => rfl
  | cons a l ih => rw [List.map_cons, valuesFor_cons_self, ih]

theorem valuesFor_map_mk_of_ne {k k' : κ} (h : k' ≠ k) (l : List α) :
    valuesFor k (l.map (Prod.mk k')) = [] := by
  induction l with
  | nil => rfl
  | cons a l ih => rw [List.map_cons, valuesFor_cons_of_ne h, ih]

theorem valuesFor_initial {l l' : List (κ × α)} (h : l' <+: l) (k : κ) :
    valuesFor k l' <+: valuesFor k l := by
  obtain ⟨rest, rfl⟩ := h
  rw [valuesFor_append]
  exact List.prefix_append _ _

end Keys

end Handover

import Mathlib.Data.List.Infix
import Mathlib.Logic.Relation

/-!
# Packets of a stream

A receiver reads a stream of packets in pieces of any size. It delivers the packets of at most
`bound` symbols and skips the longer ones. When the packets are prefix-free, what it delivers is an
initial part of the stream, however the stream is cut (`inOrder_of_steps`).
-/

namespace Framing

variable {α : Type*}

/-- No packet is the beginning of another one. -/
def PrefixFree (packet : List α → Prop) : Prop := ∀ {p q}, packet p → packet q → p <+: q → p = q

/-- What a receiver has read but not used, what it has still to read, and what it has delivered. -/
structure Receiver (α : Type*) where
  pending : List α
  stream : List α
  delivered : List (List α)

/-- What a receiver does. -/
inductive ReceiverStep (packet : List α → Prop) (bound : Nat) : Receiver α → Receiver α → Prop
  | read (count : Nat) {pending stream : List α} {delivered : List (List α)} :
      ReceiverStep packet bound ⟨pending, stream, delivered⟩
        ⟨pending ++ stream.take count, stream.drop count, delivered⟩
  | deliver {p pending stream : List α} {delivered : List (List α)} (hp : packet p)
      (hle : p.length ≤ bound) :
      ReceiverStep packet bound ⟨p ++ pending, stream, delivered⟩ ⟨pending, stream, delivered ++ [p]⟩
  | skip {p pending stream rest : List α} {delivered : List (List α)} (hp : packet p)
      (hlong : bound < p.length) (hp_eq : pending ++ stream = p ++ rest) :
      ReceiverStep packet bound ⟨pending, stream, delivered⟩ ⟨[], rest, delivered⟩

/-- The packets that are not to come any more are delivered, in order, but for the long ones. -/
def InOrder (bound : Nat) (packets : List (List α)) (r : Receiver α) : Prop :=
  ∃ consumed rest, packets = consumed ++ rest ∧ r.pending ++ r.stream = rest.flatten ∧
    r.delivered = consumed.filter fun p => p.length ≤ bound

variable {packet : List α → Prop} {bound : Nat} {packets : List (List α)} {r r' : Receiver α}

/-- A packet in front of a stream of packets is the first of them. -/
theorem PrefixFree.head_eq (hfree : PrefixFree packet) {p more : List α} (hp : packet p)
    (hne : p ≠ []) (hpackets : ∀ q ∈ packets, packet q) (h : p ++ more = packets.flatten) :
    ∃ rest, packets = p :: rest ∧ more = rest.flatten := by
  cases packets with
  | nil =>
    rw [List.flatten_nil] at h
    exact absurd (List.append_eq_nil_iff.1 h).1 hne
  | cons q rest =>
    rw [List.flatten_cons] at h
    have hq := hpackets q List.mem_cons_self
    obtain rfl : p = q := by
      rcases List.prefix_or_prefix_of_prefix ⟨more, h⟩ (List.prefix_append q rest.flatten) with
        hpre | hpre
      · exact hfree hp hq hpre
      · exact (hfree hq hp hpre).symm
    exact ⟨rest, rfl, List.append_cancel_left h⟩

/-- Of two sequences of packets in front of a stream, the shorter one is the beginning of the longer
one. -/
theorem PrefixFree.prefix_of_le (hfree : PrefixFree packet) (hnil : ¬ packet []) {stream : List α}
    {shorter longer : List (List α)} (hshorter : ∀ p ∈ shorter, packet p)
    (hlonger : ∀ p ∈ longer, packet p) (h : shorter.flatten <+: stream)
    (h' : longer.flatten <+: stream) (hle : shorter.flatten.length ≤ longer.flatten.length) :
    shorter <+: longer := by
  induction shorter generalizing longer stream with
  | nil => exact List.nil_prefix
  | cons p shorter ih =>
    have hp := hshorter p List.mem_cons_self
    have hne : p ≠ [] := fun hempty => hnil (hempty ▸ hp)
    obtain ⟨more, heq⟩ := List.prefix_of_prefix_length_le h h' hle
    rw [List.flatten_cons, List.append_assoc] at heq
    obtain ⟨rest, rfl, hrest⟩ := hfree.head_eq hp hne hlonger heq
    obtain ⟨tail, rfl⟩ := (List.prefix_append p shorter.flatten).trans h
    rw [List.flatten_cons, List.prefix_append_right_inj] at h h'
    rw [List.flatten_cons, List.flatten_cons, List.length_append, List.length_append] at hle
    rw [List.prefix_cons_inj]
    exact ih (fun q hq => hshorter q (List.mem_cons_of_mem _ hq))
      (fun q hq => hlonger q (List.mem_cons_of_mem _ hq)) h h' (by omega)

/-- A stream of packets has the packet `q` at a place that ends behind `n` symbols. -/
def EndsAt (packet : List α → Prop) (q stream : List α) (n : Nat) : Prop :=
  ∃ front : List (List α), (∀ p ∈ front, packet p) ∧ (front ++ [q]).flatten <+: stream ∧
    n = (front ++ [q]).flatten.length

section EndsAt

variable {q rest : List α} {taken : List (List α)} {n : Nat}

theorem flatten_mono {shorter longer : List (List α)} (h : shorter <+: longer) :
    shorter.flatten <+: longer.flatten := by
  obtain ⟨more, rfl⟩ := h
  rw [List.flatten_append]
  exact List.prefix_append _ _

theorem EndsAt.of_le {stream : List α} (h : EndsAt packet q (stream ++ rest) n)
    (hle : n ≤ stream.length) : EndsAt packet q stream n := by
  obtain ⟨front, hfront, hprefix, rfl⟩ := h
  exact ⟨front, hfront,
    List.prefix_of_prefix_length_le hprefix (List.prefix_append _ _) hle, rfl⟩

/-- Packets that `q` does not end behind are in front of it. -/
theorem EndsAt.taken_front (hfree : PrefixFree packet) (hnil : ¬ packet [])
    (htaken : ∀ p ∈ taken, packet p) {front : List (List α)} (hfront : ∀ p ∈ front, packet p)
    (hq : packet q) (h : (front ++ [q]).flatten <+: taken.flatten ++ rest)
    (hlt : taken.flatten.length < (front ++ [q]).flatten.length) : taken <+: front := by
  have hall : ∀ p ∈ front ++ [q], packet p :=
    List.forall_mem_append.2 ⟨hfront, List.forall_mem_singleton.2 hq⟩
  have hprefix := hfree.prefix_of_le hnil htaken hall (List.prefix_append _ _) h (Nat.le_of_lt hlt)
  rcases List.prefix_concat_iff.1 hprefix with heq | hprefix
  · rw [heq] at hlt
    exact absurd hlt (Nat.lt_irrefl _)
  · exact hprefix

/-- Behind packets that are taken off the stream, `q` ends that much earlier. -/
theorem EndsAt.drop (h : EndsAt packet q (taken.flatten ++ rest) n) (hfree : PrefixFree packet)
    (hnil : ¬ packet []) (htaken : ∀ p ∈ taken, packet p) (hq : packet q)
    (hlt : taken.flatten.length < n) : EndsAt packet q rest (n - taken.flatten.length) := by
  obtain ⟨front, hfront, hprefix, rfl⟩ := h
  obtain ⟨more, rfl⟩ := EndsAt.taken_front hfree hnil htaken hfront hq hprefix hlt
  refine ⟨more, fun p hp => hfront p (List.mem_append_right _ hp), ?_, ?_⟩
  · rw [List.append_assoc, List.flatten_append] at hprefix
    exact (List.prefix_append_right_inj _).1 hprefix
  · rw [List.append_assoc, List.flatten_append, List.length_append, Nat.add_sub_cancel_left]

/-- When one more packet is taken, `q` ended in front of it, or is that packet. -/
theorem EndsAt.le_or_eq {p : List α} (h : EndsAt packet q ((taken ++ [p]).flatten ++ rest) n)
    (hfree : PrefixFree packet) (hnil : ¬ packet []) (htaken : ∀ p ∈ taken, packet p) (hp : packet p)
    (hq : packet q) (hle : n ≤ (taken ++ [p]).flatten.length) : n ≤ taken.flatten.length ∨ p = q := by
  obtain ⟨front, hfront, hprefix, rfl⟩ := h
  have hall : ∀ p ∈ front ++ [q], packet p :=
    List.forall_mem_append.2 ⟨hfront, List.forall_mem_singleton.2 hq⟩
  have hall' : ∀ q ∈ taken ++ [p], packet q :=
    List.forall_mem_append.2 ⟨htaken, List.forall_mem_singleton.2 hp⟩
  have hfirst := hfree.prefix_of_le hnil hall hall' hprefix (List.prefix_append _ _) hle
  rcases List.prefix_concat_iff.1 hfirst with heq | hfirst
  · exact .inr (List.singleton_inj.1 (List.append_inj_right' heq rfl)).symm
  · exact .inl (flatten_mono hfirst).length_le

end EndsAt

/-- The next packet is consumed. -/
theorem InOrder.consume {p pending stream pending' stream' : List α} {delivered : List (List α)}
    (h : InOrder bound packets ⟨pending, stream, delivered⟩) (hfree : PrefixFree packet)
    (hnil : ¬ packet []) (hpackets : ∀ q ∈ packets, packet q) (hp : packet p)
    (heq : pending ++ stream = p ++ (pending' ++ stream')) :
    InOrder bound packets
      ⟨pending', stream', delivered ++ [p].filter fun p => p.length ≤ bound⟩ := by
  obtain ⟨consumed, rest, rfl, hrest, hdelivered⟩ := h
  dsimp only at hrest hdelivered
  obtain ⟨rest', rfl, hmore⟩ := hfree.head_eq hp (fun hempty => hnil (hempty ▸ hp))
    (fun q hq => hpackets q (List.mem_append_right _ hq)) (heq.symm.trans hrest)
  refine ⟨consumed ++ [p], rest', by simp, hmore, ?_⟩
  rw [List.filter_append, hdelivered]

theorem ReceiverStep.inOrder (hstep : ReceiverStep packet bound r r') (hfree : PrefixFree packet)
    (hnil : ¬ packet []) (hpackets : ∀ q ∈ packets, packet q) (h : InOrder bound packets r) :
    InOrder bound packets r' := by
  cases hstep with
  | read count =>
    obtain ⟨consumed, rest, heq, hrest, hdelivered⟩ := h
    refine ⟨consumed, rest, heq, ?_, hdelivered⟩
    rw [← hrest, List.append_assoc, List.take_append_drop]
  | deliver hp hle =>
    have hnext := h.consume hfree hnil hpackets hp (List.append_assoc _ _ _)
    rwa [List.filter_cons_of_pos (by simpa using hle), List.filter_nil] at hnext
  | skip hp hlong heq =>
    have hnext : InOrder bound packets ⟨[], _, _⟩ := h.consume hfree hnil hpackets hp heq
    rwa [List.filter_cons_of_neg (by simpa using hlong), List.filter_nil, List.append_nil] at hnext

/-- However the stream is cut, the packets are delivered in order. -/
theorem inOrder_of_steps (hsteps : Relation.ReflTransGen (ReceiverStep packet bound) r r')
    (hfree : PrefixFree packet) (hnil : ¬ packet []) (hpackets : ∀ q ∈ packets, packet q)
    (h : InOrder bound packets r) : InOrder bound packets r' := by
  induction hsteps with
  | refl => exact h
  | tail _ hstep ih => exact hstep.inOrder hfree hnil hpackets ih

end Framing

/-!
# A four-packet handshake over a lossy link

A sender offers a message until it is confirmed, and then releases it until that is completed.
A receiver keeps a stage for every message that is not completed. The link between them may
drop all that is in flight; the sender then repeats the packet that was not answered.

`Agree` says how the two parties and the link stand to each other for one message. Every step
keeps it (`Agree.start` to `Agree.resend`), and no request is refused while it holds
(`Agree.handle`), as long as no completion is lost: the receiver has forgotten a message
that it completed, and the sender releases it once more.
-/

namespace FourWay

/-- What the sender waits for. -/
inductive Phase
  | idle
  | offering
  | releasing
  deriving DecidableEq, Repr

/-- How far the receiver is with a message. -/
inductive Stage
  | received
  | confirmed
  | released
  deriving DecidableEq, Repr

inductive Request
  | offer
  | release
  deriving DecidableEq, Repr

inductive Reply
  | confirm
  | complete
  deriving DecidableEq, Repr

/-- The reply to a request. -/
def Request.reply : Request → Reply
  | .offer => .confirm
  | .release => .complete

/-- The request that a sender repeats. -/
def Phase.request : Phase → Option Request
  | .idle => none
  | .offering => some .offer
  | .releasing => some .release

/-- What a reply makes of the phase, and the requests that follow it. Replies that the sender does
not wait for are ignored. -/
def Phase.take : Phase → Reply → Phase × List Request
  | .offering, .confirm => (.releasing, [.release])
  | .releasing, .complete => (.idle, [])
  | phase, _ => (phase, [])

/-- The stage after a request, given whether the reply to it could be sent; `none` when the
request is refused. -/
def handle (sent : Bool) : Option Stage → Request → Option (Option Stage)
  | none, .offer | some .received, .offer => some (some (if sent then .confirmed else .received))
  | some .confirmed, .offer => some (some .confirmed)
  | some .confirmed, .release | some .released, .release =>
      some (if sent then none else some .released)
  | _, _ => none

/-- The phase of the sender, the stage of the receiver, and the packets in flight, for one
message. -/
inductive Agree : Phase → Option Stage → List Request → List Reply → Prop
  | idle : Agree .idle none [] []
  | offered {stage : Option Stage} (hstage : stage ≠ some .released) {requests : List Request}
      (h : requests = [] ∨ requests = [.offer]) : Agree .offering stage requests []
  | confirmed : Agree .offering (some .confirmed) [] [.confirm]
  | released {stage : Stage} (hstage : stage ≠ .received) {requests : List Request}
      (h : requests = [] ∨ requests = [.release]) : Agree .releasing (some stage) requests []
  | completed : Agree .releasing none [] [.complete]

section Steps

variable {phase : Phase} {stage : Option Stage} {requests : List Request} {replies : List Reply}

/-! ## The sender -/

/-- A new message is offered. -/
theorem Agree.start (h : Agree .idle stage requests replies) :
    Agree .offering stage (requests ++ [.offer]) replies := by
  cases h
  exact .offered (by simp) (.inr rfl)

/-- No reply is in flight while no message is in progress. -/
theorem Agree.replies_of_idle (h : Agree .idle stage requests replies) : replies = [] := by
  cases h
  rfl

/-- The sender gets a reply, and sends on. -/
theorem Agree.take {reply : Reply} (h : Agree phase stage requests (reply :: replies)) :
    Agree (phase.take reply).1 stage (requests ++ (phase.take reply).2) replies := by
  cases h with
  | confirmed => exact .released (by simp) (.inr rfl)
  | completed => exact .idle

/-! ## The receiver -/

/-- A request is accepted, and its reply, if it could be sent, is in flight. -/
theorem Agree.handle {request : Request} (h : Agree phase stage (request :: requests) replies)
    (sent : Bool) : ∃ stage', FourWay.handle sent stage request = some stage' ∧
      Agree phase stage' requests (if sent then replies ++ [request.reply] else replies) := by
  cases h with
  | @offered stage hstage _ h =>
    obtain ⟨rfl, rfl⟩ := List.cons.inj (h.resolve_left (List.cons_ne_nil _ _))
    cases sent with
    | true =>
      refine ⟨some .confirmed, ?_, .confirmed⟩
      cases stage with
      | none => rfl
      | some stage => cases stage <;> first | rfl | exact absurd rfl hstage
    | false =>
      cases stage with
      | none => exact ⟨_, rfl, .offered (by simp) (.inl rfl)⟩
      | some stage =>
        cases stage with
        | received => exact ⟨_, rfl, .offered (by simp) (.inl rfl)⟩
        | confirmed => exact ⟨_, rfl, .offered (by simp) (.inl rfl)⟩
        | released => exact absurd rfl hstage
  | @released stage hstage _ h =>
    obtain ⟨rfl, rfl⟩ := List.cons.inj (h.resolve_left (List.cons_ne_nil _ _))
    have hhandle : FourWay.handle sent (some stage) .release =
        some (if sent then none else some .released) := by
      cases stage <;> first | rfl | exact absurd rfl hstage
    refine ⟨_, hhandle, ?_⟩
    cases sent with
    | true => exact .completed
    | false => exact .released (by simp) (.inl rfl)

/-! ## The link -/

/-- Replies that are no completions may be lost, and with them any of the last requests. -/
theorem Agree.lose (h : Agree phase stage requests replies) (hkept : .complete ∉ replies)
    {requests' : List Request} (hfirst : requests' <+: requests) :
    Agree phase stage requests' [] := by
  have hshort : ∀ request : Request, requests = [] ∨ requests = [request] →
      requests' = [] ∨ requests' = [request] := by
    rintro request (rfl | rfl)
    · exact .inl (List.prefix_nil.1 hfirst)
    · exact (List.prefix_cons_iff.1 hfirst).imp id fun ⟨l, hl, hnil⟩ => by
        rw [hl, List.prefix_nil.1 hnil]
  cases h with
  | idle => rw [List.prefix_nil.1 hfirst]; exact .idle
  | offered hstage h => exact .offered hstage (hshort _ h)
  | confirmed => exact .offered (by simp) (.inl (List.prefix_nil.1 hfirst))
  | released hstage h => exact .released hstage (hshort _ h)
  | completed => exact absurd (List.mem_singleton.2 rfl) hkept

/-- The sender repeats what is not answered. -/
theorem Agree.resend (h : Agree phase stage requests []) :
    Agree phase stage phase.request.toList [] := by
  cases h with
  | idle => exact .idle
  | offered hstage => exact .offered hstage (.inr rfl)
  | released hstage => exact .released hstage (.inr rfl)

end Steps

end FourWay

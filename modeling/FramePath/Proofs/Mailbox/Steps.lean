import FramePath.Mailbox

/-!
# What a step of a mailbox can do

`Advanced` lists the five things that a step of a consumer can be, and `advanced` says that every step
is one of them; whatever a step preserves is proved by these cases. A close lets the call in progress
go on as steps do, so `close_advance` reduces it to steps and the close of a mailbox without a call.
`close_of_calls` is the rule that follows from it.
-/

namespace FramePath

namespace Mailbox

/-- Why the next envelope is going to find no consumer, if it is: there is none, and the host is to refuse the
start of one. -/
def obstacle {κ : Type} (mailbox : Mailbox κ) : Option String :=
  if mailbox.transport.isOpen then none else mailbox.refusal

variable {σ κ : Type} [recipient : Recipient σ κ]

/-- `Advanced before state after next` says that one step of the consumer leads from the mailbox `before`
and the recipient's state `state` to `after` and `next`. -/
inductive Advanced : Mailbox κ → σ → Mailbox κ → σ → Prop where
  | resting (mailbox state) : mailbox.isIdle = true → Advanced mailbox state mailbox state
  | taken (envelope queue tally refusal state) :
      Advanced ⟨.running none (envelope :: queue), tally, refusal⟩ state
        ⟨.running (some (recipient.start envelope)) queue, tally, refusal⟩ state
  | waiting (call next queue tally refusal state after) :
      recipient.resume call state = (.waiting next, after) →
      Advanced ⟨.running (some call) queue, tally, refusal⟩ state
        ⟨.running (some next) queue, tally, refusal⟩ after
  | returned (call queue tally refusal state after) :
      recipient.resume call state = (.returned, after) →
      Advanced ⟨.running (some call) queue, tally, refusal⟩ state
        ⟨.running none queue, tally.countHandled (recipient.envelope call), refusal⟩ after
  | failed (call queue tally refusal state after) :
      recipient.resume call state = (.failed, after) →
      Advanced ⟨.running (some call) queue, tally, refusal⟩ state
        ⟨.crashed, tally, refusal⟩ (disposeAll queue after)

/-- Every step of a consumer is one of the five. -/
theorem advanced (mailbox : Mailbox κ) (state : σ) :
    Advanced mailbox state (mailbox.advance state).1 (mailbox.advance state).2 := by
  obtain ⟨transport, tally, refusal⟩ := mailbox
  cases transport with
  | absent => exact .resting _ _ rfl
  | crashed => exact .resting _ _ rfl
  | running call queue =>
    cases call with
    | none =>
      cases queue with
      | nil => exact .resting _ _ rfl
      | cons envelope queue => exact .taken envelope queue tally refusal state
    | some call =>
      simp only [advance]
      cases hgoing : recipient.resume call state with
      | mk progress after =>
        cases progress with
        | waiting next => exact .waiting call next queue tally refusal state after hgoing
        | returned => exact .returned call queue tally refusal state after hgoing
        | failed => exact .failed call queue tally refusal state after hgoing

/-- A call that goes on to another call point comes to the same end. -/
theorem finish_of_waiting {call next : κ} {state after : σ}
    (hgoing : recipient.resume call state = (.waiting next, after)) :
    finish call state = finish next after := by
  have hlower := recipient.rank_resume hgoing
  rw [finish, finishWithin, hgoing]
  exact finishWithin_of_rank_lt after hlower

/-- A call that returns comes to its end. -/
theorem finish_of_returned {call : κ} {state after : σ}
    (hgoing : recipient.resume call state = (.returned, after)) :
    finish call state = (true, after) := by
  rw [finish, finishWithin, hgoing]

/-- A call that fails does not come to its end. -/
theorem finish_of_failed {call : κ} {state after : σ}
    (hgoing : recipient.resume call state = (.failed, after)) :
    finish call state = (false, after) := by
  rw [finish, finishWithin, hgoing]

/-- While a call is in progress, closing now and closing after one more step come to the same. -/
theorem close_advance {mailbox : Mailbox κ} {call : κ} (state : σ)
    (hcall : mailbox.transport.call? = some call) :
    (mailbox.advance state).1.close (mailbox.advance state).2 = mailbox.close state := by
  have hstep := advanced mailbox state
  generalize (mailbox.advance state).1 = after, (mailbox.advance state).2 = next at hstep
  cases hstep with
  | resting _ _ hrest => simp [isIdle, hcall] at hrest
  | taken => cases hcall
  | waiting _ _ _ _ _ _ _ hgoing =>
    simp only [close, closed, finish_of_waiting hgoing, recipient.envelope_resume hgoing]
  | returned _ _ _ _ _ _ hgoing => simp only [close, closed, finish_of_returned hgoing]
  | failed _ _ _ _ _ _ hgoing => simp only [close, closed, finish_of_failed hgoing]

/-- The queue behind a call in progress waits while the call goes on, or is lost with it; nothing is discarded
meanwhile. -/
theorem advance_queue {mailbox : Mailbox κ} {call : κ} (state : σ)
    (hcall : mailbox.transport.call? = some call) :
    (mailbox.advance state).1.tally.discarded = mailbox.tally.discarded ∧
      ((∃ next, (mailbox.advance state).1.transport = .running next mailbox.transport.queue) ∨
        (mailbox.advance state).1.transport = .crashed) := by
  have hstep := advanced mailbox state
  generalize (mailbox.advance state).1 = after, (mailbox.advance state).2 = next at hstep
  cases hstep with
  | resting _ _ hrest => simp [isIdle, hcall] at hrest
  | taken => cases hcall
  | waiting call next => exact ⟨rfl, .inl ⟨some next, rfl⟩⟩
  | returned call =>
    refine ⟨?_, .inl ⟨none, rfl⟩⟩
    cases recipient.envelope call <;> rfl
  | failed => exact ⟨rfl, .inr rfl⟩

/-- What holds before a close, is kept by the steps of the call in progress, and from a mailbox without a
call leads through the close to `closed`, leads through every close to `closed`. -/
theorem close_of_calls {kept : Mailbox κ → σ → Prop} {closed : Mailbox κ × σ → Prop}
    (hstep : ∀ mailbox state, mailbox.transport.call?.isSome = true → kept mailbox state →
      kept (mailbox.advance state).1 (mailbox.advance state).2)
    (hquiet : ∀ mailbox state, mailbox.transport.call? = none → kept mailbox state →
      closed (mailbox.close state))
    (mailbox : Mailbox κ) (state : σ) (hkept : kept mailbox state) :
    closed (mailbox.close state) := by
  -- The induction is on the work ahead, which every step of a call makes less.
  generalize hwork : mailbox.work σ = work
  induction work using Nat.strongRecOn generalizing mailbox state with
  | _ work ih =>
    cases hcall : mailbox.transport.call? with
    | none => exact hquiet mailbox state hcall hkept
    | some call =>
      have hbusy : mailbox.isIdle = false := by simp [isIdle, hcall]
      have hless := work_advance_lt state hbusy
      rw [← close_advance state hcall]
      exact ih _ (hwork ▸ hless) _ _ (hstep mailbox state (by simp [hcall]) hkept) rfl

end Mailbox

end FramePath

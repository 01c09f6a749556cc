import FramePath.Proofs.Mailbox.Shifts

/-!
# Recipients that take notes

What a mailbox does to its recipient is to call it with envelopes, to let go of envelopes and to drain it. A `Noted`
recipient is any other that writes all of it down; an envelope is noted as called when the other recipient is first
called with it, which is later than it was taken from the queue. It goes on as the other does: a run with the notes is
the run without them (`Watched.forget_run`).
-/

namespace FramePath

/-- The same progress, of calls that are seen otherwise. -/
def Progress.map {κ γ : Type} (see : κ → γ) : Progress κ → Progress γ
  | waiting call => waiting (see call)
  | returned => returned
  | failed => failed

/-- The same transport, of calls that are seen otherwise. -/
def Transport.map {κ γ : Type} (see : κ → γ) : Transport κ → Transport γ
  | absent => absent
  | running call queue => running (call.map see) queue
  | crashed => crashed

namespace Mailbox

/-- A recipient's state with notes, each in order: the envelopes it was called with, those whose calls returned, those
that were let go of, and the number of times it was drained. -/
structure Noted (σ : Type) where
  state : σ
  called : List Envelope
  returned : List Envelope
  dropped : List Envelope
  drains : Nat

/-- A call, and whether the recipient has been called with its envelope. A call that was just taken has not begun. -/
structure Noted.Call (κ : Type) where
  call : κ
  begun : Bool

variable {σ κ : Type} [recipient : Recipient σ κ]

namespace Noted

/-- Nothing noted yet. -/
def blank (state : σ) : Noted σ := ⟨state, [], [], [], 0⟩

/-- The envelope with which the recipient is going to be called, if the call has not begun. -/
def Call.opening (σ : Type) {κ : Type} [recipient : Recipient σ κ] (going : Call κ) : List Envelope :=
  if going.begun then [] else [recipient.envelope going.call]

/-- The envelope that is dealt with when a call has gone on so, if it returned. -/
def returnedWith (σ : Type) {κ : Type} [recipient : Recipient σ κ] (call : κ) :
    Progress κ → List Envelope
  | .returned => [recipient.envelope call]
  | _ => []

/-- The envelope that is let go of when a call has gone on so: its own, if it failed. -/
def lostWith (σ : Type) {κ : Type} [recipient : Recipient σ κ] (call : κ) :
    Progress κ → List Envelope
  | .failed => [recipient.envelope call]
  | _ => []

/-- Go on with a call. -/
def resume (going : Call κ) (noted : Noted σ) : Progress (Call κ) × Noted σ :=
  let (progress, state) := recipient.resume going.call noted.state
  (progress.map (⟨·, true⟩),
    { noted with
      state
      called := noted.called ++ going.opening σ
      returned := noted.returned ++ returnedWith σ going.call progress
      dropped := noted.dropped ++ lostWith σ going.call progress })

/-- A call that comes to another call point does so without the notes, and has begun. -/
theorem resume_waiting {going next : Call κ} {noted after : Noted σ}
    (hgoing : resume going noted = (.waiting next, after)) :
    recipient.resume going.call noted.state = (.waiting next.call, after.state) ∧ next.begun = true ∧
      after = { noted with state := after.state, called := noted.called ++ going.opening σ } := by
  obtain ⟨progress, state, hplain⟩ :
      ∃ progress state, recipient.resume going.call noted.state = (progress, state) := ⟨_, _, rfl⟩
  simp only [resume, hplain] at hgoing
  cases progress <;> cases hgoing
  simp [hplain, returnedWith, lostWith]

/-- A call that returns does so without the notes. -/
theorem resume_returned {going : Call κ} {noted after : Noted σ}
    (hgoing : resume going noted = (.returned, after)) :
    recipient.resume going.call noted.state = (.returned, after.state) ∧
      after = { noted with
        state := after.state
        called := noted.called ++ going.opening σ
        returned := noted.returned ++ [recipient.envelope going.call] } := by
  obtain ⟨progress, state, hplain⟩ :
      ∃ progress state, recipient.resume going.call noted.state = (progress, state) := ⟨_, _, rfl⟩
  simp only [resume, hplain] at hgoing
  cases progress <;> cases hgoing
  simp [hplain, returnedWith, lostWith]

/-- A call that fails does so without the notes. -/
theorem resume_failed {going : Call κ} {noted after : Noted σ}
    (hgoing : resume going noted = (.failed, after)) :
    recipient.resume going.call noted.state = (.failed, after.state) ∧
      after = { noted with
        state := after.state
        called := noted.called ++ going.opening σ
        dropped := noted.dropped ++ [recipient.envelope going.call] } := by
  obtain ⟨progress, state, hplain⟩ :
      ∃ progress state, recipient.resume going.call noted.state = (progress, state) := ⟨_, _, rfl⟩
  simp only [resume, hplain] at hgoing
  cases progress <;> cases hgoing
  simp [hplain, returnedWith, lostWith]

/-- The other recipient, with notes. -/
instance : Recipient (Noted σ) (Call κ) where
  start envelope := ⟨recipient.start envelope, false⟩
  envelope going := recipient.envelope going.call
  resume := resume
  dispose noted envelope :=
    { noted with
      state := recipient.dispose noted.state envelope, dropped := noted.dropped ++ [envelope] }
  drained noted :=
    { noted with state := recipient.drained noted.state, drains := noted.drains + 1 }
  rank going := recipient.rank going.call
  envelope_start := recipient.envelope_start
  envelope_resume going := recipient.envelope_resume (resume_waiting going).1
  rank_resume going := recipient.rank_resume (resume_waiting going).1

/-- A queue is let go of in its order. -/
theorem disposeAll_eq (queue : List Envelope) (noted : Noted σ) :
    disposeAll queue noted =
      { noted with
        state := disposeAll queue noted.state, dropped := noted.dropped ++ queue } := by
  induction queue generalizing noted with
  | nil => rw [List.append_nil]; rfl
  | cons envelope queue ih =>
    refine (ih _).trans ?_
    show Noted.mk _ _ _ ((noted.dropped ++ [envelope]) ++ queue) _ = _
    rw [List.append_assoc]
    rfl

end Noted

/-- An act on a recipient, with notes that stay as they are. -/
def Act.noted : Act σ → Act (Noted σ)
  | .send envelope => .send envelope
  | .close => .close
  | .drop => .drop
  | .advance => .advance
  | .bar refusal => .bar refusal
  | .stir change => .stir fun noted => { noted with state := change noted.state }

/-- The mailbox without the notes. -/
def plain (mailbox : Mailbox (Noted.Call κ)) : Mailbox κ :=
  ⟨mailbox.transport.map Noted.Call.call, mailbox.tally, mailbox.refusal⟩

/-- A consumer that has nothing to do stays as it is. -/
theorem advance_of_idle {mailbox : Mailbox κ} (hidle : mailbox.isIdle = true) (state : σ) :
    mailbox.advance state = (mailbox, state) := by
  obtain ⟨transport, tally, refusal⟩ := mailbox
  cases transport with
  | absent => rfl
  | crashed => rfl
  | running call queue =>
    obtain ⟨rfl, rfl⟩ : call = none ∧ queue = [] := by
      simpa [isIdle, Transport.call?, Transport.queue] using hidle
    rfl

omit recipient in
/-- A consumer is as idle without the notes. -/
theorem isIdle_plain (mailbox : Mailbox (Noted.Call κ)) : mailbox.plain.isIdle = mailbox.isIdle := by
  obtain ⟨transport, tally, refusal⟩ := mailbox
  rcases transport with _ | ⟨_ | call, queue⟩ | _ <;> rfl

/-- A step of the consumer with notes is the step without them. -/
theorem advance_noted (mailbox : Mailbox (Noted.Call κ)) (noted : Noted σ) :
    mailbox.plain.advance noted.state =
      ((mailbox.advance noted).1.plain, (mailbox.advance noted).2.state) := by
  have hstep := advanced mailbox noted
  generalize mailbox.advance noted = moved at hstep ⊢
  obtain ⟨after, next⟩ := moved
  dsimp only at hstep ⊢
  cases hstep with
  | resting _ _ hidle => exact advance_of_idle (mailbox.isIdle_plain.trans hidle) noted.state
  | taken => rfl
  | waiting _ _ _ _ _ _ _ hgoing =>
    simp only [advance, plain, Transport.map, Option.map_some, (Noted.resume_waiting hgoing).1]
  | returned _ _ _ _ _ _ hgoing =>
    simp only [advance, plain, Transport.map, Option.map_some, (Noted.resume_returned hgoing).1]
    rfl
  | failed _ _ _ _ _ _ hgoing =>
    simp only [advance, plain, Transport.map, Option.map_some, (Noted.resume_failed hgoing).1]
    rw [Noted.disposeAll_eq]

/-- What is in hand is the same without the notes. -/
theorem hand_plain (transport : Transport (Noted.Call κ)) :
    (transport.map Noted.Call.call).hand σ = transport.hand (Noted σ) := by
  rcases transport with _ | ⟨_ | call, queue⟩ | _ <;> rfl

/-- What a step shows is the same without the notes. -/
theorem Shift.observe_plain (before after : Transport (Noted.Call κ)) (shift : Shift) :
    shift.observe σ (before.map Noted.Call.call) (after.map Noted.Call.call) =
      shift.observe (Noted σ) before after := by
  unfold Shift.observe
  rw [hand_plain, hand_plain]
  have hcrashed : (after.map Noted.Call.call).isCrashed = after.isCrashed := by cases after <;> rfl
  rw [hcrashed]

namespace Watched

/-- A mailbox under watch without the notes of its recipient. -/
def forget (watched : Watched (Noted σ) (Noted.Call κ)) : Watched σ κ :=
  ⟨watched.mailbox.plain, watched.state.state, watched.past, watched.present⟩

/-- A step of the consumer, without the notes. -/
theorem forget_advance (watched : Watched (Noted σ) (Noted.Call κ)) :
    watched.advance.forget = watched.forget.advance := by
  obtain ⟨mailbox, noted, past, present⟩ := watched
  have hsame := advance_noted mailbox noted
  unfold Watched.advance forget
  dsimp only
  rw [hsame]
  refine congrArg (Watched.mk _ _ past) ?_
  exact congrArg (Option.map · present) (funext fun shift => (Shift.observe_plain _ _ shift).symm)

/-- An envelope that is sent, without the notes. -/
theorem forget_send (envelope : Envelope) (watched : Watched (Noted σ) (Noted.Call κ)) :
    (watched.send envelope).forget = watched.forget.send envelope := by
  obtain ⟨⟨transport, tally, refusal⟩, noted, past, present⟩ := watched
  cases transport with
  | absent => cases refusal <;> rfl
  | running call queue => rfl
  | crashed => rfl

/-- A close without a call in progress, without the notes. -/
theorem forget_close_quiet {watched : Watched (Noted σ) (Noted.Call κ)}
    (hquiet : watched.mailbox.transport.call? = none) :
    watched.close.forget = watched.forget.close := by
  obtain ⟨⟨transport, tally, refusal⟩, noted, past, present⟩ := watched
  cases transport with
  | absent => rfl
  | crashed => rfl
  | running call queue =>
    cases hquiet
    unfold Watched.close forget Mailbox.close
    dsimp only
    rw [Noted.disposeAll_eq]
    rfl

/-- A close, without the notes. -/
theorem forget_close (watched : Watched (Noted σ) (Noted.Call κ)) :
    watched.close.forget = watched.forget.close := by
  induction watched using call_induction with
  | quiet watched hcall => exact forget_close_quiet hcall
  | step watched going hcall ih =>
    have hplain : watched.forget.mailbox.transport.call? = some going.call := by
      obtain ⟨⟨transport, tally, refusal⟩, noted, past, present⟩ := watched
      cases transport <;> cases hcall
      rfl
    rw [← watched.close_advance hcall, ← watched.forget.close_advance hplain, ← forget_advance]
    exact ih

/-- An act, without the notes. -/
theorem forget_act (watched : Watched (Noted σ) (Noted.Call κ)) (act : Act σ) :
    (watched.act act.noted).forget = watched.forget.act act := by
  cases act with
  | send envelope => exact forget_send envelope watched
  | close => exact forget_close watched
  | drop => exact forget_close watched
  | advance => exact forget_advance watched
  | bar refusal => rfl
  | stir change => rfl

/-- A run, without the notes. -/
theorem forget_run (watched : Watched (Noted σ) (Noted.Call κ)) (acts : List (Act σ)) :
    (watched.run (acts.map Act.noted)).forget = watched.forget.run acts := by
  induction acts generalizing watched with
  | nil => rfl
  | cons act acts ih =>
    refine (ih (watched.act act.noted)).trans ?_
    rw [forget_act]
    rfl

end Watched

end Mailbox

end FramePath

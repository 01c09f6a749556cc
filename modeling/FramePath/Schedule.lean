import FramePath.Mailbox

/-!
# Schedules

Left alone, a consumer works until it is idle or dead. A gate can hold it at a call point instead: it
parks there until it is let go. `settle` is this schedule. It is one of many; the steps it is made
of are those of `Mailbox.advance`.
-/

namespace FramePath

/-- How a consumer was left: whether it is parked at a call point, the gate after that, and the
mailbox with the state that its recipient works on. -/
structure Settled (γ σ κ : Type) where
  parked : Bool
  gate : γ
  mailbox : Mailbox κ
  state : σ

namespace Mailbox

variable {γ σ κ : Type} [recipient : Recipient σ κ]

/-- Let the consumer take up to `fuel` steps. `hold` says whether a gate holds a call where it
stands, and what becomes of the gate. -/
def settleWithin (hold : κ → γ → Option γ) :
    Nat → γ → Mailbox κ → σ → Settled γ σ κ
  | 0, gate, mailbox, state => ⟨false, gate, mailbox, state⟩
  | fuel + 1, gate, mailbox, state =>
    if mailbox.isIdle then ⟨false, gate, mailbox, state⟩
    else
      let (mailbox, state) := mailbox.advance state
      match mailbox.transport.call?.bind (hold · gate) with
      | some gate => ⟨true, gate, mailbox, state⟩
      | none => settleWithin hold fuel gate mailbox state

/-- Let the consumer work until it is idle, dead or held by a gate. -/
def settle (hold : κ → γ → Option γ) (gate : γ) (mailbox : Mailbox κ) (state : σ) :
    Settled γ σ κ :=
  settleWithin hold (mailbox.work σ) gate mailbox state

/-- A consumer that is not parked has nothing left to do. -/
theorem isIdle_settle (hold : κ → γ → Option γ) (gate : γ) (mailbox : Mailbox κ) (state : σ)
    (going : (mailbox.settle hold gate state).parked = false) :
    (mailbox.settle hold gate state).mailbox.isIdle = true := by
  unfold settle at going ⊢
  generalize hfuel : mailbox.work σ = fuel at going ⊢
  have enough : mailbox.work σ ≤ fuel := by omega
  clear hfuel
  induction fuel generalizing mailbox state gate with
  | zero =>
    cases idle : mailbox.isIdle with
    | true => exact idle
    | false =>
      have less := work_advance_lt state idle
      omega
  | succ fuel ih =>
    unfold settleWithin at going ⊢
    cases idle : mailbox.isIdle with
    | true => simp [idle]
    | false =>
      have less := work_advance_lt state idle
      simp only [idle, Bool.false_eq_true, if_false] at going ⊢
      split at going
      · cases going
      · exact ih gate _ _ going (by omega)

end Mailbox

end FramePath

import FramePath.Lease
import FramePath.Schedule

/-!
# A recording recipient

The recorder writes down every envelope it is called with, and may keep the latest frame. It has one
call point in each call, after the entry and before the frame is kept, where a fault can be put.
`Recording` is a mailbox with a recorder, which can be closed for good.
-/

namespace FramePath

namespace Recorder

/-- Where a call of the recorder stands: just taken, or at the call point after its entry. -/
inductive Call where
  | taken (envelope : Envelope)
  | entered (envelope : Envelope)
  deriving DecidableEq, Repr

/-- The kinds of call points. -/
inductive Point where
  | frame
  | visibility
  deriving DecidableEq, Repr

/-- The call point that the call for an envelope passes. -/
def Point.of : Envelope → Point
  | .frame .. => frame
  | .visibility _ => visibility

end Recorder

/-- The recorder's state: whether it keeps frames, its entries with the latest first, the frame it
keeps, the leases that are out, how often it was drained, and the call point at which it is to
fail. -/
structure Recorder where
  keeps : Bool
  log : List Envelope
  held : Option SharedFrame
  leases : Leases
  drains : Nat
  fault : Option Recorder.Point
  deriving DecidableEq, Repr

namespace Recorder

/-- A recorder without entries. -/
def initial (keeps : Bool) : Recorder := ⟨keeps, [], none, .none, 0, none⟩

/-- The envelope that a call is for. -/
def Call.envelope : Call → Envelope
  | taken envelope | entered envelope => envelope

/-- Call points ahead of a call. -/
def Call.rank : Call → Nat
  | taken _ => 1
  | entered _ => 0

/-- Let go of some frames. -/
def release (frames : List SharedFrame) (recorder : Recorder) : Recorder :=
  { recorder with leases := recorder.leases.releaseAll frames }

/-- The end of a call: a recorder that keeps frames holds the new one instead of the one before, and
any other lets go of it. -/
def conclude (recorder : Recorder) : Envelope → Recorder
  | .frame frame _ =>
      if recorder.keeps then
        { recorder.release recorder.held.toList with held := some frame }
      else recorder.release [frame]
  | .visibility _ => recorder

/-- Go on with a call. -/
def resume (call : Call) (recorder : Recorder) : Progress Call × Recorder :=
  match call with
  | .taken envelope =>
      (.waiting (.entered envelope), { recorder with log := envelope :: recorder.log })
  | .entered envelope =>
      if recorder.fault = some (.of envelope) then
        (.failed, { recorder with fault := none }.release envelope.frames)
      else (.returned, recorder.conclude envelope)

/-- Let go of the frame kept. -/
def drained (recorder : Recorder) : Recorder :=
  { recorder.release recorder.held.toList with held := none, drains := recorder.drains + 1 }

/-- The recorder handles envelopes by its calls. -/
instance : Recipient Recorder Call where
  start := .taken
  envelope := Call.envelope
  resume := resume
  dispose recorder envelope := recorder.release envelope.frames
  drained := drained
  rank := Call.rank
  envelope_start _ := rfl
  envelope_resume {call next state after} going := by
    cases call with
    | taken envelope => cases going; rfl
    | entered envelope => simp only [resume] at going; split at going <;> simp at going
  rank_resume {call next state after} going := by
    cases call with
    | taken envelope => cases going; exact Nat.zero_lt_one
    | entered envelope => simp only [resume] at going; split at going <;> simp at going

end Recorder

/-- A mailbox with a recorder, the gate armed for its calls, and whether its consumer is parked. Once
dropped, it is closed and takes nothing any more. -/
structure Recording where
  mailbox : Mailbox Recorder.Call
  recorder : Recorder
  gate : Option Recorder.Point
  parked : Bool
  dropped : Bool

namespace Recording

/-- A mailbox that was never used. -/
def initial (keeps : Bool) : Recording := ⟨.initial, .initial keeps, none, false, false⟩

/-- A gate holds a call at the call point it is armed for, and fires once. -/
def hold (call : Recorder.Call) (gate : Option Recorder.Point) :
    Option (Option Recorder.Point) :=
  match call with
  | .taken _ => none
  | .entered envelope => if gate = some (.of envelope) then some none else none

/-- Let the consumer work, unless it is parked. -/
def settle (recording : Recording) : Recording :=
  if recording.parked then recording
  else
    let settled := recording.mailbox.settle hold recording.gate recording.recorder
    { recording with
      mailbox := settled.mailbox
      recorder := settled.state
      gate := settled.gate
      parked := settled.parked }

/-- The recorder with a lease taken for each frame in an envelope. -/
def leasing (envelope : Envelope) (recorder : Recorder) : Recorder :=
  { recorder with
    leases := envelope.frames.foldl (fun leases frame => leases.take frame) recorder.leases }

/-- Send an envelope and let the consumer work. -/
def send (envelope : Envelope) (recording : Recording) :
    Except DisplayError Unit × Recording :=
  let (result, mailbox, recorder) :=
    recording.mailbox.send envelope (leasing envelope recording.recorder)
  (result, { recording with mailbox, recorder }.settle)

/-- Close the mailbox. -/
def close (recording : Recording) : Recording :=
  let (mailbox, recorder) := recording.mailbox.close recording.recorder
  { recording with mailbox, recorder, parked := false }

/-- Close the mailbox for good. -/
def drop (recording : Recording) : Recording :=
  { recording.close with dropped := true }

/-- Arm the gate for a call point. -/
def armGate (point : Recorder.Point) (recording : Recording) : Recording :=
  { recording with gate := some point }

/-- Disarm the gate and let a parked consumer go on. -/
def openGate (recording : Recording) : Recording :=
  { recording with gate := none, parked := false }.settle

/-- Let the recorder fail the next time it comes to a call point. -/
def armFault (point : Recorder.Point) (recording : Recording) : Recording :=
  { recording with recorder := { recording.recorder with fault := some point } }

/-- Number of references to the frame with this mark. -/
def references (mark : Nat) (recording : Recording) : Nat := recording.recorder.leases.count mark

/-- The frames in the mailbox and the one kept. -/
def frames (recording : Recording) : List SharedFrame :=
  recording.mailbox.frames Recorder ++ recording.recorder.held.toList

end Recording

end FramePath

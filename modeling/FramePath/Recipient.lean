import FramePath.Envelope

/-!
# Who opens the envelopes

A recipient handles one envelope at a time. Handling is a call that passes through call points, where
it may stand for any time while its surroundings go on; between two call points it is not
interrupted. `Recipient` gives the call that an envelope starts and how a call goes on from where it
stands. The rank of a call bounds the call points ahead of it, so every call ends. A call owns its
envelope: whether it returns or fails, it has let go of it or put it away by then.
-/

namespace FramePath

/-- How a call has gone on. -/
inductive Progress (κ : Type) where
  /-- It stands at its next call point. -/
  | waiting (call : κ)
  /-- It came to its end. -/
  | returned
  /-- It failed, and takes the consumer with it. -/
  | failed

/-- A handler of envelopes that works on states `σ` through calls `κ`. -/
class Recipient (σ : Type) (κ : outParam Type) where
  /-- The call for an envelope that was just taken, before anything is done for it. -/
  start : Envelope → κ
  /-- The envelope that a call is for. -/
  envelope : κ → Envelope
  /-- Go on to the next call point or to the end. -/
  resume : κ → σ → Progress κ × σ
  /-- Let go of an envelope that will not be handled. -/
  dispose : σ → Envelope → σ
  /-- Let go of what is still held when the mailbox is closed. -/
  drained : σ → σ
  /-- A bound on the call points ahead. -/
  rank : κ → Nat
  envelope_start (taken : Envelope) : envelope (start taken) = taken
  envelope_resume {call next : κ} {state after : σ}
    (going : resume call state = (.waiting next, after)) : envelope next = envelope call
  rank_resume {call next : κ} {state after : σ}
    (going : resume call state = (.waiting next, after)) : rank next < rank call

end FramePath

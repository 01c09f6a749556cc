/-!
# The lifecycle of a sink

A sink is in one of four run states, ordered from idle to running, and moves along six transitions.
A transition is carried out whatever state the sink is in; the state afterwards is its target.
-/

namespace FramePath

/-- How far a sink has been started. -/
inductive RunState where
  | null
  | ready
  | paused
  | playing
  deriving DecidableEq, Repr, Inhabited

namespace RunState

/-- Place of the state in the order from idle to running. -/
def number : RunState → Nat
  | null => 0
  | ready => 1
  | paused => 2
  | playing => 3

/-- States are compared by their places. -/
instance : Ord RunState := ⟨fun a b => compare a.number b.number⟩

/-- Frames may be shown from the paused state upwards. -/
def canRender (state : RunState) : Bool := paused.number ≤ state.number

end RunState

/-- One step between neighbouring run states. -/
inductive Transition where
  | nullToReady
  | readyToPaused
  | pausedToPlaying
  | playingToPaused
  | pausedToReady
  | readyToNull
  deriving DecidableEq, Repr, Inhabited

namespace Transition

/-- The state after the transition. -/
def target : Transition → RunState
  | nullToReady | pausedToReady => .ready
  | readyToPaused | playingToPaused => .paused
  | pausedToPlaying => .playing
  | readyToNull => .null

/-- The transitions that leave the states in which frames flow, so that frame memory is given back. -/
def isTeardown : Transition → Bool
  | pausedToReady | readyToNull => true
  | _ => false

/-- The transition with this number, in the order from start to stop. -/
def ofNumber? (number : UInt32) : Option Transition :=
  match number with
  | 0 => some nullToReady
  | 1 => some readyToPaused
  | 2 => some pausedToPlaying
  | 3 => some playingToPaused
  | 4 => some pausedToReady
  | 5 => some readyToNull
  | _ => none

/-- A transition that tears down ends below the states in which frames may be shown. -/
theorem canRender_of_isTeardown {transition : Transition} (teardown : transition.isTeardown = true) :
    transition.target.canRender = false := by
  cases transition <;> simp_all [isTeardown, target, RunState.canRender, RunState.number]

end Transition

end FramePath

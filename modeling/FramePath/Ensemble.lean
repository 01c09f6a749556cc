import FramePath.Roster
import FramePath.Schedule
import FramePath.Sink.Display

/-!
# Several sinks on one scene

An ensemble is a scene with the display sinks that work on it, all members of one roster. After
everything that is done at a seat, its consumer works until it is idle, dead, or held by the gate at
a call point of some surface. There is one gate and one fault for all surfaces: arming either of them
again takes it away from where it was.
-/

namespace FramePath

/-- A sink, and whether its consumer is parked at the gate. -/
structure Seat where
  display : Sink.Display
  parked : Bool

/-- A scene, its sinks by their places, their roster, and the call point at which the gate is
armed. -/
structure Ensemble where
  scene : Scene
  seats : List (Option Seat)
  roster : Roster
  gate : Option CallPoint

namespace Ensemble

/-- Surfaces without sinks. -/
def ofSurfaces (surfaces : List Surface) : Ensemble :=
  { scene := .ofSurfaces surfaces
    seats := []
    roster := .empty
    gate := none }

/-- The sink at a place, unless it is gone. -/
def seat? (ensemble : Ensemble) (place : Nat) : Option Seat := ensemble.seats[place]?.join

/-- Change a seat. -/
def putSeat (place : Nat) (seat : Seat) (ensemble : Ensemble) : Ensemble :=
  { ensemble with seats := ensemble.seats.set place (some seat) }

/-- The gate holds a call at the call point it is armed for, and fires once. -/
def hold (call : Renderer.Call) (gate : Option CallPoint) : Option (Option CallPoint) :=
  match call.point? with
  | none => none
  | some point => if gate = some point then some none else none

/-- Let the consumer at a place work, unless it is parked. -/
def settle (place : Nat) (ensemble : Ensemble) : Ensemble :=
  match ensemble.seat? place with
  | none | some ⟨_, true⟩ => ensemble
  | some ⟨display, false⟩ =>
      let desk : Desk := ⟨ensemble.scene, display.presenter⟩
      let settled :=
        desk.presenter.mailbox.settle hold ensemble.gate desk.backstage
      let desk := desk.afterMail settled.mailbox settled.state
      let seat : Seat := ⟨{ display with presenter := desk.presenter }, settled.parked⟩
      { ensemble with scene := desk.scene, gate := settled.gate }.putSeat place seat

/-- Do something with the sink at a place, and let its consumer work. A sink that is gone does
nothing. -/
def visit {α : Type} (place : Nat)
    (work : Scene → Sink.Display → α × Scene × Sink.Display) (ensemble : Ensemble) :
    Option α × Ensemble :=
  match ensemble.seat? place with
  | none => (none, ensemble)
  | some seat =>
      let (result, scene, display) := work ensemble.scene seat.display
      let parked := seat.parked && display.presenter.mailbox.transport.call?.isSome
      (some result, ({ ensemble with scene }.putSeat place ⟨display, parked⟩).settle place)

/-- Add a sink: it joins the roster and gets a binding. -/
def addSink (setup : Sink.DisplaySetup) (ensemble : Ensemble) : Ensemble :=
  let place := ensemble.seats.length
  let bindings := ensemble.scene.bindings ++ [some .initial]
  let (scene, display) := Sink.Display.new setup place { ensemble.scene with bindings }
  { ensemble with
    scene
    seats := ensemble.seats ++ [some ⟨display, false⟩]
    roster := ensemble.roster.join.2 }

/-- Drop a sink: it is torn down, its binding goes, and it leaves the roster. -/
def dropSink (place : Nat) (ensemble : Ensemble) : Ensemble :=
  match ensemble.seat? place with
  | none => ensemble
  | some seat =>
      let (scene, _) := Sink.Display.workAtDesk Desk.teardown ensemble.scene seat.display
      { ensemble with
        scene := { scene with bindings := scene.bindings.set place none }
        seats := ensemble.seats.set place none
        roster := ensemble.roster.leave }

/-- Drop all sinks in order. -/
def dropAll (ensemble : Ensemble) : Ensemble :=
  (List.range ensemble.seats.length).foldl (fun ensemble place => ensemble.dropSink place)
    ensemble

/-- Arm the gate for a call point. -/
def armGate (point : CallPoint) (ensemble : Ensemble) : Ensemble :=
  { ensemble with gate := some point }

/-- Disarm the gate and let every parked consumer go on. -/
def openGate (ensemble : Ensemble) : Ensemble :=
  let opened : Ensemble := { ensemble with
    gate := none
    seats := ensemble.seats.map (Option.map fun seat => { seat with parked := false }) }
  (List.range opened.seats.length).foldl (fun ensemble place => ensemble.settle place) opened

/-- Let the next caller at a call point fail. -/
def armFault (point : CallPoint) (ensemble : Ensemble) : Ensemble :=
  { ensemble with scene := { ensemble.scene with fault := some point } }

/-- A surface changes its size. -/
def resize (surface : Nat) (size : Size) (ensemble : Ensemble) : Ensemble :=
  { ensemble with scene := ensemble.scene.resize surface size }

/-- A surface is destroyed. -/
def destroy (surface : Nat) (ensemble : Ensemble) : Ensemble :=
  { ensemble with scene := ensemble.scene.destroy surface }

/-- Number of references to the frame with this mark that all sinks hold. -/
def references (mark : Nat) (ensemble : Ensemble) : Nat :=
  (ensemble.seats.map fun seat =>
    (seat.map fun seat => seat.display.presenter.references mark).getD 0).foldr (· + ·) 0

end Ensemble

end FramePath

import FramePath.Presenter

/-!
# The display sink

A presenter with a lifecycle and an agreed stream. It takes packed frames that are just as the stream
was described, and submits them; everything else is refused before it can touch the presenter.
-/

namespace FramePath

namespace Sink

/-- How a display sink is set up. -/
structure DisplaySetup where
  id : Nat
  visible : Bool
  fit : Fit
  deriving DecidableEq, Repr

/-- Number zero, visible, filling the surface. -/
def DisplaySetup.default : DisplaySetup := ⟨0, true, .fill⟩

/-- A presenter, the stream agreed on, and the run state around them. -/
structure Display where
  presenter : Presenter
  description : Option StreamDescription
  state : RunState

namespace Display

/-- A sink that shows frames for a presenter. -/
def ofPresenter (presenter : Presenter) : Display := ⟨presenter, none, .null⟩

/-- Do something at the presenter's desk. -/
def atDesk {α : Type} (work : Desk → α × Desk) (scene : Scene) (sink : Display) :
    α × Scene × Display :=
  let (result, desk) := work ⟨scene, sink.presenter⟩
  (result, desk.scene, { sink with presenter := desk.presenter })

/-- Do something at the presenter's desk that has no result. -/
def workAtDesk (work : Desk → Desk) (scene : Scene) (sink : Display) : Scene × Display :=
  let desk := work ⟨scene, sink.presenter⟩
  (desk.scene, { sink with presenter := desk.presenter })

/-- A new sink, whose binding has this place in the scene. -/
def new (setup : DisplaySetup) (owner : Nat) (scene : Scene) : Scene × Display :=
  workAtDesk
    (fun desk =>
      let desk := desk.setFit setup.fit
      if setup.visible then desk else desk.setVisible false)
    scene (.ofPresenter (.initial setup.id owner))

/-- Bind a surface, or end the binding. Some incidents come in while a surface is bound, before it is and
after. -/
def setSurfaceAmid (unbound bound : List Desk.Incident) (surface : Option Nat) (scene : Scene)
    (sink : Display) : Except DisplayError Unit × Scene × Display :=
  atDesk
    (fun desk =>
      match surface with
      | some surface => desk.bindAmid unbound bound surface
      | none => (.ok (), desk.unbind))
    scene sink

/-- Bind a surface or end the binding while nothing else happens. -/
def setSurface (surface : Option Nat) (scene : Scene) (sink : Display) :
    Except DisplayError Unit × Scene × Display :=
  sink.setSurfaceAmid [] [] surface scene

/-- Agree on a stream of packed frames with pixels. -/
def negotiate (description : StreamDescription) (sink : Display) : Except DisplayError Display :=
  match description.format? with
  | none => .error (.frame (.unsupportedFormat description.code))
  | some format =>
    if format.isPlanar then .error (.unsupportedFormat format)
    else if description.size.isEmpty then .error (.frame (.invalidGeometry description.size))
    else .ok { sink with description := some description }

/-- Check a frame against the agreed stream: format, size and length of the payload in this order. -/
def check (frame : Frame) (sink : Display) : Except DisplayError Unit :=
  match sink.description with
  | none => .error (.frame .notNegotiated)
  | some description =>
    if description.format? ≠ some frame.format then .error (.unsupportedFormat frame.format)
    else if frame.size ≠ description.size then .error (.frame (.invalidGeometry frame.size))
    else if frame.payload.size < frame.expectedBytes then
      .error (.frame (.bufferTooSmall frame.expectedBytes frame.payload.size))
    else .ok ()

/-- Submit a frame that passes the check. -/
def render (frame : SharedFrame) (scene : Scene) (sink : Display) :
    Except DisplayError Admission × Scene × Display :=
  match sink.check frame.frame with
  | .error cause => (.error cause, scene, sink)
  | .ok () => atDesk (fun desk => (desk.submit frame).map .ok id) scene sink

/-- Move along the lifecycle. The last transition tears the presenter down, in the middle of which some
incidents come in, and forgets the stream. -/
def moveAmid (incidents : List Desk.Incident) (transition : Transition) (scene : Scene)
    (sink : Display) : Scene × Display :=
  let state := transition.target
  let sink := { sink with presenter := sink.presenter.withState state }
  match transition with
  | .readyToNull =>
      let (scene, sink) := workAtDesk (Desk.teardownAmid incidents) scene sink
      (scene, { sink with description := none, state })
  | _ => (scene, { sink with state })

/-- Move along the lifecycle while nothing else happens. -/
def move (transition : Transition) (scene : Scene) (sink : Display) : Scene × Display :=
  sink.moveAmid [] transition scene

end Display

end Sink

end FramePath

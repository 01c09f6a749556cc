import FramePath.Proofs.Desk.Deeds

/-!
# A desk under watch

`Watch` keeps the record of a desk: each binding, each accepted frame with what the presenter stood at when
it was submitted, and each showing, which is a frame given to a surface. It follows the desk deed by deed, as an act
such as a teardown may take many steps of the consumer; `desk_run` says that the desk comes out the same.
-/

namespace FramePath

open Renderer (Call)

/-- A frame that was accepted: the binding it was sent for, and the run state and the active source
of the presenter then. -/
structure Accepted where
  frame : SharedFrame
  bond : Bond
  state : RunState
  source : Option Nat

/-- The showing that an accepted frame may come to. -/
def Accepted.showing (accepted : Accepted) : Showing := ⟨accepted.frame, accepted.bond⟩

/-- A desk with its bindings, its accepted frames and its showings, the oldest first. -/
structure Watch where
  desk : Desk
  bonds : List Bond
  accepted : List Accepted
  showings : List Showing

namespace Watch

/-- The record of a new presenter. -/
def opened (surfaces : List Surface) (id : Nat) : Watch := ⟨.opened surfaces id, [], [], []⟩

/-- One step of the consumer. A call that comes to lend a frame or has written it makes a showing. -/
def advance (watch : Watch) : Watch :=
  let desk := watch.desk.advance
  { watch with desk, showings := watch.showings ++ (desk.call?.bind Call.given?).toList }

/-- Submit a frame. -/
def submit (frame : SharedFrame) (watch : Watch) : Watch :=
  match watch.desk.submit frame with
  | (.queued, desk) =>
      let { state, activeSource, .. } := watch.desk.presenter
      let accepted := watch.desk.bond?.map fun bond => ⟨frame, bond, state, activeSource⟩
      { watch with desk, accepted := watch.accepted ++ accepted.toList }
  | (.dropped, desk) => { watch with desk }

/-- Do one deed. A surface is bound under the epoch that follows the current one. -/
def perform (watch : Watch) : Desk.Deed → Watch
  | .attach surface zeroCopy =>
      { watch with
        desk := watch.desk.attach surface zeroCopy
        bonds := watch.bonds ++ [⟨watch.desk.epoch + 1, surface⟩] }
  | .submit frame => watch.submit frame
  | .advance => watch.advance
  | deed => { watch with desk := watch.desk.perform deed }

/-- Do several deeds in order. -/
def performAll (deeds : List Desk.Deed) (watch : Watch) : Watch := deeds.foldl perform watch

/-- Do one act. -/
def act (watch : Watch) (act : Desk.Act) : Watch := watch.performAll (watch.desk.deeds act)

/-- Do several acts in order. -/
def run (acts : List Desk.Act) (watch : Watch) : Watch := acts.foldl act watch

/-- The watch does what the desk does. -/
theorem desk_perform (watch : Watch) (deed : Desk.Deed) :
    (watch.perform deed).desk = watch.desk.perform deed := by
  cases deed with
  | submit frame =>
    show (watch.submit frame).desk = (watch.desk.submit frame).2
    unfold submit
    split <;> next h => rw [h]
  | _ => rfl

theorem desk_performAll (deeds : List Desk.Deed) (watch : Watch) :
    (watch.performAll deeds).desk = watch.desk.performAll deeds := by
  induction deeds generalizing watch with
  | nil => rfl
  | cons deed deeds ih =>
    show ((watch.perform deed).performAll deeds).desk = (watch.desk.perform deed).performAll deeds
    rw [ih, desk_perform]

theorem desk_act (watch : Watch) (act : Desk.Act) : (watch.act act).desk = watch.desk.act act :=
  (desk_performAll _ _).trans (Desk.performAll_deeds _ _)

/-- The watch runs as the desk runs. -/
theorem desk_run (acts : List Desk.Act) (watch : Watch) :
    (watch.run acts).desk = watch.desk.run acts := by
  induction acts generalizing watch with
  | nil => rfl
  | cons act acts ih =>
    show ((watch.act act).run acts).desk = (watch.desk.act act).run acts
    rw [ih, desk_act]

end Watch

end FramePath

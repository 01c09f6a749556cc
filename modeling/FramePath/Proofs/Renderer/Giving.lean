import FramePath.Proofs.Renderer.Steps
import FramePath.Proofs.Scene

/-!
# What a step of the renderer gives to a surface

A call gives its frame to a surface once: when it comes to lend it, or when it has written it. Under every step
the links and the listeners stay as they are; a surface is given a frame only by a call that comes to this point
(`Resumed.given`); and a call has a showing ahead only since its surface was bound under its epoch
(`Resumed.due`).
-/

namespace FramePath

/-- A binding as long as it lasts: the epoch that began with it, and its surface. -/
structure Bond where
  epoch : Nat
  surface : Nat
  deriving DecidableEq, Repr

/-- A frame given to a surface, for a binding of it. -/
structure Showing where
  frame : SharedFrame
  bond : Bond
  deriving DecidableEq, Repr

/-- The envelope in which a shown frame came. -/
def Showing.envelope (showing : Showing) : Envelope := .frame showing.frame showing.bond.epoch

/-- The frames among some showings that one surface was given. -/
def Showing.at (surface : Nat) (showings : List Showing) : List SharedFrame :=
  (showings.filter (·.bond.surface == surface)).map Showing.frame

/-- The frames of some showings and of more. -/
theorem Showing.at_append (surface : Nat) (showings more : List Showing) :
    Showing.at surface (showings ++ more) =
      Showing.at surface showings ++ Showing.at surface more := by
  simp [Showing.at]

/-- One more frame at the surface of a showing. -/
theorem Showing.at_modify (showing : Showing) (surface : Nat) (given : List (List SharedFrame)) :
    (given.modify showing.bond.surface (· ++ [showing.frame]))[surface]? =
      given[surface]?.map (· ++ Showing.at surface [showing]) := by
  rw [List.getElem?_modify]
  by_cases hsurface : showing.bond.surface = surface
  · simp [Showing.at, hsurface]
  · simp [Showing.at, hsurface]

/-- Where nothing is given, every surface has what it had. -/
theorem Scene.given_nothing {scene after : Scene} (hsame : after.given = scene.given) (surface : Nat) :
    after.given[surface]? = scene.given[surface]?.map (· ++ Showing.at surface []) := by
  rw [hsame]
  cases scene.given[surface]? with
  | none => rfl
  | some frames => exact congrArg some (List.append_nil frames).symm

namespace Renderer

/-- The binding for which a job's frame was taken up. -/
def Job.bond (job : Job) : Bond := ⟨job.epoch, job.surface⟩

namespace Call

/-- What a call has given to its surface when it comes to where it stands. -/
def given? : Call → Option Showing
  | marking job | lending job => some ⟨job.frame, job.bond⟩
  | _ => none

/-- The frame that a call still has to give. -/
def pending : Call → List Envelope
  | taken (.frame frame epoch) => [.frame frame epoch]
  | approaching job _ | sizing job | writing job => [.frame job.frame job.epoch]
  | _ => []

/-- The showing that a call may still come to. -/
def due : Call → List Showing
  | approaching job _ | sizing job | writing job => [⟨job.frame, job.bond⟩]
  | _ => []

end Call

end Renderer

namespace Backstage

open Renderer (Job Call)

/-- What a call has given when it has gone on. -/
def givenBy : Progress Call → List Showing
  | .waiting next => next.given?.toList
  | .returned | .failed => []

/-- What a call still has to give when it has gone on. -/
def pendingBy : Progress Call → List Envelope
  | .waiting next => next.pending
  | .returned | .failed => []

/-- The showing to which a call may still come when it has gone on. -/
def dueBy : Progress Call → List Showing
  | .waiting next => next.due
  | .returned | .failed => []

namespace Resumed

variable {call : Call} {stage after : Backstage} {progress : Progress Call}

/-- Whose binding the renderer goes by stays as it is. -/
theorem owner (hresumed : Resumed call stage progress after) :
    after.renderer.owner = stage.renderer.owner := by
  cases hresumed <;> rfl

/-- All links stay as they are. -/
theorem link (hresumed : Resumed call stage progress after) (owner : Nat) :
    after.scene.link? owner = stage.scene.link? owner := by
  cases hresumed with
  | accepted frame epoch stage =>
    have hnoted : ∀ binding : Binding,
        { binding with sizeApplied := true, content := some frame.frame.size }.link =
          binding.link := fun _ => rfl
    exact Scene.link_changeBinding_same hnoted stage.renderer.owner owner stage.scene
  | sized job stage => exact Scene.link_congr (Scene.bindings_allocate _ _ _) owner
  | _ => rfl

/-- A view that sees neither the pixel buffer nor any call stays as it is. -/
theorem view_still {α : Type} {look : Surface → α}
    (hrecord : ∀ call surface, look (Surface.record call surface) = look surface)
    (hallocate : ∀ size surface, look (Surface.allocate size surface) = look surface)
    (hcopy : ∀ frame surface, look (Surface.copyIn frame surface) = look surface)
    (hresumed : Resumed call stage progress after) :
    after.scene.view look = stage.scene.view look := by
  cases hresumed with
  | sizing | lending | withheld | showing => exact Scene.view_changeSurface_same (hrecord _) _ _
  | sized => exact Scene.view_allocate (fun _ => hrecord _) hallocate _ _ _
  | written job stage =>
    exact (Scene.view_changeSurface_same (hrecord _) _ _).trans
      (Scene.view_changeSurface_same (hcopy job.frame) job.surface stage.scene)
  | _ => rfl

/-- All listeners stay. -/
theorem listeners (hresumed : Resumed call stage progress after) :
    after.scene.view Surface.listeners = stage.scene.view Surface.listeners :=
  hresumed.view_still (fun _ _ => rfl) (fun _ _ => rfl) fun _ _ => rfl

/-- What a call has given and what it still has to give is what it had to give, or less. -/
theorem pending (hresumed : Resumed call stage progress after) :
    ((givenBy progress).map Showing.envelope ++ pendingBy progress).Sublist call.pending := by
  cases hresumed with
  | accepted | sizing | writing | lending | sized | written => exact List.Sublist.refl _
  | _ => exact List.nil_sublist _

/-- A call comes to the showing that it had ahead and to no other, unless a job begins, and a job begins only while
its surface is bound under its epoch. -/
theorem due (hresumed : Resumed call stage progress after) :
    (givenBy progress ++ dueBy progress).Sublist call.due ∨
      ∃ bond : Bond, (∀ showing ∈ givenBy progress ++ dueBy progress, showing.bond = bond) ∧
        stage.scene.link? stage.renderer.owner = some ⟨bond.epoch, some bond.surface⟩ := by
  cases hresumed with
  | accepted frame epoch stage binding surface hbinding hsurface hepoch =>
    refine .inr ⟨⟨epoch, surface⟩, ?_, ?_⟩
    · intro showing hshowing
      cases List.mem_singleton.1 hshowing
      rfl
    · unfold Scene.link?
      rw [hbinding, ← hepoch]
      exact congrArg some (congrArg (Link.mk binding.epoch) hsurface)
  | sizing | writing | lending | sized | written => exact .inl (List.Sublist.refl _)
  | _ => exact .inl (List.nil_sublist _)

/-- A surface is given a frame when a call comes to lend it or has written it, and then only. -/
theorem given (hresumed : Resumed call stage progress after) (surface : Nat) :
    after.scene.given[surface]? =
      stage.scene.given[surface]?.map (· ++ Showing.at surface (givenBy progress)) := by
  cases hresumed with
  | lending job first stage =>
    show (stage.scene.record job.surface (.lend job.frame)).given[surface]? = _
    rw [Scene.given_record]
    exact Showing.at_modify ⟨job.frame, job.bond⟩ surface stage.scene.given
  | written job stage =>
    -- The frame is given with the write; the call that tells the surface to show it gives nothing more.
    have hwritten : (stage.scene.changeSurface job.surface (.copyIn job.frame)).given =
        stage.scene.given.modify job.surface (· ++ [job.frame]) :=
      Scene.view_changeSurface (fun surface => Surface.given_record _ _) job.surface stage.scene
    show ((stage.scene.changeSurface job.surface (.copyIn job.frame)).record job.surface
      .dirty).given[surface]? = _
    rw [Scene.given_record_quiet rfl, hwritten]
    exact Showing.at_modify ⟨job.frame, job.bond⟩ surface stage.scene.given
  | sizing => exact Scene.given_nothing (Scene.given_record_quiet rfl _ _) surface
  | withheld => exact Scene.given_nothing (Scene.given_record_quiet rfl _ _) surface
  | showing => exact Scene.given_nothing (Scene.given_record_quiet rfl _ _) surface
  | sized job stage =>
    refine Scene.given_nothing (Scene.view_allocate (fun rect surface => ?_) (fun _ _ => rfl) _ _ _) surface
    rw [Surface.given_record]
    exact List.append_nil _
  | _ => exact Scene.given_nothing rfl surface

end Resumed

end Backstage

end FramePath

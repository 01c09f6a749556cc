import FramePath.Proofs.Renderer.Giving

/-!
# What only a renderer does to a surface

A surface hears of pixels and of visibility from renderers only; all other calls are routine. A view that reads
no more than the log, and no routine call in it, is aloof: nothing that a producer or an owner does to a
surface changes it (`Aloof.inward`). What a step of a renderer does to it is one call,
and `Resumed.view` says which.
-/

namespace FramePath

namespace SurfaceCall

/-- Whether a call says nothing about pixels or visibility. -/
def isRoutine : SurfaceCall → Bool
  | hint | size _ | fill _ | dirty | connect _ | disconnect _ => true
  | lend _ | noBacking _ | write .. | visible _ => false

/-- The visibility that a call tells its surface. -/
def visible? : SurfaceCall → Option Bool
  | visible asked => some asked
  | _ => none

end SurfaceCall

namespace Surface

variable {α : Type}

/-- A view of surfaces that reads the log only, and no routine call in it. -/
structure Aloof (look : Surface → α) : Prop where
  log : ∀ {first second : Surface}, first.log = second.log → look first = look second
  routine : ∀ {call : SurfaceCall} (surface), call.isRoutine = true →
    look (surface.record call) = look surface

/-- The visibility that a surface was told last. One that was never told any is visible. -/
def told (surface : Surface) : Bool := (surface.log.findSome? SurfaceCall.visible?).getD true

/-- A call that tells a visibility is the last to do so. -/
theorem told_record (call : SurfaceCall) (surface : Surface) :
    (surface.record call).told = call.visible?.getD surface.told := by
  unfold told record
  rw [List.findSome?_cons]
  cases call.visible? with
  | none => rfl
  | some visible => rfl

/-- What a surface was told is read off its log. -/
theorem aloof_told : Aloof told where
  log hlog := by
    unfold told
    rw [hlog]
  routine {call} surface hroutine := by
    have hsilent : call.visible? = none := by
      cases call with
      | visible asked => cases hroutine
      | _ => rfl
    rw [told_record, hsilent]
    rfl

/-- What is read off a log, but not from routine calls. -/
theorem aloof_read {read : SurfaceCall → Option α}
    (hread : ∀ {call : SurfaceCall}, call.isRoutine = true → read call = none) :
    Aloof fun surface => surface.log.reverse.filterMap read where
  log hlog := by rw [hlog]
  routine surface hroutine := by
    rw [read_record, hread hroutine]
    exact List.append_nil _

/-- The frames that a surface was given are read off its log. -/
theorem aloof_given : Aloof given := by
  refine aloof_read fun {call} hroutine => ?_
  cases call with
  | lend frame => cases hroutine
  | write frame => cases hroutine
  | _ => rfl

variable {look : Surface → α}

/-- A view of surfaces to which it is no matter who listens, and no call but one of a renderer about pixels or
visibility. -/
structure Inward (look : Surface → α) : Prop where
  hint : ∀ surface, look (surface.record .hint) = look surface
  fill : ∀ rect surface, look (surface.record (.fill rect)) = look surface
  connect : ∀ owner epoch surface, look (Surface.connect owner epoch surface).2 = look surface
  disconnect : ∀ id surface, look (Surface.disconnect id surface) = look surface
  forget : ∀ surface, look (Surface.forget surface) = look surface

/-- An aloof view is an inward one. -/
theorem Aloof.inward (haloof : Aloof look) : Inward look where
  hint surface := haloof.routine surface rfl
  fill _ surface := haloof.routine surface rfl
  connect _ _ _ := (haloof.routine _ rfl).trans (haloof.log rfl)
  disconnect _ _ := (haloof.routine _ rfl).trans (haloof.log rfl)
  forget surface := by
    unfold Surface.forget
    split
    · rfl
    · exact haloof.log rfl

end Surface

namespace Scene

open Surface (Aloof)

variable {α : Type} {look : Surface → α}

/-- The visibility that the surface at a place was told last. -/
def told (surface : Nat) (scene : Scene) : Bool :=
  (scene.surfaces[surface]?.map Surface.told).getD true

/-- What a surface was told depends on the view of what was told only. -/
theorem told_congr {scene other : Scene}
    (hsame : other.view Surface.told = scene.view Surface.told) (surface : Nat) :
    other.told surface = scene.told surface := by
  unfold told
  rw [← List.getElem?_map, ← List.getElem?_map]
  exact congrArg (fun seen => (seen[surface]?).getD true) hsame

/-- A surface has been told what it is told. -/
theorem told_record_same {surface : Nat} {scene : Scene} (visible : Bool)
    (hfound : surface < scene.surfaces.length) :
    (scene.record surface (.visible visible)).told surface = visible := by
  unfold told record changeSurface
  rw [List.getElem?_modify_eq, List.getElem?_eq_getElem hfound]
  exact Surface.told_record (.visible visible) scene.surfaces[surface]

/-- What one surface is told is no matter to another. -/
theorem told_record_other {surface other : Nat} (hother : surface ≠ other) (call : SurfaceCall)
    (scene : Scene) : (scene.record surface call).told other = scene.told other := by
  unfold told record changeSurface
  rw [List.getElem?_modify_ne _ _ hother]

/-- A view has one entry for each surface. -/
theorem length_view (look : Surface → α) (scene : Scene) :
    (scene.view look).length = scene.surfaces.length :=
  List.length_map _

/-- A routine call is no matter to an aloof view. -/
theorem view_record_routine (haloof : Aloof look) {call : SurfaceCall}
    (hroutine : call.isRoutine = true) (surface : Nat) (scene : Scene) :
    (scene.record surface call).view look = scene.view look :=
  view_changeSurface_same (fun surface => haloof.routine surface hroutine) surface scene

/-- A size for a pixel buffer is no matter to it. -/
theorem view_allocate_aloof (haloof : Aloof look) (surface : Nat) (size : Size) (scene : Scene) :
    (scene.allocate surface size).view look = scene.view look :=
  view_allocate (fun _ surface => haloof.routine surface rfl) (fun _ _ => haloof.log rfl)
    surface size scene

end Scene

namespace Backstage

open Renderer (Job Call)

/-- The scene with the one call about pixels or visibility that a step makes, if it makes one. -/
def spoken (call : Call) (progress : Progress Call) (scene : Scene) : Scene :=
  match call, progress with
  | _, .waiting (.lending job) => scene.record job.surface (.lend job.frame)
  | _, .waiting (.marking job) => scene.changeSurface job.surface (.copyIn job.frame)
  | _, .waiting (.showing visible surface) => scene.record surface (.visible visible)
  | .writing job, .returned => scene.record job.surface (.noBacking job.frame)
  | _, _ => scene

/-- To an aloof view a step of a renderer is that one call. -/
theorem Resumed.view {α : Type} {look : Surface → α} {call : Call} {stage after : Backstage}
    {progress : Progress Call} (hresumed : Resumed call stage progress after)
    (haloof : Surface.Aloof look) :
    after.scene.view look = (spoken call progress stage.scene).view look := by
  cases hresumed with
  | sizing job => exact Scene.view_record_routine haloof rfl _ _
  | sized job => exact Scene.view_allocate_aloof haloof _ _ _
  | written job => exact Scene.view_record_routine haloof rfl _ _
  | _ => rfl

end Backstage

end FramePath

import FramePath.Proofs.Scene.Views

/-!
# Panels

The panel of a surface is what it is and what pixel buffer it has, without the bytes in it. Calls that are written
down, listeners, changes of size and destruction leave a panel as it is, and so does a picture: it changes only
when the pixel buffer gets a size (`Scene.panels_allocate`), which is one step of a renderer
(`Backstage.Resumed.panels`).
-/

namespace FramePath

/-- What a surface is, and the pixel buffer it has. -/
structure Panel where
  profile : SurfaceProfile
  bufferSize : Option Size
  /-- Number of bytes of the backing buffer. -/
  room : Nat
  deriving DecidableEq, Repr

namespace Panel

/-- The pixel buffer has a size, and a backing buffer for it. -/
def sized (size : Size) (panel : Panel) : Panel :=
  { panel with bufferSize := some size, room := size.area * packedPixelBytes }

/-- Whether there is a backing buffer to write to. -/
def isWritable (panel : Panel) : Bool := !panel.profile.withholdsBacking && panel.room != 0

end Panel

namespace Surface

/-- The panel of a surface. -/
def panel (surface : Surface) : Panel := ⟨surface.profile, surface.bufferSize, surface.backing.size⟩

@[simp] theorem panel_record (call : SurfaceCall) (surface : Surface) :
    (surface.record call).panel = surface.panel := rfl

@[simp] theorem panel_copyIn (frame : SharedFrame) (surface : Surface) :
    (surface.copyIn frame).panel = surface.panel := by
  simp [copyIn, panel, record]

@[simp] theorem panel_allocate (size : Size) (surface : Surface) :
    (surface.allocate size).panel = surface.panel.sized size := by
  simp [allocate, panel, Panel.sized, backingFor]

/-- To the panel it is no matter who listens, or what is written down. -/
theorem inward_panel : Inward panel where
  hint _ := rfl
  fill _ _ := rfl
  connect _ _ _ := rfl
  disconnect _ _ := rfl
  forget surface := by
    unfold forget
    split <;> rfl

/-- Nor is it to what the surface is. -/
theorem inward_profile : Inward profile where
  hint _ := rfl
  fill _ _ := rfl
  connect _ _ _ := rfl
  disconnect _ _ := rfl
  forget surface := by
    unfold forget
    split <;> rfl

/-- Whether a surface can be written to is told by its panel. -/
theorem isWritable_panel (surface : Surface) : surface.isWritable = surface.panel.isWritable := by
  have hempty : surface.backing.isEmpty = (surface.backing.size == 0) := by
    simp only [Array.isEmpty]
    rfl
  simp [isWritable, Panel.isWritable, panel, hempty, bne]

end Surface

namespace Scene

/-- The panels of all surfaces. -/
def panels (scene : Scene) : List Panel := scene.view Surface.panel

/-- What surfaces are is told by their panels. -/
theorem profiles_panels (scene : Scene) : scene.view Surface.profile = scene.panels.map Panel.profile := by
  simp [panels, view, Surface.panel]

/-- The size of a pixel buffer is told by its panel. -/
theorem bufferSize_panels (scene : Scene) (surface : Nat) :
    scene.bufferSize? surface = scene.panels[surface]?.bind Panel.bufferSize := by
  simp only [bufferSize?, panels, view, List.getElem?_map]
  cases scene.surfaces[surface]? <;> rfl

/-- Where the panels are the same, so are the sizes of the pixel buffers. -/
theorem bufferSize_congr {scene after : Scene} (hpanels : after.panels = scene.panels)
    (surface : Nat) : after.bufferSize? surface = scene.bufferSize? surface := by
  rw [bufferSize_panels, hpanels, ← bufferSize_panels]

/-- Every surface has a panel. -/
theorem length_panels (scene : Scene) : scene.panels.length = scene.surfaces.length :=
  length_view _ _

@[simp] theorem panels_record (surface : Nat) (call : SurfaceCall) (scene : Scene) :
    (scene.record surface call).panels = scene.panels :=
  view_changeSurface_same (Surface.panel_record call) surface scene

@[simp] theorem panels_copyIn (surface : Nat) (frame : SharedFrame) (scene : Scene) :
    (scene.changeSurface surface (.copyIn frame)).panels = scene.panels :=
  view_changeSurface_same (Surface.panel_copyIn frame) surface scene

/-- A size for a pixel buffer changes one panel, whatever the surface tells its listeners. -/
theorem panels_allocate (surface : Nat) (size : Size) (scene : Scene) :
    (scene.allocate surface size).panels = scene.panels.modify surface (.sized size) :=
  view_allocate_seen (fun _ _ => rfl) (Surface.panel_allocate size) surface scene

/-- A pixel buffer has the size that it got, and the others have the sizes they had. -/
theorem bufferSize_of_sized {scene after : Scene} {surface : Nat} {size : Size}
    (hpanels : after.panels = scene.panels.modify surface (.sized size))
    (hfound : surface < scene.surfaces.length) (place : Nat) :
    after.bufferSize? place = if surface = place then some size else scene.bufferSize? place := by
  rw [bufferSize_panels, hpanels, bufferSize_panels, List.getElem?_modify]
  rw [← length_panels] at hfound
  by_cases hplace : surface = place
  · subst hplace
    simp [List.getElem?_eq_getElem hfound, Panel.sized]
  · simp [hplace]

end Scene

namespace Backstage

open Renderer (Job Call)

/-- The panels when a call has gone on: one pixel buffer may have got a size. -/
def fitted (call : Call) (progress : Progress Call) (panels : List Panel) : List Panel :=
  match call, progress with
  | .sizing job, .waiting _ => panels.modify job.surface (.sized job.frame.frame.size)
  | _, _ => panels

/-- A step of the renderer changes no panel, unless it gives a pixel buffer the size of the frame in hand. -/
theorem Resumed.panels {call : Call} {stage after : Backstage} {progress : Progress Call}
    (hresumed : Resumed call stage progress after) :
    after.scene.panels = fitted call progress stage.scene.panels := by
  cases hresumed with
  | sizing job => exact Scene.panels_record _ _ _
  | lending job => exact Scene.panels_record _ _ _
  | sized job stage => exact Scene.panels_allocate _ _ _
  | written job => exact (Scene.panels_record _ _ _).trans (Scene.panels_copyIn _ _ _)
  | withheld job => exact Scene.panels_record _ _ _
  | showing visible surface => exact Scene.panels_record _ _ _
  | failed call => cases call <;> rfl
  | _ => rfl

end Backstage

end FramePath

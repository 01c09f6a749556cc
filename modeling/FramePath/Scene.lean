import FramePath.Surface

/-!
# Surfaces and the bindings to them

A binding is one presenter's link to a surface. Every bind and unbind gives it a new epoch, and
whatever was begun under an earlier one is stale. A scene holds all surfaces and all bindings, because
a surface's notifications reach the bindings that listen to it: a change of size places the picture
anew, and destruction ends the binding. In the whole scene one fault at a time can be armed.
-/

namespace FramePath

/-- A link to a surface, or the lack of one. -/
structure Binding where
  /-- Place of the surface in the scene. -/
  surface : Option Nat
  zeroCopy : Bool
  /-- Whether a frame under this epoch has already seen to the size of the pixel buffer. -/
  sizeApplied : Bool
  epoch : Nat
  /-- The id under which the surface was told to notify. -/
  listener : Option Nat
  fit : Fit
  /-- Size of the last frame accepted under this epoch. -/
  content : Option Size
  deriving DecidableEq, Repr

namespace Binding

/-- Never bound. -/
def initial : Binding := ⟨none, false, false, 0, none, .fill, none⟩

/-- The binding ended: no surface, and a new epoch. -/
def cleared (binding : Binding) : Binding :=
  { binding with
    surface := none
    zeroCopy := false
    sizeApplied := false
    epoch := binding.epoch + 1
    listener := none
    content := none }

/-- Bound to a surface under a new epoch. -/
def boundTo (surface : Nat) (zeroCopy : Bool) (binding : Binding) : Binding :=
  { binding with
    surface := some surface
    zeroCopy
    sizeApplied := false
    epoch := binding.epoch + 1
    content := none }

end Binding

/-- All surfaces, and all bindings by the presenters they belong to. The binding of a presenter that is
gone is gone too. -/
structure Scene where
  surfaces : List Surface
  bindings : List (Option Binding)
  /-- The call point at which the next caller is to fail. -/
  fault : Option CallPoint
  deriving DecidableEq, Repr

namespace Scene

/-- Surfaces to which nobody is bound. -/
def ofSurfaces (surfaces : List Surface) : Scene := ⟨surfaces, [], none⟩

/-- The binding of a presenter. -/
def binding? (scene : Scene) (owner : Nat) : Option Binding := scene.bindings[owner]?.join

/-- Change a binding. -/
def changeBinding (owner : Nat) (change : Binding → Binding) (scene : Scene) : Scene :=
  { scene with bindings := scene.bindings.modify owner (Option.map change) }

/-- Change a surface. -/
def changeSurface (surface : Nat) (change : Surface → Surface) (scene : Scene) : Scene :=
  { scene with surfaces := scene.surfaces.modify surface change }

/-- Let a surface write a call down. -/
def record (surface : Nat) (call : SurfaceCall) (scene : Scene) : Scene :=
  scene.changeSurface surface (.record call)

/-- The surface a presenter is bound to. -/
def boundSurface? (scene : Scene) (owner : Nat) : Option Nat :=
  (scene.binding? owner).bind Binding.surface

/-- The pixel buffer size of a surface. -/
def bufferSize? (scene : Scene) (surface : Nat) : Option Size :=
  scene.surfaces[surface]?.bind Surface.bufferSize

/-- Tell a listener of a new size. Under a current epoch the bound surface gets a rectangle for the
size of the last frame, else of its pixel buffer, else of the surface itself. -/
def tellResized (size : Size) (scene : Scene) (listener : Listener) : Scene :=
  match scene.binding? listener.owner with
  | none => scene
  | some binding =>
    if binding.epoch ≠ listener.epoch then scene
    else
      match binding.surface with
      | none => scene
      | some surface =>
          let content := (binding.content.or (scene.bufferSize? surface)).getD size
          scene.record surface (.fill (binding.fit.place content size))

/-- Tell a listener that its surface is gone. Under a current epoch the binding ends. -/
def tellDestroyed (scene : Scene) (listener : Listener) : Scene :=
  scene.changeBinding listener.owner fun binding =>
    if binding.epoch = listener.epoch then binding.cleared else binding

/-- The listeners of a surface, in the order in which they connected. -/
def listeners (scene : Scene) (surface : Nat) : List Listener :=
  (scene.surfaces[surface]?.map Surface.listeners).getD []

/-- A surface changes its size. -/
def resize (surface : Nat) (size : Size) (scene : Scene) : Scene :=
  (scene.listeners surface).foldl (tellResized size) scene

/-- A surface is destroyed. -/
def destroy (surface : Nat) (scene : Scene) : Scene :=
  (scene.listeners surface).foldl tellDestroyed (scene.changeSurface surface Surface.forget)

/-- Give a surface's pixel buffer a size, which may change the size of the surface too. -/
def allocate (surface : Nat) (size : Size) (scene : Scene) : Scene :=
  let scene := scene.changeSurface surface (.allocate size)
  match scene.surfaces[surface]?.bind fun surface => surface.profile.resizedOnSize with
  | none => scene
  | some newSize => scene.resize surface newSize

/-- Connect a listener for a binding's epoch, and give its id. The surface may be destroyed by it. -/
def connect (surface owner epoch : Nat) (scene : Scene) : Option Nat × Scene :=
  match scene.surfaces[surface]? with
  | none => (none, scene)
  | some target =>
      let (id, connected) := target.connect owner epoch
      let scene := scene.changeSurface surface fun _ => connected
      (some id, if connected.profile.destroyedOnConnect then scene.destroy surface else scene)

/-- Send a listener away. -/
def disconnect (surface listener : Nat) (scene : Scene) : Scene :=
  scene.changeSurface surface (.disconnect listener)

end Scene

end FramePath

import FramePath.Size

/-!
# Placing content on a surface

When a surface changes its size, the picture gets a rectangle on it: the whole surface, or the largest
centred rectangle with the picture's own proportions. The arithmetic is in single precision.
-/

namespace FramePath

/-- A single-precision number, kept as its bit pattern so that it is given back bit for bit. -/
structure Coordinate where
  bits : UInt32
  deriving DecidableEq, Repr, Inhabited

namespace Coordinate

/-- The number itself. -/
def value (coordinate : Coordinate) : Float32 := Float32.ofBits coordinate.bits

/-- The coordinate of a number. -/
def ofValue (value : Float32) : Coordinate := ⟨value.toBits⟩

/-- Positive zero. -/
def zero : Coordinate := ⟨0⟩

/-- Equality of the numbers: a number that is not one differs from itself, and the zeros agree. -/
def sameValue (a b : Coordinate) : Bool := a.value == b.value

end Coordinate

/-- A rectangle in the coordinates of a surface. -/
structure FillRect where
  x : Coordinate
  y : Coordinate
  width : Coordinate
  height : Coordinate
  deriving DecidableEq, Repr, Inhabited

namespace FillRect

/-- The empty rectangle at the origin. -/
def zero : FillRect := ⟨.zero, .zero, .zero, .zero⟩

/-- The corner with the smallest coordinates. -/
def origin (rect : FillRect) : Coordinate × Coordinate := (rect.x, rect.y)

/-- Width and height. -/
def extent (rect : FillRect) : Coordinate × Coordinate := (rect.width, rect.height)

/-- A rectangle without inside: one of its sides is zero or negative. -/
def isEmpty (rect : FillRect) : Bool := rect.width.value <= 0 || rect.height.value <= 0

/-- Equality of all four numbers. -/
def sameValue (a b : FillRect) : Bool :=
  a.x.sameValue b.x && a.y.sameValue b.y && a.width.sameValue b.width &&
    a.height.sameValue b.height

/-- The rectangle of the given numbers. -/
def ofValues (x y width height : Float32) : FillRect :=
  ⟨.ofValue x, .ofValue y, .ofValue width, .ofValue height⟩

end FillRect

/-- How content is placed on a surface. -/
inductive Fit where
  /-- Stretched over the whole surface. -/
  | fill
  /-- As large as the surface allows in the content's own proportions, and centred. -/
  | keepAspect
  deriving DecidableEq, Repr, Inhabited

namespace Fit

/-- The factor by which content grows until it meets the nearer pair of the surface's edges. -/
def growth (content surface : Size) : Float32 :=
  let contentWidth := content.width.toFloat32
  let contentHeight := content.height.toFloat32
  let surfaceWidth := surface.width.toFloat32
  let surfaceHeight := surface.height.toFloat32
  if surfaceWidth / surfaceHeight < contentWidth / contentHeight then surfaceWidth / contentWidth
  else surfaceHeight / contentHeight

/-- The rectangle for content on a surface. Content without pixels fills the surface. -/
def place (fit : Fit) (content surface : Size) : FillRect :=
  let surfaceWidth := surface.width.toFloat32
  let surfaceHeight := surface.height.toFloat32
  if fit = .fill ∨ content.isEmpty then .ofValues 0 0 surfaceWidth surfaceHeight
  else
    let factor := growth content surface
    let width := content.width.toFloat32 * factor
    let height := content.height.toFloat32 * factor
    .ofValues ((surfaceWidth - width) / 2) ((surfaceHeight - height) / 2) width height

end Fit

end FramePath

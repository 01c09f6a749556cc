import FramePath.Size

/-!
# The geometry of a memory sink

What size frames come in, what size they shall go out, and by which angle they are turned. A zero in
the requested size follows the source. The geometry is dirty when something changed since a frame
last took a snapshot of it.
-/

namespace FramePath

/-- Source size, requested output size and angle, with a mark for changes not yet taken up. -/
structure Geometry where
  source : Size
  requested : Size
  angle : UInt32
  dirty : Bool
  deriving DecidableEq, Repr

namespace Geometry

/-- Nothing negotiated, nothing requested. -/
def initial : Geometry := ⟨.zero, .zero, 0, false⟩

/-- One side of the output: as requested, or the source's if nothing is requested. -/
def side (requested source : UInt32) : UInt32 := if requested = 0 then source else requested

/-- The size in which frames go out. -/
def output (geometry : Geometry) : Size :=
  ⟨side geometry.requested.width geometry.source.width,
    side geometry.requested.height geometry.source.height⟩

/-- The source size as it is after the turn: exchanged for an odd number of right angles. -/
def turnedSource (geometry : Geometry) : Size :=
  if geometry.angle = 90 ∨ geometry.angle = 270 then geometry.source.transposed
  else geometry.source

/-- Note that something changed. -/
def markDirty (geometry : Geometry) : Geometry := { geometry with dirty := true }

/-- Forget the changes, as a frame does that has taken its snapshot. -/
def settled (geometry : Geometry) : Geometry := { geometry with dirty := false }

/-- Request an output width. Asking for the width already requested changes nothing. -/
def setWidth (width : UInt32) (geometry : Geometry) : Geometry :=
  if geometry.requested.width = width then geometry
  else { geometry with requested := { geometry.requested with width }, dirty := true }

/-- Request an output height. Asking for the height already requested changes nothing. -/
def setHeight (height : UInt32) (geometry : Geometry) : Geometry :=
  if geometry.requested.height = height then geometry
  else { geometry with requested := { geometry.requested with height }, dirty := true }

/-- Request an angle. Any number is taken; whether it is a turn shows when a frame is turned. -/
def setAngle (angle : UInt32) (geometry : Geometry) : Geometry :=
  if geometry.angle = angle then geometry else { geometry with angle, dirty := true }

/-- Set the size of the source, which counts as a change even if it is the same. -/
def setSource (source : Size) (geometry : Geometry) : Geometry :=
  { geometry with source, dirty := true }

/-- A change that can be asked for while frames flow. -/
inductive Change where
  | width (value : UInt32)
  | height (value : UInt32)
  | angle (value : UInt32)
  | source (size : Size)
  | mark
  deriving DecidableEq, Repr

/-- Make a change. -/
def apply (geometry : Geometry) : Change → Geometry
  | .width value => geometry.setWidth value
  | .height value => geometry.setHeight value
  | .angle value => geometry.setAngle value
  | .source size => geometry.setSource size
  | .mark => geometry.markDirty

end Geometry

end FramePath

import FramePath.FrameError
import FramePath.Picture

/-!
# Clockwise turns

Pixels are written one by one to the slot that `Turn.target` gives them. The targets of a reflected
column or row are counted from the far edge itself, one past the last pixel, so the picture lands a
few slots late on its canvas; `Turn.lateness` is that number, and a pixel whose slot lies past
the canvas is left out.
-/

namespace FramePath

/-- A clockwise turn by a multiple of a right angle. -/
inductive Turn where
  | none
  | quarter
  | half
  | threeQuarter
  deriving DecidableEq, Repr

namespace Turn

/-- The turn in degrees. -/
def degrees : Turn → UInt32
  | none => 0
  | quarter => 90
  | half => 180
  | threeQuarter => 270

/-- The turn by this many degrees, if it is a multiple of a right angle below a full turn. -/
def ofDegrees? (degrees : UInt32) : Option Turn :=
  match degrees with
  | 0 => some none
  | 90 => some quarter
  | 180 => some half
  | 270 => some threeQuarter
  | _ => Option.none

/-- Whether the turn exchanges width and height. -/
def swapsSides : Turn → Bool
  | quarter | threeQuarter => true
  | _ => false

/-- The size of a picture after the turn. -/
def turnedSize (turn : Turn) (size : Size) : Size :=
  if turn.swapsSides then size.transposed else size

/-- Column and row to which the pixel in column `x` of row `y` moves. -/
def target (turn : Turn) (size : Size) (x y : Nat) : Nat × Nat :=
  match turn with
  | none => (x, y)
  | quarter => (size.rows - y, x)
  | half => (size.columns - x, size.rows - y)
  | threeQuarter => (y, size.columns - x)

/-- The slot of that place on the turned canvas, counted row after row. -/
def slot (turn : Turn) (size : Size) (x y : Nat) : Nat :=
  let place := turn.target size x y
  place.2 * (turn.turnedSize size).columns + place.1

/-- How many slots late a turned picture lands on its canvas. -/
def lateness (turn : Turn) (size : Size) : Nat :=
  match turn with
  | none => 0
  | quarter => 1
  | half => size.columns + 1
  | threeQuarter => size.rows

/-- Copy one pixel from its place in `source` to a slot of a canvas. -/
def copyPixel (pixelBytes : Nat) (source : Bytes) (pixel slot : Nat) (canvas : Bytes) : Bytes :=
  Nat.fold pixelBytes
    (fun k _ canvas =>
      canvas.setIfInBounds (slot * pixelBytes + k) (source.byteAt (pixel * pixelBytes + k)))
    canvas

/-- Write every pixel of a picture to its slot, leaving out those whose slot lies past the end. -/
def scatter (turn : Turn) (size : Size) (pixelBytes : Nat) (source canvas : Bytes) : Bytes :=
  let length := size.area * pixelBytes
  Nat.fold size.area
    (fun pixel _ canvas =>
      let slot := turn.slot size (pixel % size.columns) (pixel / size.columns)
      if slot * pixelBytes + pixelBytes ≤ length then
        copyPixel pixelBytes source pixel slot canvas
      else canvas)
    canvas

/-- Turn a picture onto a canvas and give the turned size. An angle that is no turn is refused
first, then a size or pixel without bytes, a short source, and a short canvas. -/
def apply (source canvas : Bytes) (size : Size) (pixelBytes : Nat) (angle : UInt32) :
    Except FrameError (Size × Bytes) :=
  let length := size.area * pixelBytes
  match ofDegrees? angle with
  | Option.none => .error (.unsupportedRotation angle)
  | some turn =>
    if size.isEmpty || pixelBytes == 0 then .error (.invalidGeometry size)
    else if source.size < length then .error (.bufferTooSmall length source.size)
    else if canvas.size < length then .error (.bufferTooSmall length canvas.size)
    else
      match turn with
      | none => .ok (size, canvas.overlay source length)
      | turn => .ok (turn.turnedSize size, turn.scatter size pixelBytes source canvas)

/-- Turn a picture onto a zeroed canvas of its own length. -/
def turnPicture (pixelBytes : Nat) (angle : UInt32) (picture : Picture) :
    Except FrameError Picture := do
  let (size, pixels) ←
    apply picture.pixels (.blank picture.pixels.size) picture.size pixelBytes angle
  pure ⟨size, pixels⟩

/-- One step of a chain of turns: a picture that cannot be turned stays as it is. -/
def chainStep (pixelBytes : Nat) (picture : Picture) (angle : UInt32) : Picture :=
  (turnPicture pixelBytes angle picture).toOption.getD picture

/-- Turn a picture by several angles one after another. -/
def chain (pixelBytes : Nat) (angles : List UInt32) (picture : Picture) : Picture :=
  angles.foldl (chainStep pixelBytes) picture

/-- The degrees of a turn lead back to it. -/
theorem ofDegrees?_degrees (turn : Turn) : ofDegrees? turn.degrees = some turn := by
  cases turn <;> rfl

/-- A turn keeps the number of pixels. -/
theorem area_turnedSize (turn : Turn) (size : Size) :
    (turn.turnedSize size).area = size.area := by
  cases turn <;> simp [turnedSize, swapsSides, Size.area_transposed]

end Turn

end FramePath

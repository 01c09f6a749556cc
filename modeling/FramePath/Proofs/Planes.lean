import FramePath.Planes
import FramePath.Proofs.Colour
import FramePath.Proofs.Painting
import FramePath.Proofs.Size

/-!
# What the conversion of a planar frame paints

`Planes.exactColour` reads the colour of a pixel from the payload itself: luma from the first plane, the differences
from the two planes behind it in the order of the format, one sample for two columns and two rows, by the transform in
unbounded integers. `byteAt_toRgba` says that the conversion paints these colours. `onto` is the conversion on a
caller's canvas step by step, and `onto_toRgba` says that `Planes.toRgba` tells what it answers and leaves.
-/

namespace FramePath

namespace Planes

open PixelFormat

variable {format : PixelFormat} {size : Size} {payload canvas after : Bytes} {x y k : Nat}

/-- The colour of the pixel in column `x` of row `y`, read from the payload. -/
def exactColour (format : PixelFormat) (size : Size) (payload : Bytes) (x y : Nat) : Rgb :=
  let luma := payload.byteAt (y * size.columns + x)
  let chroma := y / 2 * chromaExtent size.columns + x / 2
  let first := payload.byteAt (size.area + chroma)
  let second := payload.byteAt (size.area + chromaArea size + chroma)
  match format with
  | .yv12 => Colour.exact luma second first
  | _ => Colour.exact luma first second

/-- A byte of a part of a buffer is one of the buffer. -/
theorem byteAt_extract {start stop offset : Nat} (hinside : start + offset < stop) (bytes : Bytes) :
    Bytes.byteAt (bytes.extract start stop) offset = bytes.byteAt (start + offset) := by
  unfold Bytes.byteAt
  rw [Array.getD_eq_getD_getElem?, Array.getD_eq_getD_getElem?, Array.getElem?_extract]
  by_cases hlong : start + offset < bytes.size
  · rw [if_pos (by omega)]
  · rw [if_neg (by omega), Array.getElem?_eq_none (Nat.le_of_not_lt hlong)]

/-- Four pixels share a chroma sample, and all of them find it in its plane. -/
theorem chromaOffset_lt (hx : x < size.columns) (hy : y < size.rows) :
    chromaOffset size x y < chromaArea size := by
  have hcolumn : x / 2 < chromaExtent size.columns := by
    unfold chromaExtent
    omega
  have hrow : y / 2 < chromaExtent size.rows := by
    unfold chromaExtent
    omega
  have hrows := Nat.mul_le_mul_right (chromaExtent size.columns) (Nat.succ_le_of_lt hrow)
  rw [Nat.succ_mul, Nat.mul_comm (chromaExtent size.rows)] at hrows
  unfold chromaOffset chromaArea
  omega

/-- The planes hold the colours that are read from the payload. -/
theorem colourAt_split (hx : x < size.columns) (hy : y < size.rows) :
    (split format size payload).colourAt x y = exactColour format size payload x y := by
  have hluma : Bytes.byteAt (payload.extract 0 size.area) (lumaOffset size x y) =
      payload.byteAt (lumaOffset size x y) := by
    have hplace : y * size.columns + x < size.area := Size.place_lt hx hy
    have hbyte := @byteAt_extract 0 size.area (lumaOffset size x y) (by rwa [Nat.zero_add]) payload
    rwa [Nat.zero_add] at hbyte
  have hchroma := chromaOffset_lt hx hy
  have hfirst := @byteAt_extract size.area (size.area + chromaArea size) (chromaOffset size x y)
    (by omega) payload
  have hsecond := @byteAt_extract (size.area + chromaArea size) (size.area + 2 * chromaArea size)
    (chromaOffset size x y) (by omega) payload
  unfold colourAt exactColour split
  cases format with
  | yv12 =>
    dsimp only
    rw [hluma, hfirst, hsecond, Colour.ofSamples_eq]
    rfl
  | _ =>
    dsimp only
    rw [hluma, hfirst, hsecond, Colour.ofSamples_eq]
    rfl

/-- Byte `k` of a packed pixel of a colour: red, green, blue and an opaque alpha. -/
def packed (colour : Rgb) (k : Nat) : UInt8 :=
  match k with
  | 0 => colour.red
  | 1 => colour.green
  | 2 => colour.blue
  | _ => 255

/-- A packed byte is one of the colour of its pixel. -/
theorem packedByte_eq {planes : Planes} (hx : x < planes.size.columns) (hk : k < packedPixelBytes) :
    planes.packedByte ((y * planes.size.columns + x) * packedPixelBytes + k) =
      packed (planes.colourAt x y) k := by
  unfold packedByte
  dsimp only
  rw [Size.place_mod hk, Size.place_div hk, Size.place_mod hx, Size.place_div hx]
  rfl

/-- A conversion that is not refused paints the whole picture on a canvas with room for it. -/
theorem eq_of_toRgba (hconverted : toRgba payload format size canvas = .ok after) :
    size.area * packedPixelBytes ≤ canvas.size ∧
      after = canvas.paint (size.area * packedPixelBytes) (split format size payload).packedByte := by
  unfold toRgba at hconverted
  dsimp only at hconverted
  split at hconverted
  · cases hconverted
  · split at hconverted
    · cases hconverted
    · split at hconverted
      · cases hconverted
      · split at hconverted
        · cases hconverted
        · next hroom =>
          cases hconverted
          exact ⟨Nat.le_of_not_lt hroom, rfl⟩

/-- A planar payload of a size with pixels is painted, if it is long enough and the canvas has room. -/
theorem toRgba_of_room (hplanar : format.isPlanar = true) (hfilled : size.isEmpty = false)
    (henough : format.frameBytes size ≤ payload.size)
    (hroom : size.area * packedPixelBytes ≤ canvas.size) :
    toRgba payload format size canvas =
      .ok (canvas.paint (size.area * packedPixelBytes) (split format size payload).packedByte) := by
  unfold toRgba
  dsimp only
  rw [hplanar, hfilled, if_neg (by decide), if_neg (by decide), if_neg (Nat.not_lt.2 henough),
    if_neg (Nat.not_lt.2 hroom)]

/-- The bytes of a converted canvas are those of the colours read from the payload. -/
theorem byteAt_toRgba (hconverted : toRgba payload format size canvas = .ok after)
    (hx : x < size.columns) (hy : y < size.rows) (hk : k < packedPixelBytes) :
    after.byteAt ((y * size.columns + x) * packedPixelBytes + k) =
      packed (exactColour format size payload x y) k := by
  obtain ⟨hroom, rfl⟩ := eq_of_toRgba hconverted
  have hinside := Size.byte_lt (Size.place_lt hx hy) hk
  rw [Bytes.byteAt_paint _ _ _ (Nat.lt_of_lt_of_le hinside hroom), if_pos hinside]
  -- Whatever the order of its planes, a cut payload has the size of the frame.
  have hsize : (split format size payload).size = size := by cases format <;> rfl
  have hbyte := @packedByte_eq x y k (split format size payload) (by rwa [hsize]) hk
  rw [hsize, colourAt_split hx hy] at hbyte
  exact hbyte

/-- Convert a payload step by step: all is looked at before the first pixel is painted. -/
def converting (payload : Bytes) (format : PixelFormat) (size : Size) : Painting Unit := do
  let painted := size.area * packedPixelBytes
  if !format.isPlanar then throw (.unsupportedFormat format.code)
  if size.isEmpty then throw (.invalidGeometry size)
  if payload.size < format.frameBytes size then
    throw (.bufferTooSmall (format.frameBytes size) payload.size)
  Painting.demand painted
  modify fun canvas => canvas.paint painted (split format size payload).packedByte

/-- Convert a payload onto a canvas: the answer, and the canvas as the call leaves it. -/
def onto (payload : Bytes) (format : PixelFormat) (size : Size) (canvas : Bytes) :
    Except FrameError Unit × Bytes :=
  (converting payload format size).on canvas

/-- A conversion that is refused leaves the canvas as it was. -/
theorem onto_toRgba (payload : Bytes) (format : PixelFormat) (size : Size) (canvas : Bytes) :
    onto payload format size canvas =
      match toRgba payload format size canvas with
      | .ok after => (.ok (), after)
      | .error cause => (.error cause, canvas) := by
  unfold onto converting toRgba
  dsimp only
  split
  · rfl
  split
  · rfl
  split
  · rfl
  rw [Painting.on_demand]
  split
  · rfl
  · rfl

end Planes

end FramePath

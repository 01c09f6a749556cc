import FramePath.Bytes
import FramePath.Colour
import FramePath.FrameError
import FramePath.PixelFormat

/-!
# Planar frames and their conversion

A planar 4:2:0 payload is a luma plane followed by two chroma planes of half the size each way,
rounded up. `Planes.split` names the planes whatever order the format stores them in, `Planes.colourAt`
reads the colour of one pixel, and `toRgba` paints a canvas with the packed picture.
-/

namespace FramePath

/-- The three planes of a 4:2:0 frame. -/
structure Planes where
  size : Size
  luma : Bytes
  blueDifference : Bytes
  redDifference : Bytes

namespace Planes

/-- Cut a payload into its planes. The second plane holds the blue difference, except where the
format stores the red difference first. -/
def split (format : PixelFormat) (size : Size) (payload : Bytes) : Planes :=
  let area := size.area
  let chroma := PixelFormat.chromaArea size
  let first := payload.extract area (area + chroma)
  let second := payload.extract (area + chroma) (area + 2 * chroma)
  let luma := payload.extract 0 area
  match format with
  | .yv12 => ⟨size, luma, second, first⟩
  | _ => ⟨size, luma, first, second⟩

/-- Where the luma sample of a pixel stands in its plane. -/
def lumaOffset (size : Size) (x y : Nat) : Nat := y * size.columns + x

/-- Where the chroma samples of a pixel stand in their planes: four neighbours share one. -/
def chromaOffset (size : Size) (x y : Nat) : Nat :=
  (y / 2) * chromaExtent size.columns + x / 2

/-- The colour of the pixel in column `x` of row `y`. -/
def colourAt (planes : Planes) (x y : Nat) : Rgb :=
  let chroma := chromaOffset planes.size x y
  Colour.ofSamples (planes.luma.byteAt (lumaOffset planes.size x y))
    (planes.blueDifference.byteAt chroma) (planes.redDifference.byteAt chroma)

/-- A byte of the packed picture: red, green, blue and an opaque alpha for each pixel in turn. -/
def packedByte (planes : Planes) (offset : Nat) : UInt8 :=
  let pixel := offset / packedPixelBytes
  let colour := planes.colourAt (pixel % planes.size.columns) (pixel / planes.size.columns)
  match offset % packedPixelBytes with
  | 0 => colour.red
  | 1 => colour.green
  | 2 => colour.blue
  | _ => 255

/-- Paint a planar payload onto a canvas as packed pixels. A packed format is refused first, then a
size without pixels, a short payload, and a short canvas. The rows of a large picture may be converted
in parallel: each is painted on its own line by the same rule, so it is the same picture. -/
def toRgba (payload : Bytes) (format : PixelFormat) (size : Size) (canvas : Bytes) :
    Except FrameError Bytes :=
  let needed := format.frameBytes size
  let painted := size.area * packedPixelBytes
  if !format.isPlanar then .error (.unsupportedFormat format.code)
  else if size.isEmpty then .error (.invalidGeometry size)
  else if payload.size < needed then .error (.bufferTooSmall needed payload.size)
  else if canvas.size < painted then .error (.bufferTooSmall painted canvas.size)
  else
    let planes := split format size payload
    .ok (canvas.paint painted planes.packedByte)

end Planes

end FramePath

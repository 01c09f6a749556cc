import FramePath.Bytes
import FramePath.FrameError

/-!
# Nearest-neighbour resampling

Each pixel of the destination copies one pixel of the source. Its column is found in 16.16
fixed point: the scale of the axis is cut to 16 fractional bits first, and dividing by it may point
past the last column, where the index stops. Rows are found the same way.
-/

namespace FramePath

namespace Resample

/-- Number of fractional bits of a scale. -/
def fractionBits : UInt64 := 16

/-- Destination pixels per source pixel along one axis, in fixed point. -/
def scale (source destination : UInt32) : UInt64 :=
  (destination.toUInt64 <<< fractionBits) / source.toUInt64

/-- The source index that destination index `i` copies along one axis. -/
def sourceIndex (source destination : UInt32) (i : UInt64) : UInt64 :=
  min ((i <<< fractionBits) / scale source destination) (source.toUInt64 - 1)

/-- The pixel of the source, counted row after row, that a pixel of the destination copies. -/
def sourcePixel (source destination : Size) (x y : Nat) : Nat :=
  (sourceIndex source.height destination.height y.toUInt64).toNat * source.columns +
    (sourceIndex source.width destination.width x.toUInt64).toNat

/-- A byte of the resampled picture. -/
def resampledByte (pixels : Bytes) (source destination : Size) (pixelBytes offset : Nat) : UInt8 :=
  let pixel := offset / pixelBytes
  let copied :=
    sourcePixel source destination (pixel % destination.columns) (pixel / destination.columns)
  pixels.byteAt (copied * pixelBytes + offset % pixelBytes)

/-- Resample a picture of the size `source` onto a canvas of the size `destination`. A source or
pixel without bytes is refused; a destination without pixels needs no work; then a short source, a
short canvas and a scale of zero are refused in this order. -/
def apply (pixels : Bytes) (source : Size) (canvas : Bytes) (destination : Size)
    (pixelBytes : Nat) : Except FrameError Bytes :=
  let needed := source.area * pixelBytes
  let painted := destination.area * pixelBytes
  if source.isEmpty || pixelBytes == 0 then .error (.invalidGeometry source)
  else if destination.isEmpty then .ok canvas
  else if pixels.size < needed then .error (.bufferTooSmall needed pixels.size)
  else if canvas.size < painted then .error (.bufferTooSmall painted canvas.size)
  else if scale source.width destination.width == 0 || scale source.height destination.height == 0
  then .error (.invalidGeometry destination)
  else .ok (canvas.paint painted (resampledByte pixels source destination pixelBytes))

end Resample

end FramePath

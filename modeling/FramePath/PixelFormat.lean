import FramePath.Size

/-!
# Pixel formats

Two planar 4:2:0 formats, which differ in the order of their chroma planes, and four packed formats
of four bytes a pixel. Each has a numeric code by which a stream description names it; `ofCode?_code`
says that a code leads back to its format.
-/

namespace FramePath

/-- Bytes of one packed pixel, and of one pixel of every scratch canvas. -/
def packedPixelBytes : Nat := 4

/-- Samples of a chroma row or column that covers `count` luma samples: half of them, rounded up so
that an odd last one keeps its sample. -/
def chromaExtent (count : Nat) : Nat := (count + 1) / 2

/-- How the bytes of a frame are laid out. -/
inductive PixelFormat where
  /-- Planar 4:2:0: luma, blue difference, red difference. -/
  | i420
  /-- Planar 4:2:0: luma, red difference, blue difference. -/
  | yv12
  | rgba
  | bgra
  | bgrx
  | argb
  deriving DecidableEq, Repr, Inhabited

namespace PixelFormat

/-- The number by which a stream description names the format. -/
def code : PixelFormat → UInt32
  | i420 => 1
  | yv12 => 2
  | rgba => 6
  | bgra => 7
  | bgrx => 8
  | argb => 9

/-- The format with this code, if there is one. -/
def ofCode? (code : UInt32) : Option PixelFormat :=
  match code with
  | 1 => some i420
  | 2 => some yv12
  | 6 => some rgba
  | 7 => some bgra
  | 8 => some bgrx
  | 9 => some argb
  | _ => none

/-- The format's short name. -/
def name : PixelFormat → String
  | i420 => "I420"
  | yv12 => "YV12"
  | rgba => "RGBA"
  | bgra => "BGRA"
  | bgrx => "BGRX"
  | argb => "ARGB"

/-- Number of planes. -/
def planeCount : PixelFormat → Nat
  | i420 | yv12 => 3
  | _ => 1

/-- A format with more than one plane. -/
def isPlanar (format : PixelFormat) : Bool := 1 < format.planeCount

/-- Bytes of one pixel; zero for the planar formats, where no pixel has bytes of its own. -/
def bytesPerPixel : PixelFormat → Nat
  | i420 | yv12 => 0
  | _ => packedPixelBytes

/-- Samples in one chroma plane of a 4:2:0 frame. -/
def chromaArea (size : Size) : Nat := chromaExtent size.columns * chromaExtent size.rows

/-- Bytes of a whole frame. -/
def frameBytes (format : PixelFormat) (size : Size) : Nat :=
  if format.isPlanar then size.area + 2 * chromaArea size else size.area * format.bytesPerPixel

/-- A code leads back to its format. -/
theorem ofCode?_code (format : PixelFormat) : ofCode? format.code = some format := by
  cases format <;> rfl

/-- Only a format's own code leads to it. -/
theorem code_eq_of_ofCode? {code : UInt32} {format : PixelFormat}
    (found : ofCode? code = some format) : format.code = code := by
  unfold ofCode? at found
  split at found <;> cases found <;> rfl

/-- A packed frame has four bytes a pixel. -/
theorem frameBytes_of_packed {format : PixelFormat} (packed : format.isPlanar = false)
    (size : Size) : format.frameBytes size = size.area * packedPixelBytes := by
  cases format <;> simp_all [frameBytes, isPlanar, planeCount, bytesPerPixel]

end PixelFormat

end FramePath

import FramePath.Proofs.Planes
import FramePath.Proofs.Resample
import FramePath.Proofs.Turn

/-!
# The picture that a frame should give

`Picture.ofFrame` is the picture of a frame without any canvas: a function of the format, the size of the source, the
size of the output, the turn and the payload. Its pixels are those of the source (`sourceByte`), turned a few slots
late over a zeroed canvas (`turnedByte`) and resampled.
-/

namespace FramePath

namespace Picture

variable {size : Size} {pixels : Bytes} {bytes : Nat → Nat → Nat → UInt8}

/-- Byte `k` of a pixel of the source: of its colour if the format is planar, or as the payload has it. -/
def sourceByte (format : PixelFormat) (size : Size) (payload : Bytes) (pixel k : Nat) : UInt8 :=
  if format.isPlanar then
    Planes.packed
      (Planes.exactColour format size payload (pixel % size.columns) (pixel / size.columns)) k
  else payload.byteAt (pixel * packedPixelBytes + k)

/-- Byte `k` of a slot of the turned picture. The picture is turned clockwise and lands `lateness` slots late; the
slots before it are zero. -/
def turnedByte (turn : Turn) (size : Size) (bytes : Nat → Nat → UInt8) (slot k : Nat) : UInt8 :=
  match turn with
  | .none => bytes slot k
  | turn =>
    if slot < turn.lateness size then 0
    else bytes (turn.originPixel size (slot - turn.lateness size)) k

/-- The picture of a size with these bytes in column `x` of row `y`. -/
def ofBytes (size : Size) (bytes : Nat → Nat → Nat → UInt8) : Picture :=
  ⟨size, Array.ofFn fun offset : Fin (size.area * packedPixelBytes) =>
    let pixel := offset.val / packedPixelBytes
    bytes (pixel % size.columns) (pixel / size.columns) (offset.val % packedPixelBytes)⟩

/-- The picture of a payload: the source, turned, and resampled to the size of the output. -/
def ofFrame (format : PixelFormat) (source output : Size) (turn : Turn) (payload : Bytes) : Picture :=
  let turnedSize := turn.turnedSize source
  ofBytes output fun x y =>
    turnedByte turn source (sourceByte format source payload)
      (Resample.nearestPixel turnedSize output x y)

/-- A picture has four bytes for each of its pixels. -/
theorem size_ofFrame (format : PixelFormat) (source output : Size) (turn : Turn) (payload : Bytes) :
    (ofFrame format source output turn payload).pixels.size = output.area * packedPixelBytes :=
  Array.size_ofFn

example : (ofFrame .rgba ⟨2, 1⟩ ⟨1, 2⟩ .quarter #[1, 2, 3, 4, 5, 6, 7, 8]).pixels =
    #[0, 0, 0, 0, 1, 2, 3, 4] := by decide +kernel

/-- A buffer with the right length and the right bytes is the picture. -/
theorem eq_ofBytes (hsize : pixels.size = size.area * packedPixelBytes)
    (hbytes : ∀ x y k, x < size.columns → y < size.rows → k < packedPixelBytes →
      pixels.byteAt ((y * size.columns + x) * packedPixelBytes + k) = bytes x y k) :
    ⟨size, pixels⟩ = ofBytes size bytes := by
  unfold ofBytes
  congr 1
  refine Array.ext (by rw [hsize, Array.size_ofFn]) ?_
  intro offset hoffset _
  have hinside : offset / packedPixelBytes < size.area :=
    Nat.div_lt_of_lt_mul (by rw [Nat.mul_comm]; omega)
  have hk : offset % packedPixelBytes < packedPixelBytes := Nat.mod_lt _ (by decide)
  obtain ⟨x, y, hx, hy, hplace⟩ := Size.exists_place hinside
  have hbyte := hbytes x y _ hx hy hk
  rw [← hplace, Nat.mul_comm, Nat.div_add_mod, Bytes.byteAt_of_lt _ hoffset] at hbyte
  rw [hbyte, Array.getElem_ofFn]
  dsimp only
  rw [hplace, Size.place_mod hx, Size.place_div hx]

end Picture

end FramePath

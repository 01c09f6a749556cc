/-!
# The colour transform

One luma sample and two chroma samples become red, green and blue by the BT.601 weights, scaled by
2^13 and summed in signed 32-bit words. A sum is shifted down with the sign kept, which rounds
toward minus infinity, and clipped to a byte.
-/

namespace FramePath

/-- A colour of three bytes. -/
structure Rgb where
  red : UInt8
  green : UInt8
  blue : UInt8
  deriving DecidableEq, Repr

namespace Colour

/-- Number of fractional bits of the weights. -/
def fractionBits : Int32 := 13

/-- Weight of luma in every channel. -/
def lumaWeight : Int32 := 9535

/-- Weight of the red difference in red. -/
def redWeight : Int32 := 13074

/-- Weight of the red difference in green, where it is taken away. -/
def greenRedWeight : Int32 := 6660

/-- Weight of the blue difference in green, where it is taken away. -/
def greenBlueWeight : Int32 := 3203

/-- Weight of the blue difference in blue. -/
def blueWeight : Int32 := 16531

/-- A sample as a signed word. -/
def sample (byte : UInt8) : Int32 := Int32.ofNat byte.toNat

/-- Scaled luma, counted from black at 16. -/
def luma (y : UInt8) : Int32 := lumaWeight * (sample y - 16)

/-- A chroma sample, counted from neutral at 128. -/
def chroma (c : UInt8) : Int32 := sample c - 128

/-- Scaled red. -/
def redSum (y v : UInt8) : Int32 := luma y + redWeight * chroma v

/-- Scaled green. -/
def greenSum (y u v : UInt8) : Int32 :=
  luma y - greenRedWeight * chroma v - greenBlueWeight * chroma u

/-- Scaled blue. -/
def blueSum (y u : UInt8) : Int32 := luma y + blueWeight * chroma u

/-- A word forced into the range of a byte. -/
def clip (value : Int32) : UInt8 :=
  if value < 0 then 0 else if 255 < value then 255 else value.toUInt32.toUInt8

/-- A scaled sum as a channel. -/
def channel (sum : Int32) : UInt8 := clip (sum >>> fractionBits)

/-- The colour of a luma sample `y` with blue difference `u` and red difference `v`. -/
def ofSamples (y u v : UInt8) : Rgb :=
  ⟨channel (redSum y v), channel (greenSum y u v), channel (blueSum y u)⟩

end Colour

end FramePath

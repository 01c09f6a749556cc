import FramePath.Colour

/-!
# The colour transform in unbounded integers

The sums of the colour transform are made in signed 32-bit words. They stay far within the words, so they are the
sums in unbounded integers, and shifting a word down is dividing with the quotient rounded down. `ofSamples_eq` says
that the transform is the exact one.
-/

namespace FramePath

namespace Colour

/-- A scaled sum as a channel: divided by 8192 with the quotient rounded down, and forced into a byte. -/
def exactChannel (sum : Int) : UInt8 := UInt8.ofNat (max 0 (min 255 (sum / 8192))).toNat

/-- The BT.601 colour of three samples in unbounded integers. -/
def exact (y u v : UInt8) : Rgb :=
  let luma : Int := 9535 * (y.toNat - 16)
  let cb : Int := u.toNat - 128
  let cr : Int := v.toNat - 128
  ⟨exactChannel (luma + 13074 * cr), exactChannel (luma - 6660 * cr - 3203 * cb),
    exactChannel (luma + 16531 * cb)⟩

/-- A sample is the number of its byte. -/
theorem toInt_sample (byte : UInt8) : (sample byte).toInt = byte.toNat := by
  have hbyte := byte.toNat_lt
  unfold sample
  exact Int32.toInt_ofNat_of_lt (by omega)

/-- A sum within the range of a word is the sum of the numbers. -/
theorem toInt_add {a b : Int32} {x y : Int} (ha : a.toInt = x) (hb : b.toInt = y)
    (hlow : -0x80000000 ≤ x + y) (hhigh : x + y < 0x80000000) : (a + b).toInt = x + y := by
  rw [Int32.toInt_add, ha, hb]
  exact Int.bmod_eq_of_le (by omega) (by omega)

/-- A difference within the range of a word is the difference of the numbers. -/
theorem toInt_sub {a b : Int32} {x y : Int} (ha : a.toInt = x) (hb : b.toInt = y)
    (hlow : -0x80000000 ≤ x - y) (hhigh : x - y < 0x80000000) : (a - b).toInt = x - y := by
  rw [Int32.toInt_sub, ha, hb]
  exact Int.bmod_eq_of_le (by omega) (by omega)

/-- A product within the range of a word is the product of the numbers. -/
theorem toInt_mul {a b : Int32} {x y : Int} (ha : a.toInt = x) (hb : b.toInt = y)
    (hlow : -0x80000000 ≤ x * y) (hhigh : x * y < 0x80000000) : (a * b).toInt = x * y := by
  rw [Int32.toInt_mul, ha, hb]
  exact Int.bmod_eq_of_le (by omega) (by omega)

/-- Luma in unbounded integers. -/
theorem toInt_luma (y : UInt8) : (luma y).toInt = 9535 * ((y.toNat : Int) - 16) := by
  have hy := y.toNat_lt
  have hdifference : (sample y - 16).toInt = (y.toNat : Int) - 16 :=
    toInt_sub (toInt_sample y) rfl (by omega) (by omega)
  exact toInt_mul rfl hdifference (by omega) (by omega)

/-- A chroma sample in unbounded integers. -/
theorem toInt_chroma (c : UInt8) : (chroma c).toInt = (c.toNat : Int) - 128 := by
  have hc := c.toNat_lt
  exact toInt_sub (toInt_sample c) rfl (by omega) (by omega)

/-- A weighted chroma sample in unbounded integers. -/
theorem toInt_weighted {weight : Int32} {factor : Int} (hweight : weight.toInt = factor)
    (hlow : 0 ≤ factor) (hhigh : factor < 0x100000) (c : UInt8) :
    (weight * chroma c).toInt = factor * ((c.toNat : Int) - 128) := by
  have hc := c.toNat_lt
  have hbelow : factor * (-128) ≤ factor * ((c.toNat : Int) - 128) :=
    Int.mul_le_mul_of_nonneg_left (by omega) hlow
  have habove : factor * ((c.toNat : Int) - 128) ≤ factor * 127 :=
    Int.mul_le_mul_of_nonneg_left (by omega) hlow
  exact toInt_mul hweight (toInt_chroma c) (by omega) (by omega)

/-- Shifting a word down divides it, with the quotient rounded down. -/
theorem toInt_shift (value : Int32) : (value >>> fractionBits).toInt = value.toInt / 8192 := by
  -- The number of bits is below the width, so it is taken as it is.
  show (value.toBitVec.sshiftRight 13).toInt = value.toBitVec.toInt / 8192
  rw [BitVec.toInt_sshiftRight, Int.shiftRight_eq_div_pow]
  rfl

/-- A word that is not negative is cut to the byte of its number. -/
theorem toUInt8_eq {value : Int32} (hvalue : 0 ≤ value.toInt) :
    value.toUInt32.toUInt8 = UInt8.ofNat value.toInt.toNat := by
  have hnonneg : (0 : Int32) ≤ value := Int32.le_iff_toInt_le.2 hvalue
  rw [Int32.toNat_toInt, ← Int32.toNat_toUInt32_of_le hnonneg]
  rfl

/-- A word is forced into a byte as its number is. -/
theorem clip_eq (value : Int32) :
    clip value = UInt8.ofNat (max 0 (min 255 value.toInt)).toNat := by
  have hnegative : value < 0 ↔ value.toInt < 0 := Int32.lt_iff_toInt_lt
  have hlarge : (255 : Int32) < value ↔ 255 < value.toInt := Int32.lt_iff_toInt_lt
  unfold clip
  by_cases hlow : value < 0
  · rw [hnegative] at hlow
    rw [if_pos (hnegative.2 hlow), show max 0 (min 255 value.toInt) = 0 by omega]
    rfl
  · rw [if_neg hlow]
    rw [hnegative] at hlow
    by_cases hhigh : 255 < value
    · rw [if_pos hhigh]
      rw [hlarge] at hhigh
      rw [show max 0 (min 255 value.toInt) = 255 by omega]
      rfl
    · rw [if_neg hhigh]
      rw [hlarge] at hhigh
      rw [show max 0 (min 255 value.toInt) = value.toInt by omega]
      exact toUInt8_eq (Int.not_lt.1 hlow)

/-- A scaled sum comes out as it does exactly. -/
theorem channel_eq {sum : Int32} {exactSum : Int} (hsum : sum.toInt = exactSum) :
    channel sum = exactChannel exactSum := by
  unfold channel exactChannel
  rw [clip_eq, toInt_shift, hsum]

/-- The transform is the one in unbounded integers. -/
theorem ofSamples_eq (y u v : UInt8) : ofSamples y u v = exact y u v := by
  have hy := y.toNat_lt
  have hu := u.toNat_lt
  have hv := v.toNat_lt
  have hred : (redSum y v).toInt = 9535 * ((y.toNat : Int) - 16) + 13074 * ((v.toNat : Int) - 128) :=
    toInt_add (toInt_luma y) (toInt_weighted rfl (by decide) (by decide) v) (by omega) (by omega)
  have hless : (luma y - greenRedWeight * chroma v).toInt =
      9535 * ((y.toNat : Int) - 16) - 6660 * ((v.toNat : Int) - 128) :=
    toInt_sub (toInt_luma y) (toInt_weighted rfl (by decide) (by decide) v) (by omega) (by omega)
  have hgreen : (greenSum y u v).toInt = 9535 * ((y.toNat : Int) - 16) -
      6660 * ((v.toNat : Int) - 128) - 3203 * ((u.toNat : Int) - 128) :=
    toInt_sub hless (toInt_weighted rfl (by decide) (by decide) u) (by omega) (by omega)
  have hblue : (blueSum y u).toInt = 9535 * ((y.toNat : Int) - 16) + 16531 * ((u.toNat : Int) - 128) :=
    toInt_add (toInt_luma y) (toInt_weighted rfl (by decide) (by decide) u) (by omega) (by omega)
  unfold ofSamples exact
  rw [channel_eq hred, channel_eq hgreen, channel_eq hblue]

end Colour

end FramePath

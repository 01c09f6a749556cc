import FramePath.Proofs.Painting
import FramePath.Proofs.Size
import FramePath.Resample

/-!
# What resampling copies

`nearest` is the source index in natural numbers: the index in 16.16 fixed point divided by the scale, which is cut to
16 fractional bits first, and stopped at the last one. The words of `Resample.sourceIndex` never overflow, so they
agree with it (`toNat_sourceIndex`). `byteAt_apply` gives every byte of a resampled canvas by it. `onto` is the
resampling on a caller's canvas step by step, and `onto_apply` says that `Resample.apply` tells what it answers and
leaves.
-/

namespace FramePath

namespace Resample

variable {pixels canvas after : Bytes} {source destination : Size} {pixelBytes : Nat}

/-- Destination pixels per source pixel along one axis, in units of 1/65536, rounded down. -/
def unitScale (source destination : Nat) : Nat := destination * 65536 / source

/-- The source index that a destination index copies along one axis. -/
def nearest (source destination i : Nat) : Nat :=
  min (i * 65536 / unitScale source destination) (source - 1)

/-- An index that is copied is one of the source. -/
theorem nearest_lt {source : Nat} (hsource : 0 < source) (destination i : Nat) :
    nearest source destination i < source := by
  unfold nearest
  omega

/-- A word of 32 bits has room for 16 fractional bits in one of 64. -/
theorem toNat_shift {value : UInt64} (hvalue : value.toNat < 0x100000000) :
    (value <<< fractionBits).toNat = value.toNat * 65536 := by
  rw [UInt64.toNat_shiftLeft, Nat.shiftLeft_eq]
  show value.toNat * 65536 % 0x10000000000000000 = value.toNat * 65536
  exact Nat.mod_eq_of_lt (by omega)

/-- The smaller of two words is the smaller number. -/
theorem toNat_min (a b : UInt64) : (min a b).toNat = min a.toNat b.toNat := by
  show (if a ≤ b then a else b).toNat = _
  by_cases hle : a ≤ b
  · rw [if_pos hle, Nat.min_eq_left (UInt64.le_iff_toNat_le.1 hle)]
  · rw [if_neg hle, Nat.min_eq_right]
    rw [UInt64.le_iff_toNat_le] at hle
    omega

/-- The scale of an axis in natural numbers. -/
theorem toNat_scale (source destination : UInt32) :
    (scale source destination).toNat = unitScale source.toNat destination.toNat := by
  have hdestination := destination.toNat_lt
  unfold scale unitScale
  rw [UInt64.toNat_div, toNat_shift (by simpa using hdestination)]
  simp

/-- The source index of an axis in natural numbers. -/
theorem toNat_sourceIndex {source : UInt32} (hsource : 0 < source.toNat) (destination : UInt32) {i : Nat}
    (hi : i < 0x100000000) :
    (sourceIndex source destination i.toUInt64).toNat =
      nearest source.toNat destination.toNat i := by
  have hindex : (i.toUInt64).toNat = i := by
    simp
    omega
  have hlast : (source.toUInt64 - 1).toNat = source.toNat - 1 := by
    rw [UInt64.toNat_sub_of_le]
    · simp
    · rw [UInt64.le_iff_toNat_le]
      simp
      omega
  unfold sourceIndex nearest
  rw [toNat_min, UInt64.toNat_div, toNat_shift (by omega), toNat_scale, hindex, hlast]

/-- The pixel of the source that a pixel of the destination copies. -/
def nearestPixel (source destination : Size) (x y : Nat) : Nat :=
  nearest source.rows destination.rows y * source.columns +
    nearest source.columns destination.columns x

/-- Resampling that is not refused has a source with pixels, enough of them, and room on the canvas. -/
theorem checks_of_apply (happly : apply pixels source canvas destination pixelBytes = .ok after)
    (hdestination : 0 < destination.area) :
    0 < source.area ∧ 0 < pixelBytes ∧ destination.area * pixelBytes ≤ canvas.size ∧
      after = canvas.paint (destination.area * pixelBytes)
        (resampledByte pixels source destination pixelBytes) := by
  have hfilled : destination.isEmpty = false := by
    rw [← Bool.not_eq_true, Size.isEmpty_iff_area]
    omega
  unfold apply at happly
  dsimp only at happly
  rw [hfilled] at happly
  split at happly
  · cases happly
  · next hsource =>
    have hpixels : source.isEmpty = false ∧ pixelBytes ≠ 0 := by simpa using hsource
    rw [if_neg (by decide)] at happly
    split at happly
    · cases happly
    · split at happly
      · cases happly
      · next hroom =>
        split at happly
        · cases happly
        · cases happly
          refine ⟨Nat.pos_of_ne_zero fun harea => ?_, Nat.pos_of_ne_zero hpixels.2,
            Nat.le_of_not_lt hroom, rfl⟩
          rw [← Size.isEmpty_iff_area, hpixels.1] at harea
          cases harea

/-- The scale of an axis is zero exactly if a destination pixel stands for more than 65536 source pixels. -/
theorem scale_eq_zero_iff {source destination : UInt32} (hsource : 0 < source.toNat) :
    scale source destination = 0 ↔ destination.toNat * 65536 < source.toNat := by
  rw [← UInt64.toNat_inj, toNat_scale, unitScale]
  exact Nat.div_eq_zero_iff_lt hsource

/-- A picture of a size with pixels is resampled to another, if it is long enough and the canvas has room, unless the
scale of an axis is zero. -/
theorem apply_of_room (hsource : 0 < source.area) (hdestination : 0 < destination.area)
    (hbytes : 0 < pixelBytes) (henough : source.area * pixelBytes ≤ pixels.size)
    (hroom : destination.area * pixelBytes ≤ canvas.size) :
    apply pixels source canvas destination pixelBytes =
      if destination.columns * 65536 < source.columns ∨ destination.rows * 65536 < source.rows then
        .error (.invalidGeometry destination)
      else
        .ok (canvas.paint (destination.area * pixelBytes)
          (resampledByte pixels source destination pixelBytes)) := by
  have hfilled : (source.isEmpty || pixelBytes == 0) = false := by
    rw [Bool.or_eq_false_iff, beq_eq_false_iff_ne, ← Bool.not_eq_true, Size.isEmpty_iff_area]
    exact ⟨Nat.ne_of_gt hsource, Nat.ne_of_gt hbytes⟩
  have hwork : destination.isEmpty = false := by
    rw [← Bool.not_eq_true, Size.isEmpty_iff_area]
    exact Nat.ne_of_gt hdestination
  have hcolumns := @scale_eq_zero_iff source.width destination.width (Nat.pos_of_mul_pos_right hsource)
  have hrows := @scale_eq_zero_iff source.height destination.height (Nat.pos_of_mul_pos_left hsource)
  unfold apply
  dsimp only
  rw [hfilled, if_neg (by decide), hwork, if_neg (by decide), if_neg (Nat.not_lt.2 henough),
    if_neg (Nat.not_lt.2 hroom)]
  simp only [Bool.or_eq_true, beq_iff_eq, hcolumns, hrows]
  rfl

/-- Resampling keeps the length of the canvas. -/
theorem size_apply (happly : apply pixels source canvas destination pixelBytes = .ok after) :
    after.size = canvas.size := by
  -- A destination without pixels gets its canvas back as it is.
  by_cases hdestination : destination.isEmpty = true
  · unfold apply at happly
    dsimp only at happly
    rw [if_pos hdestination] at happly
    split at happly
    · cases happly
    · cases happly
      rfl
  · rw [Size.isEmpty_iff_area] at hdestination
    obtain ⟨_, _, _, rfl⟩ := checks_of_apply happly (Nat.pos_of_ne_zero hdestination)
    exact Bytes.size_paint _ _ _

/-- A resampled byte is that of the pixel nearest in fixed point. -/
theorem resampledByte_eq (hsource : 0 < source.area) {x y k : Nat} (hx : x < destination.columns)
    (hy : y < destination.rows) (hk : k < pixelBytes) :
    resampledByte pixels source destination pixelBytes
        ((y * destination.columns + x) * pixelBytes + k) =
      pixels.byteAt (nearestPixel source destination x y * pixelBytes + k) := by
  have hcolumns : 0 < source.columns := Nat.pos_of_mul_pos_right hsource
  have hrows : 0 < source.rows := Nat.pos_of_mul_pos_left hsource
  have hwidth := destination.width.toNat_lt
  have hheight := destination.height.toNat_lt
  unfold resampledByte sourcePixel nearestPixel
  dsimp only
  rw [Size.place_mod hk, Size.place_div hk, Size.place_mod hx, Size.place_div hx,
    toNat_sourceIndex hrows _ (Nat.lt_trans hy hheight),
    toNat_sourceIndex hcolumns _ (Nat.lt_trans hx hwidth)]
  rfl

/-- A copied pixel is one of the source. -/
theorem nearestPixel_lt (hsource : 0 < source.area) (x y : Nat) :
    nearestPixel source destination x y < source.area := by
  have hcolumns : 0 < source.columns := Nat.pos_of_mul_pos_right hsource
  have hrows : 0 < source.rows := Nat.pos_of_mul_pos_left hsource
  exact Size.place_lt (nearest_lt hcolumns _ x) (nearest_lt hrows _ y)

/-- The bytes of a resampled canvas: each pixel is a copy of the source pixel nearest in fixed point. -/
theorem byteAt_apply (happly : apply pixels source canvas destination pixelBytes = .ok after)
    {x y k : Nat} (hx : x < destination.columns) (hy : y < destination.rows) (hk : k < pixelBytes) :
    after.byteAt ((y * destination.columns + x) * pixelBytes + k) =
      pixels.byteAt (nearestPixel source destination x y * pixelBytes + k) := by
  have hplace := Size.place_lt hx hy
  obtain ⟨hsource, _, hroom, rfl⟩ := checks_of_apply happly (Nat.zero_lt_of_lt hplace)
  have hinside := Size.byte_lt hplace hk
  rw [Bytes.byteAt_paint _ _ _ (Nat.lt_of_lt_of_le hinside hroom), if_pos hinside]
  exact resampledByte_eq hsource hx hy hk

/-- Resample a picture step by step: all is looked at before the first pixel is copied, and a canvas without pixels
needs no copy. -/
def resampling (pixels : Bytes) (source destination : Size) (pixelBytes : Nat) : Painting Unit := do
  let needed := source.area * pixelBytes
  let painted := destination.area * pixelBytes
  if source.isEmpty || pixelBytes == 0 then throw (.invalidGeometry source)
  if destination.isEmpty then return
  if pixels.size < needed then throw (.bufferTooSmall needed pixels.size)
  Painting.demand painted
  if scale source.width destination.width == 0 || scale source.height destination.height == 0 then
    throw (.invalidGeometry destination)
  modify fun canvas => canvas.paint painted (resampledByte pixels source destination pixelBytes)

/-- Resample a picture onto a canvas: the answer, and the canvas as the call leaves it. -/
def onto (pixels : Bytes) (source : Size) (canvas : Bytes) (destination : Size) (pixelBytes : Nat) :
    Except FrameError Unit × Bytes :=
  (resampling pixels source destination pixelBytes).on canvas

/-- Resampling that is refused leaves the canvas as it was. -/
theorem onto_apply (pixels : Bytes) (source : Size) (canvas : Bytes) (destination : Size) (pixelBytes : Nat) :
    onto pixels source canvas destination pixelBytes =
      match apply pixels source canvas destination pixelBytes with
      | .ok after => (.ok (), after)
      | .error cause => (.error cause, canvas) := by
  unfold onto resampling apply
  dsimp only
  split
  · rfl
  split
  · rfl
  split
  · rfl
  rw [Painting.on_demand]
  split
  · rfl
  split
  · rfl
  · rfl

end Resample

end FramePath

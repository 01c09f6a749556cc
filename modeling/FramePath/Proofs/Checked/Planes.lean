import FramePath.Proofs.Checked.Words
import FramePath.Proofs.Planes
import FramePath.Proofs.Turn

/-!
# The conversion of a planar frame in words

The conversion as a machine does it: the planes are cut off the payload one after another, each row of the canvas is a
chunk of it and each pixel a chunk of its row, and the colour is summed in signed words. `toRgba_eq` says that no step
of it faults for a picture that a canvas could be granted for, and that it answers and leaves what `Planes.onto` does.
-/

namespace FramePath

namespace Checked

variable {format : PixelFormat} {size : Size} {payload canvas : Bytes} {planes : Planes}

/-- No canvas is granted that has this many bytes or more. -/
def grantLimit : Nat := 0x800000000000

/-- The colour of three samples, every number of it in a signed word. -/
def colour (y u v : UInt8) : Checked Rgb := do
  let brightness ← signed (y.toNat - 16)
  let luma ← signed (9535 * brightness)
  let cb ← signed (u.toNat - 128)
  let cr ← signed (v.toNat - 128)
  let redPart ← signed (13074 * cr)
  let red ← signed (luma + redPart)
  let greenRedPart ← signed (6660 * cr)
  let reduced ← signed (luma - greenRedPart)
  let greenBluePart ← signed (3203 * cb)
  let green ← signed (reduced - greenBluePart)
  let bluePart ← signed (16531 * cb)
  let blue ← signed (luma + bluePart)
  pure ⟨Colour.exactChannel red, Colour.exactChannel green, Colour.exactChannel blue⟩

/-- The sums of the colour transform stay within signed words. -/
theorem colour_eq (y u v : UInt8) : colour y u v = .ok (Colour.ofSamples y u v) := by
  have hy := y.toNat_lt
  have hu := u.toNat_lt
  have hv := v.toNat_lt
  rw [Colour.ofSamples_eq]
  unfold colour
  iterate 12 rw [signed_eq (by omega) (by omega), ok_bind]
  rfl

/-- The bytes of a frame. -/
def frameBytes (format : PixelFormat) (size : Size) : Checked Nat :=
  if format.isPlanar then do
    let luma ← mul size.columns size.rows
    let chroma ← mul (chromaExtent size.columns) (chromaExtent size.rows)
    let chroma ← mul chroma 2
    add luma chroma
  else do
    let area ← mul size.columns size.rows
    mul area format.bytesPerPixel

/-- A chroma plane has no more samples than there are pixels. -/
theorem chromaArea_le (hfilled : 0 < size.area) : PixelFormat.chromaArea size ≤ size.area := by
  have hcolumns : 0 < size.columns := Nat.pos_of_mul_pos_right hfilled
  have hrows : 0 < size.rows := Nat.pos_of_mul_pos_left hfilled
  unfold PixelFormat.chromaArea chromaExtent Size.area
  exact Nat.mul_le_mul (by omega) (by omega)

/-- The pixels of a picture are counted in a word, if a canvas of its size could be granted. -/
theorem area_eq {pixelBytes : Nat} (hbytes : 0 < pixelBytes)
    (hsmall : size.area * pixelBytes < grantLimit) : mul size.columns size.rows = .ok size.area := by
  have hless : size.area ≤ size.area * pixelBytes := Nat.le_mul_of_pos_right _ hbytes
  refine mul_eq ?_
  show size.area < 0x10000000000000000
  unfold grantLimit at hsmall
  omega

/-- So are its bytes. -/
theorem length_eq {pixelBytes : Nat} (hsmall : size.area * pixelBytes < grantLimit) :
    mul size.area pixelBytes = .ok (size.area * pixelBytes) := by
  unfold grantLimit at hsmall
  exact mul_eq (by omega)

/-- The bytes of a picture, row by row. -/
theorem length_rows (size : Size) (pixelBytes : Nat) :
    size.area * pixelBytes = size.rows * (size.columns * pixelBytes) := by
  unfold Size.area
  rw [Nat.mul_comm size.columns, Nat.mul_assoc]

/-- The samples of a chroma plane are counted in a word. -/
theorem chromaArea_eq (hfilled : 0 < size.area) (hsmall : size.area * packedPixelBytes < grantLimit) :
    mul (chromaExtent size.columns) (chromaExtent size.rows) = .ok (PixelFormat.chromaArea size) := by
  have hchroma := chromaArea_le hfilled
  refine mul_eq ?_
  show PixelFormat.chromaArea size < 0x10000000000000000
  unfold packedPixelBytes grantLimit at hsmall
  omega

/-- The bytes of a frame are counted in a word. -/
theorem frameBytes_eq (hfilled : 0 < size.area) (hsmall : size.area * packedPixelBytes < grantLimit)
    (format : PixelFormat) : frameBytes format size = .ok (format.frameBytes size) := by
  have hchroma := chromaArea_le hfilled
  unfold frameBytes PixelFormat.frameBytes
  rw [area_eq (by decide) hsmall, chromaArea_eq hfilled hsmall]
  unfold packedPixelBytes grantLimit at hsmall
  by_cases hplanar : format.isPlanar = true
  · rw [if_pos hplanar, if_pos hplanar, ok_bind, ok_bind, mul_eq (by omega), ok_bind,
      add_eq (by omega), Nat.mul_comm _ 2]
  · have hpixel : format.bytesPerPixel ≤ 4 := by
      cases format <;> decide
    have hbytes := Nat.mul_le_mul_left size.area hpixel
    rw [if_neg hplanar, if_neg hplanar, ok_bind, mul_eq (by omega)]

-- Without the bound the count may wrap around.
example : frameBytes .rgba ⟨0xFFFFFFFF, 0xFFFFFFFF⟩ = .error .overflow := rfl

/-- Cut a payload into its planes. -/
def splitPlanes (format : PixelFormat) (size : Size) (payload : Bytes) : Checked Planes := do
  let area ← mul size.columns size.rows
  let chroma ← mul (chromaExtent size.columns) (chromaExtent size.rows)
  let (luma, rest) ← splitAt payload area
  let (first, rest) ← splitAt rest chroma
  let second ← slice rest 0 chroma
  match format with
  | .yv12 => pure ⟨size, luma, second, first⟩
  | _ => pure ⟨size, luma, first, second⟩

/-- Convert one row. -/
def convertRow (planes : Planes) (row : Nat) (line : Bytes) : Checked Bytes := do
  let width := planes.size.columns
  let chromaWidth := chromaExtent width
  let start ← mul row width
  let next ← add row 1
  let stop ← mul next width
  let lumaRow ← slice planes.luma start stop
  let above ← div row 2
  let offset ← mul above chromaWidth
  let limit ← add offset chromaWidth
  let blueRow ← slice planes.blueDifference offset limit
  let redRow ← slice planes.redDifference offset limit
  chunks packedPixelBytes lumaRow.size (fun x pixel => do
    let column ← div x 2
    let blueSample ← byte blueRow column
    let redSample ← byte redRow column
    let colour ← colour (lumaRow.byteAt x) blueSample redSample
    let pixel ← put pixel 0 colour.red
    let pixel ← put pixel 1 colour.green
    let pixel ← put pixel 2 colour.blue
    put pixel 3 255) line

/-- Convert all rows, each onto its line. -/
def convertLines (planes : Planes) (lines : Bytes) : Checked Bytes := do
  let stride ← mul planes.size.columns packedPixelBytes
  chunks stride lines.size (convertRow planes) lines

/-- Paint a planar payload onto a canvas as packed pixels: the answer, and the canvas as it is left. -/
def toRgba (payload : Bytes) (format : PixelFormat) (size : Size) (canvas : Bytes) :
    Checked (Except FrameError Unit × Bytes) :=
  if !format.isPlanar then pure (.error (.unsupportedFormat format.code), canvas)
  else if size.isEmpty then pure (.error (.invalidGeometry size), canvas)
  else do
    let needed ← frameBytes format size
    if payload.size < needed then pure (.error (.bufferTooSmall needed payload.size), canvas)
    else
      let area ← mul size.columns size.rows
      let painted ← mul area packedPixelBytes
      if canvas.size < painted then pure (.error (.bufferTooSmall painted canvas.size), canvas)
      else
        let planes ← splitPlanes format size payload
        let lines ← slice canvas 0 painted
        let lines ← convertLines planes lines
        let canvas ← copyOnto canvas 0 painted lines
        pure (.ok (), canvas)

/-- Planes with all samples of their size. -/
structure Whole (planes : Planes) : Prop where
  luma : planes.luma.size = planes.size.area
  blueDifference : planes.blueDifference.size = PixelFormat.chromaArea planes.size
  redDifference : planes.redDifference.size = PixelFormat.chromaArea planes.size

/-- A payload that is long enough is cut into whole planes. -/
theorem whole_split (henough : size.area + 2 * PixelFormat.chromaArea size ≤ payload.size)
    (format : PixelFormat) : Whole (Planes.split format size payload) := by
  have hluma : (payload.extract 0 size.area).size = size.area := by
    rw [Array.size_extract, Nat.min_eq_left (by omega), Nat.sub_zero]
  have hfirst : (payload.extract size.area (size.area + PixelFormat.chromaArea size)).size =
      PixelFormat.chromaArea size := by
    rw [Array.size_extract, Nat.min_eq_left (by omega), Nat.add_sub_cancel_left]
  have hsecond : (payload.extract (size.area + PixelFormat.chromaArea size)
      (size.area + 2 * PixelFormat.chromaArea size)).size = PixelFormat.chromaArea size := by
    rw [Array.size_extract, Nat.min_eq_left (by omega)]
    omega
  cases format with
  | yv12 => exact ⟨hluma, hsecond, hfirst⟩
  | _ => exact ⟨hluma, hfirst, hsecond⟩

/-- The parts that are cut off a payload one after another are its planes. -/
theorem splitPlanes_eq (hfilled : 0 < size.area) (hsmall : size.area * packedPixelBytes < grantLimit)
    (henough : size.area + 2 * PixelFormat.chromaArea size ≤ payload.size) (format : PixelFormat) :
    splitPlanes format size payload = .ok (Planes.split format size payload) := by
  have hrest : (payload.extract size.area payload.size).size = payload.size - size.area := by
    rw [Array.size_extract, Nat.min_self]
  unfold splitPlanes
  rw [area_eq (by decide) hsmall, ok_bind, chromaArea_eq hfilled hsmall, ok_bind, splitAt_eq (by omega), ok_bind]
  dsimp only
  rw [splitAt_eq (by omega), ok_bind]
  dsimp only
  rw [slice_eq (Nat.zero_le _) (by rw [Array.size_extract]; omega), ok_bind]
  simp only [Array.extract_extract, Nat.add_zero]
  have hfirst : min (size.area + PixelFormat.chromaArea size) payload.size =
      size.area + PixelFormat.chromaArea size := Nat.min_eq_left (by omega)
  have hsecond : min (size.area + PixelFormat.chromaArea size + PixelFormat.chromaArea size)
      (min (size.area + (payload.size - size.area)) payload.size) =
        size.area + 2 * PixelFormat.chromaArea size := by
    omega
  rw [hrest, hfirst, hsecond]
  cases format <;> rfl

/-- Four bytes put one after another are a pixel painted. -/
theorem put_pixel {pixel : Bytes} (hpixel : pixel.size = packedPixelBytes) (colour : Rgb) :
    (do
      let pixel ← put pixel 0 colour.red
      let pixel ← put pixel 1 colour.green
      let pixel ← put pixel 2 colour.blue
      put pixel 3 255) = .ok (pixel.paint packedPixelBytes (Planes.packed colour)) := by
  have hfour : pixel.size = 4 := hpixel
  rw [put_eq (by omega), ok_bind, put_eq (by rw [Array.size_setIfInBounds]; omega), ok_bind,
    put_eq (by simp only [Array.size_setIfInBounds]; omega), ok_bind,
    put_eq (by simp only [Array.size_setIfInBounds]; omega)]
  refine congrArg Except.ok (Bytes.ext_byteAt (by simp) fun place hplace => ?_)
  simp only [Array.size_setIfInBounds] at hplace
  rw [Bytes.byteAt_paint _ _ _ hplace, if_pos (by rwa [hpixel] at hplace)]
  rw [hfour] at hplace
  rw [Turn.byteAt_set (by simp only [Array.size_setIfInBounds]; omega),
    Turn.byteAt_set (by simp only [Array.size_setIfInBounds]; omega),
    Turn.byteAt_set (by rw [Array.size_setIfInBounds]; omega), Turn.byteAt_set (by omega)]
  rcases place with _ | _ | _ | _ | place
  · rfl
  · rfl
  · rfl
  · rfl
  · omega

/-- One row is converted to its packed pixels. -/
theorem convertRow_eq {row : Nat} {line : Bytes} (hwhole : Whole planes) (hrow : row < planes.size.rows)
    (hfilled : 0 < planes.size.area) (hsmall : planes.size.area * packedPixelBytes < grantLimit)
    (hline : line.size = planes.size.columns * packedPixelBytes) :
    convertRow planes row line = .ok (line.paint (planes.size.columns * packedPixelBytes) fun k =>
      planes.packedByte (row * (planes.size.columns * packedPixelBytes) + k)) := by
  have hchroma := chromaArea_le hfilled
  have hrows : planes.size.rows < 0x100000000 := planes.size.height.toNat_lt
  have hstop : (row + 1) * planes.size.columns ≤ planes.size.area := by
    unfold Size.area
    rw [Nat.mul_comm planes.size.columns]
    exact Nat.mul_le_mul_right _ hrow
  have hlimit : row / 2 * chromaExtent planes.size.columns + chromaExtent planes.size.columns ≤
      PixelFormat.chromaArea planes.size := by
    unfold PixelFormat.chromaArea
    rw [← Nat.succ_mul, Nat.mul_comm (chromaExtent planes.size.columns)]
    refine Nat.mul_le_mul_right _ ?_
    unfold chromaExtent
    omega
  have hstart : row * planes.size.columns ≤ (row + 1) * planes.size.columns :=
    Nat.mul_le_mul_right _ (Nat.le_succ row)
  have hcolumns : (row + 1) * planes.size.columns - row * planes.size.columns = planes.size.columns := by
    rw [Nat.succ_mul, Nat.add_sub_cancel_left]
  have hlumaRow : (planes.luma.extract (row * planes.size.columns)
      ((row + 1) * planes.size.columns)).size = planes.size.columns := by
    rw [Array.size_extract, hwhole.luma, Nat.min_eq_left hstop, hcolumns]
  unfold packedPixelBytes grantLimit at hsmall
  unfold convertRow
  dsimp only
  rw [mul_eq (by omega), ok_bind, add_eq (by omega), ok_bind, mul_eq (by omega), ok_bind,
    slice_eq hstart (by rwa [hwhole.luma]), ok_bind, div_eq (by decide), ok_bind,
    mul_eq (by omega), ok_bind, add_eq (by omega), ok_bind,
    slice_eq (Nat.le_add_right ..) (by rwa [hwhole.blueDifference]), ok_bind,
    slice_eq (Nat.le_add_right ..) (by rwa [hwhole.redDifference]), ok_bind]
  refine chunks_eq (by decide) ?_ ?_
  · rw [hlumaRow, hline, Nat.mul_div_cancel _ (by decide), Nat.min_self]
  · intro x hx pixel hpixel
    have hcolumn : x / 2 < chromaExtent planes.size.columns := by
      unfold chromaExtent
      omega
    have hchromaRow {plane : Bytes} (hplane : plane.size = PixelFormat.chromaArea planes.size) :
        (plane.extract (row / 2 * chromaExtent planes.size.columns)
          (row / 2 * chromaExtent planes.size.columns + chromaExtent planes.size.columns)).size =
            chromaExtent planes.size.columns := by
      rw [Array.size_extract, hplane, Nat.min_eq_left hlimit, Nat.add_sub_cancel_left]
    have hsample := Nat.add_lt_add_left hcolumn (row / 2 * chromaExtent planes.size.columns)
    have hluma : row * planes.size.columns + x < (row + 1) * planes.size.columns := by
      rw [Nat.succ_mul]
      omega
    rw [div_eq (by decide), ok_bind, byte_eq (by rwa [hchromaRow hwhole.blueDifference]), ok_bind,
      byte_eq (by rwa [hchromaRow hwhole.redDifference]), ok_bind, colour_eq, ok_bind,
      put_pixel hpixel, Planes.byteAt_extract hsample, Planes.byteAt_extract hsample,
      Planes.byteAt_extract hluma]
    refine congrArg Except.ok (paint_congr fun k hk => ?_)
    rw [place_bytes, Planes.packedByte_eq hx hk]
    rfl

/-- All rows are converted to the packed picture. -/
theorem convertLines_eq {lines : Bytes} (hwhole : Whole planes) (hfilled : 0 < planes.size.area)
    (hsmall : planes.size.area * packedPixelBytes < grantLimit)
    (hlines : lines.size = planes.size.area * packedPixelBytes) :
    convertLines planes lines =
      .ok (lines.paint (planes.size.area * packedPixelBytes) planes.packedByte) := by
  have hcolumns : 0 < planes.size.columns := Nat.pos_of_mul_pos_right hfilled
  have hwidth : planes.size.columns < 0x100000000 := planes.size.width.toNat_lt
  have hstride : 0 < planes.size.columns * packedPixelBytes := Nat.mul_pos hcolumns (by decide)
  have hrows := length_rows planes.size packedPixelBytes
  have hmul : mul planes.size.columns packedPixelBytes =
      .ok (planes.size.columns * packedPixelBytes) := by
    unfold packedPixelBytes
    exact mul_eq (by omega)
  unfold convertLines
  rw [hmul, ok_bind]
  rw [hrows]
  refine chunks_eq hstride ?_ fun row hrow line hline =>
    convertRow_eq hwhole hrow hfilled hsmall hline
  rw [hlines, hrows, Nat.mul_div_cancel _ hstride]
  exact (Nat.min_eq_right (Nat.le_mul_of_pos_right _ hstride)).symm

/-- The conversion never faults, and answers and leaves what it should. -/
theorem toRgba_eq (hfilled : 0 < size.area) (hsmall : size.area * packedPixelBytes < grantLimit)
    (payload : Bytes) (format : PixelFormat) (canvas : Bytes) :
    toRgba payload format size canvas = .ok (Planes.onto payload format size canvas) := by
  rw [Planes.onto_toRgba]
  unfold toRgba Planes.toRgba
  dsimp only
  by_cases hpacked : (!format.isPlanar) = true
  · rw [if_pos hpacked, if_pos hpacked]
    rfl
  rw [if_neg hpacked, if_neg hpacked]
  by_cases hempty : size.isEmpty = true
  · rw [if_pos hempty, if_pos hempty]
    rfl
  rw [if_neg hempty, if_neg hempty, frameBytes_eq hfilled hsmall, ok_bind]
  by_cases hshort : payload.size < format.frameBytes size
  · rw [if_pos hshort, if_pos hshort]
    rfl
  rw [if_neg hshort, if_neg hshort, area_eq (by decide) hsmall, ok_bind, length_eq hsmall, ok_bind]
  by_cases hroom : canvas.size < size.area * packedPixelBytes
  · rw [if_pos hroom, if_pos hroom]
    rfl
  have hplanar : format.isPlanar = true := by simpa using hpacked
  have henough : size.area + 2 * PixelFormat.chromaArea size ≤ payload.size := by
    unfold PixelFormat.frameBytes at hshort
    rw [if_pos hplanar] at hshort
    exact Nat.le_of_not_lt hshort
  rw [if_neg hroom, if_neg hroom, splitPlanes_eq hfilled hsmall henough, ok_bind,
    slice_eq (Nat.zero_le _) (Nat.le_of_not_lt hroom), ok_bind]
  have hsize : (Planes.split format size payload).size = size := by cases format <;> rfl
  have hlines : (canvas.extract 0 (size.area * packedPixelBytes)).size =
      size.area * packedPixelBytes := by
    rw [Array.size_extract, Nat.min_eq_left (Nat.le_of_not_lt hroom), Nat.sub_zero]
  have hconverted := @convertLines_eq (Planes.split format size payload)
    (canvas.extract 0 (size.area * packedPixelBytes)) (whole_split henough format)
    (by rwa [hsize]) (by rwa [hsize]) (by rwa [hsize])
  rw [hsize] at hconverted
  rw [hconverted, ok_bind, copyOnto_zero (Nat.le_of_not_lt hroom) (by rwa [Bytes.size_paint])
    fun k hk => ?_]
  · rfl
  · rw [Bytes.byteAt_paint _ _ _ (by rwa [hlines]), if_pos hk]

end Checked

end FramePath

import FramePath.Proofs.Checked.Planes
import FramePath.Proofs.Resample

/-!
# Resampling in words

The resampling as a machine does it: the scales are shifted up and divided in words, each row of the canvas is a chunk
of it and each pixel a chunk of its row, and a pixel is copied from its place in a row of the source. `resample_eq`
says that no step of it faults for pictures that canvases could be granted for, and that it answers and leaves what
`Resample.onto` does.
-/

namespace FramePath

namespace Checked

variable {source destination : Size} {pixelBytes : Nat} {pixels canvas : Bytes}

/-- Destination pixels per source pixel along one axis, in fixed point. -/
def scale (source destination : Nat) : Checked Nat := do
  let shifted ← shiftUp destination
  div shifted source

/-- The source index that a destination index copies along one axis. -/
def sourceIndex (scale last i : Nat) : Checked Nat := do
  let shifted ← shiftUp i
  let index ← div shifted scale
  pure (min index last)

/-- Resample one row, where the scales, the last indices and the stride of the source are known. -/
def resampleRow (pixels : Bytes) (columnScale rowScale lastColumn lastRow stride pixelBytes y : Nat)
    (line : Bytes) : Checked Bytes := do
  let row ← sourceIndex rowScale lastRow y
  let start ← mul row stride
  let next ← add row 1
  let stop ← mul next stride
  let sourceLine ← slice pixels start stop
  chunks pixelBytes line.size (fun x pixel => do
    let column ← sourceIndex columnScale lastColumn x
    let offset ← mul column pixelBytes
    let stop ← add offset pixelBytes
    let bytes ← slice sourceLine offset stop
    copyOnto pixel 0 pixel.size bytes) line

/-- Resample all rows, each onto its line. -/
def resampleLines (pixels : Bytes) (source destination : Size) (columnScale rowScale pixelBytes : Nat)
    (lines : Bytes) : Checked Bytes := do
  let sourceStride ← mul source.columns pixelBytes
  let stride ← mul destination.columns pixelBytes
  let lastColumn ← sub source.columns 1
  let lastRow ← sub source.rows 1
  chunks stride lines.size
    (resampleRow pixels columnScale rowScale lastColumn lastRow sourceStride pixelBytes) lines

/-- Resample a picture of the size `source` onto a canvas of the size `destination`: the answer, and the canvas as it
is left. -/
def resample (pixels : Bytes) (source : Size) (canvas : Bytes) (destination : Size)
    (pixelBytes : Nat) : Checked (Except FrameError Unit × Bytes) :=
  if source.isEmpty || pixelBytes == 0 then pure (.error (.invalidGeometry source), canvas)
  else if destination.isEmpty then pure (.ok (), canvas)
  else do
    let area ← mul source.columns source.rows
    let needed ← mul area pixelBytes
    if pixels.size < needed then pure (.error (.bufferTooSmall needed pixels.size), canvas)
    else
      let area ← mul destination.columns destination.rows
      let painted ← mul area pixelBytes
      if canvas.size < painted then pure (.error (.bufferTooSmall painted canvas.size), canvas)
      else
        let columnScale ← scale source.columns destination.columns
        let rowScale ← scale source.rows destination.rows
        if columnScale == 0 || rowScale == 0 then
          pure (.error (.invalidGeometry destination), canvas)
        else
          let lines ← slice canvas 0 painted
          let lines ←
            resampleLines pixels source destination columnScale rowScale pixelBytes lines
          let canvas ← copyOnto canvas 0 painted lines
          pure (.ok (), canvas)

/-- A scale fits in a word. -/
theorem scale_eq {count other : Nat} (hfrom : 0 < count) (hto : other < 0x100000000) :
    scale count other = .ok (Resample.unitScale count other) := by
  unfold scale
  rw [shiftUp_eq (by omega), ok_bind, div_eq hfrom]
  rfl

/-- A source index fits in a word, and is one of the axis. -/
theorem sourceIndex_eq {count other i : Nat} (hscale : 0 < Resample.unitScale count other)
    (hi : i < 0x100000000) :
    sourceIndex (Resample.unitScale count other) (count - 1) i =
      .ok (Resample.nearest count other i) := by
  unfold sourceIndex
  rw [shiftUp_eq (by omega), ok_bind, div_eq hscale]
  rfl

/-- A row of a picture has no more bytes than the picture. -/
theorem stride_le {size : Size} (hfilled : 0 < size.area) :
    size.columns * pixelBytes ≤ size.area * pixelBytes :=
  Nat.mul_le_mul_right _ (Nat.le_mul_of_pos_right _ (Nat.pos_of_mul_pos_left hfilled))

/-- One row is resampled, and nothing faults. -/
theorem resampleRow_eq {y : Nat} {line : Bytes} (hsource : 0 < source.area) (hbytes : 0 < pixelBytes)
    (hsmall : source.area * pixelBytes < grantLimit) (hy : y < destination.rows)
    (henough : source.area * pixelBytes ≤ pixels.size)
    (hcolumnScale : 0 < Resample.unitScale source.columns destination.columns)
    (hrowScale : 0 < Resample.unitScale source.rows destination.rows)
    (hline : line.size = destination.columns * pixelBytes) :
    resampleRow pixels (Resample.unitScale source.columns destination.columns)
        (Resample.unitScale source.rows destination.rows) (source.columns - 1) (source.rows - 1)
        (source.columns * pixelBytes) pixelBytes y line =
      .ok (line.paint (destination.columns * pixelBytes) fun k =>
        Resample.resampledByte pixels source destination pixelBytes
          (y * (destination.columns * pixelBytes) + k)) := by
  have hcolumns : 0 < source.columns := Nat.pos_of_mul_pos_right hsource
  have hrows : 0 < source.rows := Nat.pos_of_mul_pos_left hsource
  have hheight : destination.rows < 0x100000000 := destination.height.toNat_lt
  have hwidth : destination.columns < 0x100000000 := destination.width.toNat_lt
  -- The row that is copied is one of the source, so it ends within it.
  have hrow := Resample.nearest_lt hrows destination.rows y
  generalize hnearest : Resample.nearest source.rows destination.rows y = row at hrow
  have hstop : (row + 1) * (source.columns * pixelBytes) ≤ source.area * pixelBytes := by
    rw [length_rows]
    exact Nat.mul_le_mul_right _ hrow
  have hstart : row * (source.columns * pixelBytes) ≤ (row + 1) * (source.columns * pixelBytes) :=
    Nat.mul_le_mul_right _ (Nat.le_succ row)
  have hlength : (pixels.extract (row * (source.columns * pixelBytes))
      ((row + 1) * (source.columns * pixelBytes))).size = source.columns * pixelBytes := by
    rw [Array.size_extract, Nat.min_eq_left (Nat.le_trans hstop henough), Nat.succ_mul,
      Nat.add_sub_cancel_left]
  have hrowBytes := @stride_le pixelBytes source hsource
  have hrowLe : row < source.area * pixelBytes :=
    Nat.lt_of_lt_of_le hrow (Nat.le_trans (Nat.le_mul_of_pos_left _ hcolumns)
      (Nat.le_mul_of_pos_right _ hbytes))
  unfold grantLimit at hsmall
  unfold resampleRow
  rw [sourceIndex_eq hrowScale (Nat.lt_trans hy hheight), ok_bind, hnearest,
    mul_eq (by omega), ok_bind, add_eq (by omega), ok_bind, mul_eq (by omega), ok_bind,
    slice_eq hstart (Nat.le_trans hstop henough), ok_bind]
  refine chunks_eq hbytes ?_ ?_
  · rw [hline, Nat.mul_div_cancel _ hbytes]
    exact (Nat.min_eq_right (Nat.le_mul_of_pos_right _ hbytes)).symm
  · intro x hx pixel hpixel
    have hcolumn := Resample.nearest_lt hcolumns destination.columns x
    rw [sourceIndex_eq hcolumnScale (Nat.lt_trans hx hwidth), ok_bind]
    generalize hcopied : Resample.nearest source.columns destination.columns x = column at hcolumn ⊢
    have hlast : column * pixelBytes + pixelBytes ≤ source.columns * pixelBytes := by
      rw [← Nat.succ_mul]
      exact Nat.mul_le_mul_right _ hcolumn
    have hbytesSize : ((pixels.extract (row * (source.columns * pixelBytes))
        ((row + 1) * (source.columns * pixelBytes))).extract (column * pixelBytes)
          (column * pixelBytes + pixelBytes)).size = pixelBytes := by
      rw [Array.size_extract, hlength, Nat.min_eq_left hlast, Nat.add_sub_cancel_left]
    rw [mul_eq (by omega), ok_bind, add_eq (by omega), ok_bind,
      slice_eq (Nat.le_add_right ..) (by rwa [hlength]), ok_bind, hpixel]
    refine copyOnto_zero (Nat.le_of_eq hpixel.symm) hbytesSize fun k hk => ?_
    have hbefore : row * (source.columns * pixelBytes) + (column * pixelBytes + k) <
        (row + 1) * (source.columns * pixelBytes) := by
      rw [Nat.succ_mul]
      omega
    rw [Planes.byteAt_extract (by omega), Planes.byteAt_extract (by omega),
      place_bytes, place_bytes, Resample.resampledByte_eq hsource hx hy hk]
    unfold Resample.nearestPixel
    rw [hnearest, hcopied]

/-- All rows are resampled. -/
theorem resampleLines_eq {lines : Bytes} (hsource : 0 < source.area) (hbytes : 0 < pixelBytes)
    (hsmall : source.area * pixelBytes < grantLimit) (hfilled : 0 < destination.area)
    (hgranted : destination.area * pixelBytes < grantLimit)
    (henough : source.area * pixelBytes ≤ pixels.size)
    (hcolumnScale : 0 < Resample.unitScale source.columns destination.columns)
    (hrowScale : 0 < Resample.unitScale source.rows destination.rows)
    (hlines : lines.size = destination.area * pixelBytes) :
    resampleLines pixels source destination (Resample.unitScale source.columns destination.columns)
        (Resample.unitScale source.rows destination.rows) pixelBytes lines =
      .ok (lines.paint (destination.area * pixelBytes)
        (Resample.resampledByte pixels source destination pixelBytes)) := by
  have hstride : 0 < destination.columns * pixelBytes :=
    Nat.mul_pos (Nat.pos_of_mul_pos_right hfilled) hbytes
  have hrows := length_rows destination pixelBytes
  have hsourceRow := @stride_le pixelBytes source hsource
  have hrow := @stride_le pixelBytes destination hfilled
  unfold resampleLines
  rw [mul_eq (by unfold grantLimit at hsmall; omega), ok_bind,
    mul_eq (by unfold grantLimit at hgranted; omega), ok_bind,
    sub_eq (Nat.pos_of_mul_pos_right hsource), ok_bind,
    sub_eq (Nat.pos_of_mul_pos_left hsource), ok_bind, hrows]
  refine chunks_eq hstride ?_ fun y hy line hline =>
    resampleRow_eq hsource hbytes hsmall hy henough hcolumnScale hrowScale hline
  rw [hlines, hrows, Nat.mul_div_cancel _ hstride]
  exact (Nat.min_eq_right (Nat.le_mul_of_pos_right _ hstride)).symm

/-- A scale is zero in words as it is in numbers. -/
theorem scale_beq_zero (source destination : UInt32) :
    (Resample.scale source destination == 0) =
      (Resample.unitScale source.toNat destination.toNat == 0) := by
  rw [← Resample.toNat_scale, Bool.eq_iff_iff, beq_iff_eq, beq_iff_eq, ← UInt64.toNat_inj]
  rfl

/-- The resampling never faults, and answers and leaves what it should. -/
theorem resample_eq (hbytes : 0 < pixelBytes) (hsource : source.area * pixelBytes < grantLimit)
    (hdestination : destination.area * pixelBytes < grantLimit) (pixels canvas : Bytes) :
    resample pixels source canvas destination pixelBytes =
      .ok (Resample.onto pixels source canvas destination pixelBytes) := by
  rw [Resample.onto_apply]
  unfold resample Resample.apply
  dsimp only
  by_cases hempty : (source.isEmpty || pixelBytes == 0) = true
  · rw [if_pos hempty, if_pos hempty]
    rfl
  rw [if_neg hempty, if_neg hempty]
  by_cases hnothing : destination.isEmpty = true
  · rw [if_pos hnothing, if_pos hnothing]
    rfl
  rw [if_neg hnothing, if_neg hnothing, area_eq hbytes hsource, ok_bind, length_eq hsource, ok_bind]
  by_cases hshort : pixels.size < source.area * pixelBytes
  · rw [if_pos hshort, if_pos hshort]
    rfl
  rw [if_neg hshort, if_neg hshort, area_eq hbytes hdestination, ok_bind, length_eq hdestination,
    ok_bind]
  by_cases hroom : canvas.size < destination.area * pixelBytes
  · rw [if_pos hroom, if_pos hroom]
    rfl
  rw [if_neg hroom, if_neg hroom]
  rw [Nat.not_lt] at hshort hroom
  rw [Bool.or_eq_true, not_or, Size.isEmpty_iff_area] at hempty
  rw [Size.isEmpty_iff_area] at hnothing
  have hfilled := Nat.pos_of_ne_zero hempty.1
  have hcolumns : 0 < source.columns := Nat.pos_of_mul_pos_right hfilled
  have hrows : 0 < source.rows := Nat.pos_of_mul_pos_left hfilled
  have hwidth : destination.columns < 0x100000000 := destination.width.toNat_lt
  have hheight : destination.rows < 0x100000000 := destination.height.toNat_lt
  have hzero : (Resample.scale source.width destination.width == 0 ||
      Resample.scale source.height destination.height == 0) =
        (Resample.unitScale source.columns destination.columns == 0 ||
          Resample.unitScale source.rows destination.rows == 0) := by
    rw [scale_beq_zero, scale_beq_zero]
    rfl
  rw [scale_eq hcolumns hwidth, ok_bind, scale_eq hrows hheight, ok_bind, hzero]
  by_cases hscale : (Resample.unitScale source.columns destination.columns == 0 ||
      Resample.unitScale source.rows destination.rows == 0) = true
  · rw [if_pos hscale, if_pos hscale]
    rfl
  rw [if_neg hscale, if_neg hscale]
  rw [Bool.or_eq_true, not_or, beq_iff_eq, beq_iff_eq] at hscale
  have hlines : (canvas.extract 0 (destination.area * pixelBytes)).size =
      destination.area * pixelBytes := by
    rw [Array.size_extract, Nat.min_eq_left hroom, Nat.sub_zero]
  rw [slice_eq (Nat.zero_le _) hroom, ok_bind,
    resampleLines_eq hfilled hbytes hsource (Nat.pos_of_ne_zero hnothing) hdestination hshort
      (Nat.pos_of_ne_zero hscale.1) (Nat.pos_of_ne_zero hscale.2) hlines, ok_bind,
    copyOnto_zero hroom (by rwa [Bytes.size_paint]) fun k hk => ?_]
  · rfl
  · rw [Bytes.byteAt_paint _ _ _ (by rwa [hlines]), if_pos hk]

end Checked

end FramePath

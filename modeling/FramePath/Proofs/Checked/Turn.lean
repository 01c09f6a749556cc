import FramePath.Proofs.Checked.Planes

/-!
# A turn in words

The turn as a machine does it, column by column and row by row: the target of a pixel is found by subtraction, its
slot is counted in words, and its bytes are copied from one part of a buffer to another. `turn_eq` says that no step
of it faults for a picture that a canvas could be granted for, and that it answers and leaves what `Turn.onto` does.
-/

namespace FramePath

namespace Checked

variable {turn : Turn} {size : Size} {pixelBytes x y : Nat} {source canvas : Bytes}

/-- Column and row to which a pixel moves. -/
def target (turn : Turn) (size : Size) (x y : Nat) : Checked (Nat × Nat) :=
  match turn with
  | .none => pure (x, y)
  | .quarter => do
      let column ← sub size.rows y
      pure (column, x)
  | .half => do
      let column ← sub size.columns x
      let row ← sub size.rows y
      pure (column, row)
  | .threeQuarter => do
      let row ← sub size.columns x
      pure (y, row)

/-- Write one pixel to its slot, unless that lies past the end. -/
def turnPixel (turn : Turn) (size : Size) (pixelBytes length : Nat) (source : Bytes) (y x : Nat)
    (canvas : Bytes) : Checked Bytes := do
  let (column, row) ← target turn size x y
  let above ← mul row (turn.turnedSize size).columns
  let slot ← add above column
  let start ← mul slot pixelBytes
  let stop ← add start pixelBytes
  if length < stop then pure canvas
  else
    let above ← mul y size.columns
    let pixel ← add above x
    let first ← mul pixel pixelBytes
    let last ← add first pixelBytes
    let bytes ← slice source first last
    copyOnto canvas start stop bytes

/-- Turn a picture onto a canvas: the answer, and the canvas as it is left. -/
def turnOnto (source canvas : Bytes) (size : Size) (pixelBytes : Nat) (angle : UInt32) :
    Checked (Except FrameError Size × Bytes) :=
  match Turn.ofDegrees? angle with
  | none => pure (.error (.unsupportedRotation angle), canvas)
  | some turn =>
    if size.isEmpty || pixelBytes == 0 then pure (.error (.invalidGeometry size), canvas)
    else do
      let area ← mul size.columns size.rows
      let length ← mul area pixelBytes
      if source.size < length then pure (.error (.bufferTooSmall length source.size), canvas)
      else if canvas.size < length then pure (.error (.bufferTooSmall length canvas.size), canvas)
      else
        match turn with
        | .none => do
            let bytes ← slice source 0 length
            let canvas ← copyOnto canvas 0 length bytes
            pure (.ok size, canvas)
        | turn => do
            let canvas ← times size.rows (fun y => times size.columns
              (turnPixel turn size pixelBytes length source y)) canvas
            pure (.ok (turn.turnedSize size), canvas)

/-- No coordinate is past the edge that its target is counted from. -/
theorem target_eq (hx : x < size.columns) (hy : y < size.rows) (turn : Turn) :
    target turn size x y = .ok (turn.target size x y) := by
  cases turn with
  | none => rfl
  | quarter =>
    unfold target
    dsimp only
    rw [sub_eq (Nat.le_of_lt hy)]
    rfl
  | half =>
    unfold target
    dsimp only
    rw [sub_eq (Nat.le_of_lt hx), ok_bind, sub_eq (Nat.le_of_lt hy)]
    rfl
  | threeQuarter =>
    unfold target
    dsimp only
    rw [sub_eq (Nat.le_of_lt hx)]
    rfl

/-- No turn is later than by a whole picture and a pixel. -/
theorem lateness_le (hcolumns : 0 < size.columns) (hrows : 0 < size.rows) (turn : Turn) :
    turn.lateness size ≤ size.area + 1 := by
  have hwidth : size.columns ≤ size.area := Nat.le_mul_of_pos_right _ hrows
  have hheight : size.rows ≤ size.area := Nat.le_mul_of_pos_left _ hcolumns
  cases turn with
  | none => exact Nat.zero_le _
  | quarter => exact Nat.le_add_left ..
  | half => exact Nat.succ_le_succ hwidth
  | threeQuarter => exact Nat.le_succ_of_le hheight

/-- No slot is further from the canvas than the canvas is long. -/
theorem slot_le (hx : x < size.columns) (hy : y < size.rows) (turn : Turn) :
    turn.slot size x y ≤ 2 * size.area := by
  have hlateness := lateness_le (Nat.zero_lt_of_lt hx) (Nat.zero_lt_of_lt hy) turn
  obtain ⟨slot, hslot, _, hlate⟩ := @Turn.originPixel_pixelSlot turn size _ (Size.place_lt hx hy)
  unfold Turn.pixelSlot at hlate
  rw [Size.place_mod hx, Size.place_div hx] at hlate
  omega

/-- The canvas after one more pixel is written to its slot, or left out if that lies past the end. -/
def written (turn : Turn) (size : Size) (pixelBytes : Nat) (source : Bytes) (pixel : Nat)
    (canvas : Bytes) : Bytes :=
  if turn.pixelSlot size pixel * pixelBytes + pixelBytes ≤ size.area * pixelBytes then
    Turn.copyPixel pixelBytes source pixel (turn.pixelSlot size pixel) canvas
  else canvas

/-- The canvas after the first pixels are written. -/
def writtenAll (turn : Turn) (size : Size) (pixelBytes : Nat) (source canvas : Bytes) (count : Nat) :
    Bytes :=
  Nat.fold count (fun pixel _ canvas => written turn size pixelBytes source pixel canvas) canvas

/-- Copying a part of a buffer copies a pixel. -/
theorem copyOnto_pixel {pixel slot : Nat} (hcanvas : slot * pixelBytes + pixelBytes ≤ canvas.size)
    (hsource : pixel * pixelBytes + pixelBytes ≤ source.size) :
    copyOnto canvas (slot * pixelBytes) (slot * pixelBytes + pixelBytes)
      (source.extract (pixel * pixelBytes) (pixel * pixelBytes + pixelBytes)) =
        .ok (Turn.copyPixel pixelBytes source pixel slot canvas) := by
  have hlength : (source.extract (pixel * pixelBytes) (pixel * pixelBytes + pixelBytes)).size =
      slot * pixelBytes + pixelBytes - slot * pixelBytes := by
    rw [Array.size_extract, Nat.min_eq_left hsource, Nat.add_sub_cancel_left, Nat.add_sub_cancel_left]
  obtain ⟨after, hcopied, hsize, hbytes⟩ := copyOnto_eq (Nat.le_add_right ..) hcanvas hlength
  obtain ⟨hpixel, hplaces⟩ := @Turn.copied_bytes pixelBytes source canvas slot pixel hcanvas
    pixelBytes (Nat.le_refl _)
  rw [hcopied]
  refine congrArg Except.ok (Bytes.ext_byteAt (hsize.trans hpixel.symm) fun place hplace => ?_)
  rw [hbytes place (by rwa [hsize] at hplace)]
  refine Eq.trans ?_ (hplaces place).symm
  by_cases hinside : slot * pixelBytes ≤ place ∧ place < slot * pixelBytes + pixelBytes
  · rw [if_pos hinside, if_pos hinside, Planes.byteAt_extract (by omega)]
  · rw [if_neg hinside, if_neg hinside]

/-- Writing a pixel keeps the length of the canvas. -/
theorem size_written (hroom : size.area * pixelBytes ≤ canvas.size) (pixel : Nat) :
    (written turn size pixelBytes source pixel canvas).size = canvas.size := by
  unfold written
  split
  · exact (Turn.copied_bytes pixel (by omega) (Nat.le_refl _)).1
  · rfl

/-- The last of the first pixels is written after the others. -/
theorem writtenAll_succ (count : Nat) :
    writtenAll turn size pixelBytes source canvas (count + 1) =
      written turn size pixelBytes source count
        (writtenAll turn size pixelBytes source canvas count) := Nat.fold_succ ..

/-- Writing pixels keeps the length of the canvas. -/
theorem size_writtenAll (hroom : size.area * pixelBytes ≤ canvas.size) (count : Nat) :
    (writtenAll turn size pixelBytes source canvas count).size = canvas.size := by
  induction count with
  | zero => rfl
  | succ count ih => rw [writtenAll_succ, size_written (by rwa [ih]), ih]

/-- A pixel is written to its slot, and nothing faults. -/
theorem turnPixel_eq (hx : x < size.columns) (hy : y < size.rows) (hbytes : 0 < pixelBytes)
    (hsmall : size.area * pixelBytes < grantLimit)
    (henough : size.area * pixelBytes ≤ source.size)
    (hroom : size.area * pixelBytes ≤ canvas.size) (turn : Turn) :
    turnPixel turn size pixelBytes (size.area * pixelBytes) source y x canvas =
      .ok (written turn size pixelBytes source (y * size.columns + x) canvas) := by
  have hpixel := Size.place_lt hx hy
  have hslot := slot_le hx hy turn
  have hslotBytes := Nat.mul_le_mul_right pixelBytes hslot
  rw [Nat.mul_assoc] at hslotBytes
  have hpixelBytes := Nat.mul_le_mul_right pixelBytes (Nat.succ_le_of_lt hpixel)
  rw [Nat.succ_mul] at hpixelBytes
  have hbytesLe : pixelBytes ≤ size.area * pixelBytes :=
    Nat.le_mul_of_pos_left _ (Nat.zero_lt_of_lt hpixel)
  have hareaLe : size.area ≤ size.area * pixelBytes := Nat.le_mul_of_pos_right _ hbytes
  have hwritten : turn.pixelSlot size (y * size.columns + x) = turn.slot size x y := by
    unfold Turn.pixelSlot
    rw [Size.place_mod hx, Size.place_div hx]
  unfold grantLimit at hsmall
  unfold written turnPixel
  rw [target_eq hx hy, ok_bind, hwritten]
  unfold Turn.slot at hslot hslotBytes ⊢
  generalize turn.target size x y = place at hslot hslotBytes ⊢
  obtain ⟨column, row⟩ := place
  dsimp only at hslot hslotBytes ⊢
  rw [mul_eq (by omega), ok_bind, add_eq (by omega), ok_bind, mul_eq (by omega), ok_bind,
    add_eq (by omega), ok_bind]
  by_cases hinside : (row * (turn.turnedSize size).columns + column) * pixelBytes + pixelBytes ≤
      size.area * pixelBytes
  · rw [if_neg (Nat.not_lt.2 hinside), if_pos hinside,
      mul_eq (by omega), ok_bind, add_eq (by omega), ok_bind, mul_eq (by omega), ok_bind,
      add_eq (by omega), ok_bind,
      slice_eq (Nat.le_add_right ..) (Nat.le_trans hpixelBytes henough), ok_bind]
    exact copyOnto_pixel (Nat.le_trans hinside hroom) (Nat.le_trans hpixelBytes henough)
  · rw [if_pos (Nat.lt_of_not_le hinside), if_neg hinside]
    rfl

/-- All pixels are written to their slots, column by column and row by row. -/
theorem scatter_eq (hbytes : 0 < pixelBytes) (hsmall : size.area * pixelBytes < grantLimit)
    (henough : size.area * pixelBytes ≤ source.size)
    (hroom : size.area * pixelBytes ≤ canvas.size) (turn : Turn) :
    times size.rows (fun y => times size.columns
      (turnPixel turn size pixelBytes (size.area * pixelBytes) source y)) canvas =
        .ok (turn.scatter size pixelBytes source canvas) := by
  have hrow (y : Nat) (hy : y < size.rows) :
      times size.columns (turnPixel turn size pixelBytes (size.area * pixelBytes) source y)
        (writtenAll turn size pixelBytes source canvas (y * size.columns)) =
          .ok (writtenAll turn size pixelBytes source canvas ((y + 1) * size.columns)) := by
    rw [Nat.succ_mul]
    refine times_eq (fun x => writtenAll turn size pixelBytes source canvas (y * size.columns + x))
      fun x hx => ?_
    rw [turnPixel_eq hx hy hbytes hsmall henough (by rwa [size_writtenAll hroom]), ← Nat.add_assoc,
      writtenAll_succ]
  have hall := times_eq (fun y => writtenAll turn size pixelBytes source canvas (y * size.columns)) hrow
  rw [Nat.zero_mul, Nat.mul_comm size.rows] at hall
  exact hall

/-- The turn never faults, and answers and leaves what it should. -/
theorem turnOnto_eq (hbytes : 0 < pixelBytes) (hsmall : size.area * pixelBytes < grantLimit)
    (source canvas : Bytes) (angle : UInt32) :
    turnOnto source canvas size pixelBytes angle =
      .ok (Turn.onto source canvas size pixelBytes angle) := by
  rw [Turn.onto_apply]
  unfold turnOnto Turn.apply
  cases Turn.ofDegrees? angle with
  | none => rfl
  | some turn =>
    dsimp only
    by_cases hempty : (size.isEmpty || pixelBytes == 0) = true
    · rw [if_pos hempty, if_pos hempty]
      rfl
    rw [if_neg hempty, if_neg hempty, area_eq hbytes hsmall, ok_bind, length_eq hsmall, ok_bind]
    by_cases hshort : source.size < size.area * pixelBytes
    · rw [if_pos hshort, if_pos hshort]
      rfl
    rw [if_neg hshort, if_neg hshort]
    by_cases hroom : canvas.size < size.area * pixelBytes
    · rw [if_pos hroom, if_pos hroom]
      rfl
    rw [if_neg hroom, if_neg hroom]
    rw [Nat.not_lt] at hshort hroom
    have hscatter := scatter_eq hbytes hsmall hshort hroom turn
    cases turn with
    | none =>
      dsimp only
      have hpart : (source.extract 0 (size.area * pixelBytes)).size = size.area * pixelBytes := by
        rw [Array.size_extract, Nat.min_eq_left hshort, Nat.sub_zero]
      rw [slice_eq (Nat.zero_le _) hshort, ok_bind, copyOnto_zero hroom hpart fun k hk => ?_]
      · rfl
      · rw [Planes.byteAt_extract (by omega), Nat.zero_add]
    | _ =>
      dsimp only
      rw [hscatter]
      rfl

end Checked

end FramePath

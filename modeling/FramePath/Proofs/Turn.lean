import FramePath.Proofs.Painting
import FramePath.Proofs.Size
import FramePath.Turn

/-!
# What a turn writes

`Turn.origin` is the textbook clockwise turn, read backwards: it says which pixel of the picture stands at a place of
the turned canvas. The slots of `Turn.slot` are those of the textbook, each `lateness` late (`pixelSlot_originPixel`,
`originPixel_pixelSlot`), so no two pixels have the same slot. `byteAt_scatter` gives every byte of the canvas: from
slot `lateness` on the picture, a few slots late, and before it what was there. `onto` is the turn on a caller's
canvas step by step, and `onto_apply` says that `Turn.apply` tells what it answers and leaves.
-/

namespace FramePath

namespace Turn

variable {turn : Turn} {size : Size} {pixelBytes : Nat} {source canvas : Bytes}

/-- Column and row of the pixel that a clockwise turn brings to column `x` of row `y`. -/
def origin (turn : Turn) (size : Size) (x y : Nat) : Nat × Nat :=
  match turn with
  | none => (x, y)
  | quarter => (y, size.rows - 1 - x)
  | half => (size.columns - 1 - x, size.rows - 1 - y)
  | threeQuarter => (size.columns - 1 - y, x)

/-- The pixel that a clockwise turn brings to a slot, both counted row after row. -/
def originPixel (turn : Turn) (size : Size) (slot : Nat) : Nat :=
  let columns := (turn.turnedSize size).columns
  let place := turn.origin size (slot % columns) (slot / columns)
  place.2 * size.columns + place.1

/-- The slot to which a pixel is written, both counted row after row. -/
def pixelSlot (turn : Turn) (size : Size) (pixel : Nat) : Nat :=
  turn.slot size (pixel % size.columns) (pixel / size.columns)

/-- The pixel brought to a place stands in the picture, and it is written `lateness` slots late. -/
theorem slot_origin {x y : Nat} (hx : x < (turn.turnedSize size).columns)
    (hy : y < (turn.turnedSize size).rows) :
    (turn.origin size x y).1 < size.columns ∧ (turn.origin size x y).2 < size.rows ∧
      turn.slot size (turn.origin size x y).1 (turn.origin size x y).2 =
        y * (turn.turnedSize size).columns + x + turn.lateness size := by
  cases turn with
  | none => exact ⟨hx, hy, rfl⟩
  | quarter =>
    replace hx : x < size.rows := hx
    replace hy : y < size.columns := hy
    refine ⟨hy, by show size.rows - 1 - x < size.rows; omega, ?_⟩
    show y * size.rows + (size.rows - (size.rows - 1 - x)) = y * size.rows + x + 1
    omega
  | half =>
    replace hx : x < size.columns := hx
    replace hy : y < size.rows := hy
    refine ⟨by show size.columns - 1 - x < size.columns; omega,
      by show size.rows - 1 - y < size.rows; omega, ?_⟩
    show (size.rows - (size.rows - 1 - y)) * size.columns +
      (size.columns - (size.columns - 1 - x)) = y * size.columns + x + (size.columns + 1)
    rw [show size.rows - (size.rows - 1 - y) = y + 1 by omega, Nat.add_mul]
    omega
  | threeQuarter =>
    replace hx : x < size.rows := hx
    replace hy : y < size.columns := hy
    refine ⟨by show size.columns - 1 - y < size.columns; omega, hx, ?_⟩
    show (size.columns - (size.columns - 1 - y)) * size.rows + x = y * size.rows + x + size.rows
    rw [show size.columns - (size.columns - 1 - y) = y + 1 by omega, Nat.add_mul]
    omega

/-- Every pixel of the picture is brought to a place. -/
theorem exists_origin {x y : Nat} (hx : x < size.columns) (hy : y < size.rows) :
    ∃ column row, column < (turn.turnedSize size).columns ∧ row < (turn.turnedSize size).rows ∧
      turn.origin size column row = (x, y) := by
  cases turn with
  | none => exact ⟨x, y, hx, hy, rfl⟩
  | quarter =>
    refine ⟨size.rows - 1 - y, x, by show size.rows - 1 - y < size.rows; omega, hx, ?_⟩
    show (x, size.rows - 1 - (size.rows - 1 - y)) = (x, y)
    rw [show size.rows - 1 - (size.rows - 1 - y) = y by omega]
  | half =>
    refine ⟨size.columns - 1 - x, size.rows - 1 - y,
      by show size.columns - 1 - x < size.columns; omega,
      by show size.rows - 1 - y < size.rows; omega, ?_⟩
    show (size.columns - 1 - (size.columns - 1 - x), size.rows - 1 - (size.rows - 1 - y)) = (x, y)
    rw [show size.columns - 1 - (size.columns - 1 - x) = x by omega,
      show size.rows - 1 - (size.rows - 1 - y) = y by omega]
  | threeQuarter =>
    refine ⟨y, size.columns - 1 - x, hy, by show size.columns - 1 - x < size.columns; omega, ?_⟩
    show (size.columns - 1 - (size.columns - 1 - x), y) = (x, y)
    rw [show size.columns - 1 - (size.columns - 1 - x) = x by omega]

/-- The pixel brought to a slot is one of the picture, and it is written `lateness` slots late. -/
theorem pixelSlot_originPixel {slot : Nat} (hslot : slot < size.area) :
    turn.originPixel size slot < size.area ∧
      turn.pixelSlot size (turn.originPixel size slot) = slot + turn.lateness size := by
  rw [← area_turnedSize turn] at hslot
  obtain ⟨x, y, hx, hy, rfl⟩ := Size.exists_place hslot
  obtain ⟨hcolumn, hrow, hlate⟩ := slot_origin hx hy
  unfold originPixel pixelSlot
  dsimp only
  rw [Size.place_mod hx, Size.place_div hx, Size.place_mod hcolumn, Size.place_div hcolumn]
  exact ⟨Size.place_lt hcolumn hrow, hlate⟩

/-- A pixel is written `lateness` slots after the slot that it is brought to. -/
theorem originPixel_pixelSlot {pixel : Nat} (hpixel : pixel < size.area) :
    ∃ slot, slot < size.area ∧ turn.originPixel size slot = pixel ∧
      turn.pixelSlot size pixel = slot + turn.lateness size := by
  obtain ⟨x, y, hx, hy, rfl⟩ := Size.exists_place hpixel
  obtain ⟨column, row, hcolumn, hrow, horigin⟩ := @exists_origin turn size x y hx hy
  have hslot : row * (turn.turnedSize size).columns + column < size.area := by
    rw [← area_turnedSize turn]
    exact Size.place_lt hcolumn hrow
  have hpixel : turn.originPixel size (row * (turn.turnedSize size).columns + column) =
      y * size.columns + x := by
    unfold originPixel
    dsimp only
    rw [Size.place_mod hcolumn, Size.place_div hcolumn, horigin]
  refine ⟨_, hslot, hpixel, ?_⟩
  rw [← hpixel]
  exact (pixelSlot_originPixel hslot).2

/-- Two pixels of a picture are written to different slots. -/
theorem pixelSlot_ne {first second : Nat} (hfirst : first < size.area) (hsecond : second < size.area)
    (hne : first ≠ second) : turn.pixelSlot size first ≠ turn.pixelSlot size second := by
  obtain ⟨slot, _, horigin, hlate⟩ := @originPixel_pixelSlot turn size first hfirst
  obtain ⟨other, _, horigin', hlate'⟩ := @originPixel_pixelSlot turn size second hsecond
  -- The slots differ by the same lateness, so they are brought the same pixel.
  intro hsame
  have hslots : slot = other := by omega
  rw [hslots, horigin'] at horigin
  exact hne horigin.symm

section Copies

variable {slot other k : Nat}

/-- The bytes of one slot are none of another's. -/
theorem not_in_slot (hne : other ≠ slot) (hk : k < pixelBytes) :
    ¬ (slot * pixelBytes ≤ other * pixelBytes + k ∧
      other * pixelBytes + k < slot * pixelBytes + pixelBytes) := by
  rcases Nat.lt_or_gt_of_ne hne with hless | hgreater
  · have hbefore : (other + 1) * pixelBytes ≤ slot * pixelBytes := Nat.mul_le_mul_right _ hless
    rw [Nat.add_mul] at hbefore
    omega
  · have hafter : (slot + 1) * pixelBytes ≤ other * pixelBytes := Nat.mul_le_mul_right _ hgreater
    rw [Nat.add_mul] at hafter
    omega

/-- A byte set in a buffer is found there, and every other one is as before. -/
theorem byteAt_set {place : Nat} (hplace : place < canvas.size) (value : UInt8) (offset : Nat) :
    Bytes.byteAt (canvas.setIfInBounds place value) offset =
      if offset = place then value else canvas.byteAt offset := by
  unfold Bytes.byteAt
  rw [Array.getD_eq_getD_getElem?, Array.getD_eq_getD_getElem?, Array.getElem?_setIfInBounds]
  by_cases hsame : offset = place
  · simp [hsame, hplace]
  · simp [hsame, Ne.symm hsame]

/-- The first bytes of a pixel are copied one after another. -/
theorem copied_bytes (pixel : Nat) (hinside : slot * pixelBytes + pixelBytes ≤ canvas.size) {count : Nat}
    (hcount : count ≤ pixelBytes) :
    let copied := Nat.fold count (fun k _ canvas => canvas.setIfInBounds (slot * pixelBytes + k)
      (source.byteAt (pixel * pixelBytes + k))) canvas
    copied.size = canvas.size ∧ ∀ offset, Bytes.byteAt copied offset =
      if slot * pixelBytes ≤ offset ∧ offset < slot * pixelBytes + count then
        source.byteAt (pixel * pixelBytes + (offset - slot * pixelBytes))
      else canvas.byteAt offset := by
  induction count with
  | zero =>
    refine ⟨rfl, fun offset => ?_⟩
    rw [if_neg (by omega)]
    rfl
  | succ count ih =>
    obtain ⟨hsize, hbytes⟩ := ih (by omega)
    dsimp only at hsize hbytes ⊢
    rw [Nat.fold_succ]
    refine ⟨by rw [Array.size_setIfInBounds, hsize], fun offset => ?_⟩
    rw [byteAt_set (by omega), hbytes]
    -- The byte just copied is past those copied before.
    by_cases hlast : offset = slot * pixelBytes + count
    · rw [if_pos hlast, if_pos (by omega), hlast, Nat.add_sub_cancel_left]
    · rw [if_neg hlast]
      by_cases hearlier : slot * pixelBytes ≤ offset ∧ offset < slot * pixelBytes + count
      · rw [if_pos hearlier, if_pos (by omega)]
      · rw [if_neg hearlier, if_neg (by omega)]

end Copies

/-- What a canvas holds after the first pixels were written to their slots. -/
structure Scattered (turn : Turn) (size : Size) (pixelBytes : Nat) (source canvas : Bytes)
    (count : Nat) (after : Bytes) : Prop where
  size_eq : after.size = canvas.size
  written : ∀ pixel k, pixel < count → k < pixelBytes → turn.pixelSlot size pixel < size.area →
    after.byteAt (turn.pixelSlot size pixel * pixelBytes + k) =
      source.byteAt (pixel * pixelBytes + k)
  unwritten : ∀ slot k, (∀ pixel < count, turn.pixelSlot size pixel ≠ slot) → k < pixelBytes →
    after.byteAt (slot * pixelBytes + k) = canvas.byteAt (slot * pixelBytes + k)

/-- One more pixel is written to its slot. -/
theorem Scattered.copy {count : Nat} {after : Bytes}
    (hscattered : Scattered turn size pixelBytes source canvas count after)
    (hcount : count < size.area) (hcanvas : size.area * pixelBytes ≤ canvas.size)
    (hslot : turn.pixelSlot size count < size.area) :
    Scattered turn size pixelBytes source canvas (count + 1)
      (copyPixel pixelBytes source count (turn.pixelSlot size count) after) := by
  obtain ⟨hsize, hwritten, hunwritten⟩ := hscattered
  have hinside : turn.pixelSlot size count * pixelBytes + pixelBytes ≤ size.area * pixelBytes := by
    have hrow := Nat.mul_le_mul_right pixelBytes (Nat.succ_le_of_lt hslot)
    rwa [Nat.succ_mul] at hrow
  obtain ⟨hcopied, hbytes⟩ := @copied_bytes pixelBytes source after (turn.pixelSlot size count)
    count (by omega) pixelBytes (Nat.le_refl _)
  refine ⟨hcopied.trans hsize, ?_, ?_⟩
  · intro pixel k hpixel hk hlanding
    unfold copyPixel
    rw [hbytes]
    by_cases hlast : pixel = count
    · subst hlast
      rw [if_pos (by omega), Nat.add_sub_cancel_left]
    · have hother := @pixelSlot_ne turn size pixel count (by omega) hcount hlast
      rw [if_neg (not_in_slot hother hk)]
      exact hwritten pixel k (by omega) hk hlanding
  · intro slot k hfree hk
    unfold copyPixel
    rw [hbytes, if_neg (not_in_slot (hfree count (Nat.lt_succ_self _)).symm hk)]
    exact hunwritten slot k (fun pixel hpixel => hfree pixel (Nat.lt_succ_of_lt hpixel)) hk

/-- A pixel whose slot lies past the canvas is left out. -/
theorem Scattered.leave {count : Nat} {after : Bytes}
    (hscattered : Scattered turn size pixelBytes source canvas count after)
    (hslot : size.area ≤ turn.pixelSlot size count) :
    Scattered turn size pixelBytes source canvas (count + 1) after := by
  obtain ⟨hsize, hwritten, hunwritten⟩ := hscattered
  refine ⟨hsize, ?_, ?_⟩
  · intro pixel k hpixel hk hlanding
    have hearlier : pixel ≠ count := by
      rintro rfl
      omega
    exact hwritten pixel k (by omega) hk hlanding
  · intro slot k hfree hk
    exact hunwritten slot k (fun pixel hpixel => hfree pixel (Nat.lt_succ_of_lt hpixel)) hk

/-- All pixels of a picture are written to their slots. -/
theorem scattered (hbytes : 0 < pixelBytes) (hcanvas : size.area * pixelBytes ≤ canvas.size) :
    Scattered turn size pixelBytes source canvas size.area
      (turn.scatter size pixelBytes source canvas) := by
  -- The induction is on the number of pixels written so far.
  unfold scatter
  dsimp only
  suffices h : ∀ count ≤ size.area, Scattered turn size pixelBytes source canvas count
      (Nat.fold count (fun pixel _ canvas =>
        if turn.slot size (pixel % size.columns) (pixel / size.columns) * pixelBytes + pixelBytes ≤
          size.area * pixelBytes
        then copyPixel pixelBytes source pixel
          (turn.slot size (pixel % size.columns) (pixel / size.columns)) canvas
        else canvas) canvas) from h _ (Nat.le_refl _)
  intro count
  induction count with
  | zero =>
    intro _
    refine ⟨rfl, ?_, fun _ _ _ _ => rfl⟩
    intro pixel k hpixel
    exact absurd hpixel (Nat.not_lt_zero _)
  | succ count ih =>
    intro hcount
    have hbefore := ih (Nat.le_of_succ_le hcount)
    rw [Nat.fold_succ]
    split
    · next hinside =>
      rw [← Nat.succ_mul] at hinside
      exact hbefore.copy hcount hcanvas (Nat.le_of_mul_le_mul_right hinside hbytes)
    · next houtside =>
      refine hbefore.leave (Nat.le_of_not_lt fun hslot => houtside ?_)
      rw [← Nat.succ_mul]
      exact Nat.mul_le_mul_right _ hslot

/-- An angle is a turn exactly if it is one of four. -/
theorem ofDegrees?_eq_none_iff {angle : UInt32} :
    ofDegrees? angle = Option.none ↔ angle ∉ [0, 90, 180, 270] := by
  unfold ofDegrees?
  split <;> simp_all

/-- An angle that is no turn is refused. -/
theorem apply_of_no_turn {angle : UInt32} (hturn : ofDegrees? angle = Option.none) :
    apply source canvas size pixelBytes angle = .error (.unsupportedRotation angle) := by
  unfold apply
  rw [hturn]

/-- A picture of a size with pixels is turned, if it is long enough and the canvas has room. -/
theorem apply_of_room {angle : UInt32} (hturn : ofDegrees? angle = some turn) (hsome : turn ≠ none)
    (hfilled : size.isEmpty = false) (hbytes : 0 < pixelBytes)
    (henough : size.area * pixelBytes ≤ source.size)
    (hroom : size.area * pixelBytes ≤ canvas.size) :
    apply source canvas size pixelBytes angle =
      .ok (turn.turnedSize size, turn.scatter size pixelBytes source canvas) := by
  have hchecked : (size.isEmpty || pixelBytes == 0) = false := by
    rw [hfilled, Bool.false_or, beq_eq_false_iff_ne]
    exact Nat.ne_of_gt hbytes
  unfold apply
  rw [hturn]
  dsimp only
  rw [hchecked, if_neg (by decide), if_neg (Nat.not_lt.2 henough), if_neg (Nat.not_lt.2 hroom)]
  cases turn with
  | none => exact absurd rfl hsome
  | _ => rfl

/-- A turn keeps the length of the canvas. -/
theorem size_scatter (hbytes : 0 < pixelBytes) (hcanvas : size.area * pixelBytes ≤ canvas.size) :
    (turn.scatter size pixelBytes source canvas).size = canvas.size :=
  (scattered hbytes hcanvas).size_eq

/-- The bytes of a turned canvas: the picture as the textbook turns it, `lateness` slots late, and before it
what was there. -/
theorem byteAt_scatter (hcanvas : size.area * pixelBytes ≤ canvas.size) {slot k : Nat}
    (hslot : slot < size.area) (hk : k < pixelBytes) :
    (turn.scatter size pixelBytes source canvas).byteAt (slot * pixelBytes + k) =
      if slot < turn.lateness size then canvas.byteAt (slot * pixelBytes + k)
      else source.byteAt (turn.originPixel size (slot - turn.lateness size) * pixelBytes + k) := by
  have hscattered := @scattered turn size pixelBytes source canvas (Nat.zero_lt_of_lt hk) hcanvas
  by_cases hearly : slot < turn.lateness size
  · rw [if_pos hearly]
    refine hscattered.unwritten slot k (fun pixel hpixel => ?_) hk
    obtain ⟨brought, _, _, hlate⟩ := @originPixel_pixelSlot turn size pixel hpixel
    omega
  · rw [if_neg hearly]
    obtain ⟨horigin, hlate⟩ :=
      @pixelSlot_originPixel turn size (slot - turn.lateness size) (by omega)
    rw [Nat.sub_add_cancel (Nat.le_of_not_lt hearly)] at hlate
    have hwritten := hscattered.written _ k horigin hk (by omega)
    rwa [hlate] at hwritten

/-- Turn a picture step by step: all is looked at before the first pixel is copied. -/
def turning (source : Bytes) (size : Size) (pixelBytes : Nat) (angle : UInt32) : Painting Size := do
  match ofDegrees? angle with
  | Option.none => throw (.unsupportedRotation angle)
  | some turn =>
    let length := size.area * pixelBytes
    if size.isEmpty || pixelBytes == 0 then throw (.invalidGeometry size)
    if source.size < length then throw (.bufferTooSmall length source.size)
    Painting.demand length
    match turn with
    | none => modify fun canvas => canvas.overlay source length
    | turn => modify (turn.scatter size pixelBytes source)
    pure (turn.turnedSize size)

/-- Turn a picture onto a canvas: the answer, and the canvas as the call leaves it. -/
def onto (source canvas : Bytes) (size : Size) (pixelBytes : Nat) (angle : UInt32) :
    Except FrameError Size × Bytes :=
  (turning source size pixelBytes angle).on canvas

/-- A turn that is refused leaves the canvas as it was. -/
theorem onto_apply (source canvas : Bytes) (size : Size) (pixelBytes : Nat) (angle : UInt32) :
    onto source canvas size pixelBytes angle =
      match apply source canvas size pixelBytes angle with
      | .ok (turned, after) => (.ok turned, after)
      | .error cause => (.error cause, canvas) := by
  unfold onto turning apply
  cases ofDegrees? angle with
  | none => rfl
  | some turn =>
    dsimp only
    split
    · rfl
    split
    · rfl
    rw [Painting.on_demand]
    split
    · rfl
    · cases turn <;> rfl

end Turn

end FramePath

import FramePath.Proofs.Turn
import Mathlib.Data.List.Nodup

/-!
# The textbook turn, late

`Turn.textbook` is the picture as a clockwise turn leaves it: a pixel stands where `Turn.destination` brings it
(`byteAt_textbook`). What `Turn.apply` leaves on a canvas is that picture, `lateness` slots late, with the first slots
as they were and nothing past the picture touched (`Turned`). The pixels that have no slot left are the last ones of
the turned picture (`leftOut_perm`), and the others are copied one by one (`scatter_eq`). `turned_exactly` puts this
together with the refusals.
-/

namespace FramePath

namespace Turn

variable {turn : Turn} {size : Size} {pixelBytes : Nat} {source canvas : Bytes}

/-- Column and row to which a clockwise turn brings the pixel in column `x` of row `y`. -/
def destination (turn : Turn) (size : Size) (x y : Nat) : Nat × Nat :=
  match turn with
  | none => (x, y)
  | quarter => (size.rows - 1 - y, x)
  | half => (size.columns - 1 - x, size.rows - 1 - y)
  | threeQuarter => (y, size.columns - 1 - x)

/-- The picture as a clockwise turn leaves it, row after row of the turned canvas. -/
def textbook (turn : Turn) (size : Size) (pixelBytes : Nat) (source : Bytes) : Bytes :=
  (Bytes.blank (size.area * pixelBytes)).paint (size.area * pixelBytes) fun offset =>
    source.byteAt (turn.originPixel size (offset / pixelBytes) * pixelBytes + offset % pixelBytes)

/-- The pixels whose slot lies on the canvas, in the order in which they are copied. -/
def placed (turn : Turn) (size : Size) : List Nat :=
  (List.range size.area).filter fun pixel => turn.pixelSlot size pixel < size.area

/-- The pixels whose slot lies past the canvas. -/
def leftOut (turn : Turn) (size : Size) : List Nat :=
  (List.range size.area).filter fun pixel => size.area ≤ turn.pixelSlot size pixel

/-- The pixels of the last slots of the turned picture. -/
def lastPixels (turn : Turn) (size : Size) (count : Nat) : List Nat :=
  (List.range' (size.area - count) count).map (turn.originPixel size)

/-- Copy pixels to their slots one after another. -/
def copyPixels (turn : Turn) (size : Size) (pixelBytes : Nat) (source : Bytes) (pixels : List Nat)
    (canvas : Bytes) : Bytes :=
  pixels.foldl
    (fun canvas pixel => copyPixel pixelBytes source pixel (turn.pixelSlot size pixel) canvas) canvas

/-- What a canvas holds after a picture was turned onto it: the turned picture, late, and around it what was there. -/
structure Turned (turn : Turn) (size : Size) (pixelBytes : Nat) (source canvas after : Bytes) : Prop where
  size_eq : after.size = canvas.size
  late : ∀ slot k, turn.lateness size ≤ slot → slot < size.area → k < pixelBytes →
    after.byteAt (slot * pixelBytes + k) =
      (turn.textbook size pixelBytes source).byteAt ((slot - turn.lateness size) * pixelBytes + k)
  early : ∀ slot k, slot < turn.lateness size → k < pixelBytes →
    after.byteAt (slot * pixelBytes + k) = canvas.byteAt (slot * pixelBytes + k)
  beyond : ∀ offset, size.area * pixelBytes ≤ offset → after.byteAt offset = canvas.byteAt offset

section Textbook

/-- A byte of the turned picture is that of the pixel brought to its slot. -/
theorem byteAt_textbook_slot {slot k : Nat} (hslot : slot < size.area) (hk : k < pixelBytes) :
    (turn.textbook size pixelBytes source).byteAt (slot * pixelBytes + k) =
      source.byteAt (turn.originPixel size slot * pixelBytes + k) := by
  have hinside := Size.byte_lt hslot hk
  unfold textbook
  rw [Bytes.byteAt_paint _ _ _ (by rwa [Bytes.size_blank]), if_pos hinside, Size.place_div hk,
    Size.place_mod hk]

/-- The place to which a pixel is brought lies on the turned canvas, and the pixel comes from there. -/
theorem origin_destination {x y : Nat} (hx : x < size.columns) (hy : y < size.rows) :
    (turn.destination size x y).1 < (turn.turnedSize size).columns ∧
      (turn.destination size x y).2 < (turn.turnedSize size).rows ∧
      turn.origin size (turn.destination size x y).1 (turn.destination size x y).2 = (x, y) := by
  have hcolumn : size.columns - 1 - (size.columns - 1 - x) = x := by omega
  have hrow : size.rows - 1 - (size.rows - 1 - y) = y := by omega
  have hlastColumn : size.columns - 1 - x < size.columns := by omega
  have hlastRow : size.rows - 1 - y < size.rows := by omega
  cases turn with
  | none => exact ⟨hx, hy, rfl⟩
  | quarter => exact ⟨hlastRow, hx, congrArg (Prod.mk x) hrow⟩
  | half => exact ⟨hlastColumn, hlastRow, Prod.ext hcolumn hrow⟩
  | threeQuarter => exact ⟨hy, hlastColumn, congrArg (fun column => (column, y)) hcolumn⟩

/-- A pixel of the picture stands in the turned picture where the turn brings it. -/
theorem byteAt_textbook {x y k : Nat} (hx : x < size.columns) (hy : y < size.rows) (hk : k < pixelBytes) :
    (turn.textbook size pixelBytes source).byteAt
        (((turn.destination size x y).2 * (turn.turnedSize size).columns +
          (turn.destination size x y).1) * pixelBytes + k) =
      source.byteAt ((y * size.columns + x) * pixelBytes + k) := by
  obtain ⟨hcolumn, hrow, horigin⟩ := @origin_destination turn size x y hx hy
  have hslot := Size.place_lt hcolumn hrow
  rw [area_turnedSize] at hslot
  rw [byteAt_textbook_slot hslot hk]
  unfold originPixel
  dsimp only
  rw [Size.place_mod hcolumn, Size.place_div hcolumn, horigin]

end Textbook

section LeftOut

/-- Two slots of the canvas are brought different pixels. -/
theorem originPixel_inj {first second : Nat} (hfirst : first < size.area) (hsecond : second < size.area)
    (hsame : turn.originPixel size first = turn.originPixel size second) : first = second := by
  have hlate := (@pixelSlot_originPixel turn size first hfirst).2
  have hlate' := (@pixelSlot_originPixel turn size second hsecond).2
  rw [hsame] at hlate
  omega

/-- A pixel is left out exactly if it is one of the last, as many as the picture comes late. -/
theorem mem_leftOut_iff (pixel : Nat) :
    pixel ∈ turn.leftOut size ↔
      pixel ∈ turn.lastPixels size (min (turn.lateness size) size.area) := by
  unfold leftOut lastPixels
  rw [List.mem_filter, List.mem_range, List.mem_map, decide_eq_true_eq]
  constructor
  · rintro ⟨hpixel, hpast⟩
    obtain ⟨slot, hslot, horigin, hlate⟩ := @originPixel_pixelSlot turn size pixel hpixel
    exact ⟨slot, List.mem_range'_1.2 (by omega), horigin⟩
  · rintro ⟨slot, hslot, rfl⟩
    rw [List.mem_range'_1] at hslot
    obtain ⟨hpixel, hlate⟩ := @pixelSlot_originPixel turn size slot (by omega)
    exact ⟨hpixel, by omega⟩

/-- The pixels left out are the last ones of the turned picture, each once. -/
theorem leftOut_perm (turn : Turn) (size : Size) :
    (turn.leftOut size).Perm (turn.lastPixels size (min (turn.lateness size) size.area)) := by
  have hlast : (turn.lastPixels size (min (turn.lateness size) size.area)).Nodup := by
    refine List.Nodup.map_on (fun first hfirst second hsecond hsame => ?_) List.nodup_range'
    rw [List.mem_range'_1] at hfirst hsecond
    exact originPixel_inj (by omega) (by omega) hsame
  exact (List.perm_ext_iff_of_nodup (List.nodup_range.filter _) hlast).2 mem_leftOut_iff

end LeftOut

section Copies

/-- Writing every pixel that has a slot is copying those with a slot one after another. -/
theorem scatter_eq (hbytes : 0 < pixelBytes) (turn : Turn) :
    turn.scatter size pixelBytes source canvas =
      turn.copyPixels size pixelBytes source (turn.placed size) canvas := by
  -- The induction is on the number of pixels looked at so far.
  unfold scatter placed
  dsimp only
  generalize harea : size.area = area
  suffices h : ∀ count, Nat.fold count (fun pixel _ canvas =>
      if turn.slot size (pixel % size.columns) (pixel / size.columns) * pixelBytes + pixelBytes ≤
        area * pixelBytes
      then copyPixel pixelBytes source pixel
        (turn.slot size (pixel % size.columns) (pixel / size.columns)) canvas
      else canvas) canvas =
        turn.copyPixels size pixelBytes source
          ((List.range count).filter fun pixel => turn.pixelSlot size pixel < area) canvas from h area
  intro count
  induction count with
  | zero => rfl
  | succ count ih =>
    have htest : turn.pixelSlot size count * pixelBytes + pixelBytes ≤ area * pixelBytes ↔
        turn.pixelSlot size count < area := by
      rw [← Nat.succ_mul]
      exact Nat.mul_le_mul_right_iff hbytes
    rw [Nat.fold_succ, ih, List.range_succ, List.filter_append]
    unfold copyPixels
    rw [List.foldl_append]
    change (if turn.pixelSlot size count * pixelBytes + pixelBytes ≤ area * pixelBytes then _ else _) = _
    by_cases hplaced : turn.pixelSlot size count < area
    · rw [if_pos (htest.2 hplaced), List.filter_singleton, decide_eq_true hplaced]
      rfl
    · rw [if_neg (mt htest.1 hplaced), List.filter_singleton, decide_eq_false hplaced]
      rfl

/-- Copying pixels to slots of the canvas touches nothing past the picture. -/
theorem byteAt_copyPixels_beyond {pixels : List Nat}
    (hplaced : ∀ pixel ∈ pixels, turn.pixelSlot size pixel < size.area)
    (hcanvas : size.area * pixelBytes ≤ canvas.size) {offset : Nat}
    (hoffset : size.area * pixelBytes ≤ offset) :
    (turn.copyPixels size pixelBytes source pixels canvas).byteAt offset = canvas.byteAt offset := by
  unfold copyPixels
  induction pixels generalizing canvas with
  | nil => rfl
  | cons pixel pixels ih =>
    have hslot := hplaced pixel List.mem_cons_self
    have hinside : turn.pixelSlot size pixel * pixelBytes + pixelBytes ≤ size.area * pixelBytes := by
      rw [← Nat.succ_mul]
      exact Nat.mul_le_mul_right _ hslot
    obtain ⟨hsize, hcopied⟩ := @copied_bytes pixelBytes source canvas (turn.pixelSlot size pixel)
      pixel (by omega) pixelBytes (Nat.le_refl _)
    have hroom : size.area * pixelBytes ≤
        (copyPixel pixelBytes source pixel (turn.pixelSlot size pixel) canvas).size :=
      Nat.le_trans hcanvas (Nat.le_of_eq hsize.symm)
    rw [List.foldl_cons, ih (fun other hother => hplaced other (List.mem_cons_of_mem _ hother)) hroom]
    exact (hcopied offset).trans (if_neg (by omega))

/-- What writing every pixel to its slot leaves on a canvas. -/
theorem turned_scatter (hbytes : 0 < pixelBytes) (hcanvas : size.area * pixelBytes ≤ canvas.size)
    (turn : Turn) :
    Turned turn size pixelBytes source canvas (turn.scatter size pixelBytes source canvas) := by
  have hbeyond (offset : Nat) (hoffset : size.area * pixelBytes ≤ offset) :
      (turn.scatter size pixelBytes source canvas).byteAt offset = canvas.byteAt offset := by
    rw [scatter_eq hbytes]
    refine byteAt_copyPixels_beyond (fun pixel hpixel => ?_) hcanvas hoffset
    exact of_decide_eq_true (List.mem_filter.1 hpixel).2
  refine ⟨size_scatter hbytes hcanvas, ?_, ?_, hbeyond⟩
  · intro slot k hlate hslot hk
    rw [byteAt_scatter hcanvas hslot hk, if_neg (Nat.not_lt.2 hlate),
      byteAt_textbook_slot (by omega) hk]
  · intro slot k hearly hk
    by_cases hslot : slot < size.area
    · rw [byteAt_scatter hcanvas hslot hk, if_pos hearly]
    · have hpast := Nat.mul_le_mul_right pixelBytes (Nat.le_of_not_lt hslot)
      exact hbeyond _ (by omega)

/-- A picture that is copied as it is comes out as if its pixels were copied one by one. -/
theorem overlay_eq_scatter (hbytes : 0 < pixelBytes) (hcanvas : size.area * pixelBytes ≤ canvas.size) :
    canvas.overlay source (size.area * pixelBytes) = none.scatter size pixelBytes source canvas := by
  have hturned := @turned_scatter size pixelBytes source canvas hbytes hcanvas none
  refine Bytes.ext_byteAt (by rw [Bytes.size_overlay, hturned.size_eq]) fun offset hoffset => ?_
  rw [Bytes.size_overlay] at hoffset
  unfold Bytes.overlay
  rw [Bytes.byteAt_paint _ _ _ hoffset]
  by_cases hinside : offset < size.area * pixelBytes
  · have hslot : offset / pixelBytes < size.area := by rwa [Nat.div_lt_iff_lt_mul hbytes]
    have hk := Nat.mod_lt offset hbytes
    have hbyte := hturned.late _ _ (Nat.zero_le _) hslot hk
    rw [Nat.div_add_mod', show none.lateness size = 0 from rfl, Nat.sub_zero,
      byteAt_textbook_slot hslot hk] at hbyte
    have horigin : none.originPixel size (offset / pixelBytes) = offset / pixelBytes :=
      Nat.div_add_mod' (offset / pixelBytes) size.columns
    rw [if_pos hinside, hbyte, horigin, Nat.div_add_mod']
  · rw [if_neg hinside, hturned.beyond offset (Nat.le_of_not_lt hinside)]

end Copies

section Calls

/-- An angle that is no turn is refused, and the canvas stays. -/
theorem onto_of_no_turn {angle : UInt32} (hangle : angle ∉ [0, 90, 180, 270]) :
    onto source canvas size pixelBytes angle = (.error (.unsupportedRotation angle), canvas) := by
  rw [onto_apply, apply_of_no_turn (ofDegrees?_eq_none_iff.2 hangle)]

/-- What a turn answers and leaves: the refusals in their order, and otherwise every pixel that has a slot in it. -/
theorem onto_degrees (turn : Turn) :
    onto source canvas size pixelBytes turn.degrees =
      if size.columns = 0 ∨ size.rows = 0 ∨ pixelBytes = 0 then (.error (.invalidGeometry size), canvas)
      else if source.size < size.area * pixelBytes then
        (.error (.bufferTooSmall (size.area * pixelBytes) source.size), canvas)
      else if canvas.size < size.area * pixelBytes then
        (.error (.bufferTooSmall (size.area * pixelBytes) canvas.size), canvas)
      else (.ok (turn.turnedSize size), turn.scatter size pixelBytes source canvas) := by
  have hempty : (size.isEmpty || pixelBytes == 0) = true ↔
      size.columns = 0 ∨ size.rows = 0 ∨ pixelBytes = 0 := by
    rw [Bool.or_eq_true, Size.isEmpty_iff_area, Size.area, Nat.mul_eq_zero, beq_iff_eq, or_assoc]
  rw [onto_apply]
  unfold apply
  rw [ofDegrees?_degrees]
  dsimp only
  by_cases hfilled : size.columns = 0 ∨ size.rows = 0 ∨ pixelBytes = 0
  · rw [if_pos hfilled, if_pos (hempty.2 hfilled)]
  rw [if_neg hfilled, if_neg (mt hempty.1 hfilled)]
  by_cases hshort : source.size < size.area * pixelBytes
  · rw [if_pos hshort, if_pos hshort]
  rw [if_neg hshort, if_neg hshort]
  by_cases hroom : canvas.size < size.area * pixelBytes
  · rw [if_pos hroom, if_pos hroom]
  rw [if_neg hroom, if_neg hroom]
  cases turn with
  | none =>
    have hbytes : 0 < pixelBytes := by omega
    rw [← overlay_eq_scatter hbytes (Nat.le_of_not_lt hroom)]
    rfl
  | _ => rfl

end Calls

/-- The exact meaning of a turn. An angle that is no turn is refused, then a picture without bytes, a short picture
and a short canvas, and then the canvas stays. Otherwise the answer is the turned size, and the canvas holds the
textbook turn of the picture, `lateness` slots late: every pixel stands in a slot of its own, but for the last of the
turned picture, as many as it comes late, which are left out. -/
theorem turned_exactly (source canvas : Bytes) (size : Size) (pixelBytes : Nat) :
    (∀ angle, angle ∉ [0, 90, 180, 270] →
      onto source canvas size pixelBytes angle = (.error (.unsupportedRotation angle), canvas)) ∧
    ∀ turn : Turn,
      let length := size.columns * size.rows * pixelBytes
      let called := onto source canvas size pixelBytes turn.degrees
      let lost := min (turn.lateness size) (size.columns * size.rows)
      (if size.columns = 0 ∨ size.rows = 0 ∨ pixelBytes = 0 then
        called = (.error (.invalidGeometry size), canvas)
      else if source.size < length then
        called = (.error (.bufferTooSmall length source.size), canvas)
      else if canvas.size < length then
        called = (.error (.bufferTooSmall length canvas.size), canvas)
      else
        called.1 = .ok (turn.turnedSize size) ∧
        Turned turn size pixelBytes source canvas called.2 ∧
        called.2 = turn.copyPixels size pixelBytes source (turn.placed size) canvas) ∧
      (∀ x y k, x < size.columns → y < size.rows → k < pixelBytes →
        (turn.textbook size pixelBytes source).byteAt
            (((turn.destination size x y).2 * (turn.turnedSize size).columns +
              (turn.destination size x y).1) * pixelBytes + k) =
          source.byteAt ((y * size.columns + x) * pixelBytes + k)) ∧
      (∀ first second, first < size.area → second < size.area →
        turn.pixelSlot size first = turn.pixelSlot size second → first = second) ∧
      (turn.leftOut size).Perm (turn.lastPixels size lost) ∧ (turn.leftOut size).length = lost := by
  refine ⟨fun angle => onto_of_no_turn, fun turn => ?_⟩
  have hlost := leftOut_perm turn size
  refine ⟨?_, fun x y k => byteAt_textbook, fun first second hfirst hsecond hsame => ?_, hlost, ?_⟩
  · rw [onto_degrees]
    change if _ then _ else if source.size < size.area * pixelBytes then _
      else if canvas.size < size.area * pixelBytes then _ else _
    split_ifs with hempty hshort hsmall
    · rfl
    · rfl
    · rfl
    · have hbytes : 0 < pixelBytes := by omega
      exact ⟨rfl, turned_scatter hbytes (Nat.le_of_not_lt hsmall) turn, scatter_eq hbytes turn⟩
  · by_contra hne
    exact pixelSlot_ne hfirst hsecond hne hsame
  · rw [hlost.length_eq, lastPixels, List.length_map, List.length_range']
    rfl

/-- Three columns and two rows turned by a quarter onto a canvas with two bytes more than it needs, and by an angle
that is no turn. -/
theorem turned_exactly_three_by_two :
    let called := onto #[1, 2, 3, 4, 5, 6] #[9, 9, 9, 9, 9, 9, 9, 9] ⟨3, 2⟩ 1 90
    called = (.ok ⟨2, 3⟩, #[9, 4, 1, 5, 2, 6, 9, 9]) ∧
      Turned quarter ⟨3, 2⟩ 1 #[1, 2, 3, 4, 5, 6] #[9, 9, 9, 9, 9, 9, 9, 9] called.2 ∧
      (quarter.textbook ⟨3, 2⟩ 1 #[1, 2, 3, 4, 5, 6]).byteAt 1 = 1 ∧
      (quarter.pixelSlot ⟨3, 2⟩ 2 ≠ quarter.pixelSlot ⟨3, 2⟩ 3) ∧
      (quarter.leftOut ⟨3, 2⟩).Perm [2] ∧
      onto #[1, 2, 3, 4, 5, 6] #[9] ⟨3, 2⟩ 1 45 = (.error (.unsupportedRotation 45), #[9]) := by
  obtain ⟨_, hturn⟩ := turned_exactly #[1, 2, 3, 4, 5, 6] #[9, 9, 9, 9, 9, 9, 9, 9] ⟨3, 2⟩ 1
  obtain ⟨hcalled, hplace, hslots, hlost, _⟩ := hturn quarter
  obtain ⟨hrefused, _⟩ := turned_exactly #[1, 2, 3, 4, 5, 6] #[9] ⟨3, 2⟩ 1
  rw [if_neg (by decide), if_neg (by decide), if_neg (by decide)] at hcalled
  obtain ⟨hanswer, hturned, hcopied⟩ := hcalled
  have hslot : quarter.pixelSlot ⟨3, 2⟩ 2 ≠ quarter.pixelSlot ⟨3, 2⟩ 3 := fun hsame =>
    absurd (hslots 2 3 (by decide) (by decide) hsame) (by decide)
  exact ⟨Prod.ext hanswer (hcopied.trans (by decide +kernel)), hturned,
    hplace 0 0 0 (by decide) (by decide) (by decide), hslot, hlost, hrefused 45 (by decide)⟩

end Turn

end FramePath

import FramePath.Proofs.Resample.Accuracy

/-!
# Enlarging a picture and reducing it again

An axis that is made a whole number of times as long fills a block for every index. Reading it back, the scale is one
over that number, and rounding it down makes the index drift to the right, more with every block. The drift stays
within the block as long as the long axis has no more than 65536 indices (`nearest_reduced`), so a picture that was
enlarged is found again (`enlarged_and_back`).
-/

namespace FramePath

namespace Resample

section Axis

variable {count times i : Nat}

/-- On an axis made a whole number of times as long, an index is repeated that often. -/
theorem nearest_enlarged (hi : i < times * count) : nearest count (times * count) i = i / times := by
  have hlong : 0 < times * count := Nat.zero_lt_of_lt hi
  have hcount : 0 < count := Nat.pos_of_mul_pos_left hlong
  have hscale : 0 < unitScale count (times * count) :=
    Nat.div_pos (Nat.le_trans (Nat.le_mul_of_pos_left _ (Nat.pos_of_mul_pos_right hlong))
      (Nat.le_mul_of_pos_right _ (by decide))) hcount
  have hexact := (follows hscale hcount).exact (isExact_of_dvd (Nat.dvd_mul_left _ _)) i hi
  rw [hexact.1, trueIndex_of_mul hcount]

/-- The scale of an axis read back is one over the number of times. -/
theorem unitScale_reduced (hcount : 0 < count) : unitScale (times * count) count = 65536 / times := by
  unfold unitScale
  rw [Nat.mul_comm times, Nat.mul_div_mul_left _ _ hcount]

/-- Read back, no index falls short of the block that it is to be found in. -/
theorem le_stepped_reduced (hcount : 0 < count) (htimes : 0 < times) (hsmall : times ≤ 65536) :
    i * times ≤ stepped (times * count) count i := by
  have hrounded : times * (65536 / times) ≤ 65536 := Nat.mul_div_le _ _
  unfold stepped
  rw [unitScale_reduced hcount, Nat.le_div_iff_mul_le (Nat.div_pos hsmall htimes), Nat.mul_assoc]
  exact Nat.mul_le_mul_left _ hrounded

/-- Read back, no index drifts past the block that it is to be found in: up to the end of it, rounding the scale has
lost less than one unit for every index of the long axis. -/
theorem stepped_reduced_lt (hi : i < count) (htimes : 0 < times) (hsmall : times * count ≤ 65536) :
    stepped (times * count) count i < (i + 1) * times := by
  have hcount : 0 < count := Nat.zero_lt_of_lt hi
  have hfits : times ≤ 65536 := Nat.le_trans (Nat.le_mul_of_pos_right _ hcount) hsmall
  have hlost : 65536 < times * (65536 / times) + times := Nat.lt_mul_div_succ _ htimes
  have hpassed : (i + 1) * times ≤ 65536 :=
    Nat.le_trans (Nat.le_of_eq (Nat.mul_comm _ _)) (Nat.le_trans (Nat.mul_le_mul_left _ hi) hsmall)
  refine stepped_lt_of ?_ (Nat.lt_of_add_lt_add_right (n := 65536) ?_)
  · rw [unitScale_reduced hcount]
    exact Nat.div_pos hfits htimes
  · rw [unitScale_reduced hcount]
    calc i * 65536 + 65536
        = (i + 1) * 65536 := by ring
      _ < (i + 1) * (times * (65536 / times) + times) := Nat.mul_lt_mul_of_pos_left hlost (Nat.succ_pos _)
      _ = (i + 1) * times * (65536 / times) + (i + 1) * times := by ring
      _ ≤ (i + 1) * times * (65536 / times) + 65536 := Nat.add_le_add_left hpassed _

/-- Read back, an index is found in its own block. -/
theorem nearest_reduced (hi : i < count) (htimes : 0 < times) (hsmall : times * count ≤ 65536) :
    nearest (times * count) count i / times = i := by
  have hcount : 0 < count := Nat.zero_lt_of_lt hi
  have hlow := @le_stepped_reduced count times i hcount htimes
    (Nat.le_trans (Nat.le_mul_of_pos_right _ hcount) hsmall)
  have hhigh := stepped_reduced_lt hi htimes hsmall
  -- The last index of the axis, where the reading stops, lies in the last block.
  have hblocks : (i + 1) * times ≤ times * count := by
    rw [Nat.mul_comm]
    exact Nat.mul_le_mul_left _ hi
  have hblock : (i + 1) * times = i * times + times := Nat.succ_mul _ _
  unfold stepped at hlow hhigh
  unfold nearest
  exact Nat.div_eq_of_lt_le (by omega) (by omega)

/-- An index read back and looked up on the long axis is the index itself. -/
theorem nearest_enlarged_reduced (hi : i < count) (htimes : 0 < times) (hsmall : times * count ≤ 65536) :
    nearest count (times * count) (nearest (times * count) count i) = i := by
  have hlong : 0 < times * count := Nat.mul_pos htimes (Nat.zero_lt_of_lt hi)
  rw [nearest_enlarged, nearest_reduced hi htimes hsmall]
  unfold nearest
  omega

end Axis

variable {pixels canvas back enlarged restored : Bytes} {source large : Size} {pixelBytes across down : Nat}

/-- A pixel read back and looked up on the large picture is the pixel itself. -/
theorem nearestPixel_enlarged_reduced (hwide : large.columns = across * source.columns)
    (hhigh : large.rows = down * source.rows) (hacross : 0 < across) (hdown : 0 < down)
    (hwidth : large.columns ≤ 65536) (hheight : large.rows ≤ 65536) {x y : Nat} (hx : x < source.columns)
    (hy : y < source.rows) :
    nearestPixel source large (nearest large.columns source.columns x) (nearest large.rows source.rows y) =
      y * source.columns + x := by
  unfold nearestPixel
  rw [hwide, hhigh, nearest_enlarged_reduced hx hacross (hwide ▸ hwidth),
    nearest_enlarged_reduced hy hdown (hhigh ▸ hheight)]

/-- The picture read back from an enlarged one is the one that was enlarged. -/
theorem restored_eq (henlarged : apply pixels source canvas large pixelBytes = .ok enlarged)
    (hrestored : apply enlarged large back source pixelBytes = .ok restored)
    (hwide : large.columns = across * source.columns) (hhigh : large.rows = down * source.rows)
    (hwidth : large.columns ≤ 65536) (hheight : large.rows ≤ 65536) (hlarge : 0 < large.area) :
    restored = back.overlay pixels (source.area * pixelBytes) := by
  have hcolumns : 0 < large.columns := Nat.pos_of_mul_pos_right hlarge
  have hrows : 0 < large.rows := Nat.pos_of_mul_pos_left hlarge
  obtain ⟨hsource, hbytes, _⟩ := checks_of_apply henlarged hlarge
  obtain ⟨_, _, _, hpainted⟩ := checks_of_apply hrestored hsource
  refine Bytes.ext_byteAt (by rw [size_apply hrestored, Bytes.size_overlay]) fun place hplace => ?_
  rw [size_apply hrestored] at hplace
  unfold Bytes.overlay
  rw [Bytes.byteAt_paint _ _ _ hplace]
  split_ifs with hinside
  · obtain ⟨x, y, hx, hy, hxy⟩ := Size.exists_place ((Nat.div_lt_iff_lt_mul hbytes).2 hinside)
    have hk : place % pixelBytes < pixelBytes := Nat.mod_lt _ hbytes
    have hread := byteAt_apply hrestored hx hy hk
    have hcopied := @byteAt_apply _ _ _ _ _ _ henlarged (nearest large.columns source.columns x)
      (nearest large.rows source.rows y) _ (nearest_lt hcolumns _ x) (nearest_lt hrows _ y) hk
    have hpixel := nearestPixel_enlarged_reduced hwide hhigh
      (Nat.pos_of_mul_pos_right (hwide ▸ hcolumns)) (Nat.pos_of_mul_pos_right (hhigh ▸ hrows)) hwidth hheight hx hy
    rw [hpixel] at hcopied
    rwa [show nearestPixel large source x y = nearest large.rows source.rows y * large.columns +
      nearest large.columns source.columns x from rfl, hcopied, ← hxy, Nat.div_add_mod'] at hread
  · rw [hpainted, Bytes.byteAt_paint_of_le _ _ (Nat.le_of_not_lt hinside)]

/-- A picture made a whole number of times as wide and as high, up to 65536 columns and rows, and reduced again to its
own size is the same picture, byte for byte; neither call is refused, and the canvas that it is read back to keeps what
it has behind the picture. -/
theorem enlarged_and_back (pixels canvas back : Bytes) (source large : Size) (pixelBytes across down : Nat)
    (hcolumns : 0 < source.columns) (hrows : 0 < source.rows) (hbytes : 0 < pixelBytes)
    (hacross : 0 < across) (hdown : 0 < down) (hwide : large.columns = across * source.columns)
    (hhigh : large.rows = down * source.rows) (hwidth : large.columns ≤ 65536) (hheight : large.rows ≤ 65536)
    (henough : source.area * pixelBytes ≤ pixels.size) (hroom : large.area * pixelBytes ≤ canvas.size)
    (hroom' : source.area * pixelBytes ≤ back.size) :
    ∃ enlarged restored, apply pixels source canvas large pixelBytes = .ok enlarged ∧
      apply enlarged large back source pixelBytes = .ok restored ∧
      restored = back.overlay pixels (source.area * pixelBytes) ∧
      (pixels.size = source.area * pixelBytes → back.size = source.area * pixelBytes →
        restored = pixels) := by
  have hsource : 0 < source.area := Nat.mul_pos hcolumns hrows
  have hlarge : 0 < large.area :=
    Nat.mul_pos (hwide ▸ Nat.mul_pos hacross hcolumns) (hhigh ▸ Nat.mul_pos hdown hrows)
  have hcoarser : source.columns ≤ large.columns := hwide ▸ Nat.le_mul_of_pos_left _ hacross
  have hcoarser' : source.rows ≤ large.rows := hhigh ▸ Nat.le_mul_of_pos_left _ hdown
  have henlarged := apply_of_room hsource hlarge hbytes henough hroom
  rw [if_neg (by omega)] at henlarged
  have hrestored := apply_of_room hlarge hsource hbytes (by rwa [size_apply henlarged]) hroom'
  rw [if_neg (by omega)] at hrestored
  have hsame := restored_eq henlarged hrestored hwide hhigh hwidth hheight hlarge
  refine ⟨_, _, henlarged, hrestored, hsame, fun hpixels hback => ?_⟩
  rw [hsame]
  refine Bytes.ext_byteAt (by rw [Bytes.size_overlay, hback, hpixels]) fun place hplace => ?_
  rw [Bytes.size_overlay] at hplace
  unfold Bytes.overlay
  rw [Bytes.byteAt_paint _ _ _ hplace, if_pos (hback ▸ hplace)]

/-- Four columns made three times as many, which is no power of two, and two rows made twice as many. -/
theorem enlarged_and_back_three_by_two :
    ∃ enlarged, apply #[1, 2, 3, 4, 5, 6, 7, 8] ⟨4, 2⟩ (Bytes.blank 48) ⟨12, 4⟩ 1 = .ok enlarged ∧
      apply enlarged ⟨12, 4⟩ (Bytes.blank 8) ⟨4, 2⟩ 1 = .ok #[1, 2, 3, 4, 5, 6, 7, 8] := by
  obtain ⟨enlarged, restored, henlarged, hrestored, _, hsame⟩ :=
    enlarged_and_back #[1, 2, 3, 4, 5, 6, 7, 8] (Bytes.blank 48) (Bytes.blank 8) ⟨4, 2⟩ ⟨12, 4⟩ 1 3 2 (by decide)
      (by decide) (by decide) (by decide) (by decide) (by decide) (by decide) (by decide) (by decide) (by decide)
      (by decide) (by decide)
  rw [hsame (by decide) (by decide)] at hrestored
  exact ⟨enlarged, henlarged, hrestored⟩

end Resample

end FramePath

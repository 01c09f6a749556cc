import FramePath.Size

/-!
# Places counted row after row

A pixel in column `x` of row `y` is counted as `y * columns + x`. The same counting puts the bytes of a pixel into a
buffer. Column and row are found again by division (`place_mod`, `place_div`), and a place inside a picture is
counted below its area (`place_lt`).
-/

namespace FramePath

namespace Size

variable {x y width height : Nat}

/-- The column of a place counted row after row. -/
theorem place_mod (hx : x < width) (y : Nat) : (y * width + x) % width = x := by
  rw [Nat.mul_comm, Nat.mul_add_mod]
  exact Nat.mod_eq_of_lt hx

/-- The row of a place counted row after row. -/
theorem place_div (hx : x < width) (y : Nat) : (y * width + x) / width = y := by
  rw [Nat.mul_comm, Nat.mul_add_div (Nat.zero_lt_of_lt hx), Nat.div_eq_of_lt hx]
  rfl

/-- A place inside a picture is counted below its area. -/
theorem place_lt {size : Size} (hx : x < size.columns) (hy : y < size.rows) :
    y * size.columns + x < size.area := by
  have hrows : (y + 1) * size.columns ≤ size.rows * size.columns := Nat.mul_le_mul_right _ hy
  rw [Nat.add_mul, Nat.one_mul] at hrows
  rw [area, Nat.mul_comm size.columns]
  omega

/-- The bytes of a pixel of a picture are among those of the picture. -/
theorem byte_lt {area pixel k pixelBytes : Nat} (hpixel : pixel < area) (hk : k < pixelBytes) :
    pixel * pixelBytes + k < area * pixelBytes := by
  have hpixels : (pixel + 1) * pixelBytes ≤ area * pixelBytes := Nat.mul_le_mul_right _ hpixel
  rw [Nat.add_mul, Nat.one_mul] at hpixels
  omega

/-- Every pixel of a picture has a column and a row. -/
theorem exists_place {size : Size} {pixel : Nat} (hpixel : pixel < size.area) :
    ∃ x y, x < size.columns ∧ y < size.rows ∧ pixel = y * size.columns + x := by
  have hcolumns : 0 < size.columns := Nat.pos_of_mul_pos_right (Nat.zero_lt_of_lt hpixel)
  refine ⟨pixel % size.columns, pixel / size.columns, Nat.mod_lt _ hcolumns,
    Nat.div_lt_of_lt_mul hpixel, ?_⟩
  rw [Nat.mul_comm]
  exact (Nat.div_add_mod pixel size.columns).symm

end Size

end FramePath

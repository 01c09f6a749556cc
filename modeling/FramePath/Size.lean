/-!
# Picture sizes

A size is a width and a height in pixels, each a 32-bit count. Areas and byte counts are taken in
unbounded natural numbers.
-/

namespace FramePath

/-- A width and a height in pixels. -/
structure Size where
  width : UInt32
  height : UInt32
  deriving DecidableEq, Repr, Inhabited

namespace Size

/-- No pixels in either direction. -/
def zero : Size := ⟨0, 0⟩

/-- Number of columns. -/
def columns (size : Size) : Nat := size.width.toNat

/-- Number of rows. -/
def rows (size : Size) : Nat := size.height.toNat

/-- Number of pixels. -/
def area (size : Size) : Nat := size.columns * size.rows

/-- A size without pixels: one of its sides is zero. -/
def isEmpty (size : Size) : Bool := size.width == 0 || size.height == 0

/-- Width and height exchanged. -/
def transposed (size : Size) : Size := ⟨size.height, size.width⟩

@[simp] theorem transposed_transposed (size : Size) : size.transposed.transposed = size := rfl

/-- Exchanging the sides keeps the number of pixels. -/
theorem area_transposed (size : Size) : size.transposed.area = size.area := by
  simp [area, transposed, columns, rows, Nat.mul_comm]

/-- A size is empty exactly when it has no pixels. -/
theorem isEmpty_iff_area (size : Size) : size.isEmpty = true ↔ size.area = 0 := by
  rw [area, Nat.mul_eq_zero]
  simp [isEmpty, columns, rows, ← UInt32.toNat_inj]

end Size

end FramePath

/-!
# Byte buffers

Pixel data is an array of bytes. A transform repaints the first bytes of a buffer that its caller
owns and leaves the rest alone; `paint` is that operation, and `byteAt_paint` says which bytes
come from the transform and which are the caller's.
-/

namespace FramePath

/-- A run of pixel bytes, row after row. -/
abbrev Bytes := Array UInt8

namespace Bytes

/-- A buffer of `count` zero bytes. -/
def blank (count : Nat) : Bytes :=
  Array.replicate count 0

/-- The byte at an offset, and zero past the end. -/
def byteAt (bytes : Bytes) (offset : Nat) : UInt8 :=
  bytes.getD offset 0

/-- Repaint the first `count` bytes of a canvas; the bytes from `count` on stay. -/
def paint (canvas : Bytes) (count : Nat) (colour : Nat → UInt8) : Bytes :=
  Array.ofFn fun i : Fin canvas.size => if i.val < count then colour i.val else canvas[i]

/-- Copy the first `count` bytes of `source` over the start of a canvas. -/
def overlay (canvas source : Bytes) (count : Nat) : Bytes :=
  canvas.paint count source.byteAt

/-- Every byte of a buffer set to one value. -/
def filledWith (bytes : Bytes) (value : UInt8) : Bytes :=
  Array.replicate bytes.size value

@[simp] theorem size_blank (count : Nat) : (blank count).size = count := by
  simp [blank]

@[simp] theorem size_filledWith (bytes : Bytes) (value : UInt8) :
    (bytes.filledWith value).size = bytes.size := by
  simp [filledWith]

@[simp] theorem size_paint (canvas : Bytes) (count : Nat) (colour : Nat → UInt8) :
    (canvas.paint count colour).size = canvas.size := by
  simp [paint]

@[simp] theorem size_overlay (canvas source : Bytes) (count : Nat) :
    (canvas.overlay source count).size = canvas.size := by
  simp [overlay]

/-- Every byte of a buffer of zeros is zero. -/
theorem byteAt_blank (count offset : Nat) : (blank count).byteAt offset = 0 := by
  unfold byteAt blank
  rw [Array.getD_eq_getD_getElem?, Array.getElem?_replicate]
  split <;> rfl

/-- Inside a buffer, the byte at an offset is its element there. -/
theorem byteAt_of_lt (bytes : Bytes) {offset : Nat} (inside : offset < bytes.size) :
    bytes.byteAt offset = bytes[offset] := by
  simp [byteAt, Array.getD, inside]

/-- Two buffers of one length with the same bytes are one. -/
theorem ext_byteAt {first second : Bytes} (sameSize : first.size = second.size)
    (sameBytes : ∀ place < first.size, first.byteAt place = second.byteAt place) : first = second := by
  refine Array.ext sameSize fun place inside inside' => ?_
  rw [← byteAt_of_lt _ inside, ← byteAt_of_lt _ inside']
  exact sameBytes place inside

/-- A painted byte is the transform's before `count` and the canvas's own from there on. -/
theorem byteAt_paint (canvas : Bytes) (count : Nat) (colour : Nat → UInt8) {i : Nat}
    (inside : i < canvas.size) :
    (canvas.paint count colour).byteAt i =
      if i < count then colour i else canvas.byteAt i := by
  simp [byteAt, paint, Array.getD, inside]

/-- From `count` on, a painted canvas is as before, past its end too. -/
theorem byteAt_paint_of_le (canvas : Bytes) {count : Nat} (colour : Nat → UInt8) {i : Nat}
    (beyond : count ≤ i) : (canvas.paint count colour).byteAt i = canvas.byteAt i := by
  by_cases inside : i < canvas.size
  · rw [byteAt_paint _ _ _ inside, if_neg (Nat.not_lt.2 beyond)]
  · simp [byteAt, Array.getD, inside]

end Bytes

end FramePath

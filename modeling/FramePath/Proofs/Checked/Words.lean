import FramePath.Bytes
import FramePath.Scratch

/-!
# Words and buffers of a machine

The transforms count in natural numbers and read zero past the end of a buffer. A machine does neither: its words end,
and what is out of range stops the program. `Checked` is a computation that says so. Each operation here does what the
machine does or gives the `Fault` that would stop it, and beside it stands when it gives none. Buffers that are filled
chunk by chunk come out painted (`chunks_eq`).
-/

namespace FramePath

/-- What would stop a program, or make its words wrap around. -/
inductive Fault where
  /-- An unsigned sum, product or shifted word that does not fit in a word. -/
  | overflow
  /-- An unsigned difference below zero. -/
  | underflow
  /-- A divisor that is zero. -/
  | zeroDivisor
  /-- A signed number that does not fit in 32 bits. -/
  | signedOverflow
  /-- A part of a buffer, or a place in it, that is not within it. -/
  | outOfRange
  /-- A copy onto a part of another length. -/
  | lengthMismatch
  /-- Chunks of no bytes. -/
  | emptyChunks
  deriving DecidableEq, Repr

/-- A computation that a fault may stop. -/
abbrev Checked (α : Type) : Type := Except Fault α

namespace Checked

variable {α β : Type} {a b count size start stop place : Nat} {bytes source canvas : Bytes}

/-- What follows a computation that is not stopped. -/
theorem ok_bind (value : α) (next : α → Checked β) :
    (Except.ok value >>= next : Checked β) = next value := rfl

section Words

/-- A number, if it fits in a word. -/
def word (value : Nat) : Checked Nat :=
  if value < Scratch.wordLimit then .ok value else .error .overflow

/-- A sum of words. -/
def add (a b : Nat) : Checked Nat := word (a + b)

/-- A product of words. -/
def mul (a b : Nat) : Checked Nat := word (a * b)

/-- A word shifted up by sixteen bits. -/
def shiftUp (a : Nat) : Checked Nat := word (a * 65536)

/-- A difference of words. -/
def sub (a b : Nat) : Checked Nat := if b ≤ a then .ok (a - b) else .error .underflow

/-- A quotient of words. -/
def div (a b : Nat) : Checked Nat := if b = 0 then .error .zeroDivisor else .ok (a / b)

/-- A signed number, if it fits in 32 bits. -/
def signed (value : Int) : Checked Int :=
  if -0x80000000 ≤ value ∧ value < 0x80000000 then .ok value else .error .signedOverflow

-- The word limit is written out here, so that the bounds are plain inequalities where they are used.
theorem add_eq (hfits : a + b < 0x10000000000000000) : add a b = .ok (a + b) := if_pos hfits

theorem mul_eq (hfits : a * b < 0x10000000000000000) : mul a b = .ok (a * b) := if_pos hfits

theorem shiftUp_eq (hfits : a * 65536 < 0x10000000000000000) : shiftUp a = .ok (a * 65536) :=
  if_pos hfits

theorem sub_eq (hle : b ≤ a) : sub a b = .ok (a - b) := if_pos hle

theorem div_eq (hpos : 0 < b) : div a b = .ok (a / b) := if_neg (Nat.ne_of_gt hpos)

theorem signed_eq {value : Int} (hlow : -0x80000000 ≤ value) (hhigh : value < 0x80000000) :
    signed value = .ok value := if_pos ⟨hlow, hhigh⟩

end Words

section Buffers

/-- The byte at a place of a buffer. -/
def byte (bytes : Bytes) (place : Nat) : Checked UInt8 :=
  if place < bytes.size then .ok (bytes.byteAt place) else .error .outOfRange

/-- A byte put at a place of a buffer. -/
def put (bytes : Bytes) (place : Nat) (value : UInt8) : Checked Bytes :=
  if place < bytes.size then .ok (bytes.setIfInBounds place value) else .error .outOfRange

/-- A part of a buffer. -/
def slice (bytes : Bytes) (start stop : Nat) : Checked Bytes :=
  if start ≤ stop ∧ stop ≤ bytes.size then .ok (bytes.extract start stop) else .error .outOfRange

/-- A buffer in two parts. -/
def splitAt (bytes : Bytes) (place : Nat) : Checked (Bytes × Bytes) :=
  if place ≤ bytes.size then .ok (bytes.extract 0 place, bytes.extract place bytes.size)
  else .error .outOfRange

/-- A buffer copied onto a part of another, which has to be as long. -/
def copyOnto (canvas : Bytes) (start stop : Nat) (source : Bytes) : Checked Bytes :=
  if start ≤ stop ∧ stop ≤ canvas.size then
    if source.size = stop - start then
      .ok (Array.ofFn fun place : Fin canvas.size =>
        if start ≤ place.val ∧ place.val < stop then source.byteAt (place.val - start)
        else canvas.byteAt place.val)
    else .error .lengthMismatch
  else .error .outOfRange

theorem byte_eq (hplace : place < bytes.size) : byte bytes place = .ok (bytes.byteAt place) :=
  if_pos hplace

theorem put_eq (hplace : place < bytes.size) (value : UInt8) :
    put bytes place value = .ok (bytes.setIfInBounds place value) := if_pos hplace

theorem slice_eq (hstart : start ≤ stop) (hstop : stop ≤ bytes.size) :
    slice bytes start stop = .ok (bytes.extract start stop) := if_pos ⟨hstart, hstop⟩

theorem splitAt_eq (hplace : place ≤ bytes.size) :
    splitAt bytes place = .ok (bytes.extract 0 place, bytes.extract place bytes.size) :=
  if_pos hplace

/-- What a copy leaves: the source on its part, and around it what was there. -/
theorem copyOnto_eq (hstart : start ≤ stop) (hstop : stop ≤ canvas.size)
    (hsize : source.size = stop - start) :
    ∃ after, copyOnto canvas start stop source = .ok after ∧ after.size = canvas.size ∧
      ∀ place < canvas.size, after.byteAt place =
        if start ≤ place ∧ place < stop then source.byteAt (place - start) else canvas.byteAt place := by
  unfold copyOnto
  rw [if_pos ⟨hstart, hstop⟩, if_pos hsize]
  refine ⟨_, rfl, Array.size_ofFn, fun place hplace => ?_⟩
  rw [Bytes.byteAt_of_lt _ (by rwa [Array.size_ofFn]), Array.getElem_ofFn]

end Buffers

section Loops

/-- Do a step for each number below a count, in order. -/
def times (count : Nat) (step : Nat → α → Checked α) (state : α) : Checked α :=
  match count with
  | 0 => .ok state
  | count + 1 => do
      let state ← times count step state
      step count state

/-- A loop comes to the state that its steps lead to. -/
theorem times_eq {step : Nat → α → Checked α} (states : Nat → α)
    (hstep : ∀ i < count, step i (states i) = .ok (states (i + 1))) :
    times count step (states 0) = .ok (states count) := by
  induction count with
  | zero => rfl
  | succ count ih =>
    unfold times
    rw [ih fun i hi => hstep i (Nat.lt_succ_of_lt hi)]
    exact hstep count (Nat.lt_succ_self count)

/-- Work on the chunks of this size of a canvas, in order, on so many of them at most. A rest that is shorter than a
chunk is left. -/
def chunks (size most : Nat) (work : Nat → Bytes → Checked Bytes) (canvas : Bytes) :
    Checked Bytes :=
  if size = 0 then .error .emptyChunks
  else
    times (min most (canvas.size / size)) (fun i canvas => do
      let chunk ← slice canvas (i * size) ((i + 1) * size)
      let chunk ← work i chunk
      copyOnto canvas (i * size) ((i + 1) * size) chunk) canvas

/-- A byte of a pixel of a row, counted from the start of the row or of the picture. -/
theorem place_bytes (y columns x pixelBytes k : Nat) :
    y * (columns * pixelBytes) + (x * pixelBytes + k) = (y * columns + x) * pixelBytes + k := by
  rw [Nat.add_mul, Nat.mul_assoc, Nat.add_assoc]

/-- Nothing painted is the canvas as it is. -/
theorem paint_zero (canvas : Bytes) (colour : Nat → UInt8) : canvas.paint 0 colour = canvas := by
  refine Bytes.ext_byteAt (Bytes.size_paint _ _ _) fun place hplace => ?_
  rw [Bytes.size_paint] at hplace
  rw [Bytes.byteAt_paint _ _ _ hplace]
  rfl

/-- A painting goes by the colours of the bytes that it paints. -/
theorem paint_congr {first second : Nat → UInt8} (hsame : ∀ k < count, first k = second k) :
    canvas.paint count first = canvas.paint count second := by
  refine Bytes.ext_byteAt (by rw [Bytes.size_paint, Bytes.size_paint]) fun place hplace => ?_
  rw [Bytes.size_paint] at hplace
  rw [Bytes.byteAt_paint _ _ _ hplace, Bytes.byteAt_paint _ _ _ hplace]
  by_cases hpainted : place < count
  · rw [if_pos hpainted, if_pos hpainted, hsame place hpainted]
  · rw [if_neg hpainted, if_neg hpainted]

/-- One more part painted is a longer painting. -/
theorem copyOnto_paint {colour : Nat → UInt8} (hstart : start ≤ stop) (hstop : stop ≤ canvas.size)
    (hsize : source.size = stop - start)
    (hsource : ∀ k < stop - start, source.byteAt k = colour (start + k)) :
    copyOnto (canvas.paint start colour) start stop source = .ok (canvas.paint stop colour) := by
  obtain ⟨after, hcopied, hafter, hbytes⟩ :=
    @copyOnto_eq start stop source (canvas.paint start colour) hstart (by rwa [Bytes.size_paint]) hsize
  rw [hcopied]
  refine congrArg Except.ok (Bytes.ext_byteAt (by rw [hafter, Bytes.size_paint, Bytes.size_paint])
    fun place hplace => ?_)
  rw [hafter] at hplace
  rw [hbytes place hplace]
  rw [Bytes.size_paint] at hplace
  rw [Bytes.byteAt_paint _ _ _ hplace, Bytes.byteAt_paint _ _ _ hplace]
  by_cases hbefore : place < start
  · rw [if_neg (by omega), if_pos hbefore, if_pos (by omega)]
  · by_cases hinside : place < stop
    · rw [if_pos (by omega), if_pos hinside, hsource _ (by omega), Nat.add_sub_cancel' (by omega)]
    · rw [if_neg (by omega), if_neg hbefore, if_neg hinside]

/-- A copy onto the first part of a canvas paints it. -/
theorem copyOnto_zero {colour : Nat → UInt8} (hstop : stop ≤ canvas.size) (hsize : source.size = stop)
    (hsource : ∀ k < stop, source.byteAt k = colour k) :
    copyOnto canvas 0 stop source = .ok (canvas.paint stop colour) := by
  have hcopied := @copyOnto_paint 0 stop source canvas colour (Nat.zero_le stop) hstop hsize fun k hk => by
    rw [Nat.zero_add]
    exact hsource k hk
  rwa [paint_zero] at hcopied

/-- A canvas of which every chunk is painted is painted. -/
theorem chunks_eq {most : Nat} {work : Nat → Bytes → Checked Bytes} {colour : Nat → UInt8}
    (hsize : 0 < size) (hcount : count = min most (canvas.size / size))
    (hwork : ∀ i < count, ∀ chunk : Bytes, chunk.size = size →
      work i chunk = .ok (chunk.paint size fun k => colour (i * size + k))) :
    chunks size most work canvas = .ok (canvas.paint (count * size) colour) := by
  have hroom : count * size ≤ canvas.size := by
    have hchunks : count ≤ canvas.size / size := hcount ▸ Nat.min_le_right ..
    exact Nat.le_trans (Nat.mul_le_mul_right _ hchunks) (Nat.div_mul_le_self ..)
  unfold chunks
  rw [if_neg (Nat.ne_of_gt hsize), ← hcount]
  -- After `i` chunks the canvas is painted up to there.
  have hpainted : times count (fun i canvas => do
      let chunk ← slice canvas (i * size) ((i + 1) * size)
      let chunk ← work i chunk
      copyOnto canvas (i * size) ((i + 1) * size) chunk) (canvas.paint (0 * size) colour) =
        .ok (canvas.paint (count * size) colour) := by
    refine times_eq (fun i => canvas.paint (i * size) colour) fun i hi => ?_
    have hnext : (i + 1) * size ≤ canvas.size :=
      Nat.le_trans (Nat.mul_le_mul_right _ (Nat.succ_le_of_lt hi)) hroom
    have hlength : (i + 1) * size - i * size = size := by
      rw [Nat.succ_mul, Nat.add_sub_cancel_left]
    have hstart : i * size ≤ (i + 1) * size := Nat.mul_le_mul_right _ (Nat.le_succ i)
    have hchunk : ((canvas.paint (i * size) colour).extract (i * size) ((i + 1) * size)).size = size := by
      rw [Array.size_extract, Bytes.size_paint, Nat.min_eq_left hnext, hlength]
    rw [slice_eq hstart (by rwa [Bytes.size_paint]), ok_bind, hwork i hi _ hchunk, ok_bind]
    refine copyOnto_paint hstart hnext (by rw [Bytes.size_paint, hchunk, hlength]) fun k hk => ?_
    rw [hlength] at hk
    rw [Bytes.byteAt_paint _ _ _ (by rwa [hchunk]), if_pos hk]
  rw [Nat.zero_mul, paint_zero] at hpainted
  exact hpainted

end Loops

end Checked

end FramePath

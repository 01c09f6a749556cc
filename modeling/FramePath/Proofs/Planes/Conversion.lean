import FramePath.Proofs.Planes
import Mathlib.Tactic.SplitIfs

/-!
# What the conversion of a planar frame answers and leaves

The conversion refuses what it cannot paint in a fixed order, and a refusal leaves the canvas alone (`onto_eq`).
Otherwise the canvas holds the colours read from the payload, and behind them what was there (`Converted`). Nothing but
these colours enters into it, so payloads of the same colours come out the same (`paint_congr`): those that agree on
the bytes of the frame, and those of the two planar formats whose chroma planes are exchanged (`PlanesExchanged`).
-/

namespace FramePath

namespace Planes

open PixelFormat

variable {format other : PixelFormat} {size : Size} {payload payload' canvas : Bytes}

/-- What a canvas holds after a payload was converted onto it: the colour of every pixel, opaque, and behind the
picture what was there. -/
structure Converted (format : PixelFormat) (size : Size) (payload canvas after : Bytes) : Prop where
  size_eq : after.size = canvas.size
  pixels : ∀ x y, x < size.columns → y < size.rows →
    let pixel := (y * size.columns + x) * packedPixelBytes
    let colour := exactColour format size payload x y
    after.byteAt pixel = colour.red ∧ after.byteAt (pixel + 1) = colour.green ∧
      after.byteAt (pixel + 2) = colour.blue ∧ after.byteAt (pixel + 3) = 255
  beyond : ∀ offset, size.area * packedPixelBytes ≤ offset → after.byteAt offset = canvas.byteAt offset

/-- Two payloads of one luma plane, with the chroma planes of the one exchanged in the other. -/
structure PlanesExchanged (size : Size) (payload payload' : Bytes) : Prop where
  luma : ∀ offset < size.area, payload'.byteAt offset = payload.byteAt offset
  first : ∀ offset < chromaArea size,
    payload'.byteAt (size.area + offset) = payload.byteAt (size.area + chromaArea size + offset)
  second : ∀ offset < chromaArea size,
    payload'.byteAt (size.area + chromaArea size + offset) = payload.byteAt (size.area + offset)

/-- The bytes of a planar frame are those of its three planes. -/
theorem frameBytes_of_planar (hplanar : format.isPlanar = true) (size : Size) :
    format.frameBytes size = size.area + 2 * chromaArea size := by
  unfold frameBytes
  rw [if_pos hplanar]

/-- What the conversion answers and leaves: the refusals in their order, and otherwise the painted canvas. -/
theorem onto_eq (payload : Bytes) (format : PixelFormat) (size : Size) (canvas : Bytes) :
    onto payload format size canvas =
      if format.isPlanar = false then (.error (.unsupportedFormat format.code), canvas)
      else if size.columns = 0 ∨ size.rows = 0 then (.error (.invalidGeometry size), canvas)
      else if payload.size < format.frameBytes size then
        (.error (.bufferTooSmall (format.frameBytes size) payload.size), canvas)
      else if canvas.size < size.area * packedPixelBytes then
        (.error (.bufferTooSmall (size.area * packedPixelBytes) canvas.size), canvas)
      else
        (.ok (), canvas.paint (size.area * packedPixelBytes) (split format size payload).packedByte) := by
  have hplanar : (!format.isPlanar) = true ↔ format.isPlanar = false := by simp
  have hempty : size.isEmpty = true ↔ size.columns = 0 ∨ size.rows = 0 := by
    rw [Size.isEmpty_iff_area, Size.area, Nat.mul_eq_zero]
  rw [onto_toRgba]
  unfold toRgba
  simp only [hplanar, hempty]
  split_ifs with hpacked hnothing hshort hsmall
  · rfl
  · rfl
  · rfl
  · rfl
  · rfl

/-- A frame is converted exactly if nothing of it is to be refused. -/
theorem onto_ok_iff :
    (onto payload format size canvas).1 = .ok () ↔
      format.isPlanar = true ∧ 0 < size.columns ∧ 0 < size.rows ∧
        format.frameBytes size ≤ payload.size ∧ size.area * packedPixelBytes ≤ canvas.size := by
  rw [onto_eq]
  split_ifs with hpacked hnothing hshort hsmall
  · simp [hpacked]
  · simp only [false_iff]
    omega
  · simp only [false_iff]
    omega
  · simp only [false_iff]
    omega
  · simp only [true_iff]
    exact ⟨by simpa using hpacked, by omega⟩

/-- A refusal leaves the canvas as it was. -/
theorem onto_kept {error : FrameError} (hanswer : (onto payload format size canvas).1 = .error error) :
    (onto payload format size canvas).2 = canvas := by
  rw [onto_toRgba] at hanswer ⊢
  cases hresult : toRgba payload format size canvas with
  | error refusal => rfl
  | ok after =>
    rw [hresult] at hanswer
    cases hanswer

/-- A conversion that is not refused leaves the colours read from the payload. -/
theorem converted (hanswer : (onto payload format size canvas).1 = .ok ()) :
    Converted format size payload canvas (onto payload format size canvas).2 := by
  rw [onto_toRgba] at hanswer ⊢
  cases hresult : toRgba payload format size canvas with
  | error refusal =>
    rw [hresult] at hanswer
    cases hanswer
  | ok after =>
    obtain ⟨_, hafter⟩ := eq_of_toRgba hresult
    refine ⟨by rw [hafter, Bytes.size_paint], fun x y hx hy => ?_, fun offset hoffset => ?_⟩
    · have hbyte (k : Nat) (hk : k < packedPixelBytes) := byteAt_toRgba hresult hx hy hk
      exact ⟨hbyte 0 (by decide), hbyte 1 (by decide), hbyte 2 (by decide), hbyte 3 (by decide)⟩
    · rw [hafter, Bytes.byteAt_paint_of_le _ _ hoffset]

/-- Payloads of the same colours are painted the same. -/
theorem paint_congr
    (hcolours : ∀ x y, x < size.columns → y < size.rows →
      exactColour other size payload' x y = exactColour format size payload x y) :
    canvas.paint (size.area * packedPixelBytes) (split other size payload').packedByte =
      canvas.paint (size.area * packedPixelBytes) (split format size payload).packedByte := by
  have hsize (format : PixelFormat) (payload : Bytes) : (split format size payload).size = size := by
    cases format <;> rfl
  refine Bytes.ext_byteAt (by simp) fun place hplace => ?_
  rw [Bytes.size_paint] at hplace
  rw [Bytes.byteAt_paint _ _ _ hplace, Bytes.byteAt_paint _ _ _ hplace]
  split_ifs with hpainted
  · have hpixel : place / packedPixelBytes < size.area := by
      rwa [Nat.div_lt_iff_lt_mul (by decide)]
    obtain ⟨x, y, hx, hy, hxy⟩ := Size.exists_place hpixel
    have hk : place % packedPixelBytes < packedPixelBytes := Nat.mod_lt _ (by decide)
    have hbyte (format : PixelFormat) (payload : Bytes) :
        (split format size payload).packedByte place =
          packed (exactColour format size payload x y) (place % packedPixelBytes) := by
      have hpacked := @packedByte_eq x y _ (split format size payload) (by rwa [hsize]) hk
      rwa [hsize, ← hxy, Nat.div_add_mod', colourAt_split hx hy] at hpacked
    rw [hbyte, hbyte, hcolours x y hx hy]
  · rfl

/-- A colour is read from the bytes of the frame, so bytes behind them do not enter into it. -/
theorem exactColour_congr {x y : Nat} (hx : x < size.columns) (hy : y < size.rows)
    (hsame : ∀ offset < size.area + 2 * chromaArea size, payload'.byteAt offset = payload.byteAt offset) :
    exactColour format size payload' x y = exactColour format size payload x y := by
  have hluma : y * size.columns + x < size.area := Size.place_lt hx hy
  have hchroma : y / 2 * chromaExtent size.columns + x / 2 < chromaArea size := chromaOffset_lt hx hy
  unfold exactColour
  dsimp only
  rw [hsame _ (by omega), hsame _ (by omega), hsame _ (by omega)]

/-- With the chroma planes exchanged, the other planar format reads the same colours. -/
theorem PlanesExchanged.exactColour_eq (hexchanged : PlanesExchanged size payload payload') {x y : Nat}
    (hx : x < size.columns) (hy : y < size.rows) :
    exactColour .yv12 size payload' x y = exactColour .i420 size payload x y := by
  have hluma : y * size.columns + x < size.area := Size.place_lt hx hy
  have hchroma : y / 2 * chromaExtent size.columns + x / 2 < chromaArea size := chromaOffset_lt hx hy
  unfold exactColour
  dsimp only
  rw [hexchanged.luma _ hluma, hexchanged.first _ hchroma, hexchanged.second _ hchroma]

/-- Whatever payload a frame is cut from, the conversion answers the same and leaves the same. -/
theorem onto_congr (henough : format.frameBytes size ≤ payload.size)
    (henough' : format.frameBytes size ≤ payload'.size)
    (hsame : ∀ offset < format.frameBytes size, payload'.byteAt offset = payload.byteAt offset) :
    onto payload' format size canvas = onto payload format size canvas := by
  rw [onto_eq, onto_eq, if_neg (Nat.not_lt.2 henough), if_neg (Nat.not_lt.2 henough')]
  split_ifs with hpacked
  · rfl
  · rfl
  · rfl
  · rw [frameBytes_of_planar (by simpa using hpacked)] at hsame
    rw [paint_congr fun x y hx hy => exactColour_congr hx hy hsame]

/-- With the chroma planes exchanged, the other planar format answers the same and leaves the same. -/
theorem PlanesExchanged.onto_eq (hexchanged : PlanesExchanged size payload payload')
    (henough : PixelFormat.i420.frameBytes size ≤ payload.size)
    (henough' : PixelFormat.yv12.frameBytes size ≤ payload'.size) :
    onto payload' .yv12 size canvas = onto payload .i420 size canvas := by
  rw [Planes.onto_eq, Planes.onto_eq, if_neg (Nat.not_lt.2 henough), if_neg (Nat.not_lt.2 henough'),
    paint_congr fun x y hx hy => hexchanged.exactColour_eq hx hy]
  rfl

/-- What converting a planar frame onto a canvas comes to. It succeeds exactly for a planar format, a size with pixels,
a payload with the bytes of a frame and a canvas with room for the picture; the first of these that is missing is
reported, and the canvas stays. Otherwise every pixel has the colour that the transform in unbounded integers gives for
its samples, opaque, and the bytes behind the picture stay. Bytes behind the frame do not enter into it, and neither
does the order of the chroma planes, if the format says so. -/
theorem converted_exactly (payload : Bytes) (format : PixelFormat) (size : Size) (canvas : Bytes) :
    let called := onto payload format size canvas
    let filled := 0 < size.columns ∧ 0 < size.rows
    let needed := format.frameBytes size
    let painted := size.area * packedPixelBytes
    (called.1 = .ok () ↔
      format.isPlanar = true ∧ filled ∧ needed ≤ payload.size ∧ painted ≤ canvas.size) ∧
    (format.isPlanar = false → called.1 = .error (.unsupportedFormat format.code)) ∧
    (format.isPlanar = true → ¬ filled → called.1 = .error (.invalidGeometry size)) ∧
    (format.isPlanar = true → filled → payload.size < needed →
      called.1 = .error (.bufferTooSmall needed payload.size)) ∧
    (format.isPlanar = true → filled → needed ≤ payload.size → canvas.size < painted →
      called.1 = .error (.bufferTooSmall painted canvas.size)) ∧
    (∀ error, called.1 = .error error → called.2 = canvas) ∧
    (called.1 = .ok () → Converted format size payload canvas called.2) ∧
    (∀ payload', needed ≤ payload.size → needed ≤ payload'.size →
      (∀ offset < needed, payload'.byteAt offset = payload.byteAt offset) →
      onto payload' format size canvas = called) ∧
    ∀ payload', PlanesExchanged size payload payload' →
      PixelFormat.i420.frameBytes size ≤ payload.size → PixelFormat.yv12.frameBytes size ≤ payload'.size →
      onto payload' .yv12 size canvas = onto payload .i420 size canvas := by
  dsimp only
  have hrefusals := onto_eq payload format size canvas
  refine ⟨?_, fun hpacked => ?_, fun hplanar hempty => ?_, fun hplanar hfilled hshort => ?_,
    fun hplanar hfilled henough hsmall => ?_, fun error => onto_kept, converted,
    fun payload' henough henough' hsame => onto_congr henough henough' hsame,
    fun payload' hexchanged henough henough' => hexchanged.onto_eq henough henough'⟩
  · rw [onto_ok_iff, and_assoc]
  · rw [hrefusals, if_pos hpacked]
  · rw [hrefusals, if_neg (by simp [hplanar]), if_pos (by omega)]
  · rw [hrefusals, if_neg (by simp [hplanar]), if_neg (by omega), if_pos hshort]
  · rw [hrefusals, if_neg (by simp [hplanar]), if_neg (by omega), if_neg (Nat.not_lt.2 henough), if_pos hsmall]

/-- A row of three pixels, whose last one has a chroma sample of its own, with the chroma planes in either order. -/
theorem converted_exactly_three_columns :
    let payload : Bytes := #[16, 235, 81, 128, 90, 128, 240, 7]
    let exchanged : Bytes := #[16, 235, 81, 128, 240, 128, 90]
    let canvas : Bytes := #[9, 9, 9, 9, 9, 9, 9, 9, 9, 9, 9, 9, 9]
    let called := onto payload .i420 ⟨3, 1⟩ canvas
    called.1 = .ok () ∧ called.2 = #[0, 0, 0, 255, 254, 254, 254, 255, 254, 0, 0, 255, 9] ∧
      Converted .i420 ⟨3, 1⟩ payload canvas called.2 ∧
      PlanesExchanged ⟨3, 1⟩ payload exchanged ∧ onto exchanged .yv12 ⟨3, 1⟩ canvas = called ∧
      (onto payload .i420 ⟨0, 1⟩ canvas).2 = canvas := by
  intro payload exchanged canvas called
  obtain ⟨hok, _, _, _, _, _, hconverted, _, hexchanged⟩ := converted_exactly payload .i420 ⟨3, 1⟩ canvas
  obtain ⟨_, _, hempty, _, _, hkept, _⟩ := converted_exactly payload .i420 ⟨0, 1⟩ canvas
  have hplanes : PlanesExchanged ⟨3, 1⟩ payload exchanged :=
    ⟨by decide +kernel, by decide +kernel, by decide +kernel⟩
  have hanswer := hok.2 (by decide)
  exact ⟨hanswer, by decide +kernel, hconverted hanswer, hplanes,
    hexchanged exchanged hplanes (by decide) (by decide), hkept _ (hempty rfl (by decide))⟩

end Planes

end FramePath

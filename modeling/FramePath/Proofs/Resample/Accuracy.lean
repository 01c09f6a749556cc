import FramePath.Proofs.Resample
import Mathlib.Tactic.Ring
import Mathlib.Tactic.SplitIfs

/-!
# How far resampling is from the true ratio

The index that an axis should be read at is `i * source / destination`, rounded down. `nearest` divides by a scale
that was rounded down before, so it may overshoot, the more so the larger the index. `Follows` says by how much: never
below, at most one above if the scale is no smaller than the source, and not at all if what the scale lost, once for
each source pixel, is less than one unit (`IsExact`). `resampled_accurately` is what that means for the pixels of a
canvas, beside the refusals.
-/

namespace FramePath

namespace Resample

section Axis

variable {source destination i : Nat}

/-- The index before it is stopped at the last one. -/
def stepped (source destination i : Nat) : Nat := i * 65536 / unitScale source destination

/-- The index that an axis should be read at. -/
def trueIndex (source destination i : Nat) : Nat := i * source / destination

/-- What rounding the scale lost, once for each source pixel, is less than one unit of the scale. -/
def IsExact (source destination : Nat) : Prop := source * (destination * 65536 % source) < 65536

/-- How closely an index into `source` pixels follows that of `destination` pixels. -/
structure Follows (source destination : Nat) (index : Nat → Nat) : Prop where
  first : index 0 = 0
  monotone : ∀ i j, i ≤ j → index i ≤ index j
  least : ∀ i < destination, trueIndex source destination i ≤ index i
  inside : ∀ i, index i ≤ source - 1
  near : source ≤ destination * 65536 / source →
    ∀ i < destination, index i ≤ trueIndex source destination i + 1
  exact : IsExact source destination → ∀ i < destination,
    index i = trueIndex source destination i ∧ index i = stepped source destination i

/-- A true index is one of the axis. -/
theorem trueIndex_lt (hi : i < destination) (hsource : 0 < source) :
    trueIndex source destination i < source :=
  Nat.div_lt_of_lt_mul (Nat.mul_lt_mul_of_pos_right hi hsource)

/-- A scale that was rounded down overshoots, if anything. -/
theorem trueIndex_le_stepped (hscale : 0 < unitScale source destination) (hi : i < destination) :
    trueIndex source destination i ≤ stepped source destination i := by
  have hdestination : 0 < destination := Nat.zero_lt_of_lt hi
  have htrue : trueIndex source destination i * destination ≤ i * source := Nat.div_mul_le_self ..
  have hrounded : unitScale source destination * source ≤ destination * 65536 := Nat.div_mul_le_self ..
  refine (Nat.le_div_iff_mul_le hscale).2 (Nat.le_of_mul_le_mul_right ?_ hdestination)
  calc trueIndex source destination i * unitScale source destination * destination
      = trueIndex source destination i * destination * unitScale source destination := by ring
    _ ≤ i * source * unitScale source destination := Nat.mul_le_mul_right _ htrue
    _ = i * (unitScale source destination * source) := by ring
    _ ≤ i * (destination * 65536) := Nat.mul_le_mul_left _ hrounded
    _ = i * 65536 * destination := by ring

/-- The true index is the largest whose pixel does not lie past the one read for. -/
theorem lt_trueIndex_succ (hi : i < destination) :
    i * source < (trueIndex source destination i + 1) * destination := by
  rw [Nat.mul_comm _ destination]
  exact Nat.lt_mul_div_succ _ (Nat.zero_lt_of_lt hi)

/-- An index is stepped to if the scale leads no further, counted in units of one source pixel. -/
theorem stepped_lt_of {next : Nat} (hscale : 0 < unitScale source destination)
    (hless : i * 65536 < next * unitScale source destination) : stepped source destination i < next :=
  (Nat.div_lt_iff_lt_mul hscale).2 hless

/-- The units of destination pixels: for each source pixel a scale, and what rounding that lost. -/
theorem units_eq (source destination count : Nat) :
    count * (destination * 65536) =
      count * unitScale source destination * source + count * (destination * 65536 % source) := by
  rw [Nat.mul_assoc, ← Nat.mul_add, unitScale, Nat.div_add_mod']

/-- A scale no smaller than the source overshoots by one at most. -/
theorem stepped_le_succ (hscale : 0 < unitScale source destination) (hsource : 0 < source)
    (hfine : source ≤ unitScale source destination) (hi : i < destination) :
    stepped source destination i ≤ trueIndex source destination i + 1 := by
  have htrue := @lt_trueIndex_succ source destination i hi
  have hlost : destination * 65536 % source < unitScale source destination :=
    Nat.lt_of_lt_of_le (Nat.mod_lt _ hsource) hfine
  refine Nat.le_of_lt_succ (stepped_lt_of hscale (Nat.lt_of_mul_lt_mul_right (a := destination) ?_))
  calc i * 65536 * destination
      = i * (destination * 65536) := by ring
    _ = i * source * unitScale source destination + i * (destination * 65536 % source) := by
        rw [units_eq source destination, Nat.mul_right_comm]
    _ < (trueIndex source destination i + 1) * destination * unitScale source destination +
          destination * unitScale source destination :=
        Nat.add_lt_add_of_lt_of_le (Nat.mul_lt_mul_of_pos_right htrue hscale)
          (Nat.mul_le_mul (Nat.le_of_lt hi) (Nat.le_of_lt hlost))
    _ = (trueIndex source destination i + 2) * unitScale source destination * destination := by ring

/-- An exact scale leads no further than to the true index. -/
theorem stepped_le_trueIndex (hscale : 0 < unitScale source destination) (hsource : 0 < source)
    (hexact : IsExact source destination) (hi : i < destination) :
    stepped source destination i ≤ trueIndex source destination i := by
  have htrue := @lt_trueIndex_succ source destination i hi
  -- Up to the index after the true one, less than one unit of the scale is lost.
  have hlost : (trueIndex source destination i + 1) * (destination * 65536 % source) < 65536 :=
    Nat.lt_of_le_of_lt (Nat.mul_le_mul_right _ (trueIndex_lt hi hsource)) hexact
  refine Nat.le_of_lt_succ (stepped_lt_of hscale (Nat.lt_of_mul_lt_mul_right (a := source) ?_))
  refine Nat.lt_of_add_lt_add_right
    (n := (trueIndex source destination i + 1) * (destination * 65536 % source)) ?_
  calc i * 65536 * source + (trueIndex source destination i + 1) * (destination * 65536 % source)
      < i * 65536 * source + 65536 := Nat.add_lt_add_left hlost _
    _ = (i * source + 1) * 65536 := by ring
    _ ≤ (trueIndex source destination i + 1) * destination * 65536 := Nat.mul_le_mul_right _ htrue
    _ = (trueIndex source destination i + 1) * (destination * 65536) := by ring
    _ = (trueIndex source destination i + 1) * unitScale source destination * source +
          (trueIndex source destination i + 1) * (destination * 65536 % source) := units_eq ..

/-- The index read at follows the true one. -/
theorem follows (hscale : 0 < unitScale source destination) (hsource : 0 < source) :
    Follows source destination (nearest source destination) where
  first := by
    unfold nearest
    rw [Nat.zero_mul, Nat.zero_div, Nat.zero_min]
  monotone := fun i j hle => by
    have hstepped : i * 65536 / unitScale source destination ≤ j * 65536 / unitScale source destination :=
      Nat.div_le_div_right (Nat.mul_le_mul_right _ hle)
    unfold nearest
    omega
  least := fun i hi =>
    Nat.le_min.2 ⟨trueIndex_le_stepped hscale hi, Nat.le_pred_of_lt (trueIndex_lt hi hsource)⟩
  inside := fun _ => Nat.min_le_right ..
  near := fun hfine _ hi =>
    Nat.le_trans (Nat.min_le_left ..) (stepped_le_succ hscale hsource hfine hi)
  exact := fun hexact i hi => by
    have hstepped : stepped source destination i = trueIndex source destination i :=
      Nat.le_antisymm (stepped_le_trueIndex hscale hsource hexact hi) (trueIndex_le_stepped hscale hi)
    have hlast := @trueIndex_lt source destination i hi hsource
    have hnearest : nearest source destination i = stepped source destination i :=
      Nat.min_eq_left (by show stepped source destination i ≤ source - 1; omega)
    exact ⟨hnearest.trans hstepped, hnearest⟩

/-- A scale is exact for 256 source pixels or fewer. -/
theorem isExact_of_le (hsource : source ≤ 256) : IsExact source destination := by
  rcases Nat.eq_zero_or_pos source with rfl | hpos
  · exact Nat.lt_of_le_of_lt (Nat.le_of_eq (Nat.zero_mul _)) (by decide)
  · have hlost : destination * 65536 % source ≤ 255 := by
      have hless := Nat.mod_lt (destination * 65536) hpos
      omega
    exact Nat.lt_of_le_of_lt (Nat.mul_le_mul hsource hlost) (by decide)

/-- A scale is exact if every source pixel stands for the same number of destination pixels. -/
theorem isExact_of_dvd (hdvd : source ∣ destination) : IsExact source destination := by
  unfold IsExact
  rw [Nat.mod_eq_zero_of_dvd (Dvd.dvd.mul_right hdvd _), Nat.mul_zero]
  decide

/-- The true index where every source pixel stands for the same number of destination pixels. -/
theorem trueIndex_of_mul {times : Nat} (hsource : 0 < source) :
    trueIndex source (times * source) i = i / times :=
  Nat.mul_div_mul_right _ _ hsource

end Axis

section Canvas

variable {pixels canvas : Bytes} {source destination : Size} {pixelBytes : Nat}

/-- What a canvas holds after a picture was resampled onto it: for every pixel a copy of the one read at, and behind
them what was there. -/
structure Resampled (pixels : Bytes) (source : Size) (canvas : Bytes) (destination : Size)
    (pixelBytes : Nat) (column row : Nat → Nat) (after : Bytes) : Prop where
  size_eq : after.size = canvas.size
  copied : ∀ x y k, x < destination.columns → y < destination.rows → k < pixelBytes →
    after.byteAt ((y * destination.columns + x) * pixelBytes + k) =
      pixels.byteAt ((row y * source.columns + column x) * pixelBytes + k)
  beyond : ∀ offset, destination.area * pixelBytes ≤ offset → after.byteAt offset = canvas.byteAt offset

/-- Resampling that is not refused leaves the pixels that it reads at. -/
theorem resampled {after : Bytes} (happly : apply pixels source canvas destination pixelBytes = .ok after)
    (hdestination : 0 < destination.area) :
    Resampled pixels source canvas destination pixelBytes (nearest source.columns destination.columns)
      (nearest source.rows destination.rows) after := by
  obtain ⟨_, _, _, hafter⟩ := checks_of_apply happly hdestination
  refine ⟨size_apply happly, fun x y k hx hy hk => byteAt_apply happly hx hy hk, fun offset hoffset => ?_⟩
  rw [hafter, Bytes.byteAt_paint_of_le _ _ hoffset]

/-- What resampling answers and leaves: the refusals in their order, a canvas without pixels, and otherwise the pixels
that it reads at. -/
theorem onto_eq (pixels : Bytes) (source : Size) (canvas : Bytes) (destination : Size) (pixelBytes : Nat) :
    onto pixels source canvas destination pixelBytes =
      if source.columns = 0 ∨ source.rows = 0 ∨ pixelBytes = 0 then
        (.error (.invalidGeometry source), canvas)
      else if destination.columns = 0 ∨ destination.rows = 0 then (.ok (), canvas)
      else if pixels.size < source.area * pixelBytes then
        (.error (.bufferTooSmall (source.area * pixelBytes) pixels.size), canvas)
      else if canvas.size < destination.area * pixelBytes then
        (.error (.bufferTooSmall (destination.area * pixelBytes) canvas.size), canvas)
      else if destination.columns * 65536 < source.columns ∨ destination.rows * 65536 < source.rows then
        (.error (.invalidGeometry destination), canvas)
      else
        (.ok (), canvas.paint (destination.area * pixelBytes)
          (resampledByte pixels source destination pixelBytes)) := by
  have hsource : (source.isEmpty || pixelBytes == 0) = true ↔
      source.columns = 0 ∨ source.rows = 0 ∨ pixelBytes = 0 := by
    rw [Bool.or_eq_true, Size.isEmpty_iff_area, Size.area, Nat.mul_eq_zero, beq_iff_eq, or_assoc]
  have hdestination : destination.isEmpty = true ↔ destination.columns = 0 ∨ destination.rows = 0 := by
    rw [Size.isEmpty_iff_area, Size.area, Nat.mul_eq_zero]
  rw [onto_apply]
  by_cases hempty : source.columns = 0 ∨ source.rows = 0 ∨ pixelBytes = 0
  · unfold apply
    rw [if_pos hempty, if_pos (hsource.2 hempty)]
  rw [if_neg hempty]
  by_cases hnothing : destination.columns = 0 ∨ destination.rows = 0
  · unfold apply
    rw [if_pos hnothing, if_neg (mt hsource.1 hempty), if_pos (hdestination.2 hnothing)]
  rw [if_neg hnothing]
  by_cases hshort : pixels.size < source.area * pixelBytes
  · unfold apply
    rw [if_pos hshort, if_neg (mt hsource.1 hempty), if_neg (mt hdestination.1 hnothing), if_pos hshort]
  rw [if_neg hshort]
  by_cases hsmall : canvas.size < destination.area * pixelBytes
  · unfold apply
    rw [if_pos hsmall, if_neg (mt hsource.1 hempty), if_neg (mt hdestination.1 hnothing),
      if_neg hshort, if_pos hsmall]
  rw [if_neg hsmall, apply_of_room (Nat.mul_pos (by omega) (by omega)) (Nat.mul_pos (by omega) (by omega))
    (by omega) (Nat.le_of_not_lt hshort) (Nat.le_of_not_lt hsmall)]
  split_ifs with hscale
  · rfl
  · rfl

/-- An invalid size is reported exactly for a source or pixels without bytes, or, if the canvas has pixels and both
buffers are long enough, for an axis whose scale would be zero. -/
theorem onto_invalid_iff :
    (∃ size, (onto pixels source canvas destination pixelBytes).1 = .error (.invalidGeometry size)) ↔
      source.columns = 0 ∨ source.rows = 0 ∨ pixelBytes = 0 ∨
        (0 < destination.columns ∧ 0 < destination.rows ∧ source.area * pixelBytes ≤ pixels.size ∧
          destination.area * pixelBytes ≤ canvas.size ∧
          (destination.columns * 65536 < source.columns ∨ destination.rows * 65536 < source.rows)) := by
  rw [onto_eq]
  split_ifs with hempty hnothing hshort hsmall hscale
  · exact ⟨fun _ => by omega, fun _ => ⟨source, rfl⟩⟩
  · exact ⟨fun ⟨_, hanswer⟩ => (by cases hanswer), fun _ => by omega⟩
  · exact ⟨fun ⟨_, hanswer⟩ => (by cases hanswer), fun _ => by omega⟩
  · exact ⟨fun ⟨_, hanswer⟩ => (by cases hanswer), fun _ => by omega⟩
  · exact ⟨fun _ => by omega, fun _ => ⟨destination, rfl⟩⟩
  · exact ⟨fun ⟨_, hanswer⟩ => (by cases hanswer), fun _ => by omega⟩

/-- Resampling onto a canvas with pixels that is not refused has scales above zero, and leaves what `Resample.apply`
gives. -/
theorem apply_of_onto (hanswer : (onto pixels source canvas destination pixelBytes).1 = .ok ())
    (hcolumns : 0 < destination.columns) (hrows : 0 < destination.rows) :
    apply pixels source canvas destination pixelBytes =
        .ok (onto pixels source canvas destination pixelBytes).2 ∧
      0 < source.columns ∧ 0 < source.rows ∧
      0 < unitScale source.columns destination.columns ∧ 0 < unitScale source.rows destination.rows := by
  have happly : apply pixels source canvas destination pixelBytes =
      .ok (onto pixels source canvas destination pixelBytes).2 := by
    rw [onto_apply] at hanswer ⊢
    cases hresult : apply pixels source canvas destination pixelBytes with
    | error error =>
      rw [hresult] at hanswer
      cases hanswer
    | ok after => rfl
  refine ⟨happly, ?_⟩
  rw [onto_eq] at hanswer
  split_ifs at hanswer with hempty hnothing hshort hsmall hscale
  · omega
  · have hsource : 0 < source.columns ∧ 0 < source.rows := by omega
    exact ⟨hsource.1, hsource.2, Nat.div_pos (by omega) hsource.1, Nat.div_pos (by omega) hsource.2⟩

/-- Between pictures of one size, every byte of the picture is copied to its own place. -/
theorem Resampled.same_size {after : Bytes}
    (hresampled : Resampled pixels source canvas source pixelBytes (nearest source.columns source.columns)
      (nearest source.rows source.rows) after)
    (hcolumns : Follows source.columns source.columns (nearest source.columns source.columns))
    (hrows : Follows source.rows source.rows (nearest source.rows source.rows)) {offset : Nat}
    (hoffset : offset < source.area * pixelBytes) : after.byteAt offset = pixels.byteAt offset := by
  have hbytes : 0 < pixelBytes := Nat.pos_of_mul_pos_left (Nat.zero_lt_of_lt hoffset)
  have hpixel : offset / pixelBytes < source.area := by rwa [Nat.div_lt_iff_lt_mul hbytes]
  obtain ⟨x, y, hx, hy, hplace⟩ := Size.exists_place hpixel
  -- An axis onto itself is read at the same index.
  have hsame {count i : Nat} (hi : i < count) (hfollows : Follows count count (nearest count count)) :
      nearest count count i = i := by
    rw [(hfollows.exact (isExact_of_dvd (Nat.dvd_refl _)) i hi).1]
    exact Nat.mul_div_cancel _ (Nat.zero_lt_of_lt hi)
  have hcopied := hresampled.copied x y _ hx hy (Nat.mod_lt offset hbytes)
  rwa [hsame hx hcolumns, hsame hy hrows, ← hplace, Nat.div_add_mod'] at hcopied

/-- If every source pixel stands for the same number of columns and of rows, it fills a block of these. -/
theorem Resampled.blocks {after : Bytes} {across down : Nat}
    (hresampled : Resampled pixels source canvas destination pixelBytes
      (nearest source.columns destination.columns) (nearest source.rows destination.rows) after)
    (hcolumns : Follows source.columns destination.columns (nearest source.columns destination.columns))
    (hrows : Follows source.rows destination.rows (nearest source.rows destination.rows))
    (hacross : destination.columns = across * source.columns) (hdown : destination.rows = down * source.rows)
    {x y k : Nat} (hx : x < destination.columns) (hy : y < destination.rows) (hk : k < pixelBytes) :
    after.byteAt ((y * destination.columns + x) * pixelBytes + k) =
      pixels.byteAt ((y / down * source.columns + x / across) * pixelBytes + k) := by
  have htimes {count other times i : Nat} (hother : other = times * count) (hi : i < other)
      (hfollows : Follows count other (nearest count other)) : nearest count other i = i / times := by
    rw [(hfollows.exact (isExact_of_dvd (hother ▸ Nat.dvd_mul_left _ _)) i hi).1, hother]
    refine trueIndex_of_mul (Nat.pos_of_ne_zero fun hzero => ?_)
    rw [hother, hzero, Nat.mul_zero] at hi
    exact Nat.not_lt_zero _ hi
  rw [hresampled.copied x y k hx hy hk, htimes hacross hx hcolumns, htimes hdown hy hrows]

end Canvas

/-- The accuracy of resampling onto a canvas with pixels. Every pixel of it is a copy of the source pixel whose column
and row follow its own, each by its own axis, and the bytes behind are kept; a picture of the same size is copied byte
by byte, and one that every source pixel fills with a block of pixels is filled so. An invalid size is reported
exactly for a source or pixels without bytes, or, if both buffers are long enough, for an axis with more than 65536
source pixels to one of the canvas. Whatever is reported, the canvas stays. -/
theorem resampled_accurately (pixels : Bytes) (source : Size) (canvas : Bytes) (destination : Size)
    (pixelBytes : Nat) :
    let called := onto pixels source canvas destination pixelBytes
    let column := nearest source.columns destination.columns
    let row := nearest source.rows destination.rows
    (∀ error, called.1 = .error error → called.2 = canvas) ∧
    ((∃ size, called.1 = .error (.invalidGeometry size)) ↔
      source.columns = 0 ∨ source.rows = 0 ∨ pixelBytes = 0 ∨
        (0 < destination.columns ∧ 0 < destination.rows ∧ source.area * pixelBytes ≤ pixels.size ∧
          destination.area * pixelBytes ≤ canvas.size ∧
          (destination.columns * 65536 < source.columns ∨ destination.rows * 65536 < source.rows))) ∧
    (called.1 = .ok () → 0 < destination.columns → 0 < destination.rows →
      Resampled pixels source canvas destination pixelBytes column row called.2 ∧
      Follows source.columns destination.columns column ∧ Follows source.rows destination.rows row ∧
      (destination = source →
        ∀ offset < source.area * pixelBytes, called.2.byteAt offset = pixels.byteAt offset) ∧
      ∀ times, destination.columns = times * source.columns → destination.rows = times * source.rows →
        ∀ x y k, x < destination.columns → y < destination.rows → k < pixelBytes →
          called.2.byteAt ((y * destination.columns + x) * pixelBytes + k) =
            pixels.byteAt ((y / times * source.columns + x / times) * pixelBytes + k)) ∧
    ∀ count other, count ≤ 256 ∨ count = other ∨ (∃ times, other = times * count) →
      IsExact count other := by
  dsimp only
  refine ⟨fun error hanswer => ?_, onto_invalid_iff, fun hanswer hcolumns hrows => ?_, ?_⟩
  · rw [onto_apply] at hanswer ⊢
    cases hresult : apply pixels source canvas destination pixelBytes with
    | error error => rfl
    | ok after =>
      rw [hresult] at hanswer
      cases hanswer
  · obtain ⟨happly, hwide, hhigh, hcolumnScale, hrowScale⟩ := apply_of_onto hanswer hcolumns hrows
    have hresampled := resampled happly (Nat.mul_pos hcolumns hrows)
    have hfollows := follows hcolumnScale hwide
    have hfollows' := follows hrowScale hhigh
    refine ⟨hresampled, hfollows, hfollows', ?_, ?_⟩
    · rintro rfl offset hoffset
      exact hresampled.same_size hfollows hfollows' hoffset
    · intro times hacross hdown x y k hx hy hk
      exact hresampled.blocks hfollows hfollows' hacross hdown hx hy hk
  · rintro count other (hsmall | rfl | ⟨times, rfl⟩)
    · exact isExact_of_le hsmall
    · exact isExact_of_dvd (Nat.dvd_refl _)
    · exact isExact_of_dvd (Nat.dvd_mul_left _ _)

/-- Three columns read at for five, and a source without pixels. -/
theorem resampled_accurately_three_to_five :
    let called := onto #[1, 2, 3] ⟨3, 1⟩ #[9, 9, 9, 9, 9, 9] ⟨5, 1⟩ 1
    called = (.ok (), #[1, 1, 2, 2, 3, 9]) ∧
      Follows 3 5 (nearest 3 5) ∧ nearest 3 5 4 = trueIndex 3 5 4 ∧ IsExact 200 77 ∧
      (onto #[] ⟨0, 1⟩ #[9] ⟨5, 1⟩ 1).2 = #[9] := by
  obtain ⟨_, _, hresampled, hexact⟩ := resampled_accurately #[1, 2, 3] ⟨3, 1⟩ #[9, 9, 9, 9, 9, 9] ⟨5, 1⟩ 1
  obtain ⟨hrefused, _⟩ := resampled_accurately #[] ⟨0, 1⟩ #[9] ⟨5, 1⟩ 1
  have hcalled : onto #[1, 2, 3] ⟨3, 1⟩ #[9, 9, 9, 9, 9, 9] ⟨5, 1⟩ 1 = (.ok (), #[1, 1, 2, 2, 3, 9]) := by
    decide +kernel
  obtain ⟨_, hfollows, _⟩ := hresampled (congrArg Prod.fst hcalled) (by decide) (by decide)
  have hfour := hfollows.exact (hexact 3 5 (.inl (by decide))) 4 (by decide)
  exact ⟨hcalled, hfollows, hfour.1, hexact 200 77 (.inl (by decide)),
    hrefused (.invalidGeometry ⟨0, 1⟩) (by decide +kernel)⟩

end Resample

end FramePath

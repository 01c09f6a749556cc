import FramePath.Pipeline
import FramePath.Proofs.Picture

/-!
# A frame on its canvases

`Canvases.Fits geometry` says that canvases are as a geometry needs them: long enough, a turned one exactly if there
is an angle, and the slots of it that no turn by this angle writes are zero. Every stage of a frame keeps this
(`Job.convert_spec`, `Job.turn_spec`, `Job.resize_spec`), so a frame keeps it too, even one that is refused on its way;
and a frame that comes out of the last stage comes out as the picture of its payload (`Job.develop_spec`).
-/

namespace FramePath

variable {geometry : Geometry} {canvases after : Canvases} {job : Job}

/-- Canvases as a geometry needs them. -/
structure Canvases.Fits (geometry : Geometry) (canvases : Canvases) : Prop where
  converted : canvases.converted.size = geometry.source.area * packedPixelBytes
  resized : canvases.resized.size = geometry.output.area * packedPixelBytes
  upright : canvases.rotated = none → geometry.angle = 0
  rotated : ∀ canvas, canvases.rotated = some canvas →
    geometry.angle ≠ 0 ∧ canvas.size = geometry.source.area * packedPixelBytes
  clear : ∀ canvas turn, canvases.rotated = some canvas → Turn.ofDegrees? geometry.angle = some turn →
    ∀ slot k, slot < geometry.source.area → slot < turn.lateness geometry.source →
      k < packedPixelBytes → canvas.byteAt (slot * packedPixelBytes + k) = 0

/-- Canvases fit as well when the changes are taken up. -/
theorem Canvases.Fits.settled (hfits : canvases.Fits geometry) : canvases.Fits geometry.settled :=
  ⟨hfits.converted, hfits.resized, hfits.upright, hfits.rotated, hfits.clear⟩

/-- Only the angle zero is no turn. -/
theorem Turn.angle_of_none {angle : UInt32} (hturn : ofDegrees? angle = some none) : angle = 0 := by
  unfold ofDegrees? at hturn
  split at hturn
  · rfl
  all_goals cases hturn

namespace Job

open Canvases

variable {pixels turned : Bytes} {size : Size} {bytes : Nat → Nat → UInt8} {picture : Picture}

/-- The conversion gives the pixels of the source. -/
theorem convert_spec (hfits : canvases.Fits job.geometry)
    (hconvert : job.convert canvases = .ok (pixels, after)) :
    after.Fits job.geometry ∧
      ∀ pixel k, pixel < job.geometry.source.area → k < packedPixelBytes →
        pixels.byteAt (pixel * packedPixelBytes + k) =
          Picture.sourceByte job.format job.geometry.source job.payload pixel k := by
  unfold convert at hconvert
  split at hconvert
  · next hplanar =>
    rcases hpaint : Planes.toRgba job.payload job.format job.geometry.source canvases.converted
      with cause | converted
    · rw [hpaint] at hconvert
      cases hconvert
    · rw [hpaint] at hconvert
      cases hconvert
      refine ⟨⟨?_, hfits.resized, hfits.upright, hfits.rotated, hfits.clear⟩, ?_⟩
      · obtain ⟨_, hpainted⟩ := Planes.eq_of_toRgba hpaint
        rw [← hfits.converted, hpainted, Bytes.size_paint]
      · intro pixel k hpixel hk
        obtain ⟨x, y, hx, hy, rfl⟩ := Size.exists_place hpixel
        unfold Picture.sourceByte
        rw [if_pos hplanar, Size.place_mod hx, Size.place_div hx]
        exact Planes.byteAt_toRgba hpaint hx hy hk
  · next hpacked =>
    cases hconvert
    refine ⟨hfits, ?_⟩
    intro pixel k _ _
    unfold Picture.sourceByte
    rw [if_neg hpacked]

/-- A turn that is not refused scatters the pixels over the canvas. -/
theorem scatter_of_apply {canvas : Bytes} {angle : UInt32} {turnedSize : Size} (hangle : angle ≠ 0)
    (happly : Turn.apply pixels canvas size packedPixelBytes angle = .ok (turnedSize, turned)) :
    ∃ turn, Turn.ofDegrees? angle = some turn ∧ turn ≠ .none ∧
      turned = turn.scatter size packedPixelBytes pixels canvas := by
  unfold Turn.apply at happly
  dsimp only at happly
  rcases hturn : Turn.ofDegrees? angle with _ | turn
  · rw [hturn] at happly
    cases happly
  · rw [hturn] at happly
    have hsome : turn ≠ .none := by
      rintro rfl
      exact hangle (Turn.angle_of_none hturn)
    refine ⟨turn, rfl, hsome, ?_⟩
    dsimp only at happly
    split at happly
    · cases happly
    · split at happly
      · cases happly
      · split at happly
        · cases happly
        · cases turn with
          | none => exact absurd rfl hsome
          | _ =>
            cases happly
            rfl

/-- What a turn leaves on a canvas that fits: the slots that it does not write are still zero. -/
theorem byteAt_turned {canvas : Bytes} {turn : Turn} (hfits : canvases.Fits geometry)
    (hrotated : canvases.rotated = some canvas) (hturn : Turn.ofDegrees? geometry.angle = some turn)
    (hbytes : ∀ pixel k, pixel < geometry.source.area → k < packedPixelBytes →
      pixels.byteAt (pixel * packedPixelBytes + k) = bytes pixel k)
    {slot k : Nat} (hslot : slot < geometry.source.area) (hk : k < packedPixelBytes) :
    (turn.scatter geometry.source packedPixelBytes pixels canvas).byteAt
        (slot * packedPixelBytes + k) =
      if slot < turn.lateness geometry.source then 0
      else bytes (turn.originPixel geometry.source (slot - turn.lateness geometry.source)) k := by
  have hroom := Nat.le_of_eq (hfits.rotated canvas hrotated).2.symm
  rw [Turn.byteAt_scatter hroom hslot hk]
  by_cases hearly : slot < turn.lateness geometry.source
  · rw [if_pos hearly, if_pos hearly]
    exact hfits.clear canvas turn hrotated hturn slot k hslot hearly hk
  · rw [if_neg hearly, if_neg hearly]
    exact hbytes _ k (Turn.pixelSlot_originPixel (by omega)).1 hk

/-- Turning a picture gives the turned pixels of it, and zero before the first of them. -/
theorem turn_spec (hfits : canvases.Fits job.geometry)
    (hbytes : ∀ pixel k, pixel < job.geometry.source.area → k < packedPixelBytes →
      pixels.byteAt (pixel * packedPixelBytes + k) = bytes pixel k)
    (hturned : job.turn pixels canvases = .ok (turned, size, after)) :
    after.Fits job.geometry ∧ ∃ turn, Turn.ofDegrees? job.geometry.angle = some turn ∧
      size = turn.turnedSize job.geometry.source ∧
      ∀ slot k, slot < job.geometry.source.area → k < packedPixelBytes →
        turned.byteAt (slot * packedPixelBytes + k) =
          Picture.turnedByte turn job.geometry.source bytes slot k := by
  unfold Job.turn at hturned
  rcases hrotated : canvases.rotated with _ | canvas
  · rw [hrotated] at hturned
    cases hturned
    refine ⟨hfits, .none, ?_, rfl, hbytes⟩
    rw [hfits.upright hrotated]
    rfl
  · rw [hrotated] at hturned
    dsimp only at hturned
    obtain ⟨hangle, hsize⟩ := hfits.rotated canvas hrotated
    rcases happly : Turn.apply pixels canvas job.geometry.source packedPixelBytes job.geometry.angle
      with cause | ⟨turnedSize, onCanvas⟩
    · rw [happly] at hturned
      cases hturned
    · rw [happly] at hturned
      cases hturned
      obtain ⟨turn, hturn, hsome, rfl⟩ := scatter_of_apply hangle happly
      refine ⟨⟨hfits.converted, hfits.resized, ?_, ?_, ?_⟩, turn, hturn,
        Geometry.turnedSource_of_turn hturn, ?_⟩
      · intro hnone
        cases hnone
      · rintro _ ⟨⟩
        exact ⟨hangle, (Turn.size_scatter (by decide) (Nat.le_of_eq hsize.symm)).trans hsize⟩
      · -- The angle fixes the turn, so the slots left out are those of the turn made just now.
        rintro _ other ⟨⟩ hother slot k hslot hearly hk
        rw [hturn] at hother
        cases hother
        rw [byteAt_turned hfits hrotated hturn hbytes hslot hk, if_pos hearly]
      · intro slot k hslot hk
        rw [byteAt_turned hfits hrotated hturn hbytes hslot hk]
        cases turn with
        | none => exact absurd rfl hsome
        | _ => rfl

/-- Resizing a picture gives its pixels nearest in fixed point. -/
theorem resize_spec (hfits : canvases.Fits job.geometry)
    (hbytes : ∀ pixel k, pixel < size.area → k < packedPixelBytes →
      pixels.byteAt (pixel * packedPixelBytes + k) = bytes pixel k)
    (hresize : job.resize pixels size canvases = .ok after) :
    after.Fits job.geometry ∧
      ⟨job.geometry.output, after.resized⟩ = Picture.ofBytes job.geometry.output fun x y =>
        bytes (Resample.nearestPixel size job.geometry.output x y) := by
  unfold resize at hresize
  rcases happly : Resample.apply pixels size canvases.resized job.geometry.output packedPixelBytes
    with cause | resized
  · rw [happly] at hresize
    cases hresize
  · rw [happly] at hresize
    cases hresize
    have hsize := (Resample.size_apply happly).trans hfits.resized
    refine ⟨⟨hfits.converted, hsize, hfits.upright, hfits.rotated, hfits.clear⟩, ?_⟩
    refine Picture.eq_ofBytes hsize ?_
    intro x y k hx hy hk
    have hsource := (Resample.checks_of_apply happly (Nat.zero_lt_of_lt (Size.place_lt hx hy))).1
    rw [Resample.byteAt_apply happly hx hy hk]
    exact hbytes _ k (Resample.nearestPixel_lt hsource x y) hk

/-- A frame that is not refused holds all bytes that its format needs. -/
theorem enough_of_check (hcheck : job.check = .ok ()) :
    job.format.frameBytes job.geometry.source ≤ job.payload.size := by
  unfold check at hcheck
  dsimp only at hcheck
  split at hcheck
  · cases hcheck
  · split at hcheck
    · cases hcheck
    · next henough => exact Nat.le_of_not_lt henough

/-- What a frame leaves on canvases that fit, and what comes out of the last stage. -/
theorem develop_spec (hfits : canvases.Fits job.geometry) :
    (job.develop canvases).2.Fits job.geometry ∧
      ∀ picture, (job.develop canvases).1 = .ok picture →
        ∃ turn, Turn.ofDegrees? job.geometry.angle = some turn ∧
          job.format.frameBytes job.geometry.source ≤ job.payload.size ∧
          picture = .ofFrame job.format job.geometry.source job.geometry.output turn job.payload := by
  unfold develop
  rcases hcheck : job.check with cause | ⟨⟩
  · exact ⟨hfits, fun _ hrefused => by cases hrefused⟩
  dsimp only
  rcases hconvert : job.convert canvases with cause | ⟨pixels, canvases⟩
  · exact ⟨hfits, fun _ hrefused => by cases hrefused⟩
  dsimp only
  obtain ⟨hconverted, hsource⟩ := convert_spec hfits hconvert
  rcases hturned : job.turn pixels canvases with cause | ⟨turned, size, canvases⟩
  · exact ⟨hconverted, fun _ hrefused => by cases hrefused⟩
  dsimp only
  obtain ⟨hrotated, turn, hturn, rfl, hslots⟩ := turn_spec hconverted hsource hturned
  rcases hresize : job.resize turned (turn.turnedSize job.geometry.source) canvases
    with cause | canvases
  · exact ⟨hrotated, fun _ hrefused => by cases hrefused⟩
  dsimp only
  rw [← Turn.area_turnedSize turn] at hslots
  obtain ⟨hresized, hpicture⟩ := resize_spec hrotated hslots hresize
  refine ⟨hresized, ?_⟩
  rintro _ ⟨⟩
  exact ⟨turn, hturn, enough_of_check hcheck, hpicture⟩

end Job

end FramePath

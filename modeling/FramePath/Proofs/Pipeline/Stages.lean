import FramePath.Proofs.Pipeline.Develop

/-!
# Which frames the stages refuse

`Job.Unfit` says when a frame cannot be developed, by its geometry and the length of its payload alone. On canvases that
fit, these are the only refusals: a frame that is unfit is refused with an error that is not fatal
(`develop_of_unfit`), and every other frame comes out of the last stage (`develop_of_fit`). No stage finds a canvas too
short or a picture shorter than its size.
-/

namespace FramePath

/-- A side of the output has pixels where the source has. -/
theorem Geometry.side_pos {requested source : UInt32} (hsource : 0 < source.toNat) :
    0 < (side requested source).toNat := by
  by_cases hasked : requested = 0
  · rw [side, if_pos hasked]
    exact hsource
  · rw [side, if_neg hasked]
    exact Nat.pos_of_ne_zero fun hzero => hasked (UInt32.toNat_inj.1 hzero)

/-- The output has pixels if the source has. -/
theorem Geometry.output_area_pos {geometry : Geometry} (hsource : 0 < geometry.source.area) :
    0 < geometry.output.area :=
  Nat.mul_pos (side_pos (Nat.pos_of_mul_pos_right hsource))
    (side_pos (Nat.pos_of_mul_pos_left hsource))

/-- Turned or not, the source has as many pixels. -/
theorem Geometry.area_turnedSource (geometry : Geometry) :
    geometry.turnedSource.area = geometry.source.area := by
  unfold turnedSource
  split
  · exact Size.area_transposed _
  · rfl

namespace Job

variable {job : Job} {canvases : Canvases} {pixels : Bytes} {size : Size}

/-- A frame that cannot be developed: its source has no pixels, its payload is too short for the format, its angle is no
turn, or its output is more than 65536 times smaller than the turned source in one direction. -/
def Unfit (job : Job) : Prop :=
  job.geometry.source.columns = 0 ∨ job.geometry.source.rows = 0 ∨
    job.payload.size < job.format.frameBytes job.geometry.source ∨
    job.geometry.angle ∉ [0, 90, 180, 270] ∨
    job.geometry.output.columns * 65536 < job.geometry.turnedSource.columns ∨
    job.geometry.output.rows * 65536 < job.geometry.turnedSource.rows

/-- Whether a frame is unfit is decided by comparing numbers. -/
instance (job : Job) : Decidable job.Unfit :=
  inferInstanceAs (Decidable (_ ∨ _))

/-- The first check refuses a source without pixels and a payload that is too short. -/
theorem check_of_unfit (hunfit : job.geometry.source.area = 0 ∨
      job.payload.size < job.format.frameBytes job.geometry.source) :
    ∃ cause, job.check = .error cause ∧ cause.isFatal = false := by
  unfold check
  dsimp only
  by_cases hempty : job.geometry.source.isEmpty = true
  · rw [if_pos hempty]
    exact ⟨_, rfl, rfl⟩
  · rw [if_neg hempty]
    rw [Size.isEmpty_iff_area] at hempty
    rw [if_pos (hunfit.resolve_left hempty)]
    exact ⟨_, rfl, rfl⟩

/-- The first check lets every other frame pass. -/
theorem check_of_fit (hsource : 0 < job.geometry.source.area)
    (henough : job.format.frameBytes job.geometry.source ≤ job.payload.size) :
    job.check = .ok () := by
  have hfilled : ¬ job.geometry.source.isEmpty = true := by
    rw [Size.isEmpty_iff_area]
    exact Nat.ne_of_gt hsource
  unfold check
  dsimp only
  rw [if_neg hfilled, if_neg (Nat.not_lt.2 henough)]

/-- The conversion refuses no frame that was checked, and gives all pixels of the source. -/
theorem convert_of_fit (hfits : canvases.Fits job.geometry) (hsource : 0 < job.geometry.source.area)
    (henough : job.format.frameBytes job.geometry.source ≤ job.payload.size) :
    ∃ pixels after, job.convert canvases = .ok (pixels, after) ∧
      job.geometry.source.area * packedPixelBytes ≤ pixels.size := by
  unfold convert
  cases hplanar : job.format.isPlanar with
  | true =>
    have hfilled : job.geometry.source.isEmpty = false := by
      rw [← Bool.not_eq_true, Size.isEmpty_iff_area]
      exact Nat.ne_of_gt hsource
    have hroom := Nat.le_of_eq hfits.converted.symm
    rw [if_pos rfl, Planes.toRgba_of_room hplanar hfilled henough hroom]
    refine ⟨_, _, rfl, ?_⟩
    rw [Bytes.size_paint]
    exact hroom
  | false =>
    rw [PixelFormat.frameBytes_of_packed hplanar] at henough
    exact ⟨_, _, rfl, henough⟩

/-- The turn refuses an angle that is none. -/
theorem turn_of_unfit (hfits : canvases.Fits job.geometry)
    (hangle : Turn.ofDegrees? job.geometry.angle = none) :
    ∃ cause, job.turn pixels canvases = .error cause ∧ cause.isFatal = false := by
  unfold Job.turn
  rcases hrotated : canvases.rotated with _ | canvas
  · rw [hfits.upright hrotated] at hangle
    cases hangle
  · dsimp only
    rw [Turn.apply_of_no_turn hangle]
    exact ⟨_, rfl, rfl⟩

/-- Every other picture is turned, and has all its pixels still. -/
theorem turn_of_fit (hfits : canvases.Fits job.geometry) (hsource : 0 < job.geometry.source.area)
    (hpixels : job.geometry.source.area * packedPixelBytes ≤ pixels.size) {turn : Turn}
    (hangle : Turn.ofDegrees? job.geometry.angle = some turn) :
    ∃ turned after, job.turn pixels canvases = .ok (turned, job.geometry.turnedSource, after) ∧
      job.geometry.source.area * packedPixelBytes ≤ turned.size := by
  unfold Job.turn
  rcases hrotated : canvases.rotated with _ | canvas
  · have hupright : job.geometry.turnedSource = job.geometry.source := by
      unfold Geometry.turnedSource
      rw [hfits.upright hrotated]
      rfl
    exact ⟨_, _, by rw [hupright], hpixels⟩
  · have hfilled : job.geometry.source.isEmpty = false := by
      rw [← Bool.not_eq_true, Size.isEmpty_iff_area]
      exact Nat.ne_of_gt hsource
    obtain ⟨hturned, hsize⟩ := hfits.rotated canvas hrotated
    have hsome : turn ≠ .none := by
      rintro rfl
      exact hturned (Turn.angle_of_none hangle)
    have hroom := Nat.le_of_eq hsize.symm
    dsimp only
    rw [Turn.apply_of_room hangle hsome hfilled (by decide) hpixels hroom]
    refine ⟨_, _, rfl, ?_⟩
    rw [Turn.size_scatter (by decide) hroom]
    exact hroom

/-- The resampling refuses a picture exactly if the output is too small for it. -/
theorem resize_eq (hfits : canvases.Fits job.geometry) (hsource : 0 < job.geometry.source.area)
    (hsize : size.area = job.geometry.source.area)
    (hpixels : job.geometry.source.area * packedPixelBytes ≤ pixels.size) :
    job.resize pixels size canvases =
      if job.geometry.output.columns * 65536 < size.columns ∨
          job.geometry.output.rows * 65536 < size.rows then
        .error (.invalidGeometry job.geometry.output)
      else
        .ok { canvases with
          resized := canvases.resized.paint (job.geometry.output.area * packedPixelBytes)
            (Resample.resampledByte pixels size job.geometry.output packedPixelBytes) } := by
  rw [← hsize] at hsource hpixels
  have houtput : 0 < job.geometry.output.area := by
    rw [hsize] at hsource
    exact Geometry.output_area_pos hsource
  unfold resize
  rw [Resample.apply_of_room hsource houtput (by decide) hpixels (Nat.le_of_eq hfits.resized.symm)]
  split
  · rfl
  · rfl

/-- A frame that was checked and is to be turned by an angle that is a turn comes to the last stage. -/
theorem develop_of_turn (hfits : canvases.Fits job.geometry) (hsource : 0 < job.geometry.source.area)
    (henough : job.format.frameBytes job.geometry.source ≤ job.payload.size) {turn : Turn}
    (hangle : Turn.ofDegrees? job.geometry.angle = some turn) :
    ∃ picture, (job.develop canvases).1 =
      if job.geometry.output.columns * 65536 < job.geometry.turnedSource.columns ∨
          job.geometry.output.rows * 65536 < job.geometry.turnedSource.rows then
        .error (.invalidGeometry job.geometry.output)
      else .ok picture := by
  unfold develop
  rw [check_of_fit hsource henough]
  dsimp only
  obtain ⟨pixels, converted, hconvert, hpixels⟩ := convert_of_fit hfits hsource henough
  have hconverted := (convert_spec hfits hconvert).1
  rw [hconvert]
  dsimp only
  obtain ⟨turned, rotated, hturn, hturned⟩ := turn_of_fit hconverted hsource hpixels hangle
  have hrotated := (turn_spec hconverted (fun _ _ _ _ => rfl) hturn).1
  rw [hturn]
  dsimp only
  rw [resize_eq hrotated hsource (Geometry.area_turnedSource _) hturned]
  by_cases hsmall : job.geometry.output.columns * 65536 < job.geometry.turnedSource.columns ∨
      job.geometry.output.rows * 65536 < job.geometry.turnedSource.rows
  · simp only [if_pos hsmall]
    exact ⟨⟨job.geometry.output, rotated.resized⟩, trivial⟩
  · simp only [if_neg hsmall]
    exact ⟨_, rfl⟩

/-- A frame that is unfit is refused, and not fatally. -/
theorem develop_of_unfit (hfits : canvases.Fits job.geometry) (hunfit : job.Unfit) :
    ∃ cause, (job.develop canvases).1 = .error cause ∧ cause.isFatal = false := by
  by_cases hchecked : job.geometry.source.area = 0 ∨
      job.payload.size < job.format.frameBytes job.geometry.source
  · obtain ⟨cause, hcheck, hmild⟩ := check_of_unfit hchecked
    unfold develop
    rw [hcheck]
    exact ⟨cause, rfl, hmild⟩
  rw [not_or, Nat.not_lt] at hchecked
  obtain ⟨hcolumns, hrows⟩ := not_or.1 (mt Nat.mul_eq_zero.2 hchecked.1)
  have hsource := Nat.pos_of_ne_zero hchecked.1
  have hlater := ((hunfit.resolve_left hcolumns).resolve_left hrows).resolve_left
    (Nat.not_lt.2 hchecked.2)
  rcases hangle : Turn.ofDegrees? job.geometry.angle with _ | turn
  · unfold develop
    rw [check_of_fit hsource hchecked.2]
    dsimp only
    obtain ⟨pixels, converted, hconvert, _⟩ := convert_of_fit hfits hsource hchecked.2
    rw [hconvert]
    dsimp only
    obtain ⟨cause, hturn, hmild⟩ :=
      @turn_of_unfit job converted pixels (convert_spec hfits hconvert).1 hangle
    rw [hturn]
    exact ⟨cause, rfl, hmild⟩
  · have hturnable : ¬ job.geometry.angle ∉ [0, 90, 180, 270] := by
      rw [← Turn.ofDegrees?_eq_none_iff, hangle]
      exact nofun
    obtain ⟨picture, hdevelop⟩ := develop_of_turn hfits hsource hchecked.2 hangle
    rw [hdevelop, if_pos (hlater.resolve_left hturnable)]
    exact ⟨_, rfl, rfl⟩

/-- Every other frame is developed. -/
theorem develop_of_fit (hfits : canvases.Fits job.geometry) (hfit : ¬ job.Unfit) :
    ∃ picture, (job.develop canvases).1 = .ok picture := by
  unfold Unfit at hfit
  simp only [not_or] at hfit
  obtain ⟨hcolumns, hrows, henough, hturnable, hsmall⟩ := hfit
  rw [← Turn.ofDegrees?_eq_none_iff] at hturnable
  obtain ⟨turn, hangle⟩ := Option.ne_none_iff_exists'.1 hturnable
  obtain ⟨picture, hdevelop⟩ := develop_of_turn hfits
    (Nat.mul_pos (Nat.pos_of_ne_zero hcolumns) (Nat.pos_of_ne_zero hrows)) (Nat.not_lt.1 henough) hangle
  rw [hdevelop, if_neg (not_or.2 hsmall)]
  exact ⟨picture, rfl⟩

end Job

end FramePath

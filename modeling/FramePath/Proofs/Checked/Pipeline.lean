import FramePath.Proofs.Checked.Resample
import FramePath.Proofs.Checked.Turn
import FramePath.Proofs.Pipeline.Run
import FramePath.Proofs.Sink.Run

/-!
# A pipeline in words

The stages of a frame, and all that is done for it from its admission on, as a machine does them. The counts of the
transforms are unchecked on a machine; what keeps them within words is that the canvases were granted before, for the
geometry by which the frame is performed. `Pipeline.Granted` says so of every reachable state (`granted_run`), and
`never_faults` that in such a state no frame faults: it comes to what the pipeline says.
-/

namespace FramePath

namespace Checked

variable {job : Job} {canvases : Canvases} {pixels : Bytes} {size : Size}

/-- Refuse a source without pixels or a payload that is shorter than the format needs. -/
def check (job : Job) : Checked (Except FrameError Unit) :=
  if job.geometry.source.isEmpty then pure (.error (.invalidGeometry job.geometry.source))
  else do
    let needed ← frameBytes job.format job.geometry.source
    if job.payload.size < needed then pure (.error (.bufferTooSmall needed job.payload.size))
    else pure (.ok ())

/-- The packed picture of the frame, and the canvases as the stage leaves them. -/
def convert (job : Job) (canvases : Canvases) : Checked (Except FrameError Bytes × Canvases) :=
  if job.format.isPlanar then do
    let (answer, converted) ←
      toRgba job.payload job.format job.geometry.source canvases.converted
    pure (answer.map fun () => converted, { canvases with converted })
  else pure (.ok job.payload, canvases)

/-- The turned picture and its size, and the canvases as the stage leaves them. -/
def turn (job : Job) (pixels : Bytes) (canvases : Canvases) :
    Checked (Except FrameError (Bytes × Size) × Canvases) :=
  match canvases.rotated with
  | none => pure (.ok (pixels, job.geometry.source), canvases)
  | some canvas => do
    let (answer, rotated) ←
      turnOnto pixels canvas job.geometry.source packedPixelBytes job.geometry.angle
    pure (answer.map fun _ => (rotated, job.geometry.turnedSource),
      { canvases with rotated := some rotated })

/-- Put the picture on a canvas in its output size, and leave the canvases so. -/
def resize (job : Job) (pixels : Bytes) (size : Size) (canvases : Canvases) :
    Checked (Except FrameError Unit × Canvases) := do
  let (answer, resized) ←
    resample pixels size canvases.resized job.geometry.output packedPixelBytes
  pure (answer, { canvases with resized })

/-- Take a frame through all stages. -/
def develop (job : Job) (canvases : Canvases) : Checked (Except FrameError Picture × Canvases) := do
  match ← check job with
  | .error cause => pure (.error cause, canvases)
  | .ok () =>
    match ← convert job canvases with
    | (.error cause, canvases) => pure (.error cause, canvases)
    | (.ok pixels, canvases) =>
      match ← turn job pixels canvases with
      | (.error cause, canvases) => pure (.error cause, canvases)
      | (.ok (pixels, size), canvases) =>
        match ← resize job pixels size canvases with
        | (.error cause, canvases) => pure (.error cause, canvases)
        | (.ok (), canvases) => pure (.ok ⟨job.geometry.output, canvases.resized⟩, canvases)

/-- Perform an admitted frame. A request for canvases reports a count that does not fit in a word by itself. -/
def perform (job : Job) (pipeline : Pipeline) : Checked (Except FrameError Outcome × Pipeline) :=
  match pipeline.scratch.obtain job.geometry with
  | (.error cause, scratch) => pure (.error cause, { pipeline with scratch, halted := true })
  | (.ok canvases, scratch) => do
    let (developed, canvases) ← develop job canvases
    let pipeline := { pipeline with scratch := scratch.keep canvases }
    match developed with
    | .error cause =>
        if cause.isFatal then pure (.error cause, { pipeline with halted := true })
        else pure (.ok .skipped, { pipeline with tally := pipeline.tally.countSkipped })
    | .ok picture =>
        let (outcome, pipeline) := pipeline.present picture
        pure (.ok outcome, pipeline)

/-- Take one frame through the pipeline while changes come in. -/
def feedAmid (meanwhile : List Geometry.Change) (frame : Frame) (pipeline : Pipeline) :
    Checked (Except FrameError Outcome × Pipeline) :=
  match pipeline.accept frame with
  | .error cause => pure (.error cause, pipeline.changeAll meanwhile)
  | .ok (job, pipeline) => perform job (pipeline.changeAll meanwhile)

/-- The first check faults in no case. -/
theorem check_eq (hsmall : job.geometry.source.area * packedPixelBytes < grantLimit) :
    check job = .ok job.check := by
  unfold check Job.check
  dsimp only
  by_cases hempty : job.geometry.source.isEmpty = true
  · rw [if_pos hempty, if_pos hempty]
    rfl
  rw [if_neg hempty, if_neg hempty]
  rw [Size.isEmpty_iff_area] at hempty
  rw [frameBytes_eq (Nat.pos_of_ne_zero hempty) hsmall, ok_bind]
  split
  · rfl
  · rfl

/-- The conversion of a frame that was checked faults in no case. -/
theorem convert_eq (hfilled : 0 < job.geometry.source.area)
    (hsmall : job.geometry.source.area * packedPixelBytes < grantLimit) (canvases : Canvases) :
    convert job canvases =
      .ok (match job.convert canvases with
        | .ok (pixels, after) => (.ok pixels, after)
        | .error cause => (.error cause, canvases)) := by
  unfold convert Job.convert
  split
  · rw [toRgba_eq hfilled hsmall, ok_bind, Planes.onto_toRgba]
    cases Planes.toRgba job.payload job.format job.geometry.source canvases.converted <;> rfl
  · rfl

/-- The turn faults in no case. -/
theorem turn_eq (hsmall : job.geometry.source.area * packedPixelBytes < grantLimit) (pixels : Bytes)
    (canvases : Canvases) :
    turn job pixels canvases =
      .ok (match job.turn pixels canvases with
        | .ok (turned, size, after) => (.ok (turned, size), after)
        | .error cause => (.error cause, canvases)) := by
  unfold turn Job.turn
  obtain ⟨converted, rotated, resized⟩ := canvases
  cases rotated with
  | none => rfl
  | some canvas =>
    dsimp only
    rw [turnOnto_eq (by decide) hsmall, ok_bind, Turn.onto_apply]
    cases Turn.apply pixels canvas job.geometry.source packedPixelBytes job.geometry.angle <;> rfl

/-- The resampling faults in no case. -/
theorem resize_eq (hsize : size.area * packedPixelBytes < grantLimit)
    (houtput : job.geometry.output.area * packedPixelBytes < grantLimit) (pixels : Bytes)
    (canvases : Canvases) :
    resize job pixels size canvases =
      .ok (match job.resize pixels size canvases with
        | .ok after => (.ok (), after)
        | .error cause => (.error cause, canvases)) := by
  unfold resize Job.resize
  rw [resample_eq (by decide) hsize houtput, ok_bind, Resample.onto_apply]
  cases Resample.apply pixels size canvases.resized job.geometry.output packedPixelBytes <;> rfl

/-- A turned picture has as many pixels as the source. -/
theorem area_of_turn {turned : Bytes} {after : Canvases}
    (hturned : job.turn pixels canvases = .ok (turned, size, after)) :
    size.area = job.geometry.source.area := by
  unfold Job.turn at hturned
  cases hrotated : canvases.rotated with
  | none =>
    rw [hrotated] at hturned
    cases hturned
    rfl
  | some canvas =>
    rw [hrotated] at hturned
    dsimp only at hturned
    cases happly : Turn.apply pixels canvas job.geometry.source packedPixelBytes job.geometry.angle with
    | error cause =>
      rw [happly] at hturned
      cases hturned
    | ok turned =>
      rw [happly] at hturned
      cases hturned
      exact Geometry.area_turnedSource job.geometry

/-- No stage faults, if canvases could be granted for the source and for the output. -/
theorem develop_eq (hsmall : job.geometry.source.area * packedPixelBytes < grantLimit)
    (houtput : job.geometry.output.area * packedPixelBytes < grantLimit) (canvases : Canvases) :
    develop job canvases = .ok (job.develop canvases) := by
  unfold develop Job.develop
  rw [check_eq hsmall, ok_bind]
  cases hcheck : job.check with
  | error cause => rfl
  | ok checked =>
    dsimp only
    have hfilled : 0 < job.geometry.source.area := by
      refine Nat.pos_of_ne_zero fun hempty => ?_
      obtain ⟨cause, hrefused, _⟩ := Job.check_of_unfit (.inl hempty)
      rw [hcheck] at hrefused
      cases hrefused
    rw [convert_eq hfilled hsmall, ok_bind]
    cases hconvert : job.convert canvases with
    | error cause => rfl
    | ok converted =>
      obtain ⟨pixels, canvases⟩ := converted
      dsimp only
      rw [turn_eq hsmall, ok_bind]
      cases hturn : job.turn pixels canvases with
      | error cause => rfl
      | ok turned =>
        obtain ⟨turned, size, canvases⟩ := turned
        dsimp only
        rw [resize_eq (by rwa [area_of_turn hturn]) houtput, ok_bind]
        cases job.resize turned size canvases <;> rfl

end Checked

open Checked (grantLimit)

namespace Canvases

variable {geometry : Geometry} {canvases : Canvases}

/-- Canvases that could be granted. -/
def Granted (canvases : Canvases) : Prop :=
  canvases.converted.size < grantLimit ∧ canvases.resized.size < grantLimit

/-- What fits a geometry could be granted if the canvases for it could. -/
theorem Fits.granted_iff (hfits : canvases.Fits geometry) :
    canvases.Granted ↔ geometry.source.area * packedPixelBytes < grantLimit ∧
      geometry.output.area * packedPixelBytes < grantLimit := by
  unfold Granted
  rw [hfits.converted, hfits.resized]

end Canvases

namespace Pipeline

variable {pipeline after : Pipeline} {job : Job} {frame : Frame} {meanwhile : List Geometry.Change}
  {result : Except FrameError Outcome}

/-- The host grants nothing that is too large for words, and has not done so. -/
def Granted (pipeline : Pipeline) : Prop :=
  pipeline.scratch.limit ≤ grantLimit ∧
    ∀ canvases, pipeline.scratch.canvases = some canvases → canvases.Granted

/-- Canvases that were obtained could be granted. -/
theorem granted_of_obtained {geometry : Geometry} {canvases : Canvases} {scratch after : Scratch}
    (hobtained : scratch.Obtained geometry (.ok canvases) after) (hlimit : scratch.limit ≤ grantLimit)
    (hgranted : ∀ canvases, scratch.canvases = some canvases → canvases.Granted) :
    canvases.Granted := by
  cases hobtained with
  | atHand _ hcanvases => exact hgranted canvases hcanvases
  | renewed _ hrefusal =>
    obtain ⟨hsource, houtput⟩ := Scratch.lt_of_granted hrefusal
    exact (Scratch.fits_fresh geometry).granted_iff.2
      ⟨Nat.lt_of_lt_of_le hsource hlimit, Nat.lt_of_lt_of_le houtput hlimit⟩

/-- A frame leaves canvases that could be granted. -/
theorem granted_develop {canvases : Canvases} (hfits : canvases.Fits job.geometry)
    (hgranted : canvases.Granted) : (job.develop canvases).2.Granted :=
  (Job.develop_spec hfits).1.granted_iff.2 (hfits.granted_iff.1 hgranted)

/-- A frame that is performed leaves canvases that could be granted. -/
theorem Performed.granted (hperformed : Performed job pipeline result after)
    (hready : ∀ canvases, pipeline.scratch.canvases = some canvases → job.geometry.dirty = false →
      canvases.Fits job.geometry) (hgranted : pipeline.Granted) : after.Granted := by
  obtain ⟨hlimit, hcanvases⟩ := hgranted
  cases hperformed with
  | refused => exact ⟨hlimit, nofun⟩
  | skipped canvases kept scratch cause hobtained _ hdevelop =>
    have hkept := granted_develop (hobtained.fits hready)
      (granted_of_obtained hobtained hlimit hcanvases)
    rw [hdevelop] at hkept
    refine ⟨Nat.le_trans (Nat.le_of_eq hobtained.limit_eq) hlimit, ?_⟩
    rintro _ ⟨⟩
    exact hkept
  | rendered canvases kept scratch picture hobtained _ hdevelop =>
    have hkept := granted_develop (hobtained.fits hready)
      (granted_of_obtained hobtained hlimit hcanvases)
    rw [hdevelop] at hkept
    refine ⟨Nat.le_trans (Nat.le_of_eq hobtained.limit_eq) hlimit, ?_⟩
    rintro _ ⟨⟩
    exact hkept

/-- A frame leaves canvases that could be granted, whatever becomes of it. -/
theorem Fed.granted (hfed : Fed pipeline meanwhile frame result after) (hready : pipeline.Ready)
    (hgranted : pipeline.Granted) : after.Granted := by
  cases hfed with
  | halted => rw [changeAll_eq]; exact hgranted
  | notNegotiated => rw [changeAll_eq]; exact hgranted
  | admitted _ _ _ _ _ hperformed => exact hperformed.granted hready hgranted

/-- An act leaves canvases that could be granted, if the host goes on to grant nothing that is too large. -/
theorem Ready.granted_act (hready : pipeline.Ready) (hgranted : pipeline.Granted) {act : Act}
    (hsteady : ∀ limit, act = .tighten limit → limit ≤ grantLimit) : (pipeline.act act).Granted := by
  cases act with
  | negotiate description =>
    obtain ⟨format, geometry, hnegotiated⟩ := act_negotiate_rest description pipeline
    rw [hnegotiated]
    exact hgranted
  | restart => exact ⟨hgranted.1, nofun⟩
  | tighten limit => exact ⟨hsteady limit rfl, hgranted.2⟩
  | feed frame meanwhile => exact (hready.fed meanwhile frame).granted hready hgranted
  | _ => exact hgranted

/-- What a host could grant it has granted, after every run. -/
theorem Ready.granted_run (hready : pipeline.Ready) (hgranted : pipeline.Granted) {acts : List Act}
    (hsteady : ∀ limit, Act.tighten limit ∈ acts → limit ≤ grantLimit) :
    (pipeline.run acts).Granted :=
  hready.run_keeps hgranted fun _ hmem _ hlater hkept =>
    hlater.granted_act hkept fun limit htighten => hsteady limit (htighten ▸ hmem)

/-- Performing a frame faults in no case. -/
theorem perform_eq (hready : ∀ canvases, pipeline.scratch.canvases = some canvases →
      job.geometry.dirty = false → canvases.Fits job.geometry) (hgranted : pipeline.Granted) :
    Checked.perform job pipeline = .ok (pipeline.perform job) := by
  have hobtained := pipeline.scratch.obtained job.geometry
  unfold Checked.perform Pipeline.perform
  generalize pipeline.scratch.obtain job.geometry = obtained at hobtained ⊢
  rcases obtained with ⟨cause | canvases, scratch⟩
  · rfl
  · obtain ⟨hsource, houtput⟩ := (hobtained.fits hready).granted_iff.1
      (granted_of_obtained hobtained hgranted.1 hgranted.2)
    dsimp only
    rw [Checked.develop_eq hsource houtput, Checked.ok_bind]
    rcases job.develop canvases with ⟨cause | picture, kept⟩
    · dsimp only
      split
      · rfl
      · rfl
    · rfl

/-- Feeding a frame faults in no case. -/
theorem Ready.feedAmid_eq (hready : pipeline.Ready) (hgranted : pipeline.Granted)
    (meanwhile : List Geometry.Change) (frame : Frame) :
    Checked.feedAmid meanwhile frame pipeline = .ok (pipeline.feedAmid meanwhile frame) := by
  unfold Checked.feedAmid Pipeline.feedAmid Pipeline.accept
  cases hhalted : pipeline.halted with
  | true => rfl
  | false =>
    rw [if_neg (by decide)]
    cases hformat : pipeline.format with
    | none => rfl
    | some format =>
      dsimp only
      rw [changeAll_eq]
      exact perform_eq hready hgranted

/-- A pipeline of which nothing was asked has granted nothing that is too large. -/
theorem granted_initial {limit : Nat} (hlimit : limit ≤ grantLimit) (consumer : Consumer) :
    (initial limit consumer).Granted := ⟨hlimit, nofun⟩

/-- On a host that grants no canvas of 2^47 bytes or more, no frame faults, in any reachable state of a pipeline or a
memory sink: whatever sizes, angles and formats were asked for, whatever the payload of the frame and its header, and
whatever changes come in meanwhile, it comes to what the pipeline says. -/
theorem never_faults {limit : Nat} (hlimit : limit ≤ grantLimit) (consumer : Consumer) :
    (∀ acts, (∀ other, Act.tighten other ∈ acts → other ≤ grantLimit) → ∀ meanwhile frame,
      let pipeline := (initial limit consumer).run acts
      Checked.feedAmid meanwhile frame pipeline = .ok (pipeline.feedAmid meanwhile frame)) ∧
    ∀ request acts, (∀ other, Sink.Memory.Act.tighten other ∈ acts → other ≤ grantLimit) →
      ∀ meanwhile frame,
        let sink := (Sink.Memory.new limit request consumer).run acts
        Checked.feedAmid meanwhile frame sink.pipeline =
          .ok ((sink.renderAmid meanwhile frame).1, (sink.renderAmid meanwhile frame).2.pipeline) := by
  have hpipeline (acts : List Act) (hsteady : ∀ other, Act.tighten other ∈ acts → other ≤ grantLimit)
      (meanwhile : List Geometry.Change) (frame : Frame) :
      Checked.feedAmid meanwhile frame ((initial limit consumer).run acts) =
        .ok (((initial limit consumer).run acts).feedAmid meanwhile frame) :=
    (ready_run limit consumer acts).feedAmid_eq
      ((ready_initial limit consumer).granted_run (granted_initial hlimit consumer) hsteady)
      meanwhile frame
  refine ⟨hpipeline, fun request acts hsteady meanwhile frame => ?_⟩
  have hacts : ((Sink.Memory.new limit request consumer).run acts).pipeline =
      (initial limit consumer).run ([.change (.width request.size.width),
        .change (.height request.size.height), .change (.angle request.angle)] ++
          acts.flatMap Sink.Memory.Act.inner) := by
    rw [Sink.Memory.pipeline_run, Sink.Memory.pipeline_new]
    exact List.foldl_append.symm
  -- None of the requests that a sink starts with is a limit.
  have hlimits (other : Nat) (hmem : Act.tighten other ∈ ([.change (.width request.size.width),
      .change (.height request.size.height), .change (.angle request.angle)] : List Act) ++
        acts.flatMap Sink.Memory.Act.inner) : other ≤ grantLimit :=
    hsteady other (Sink.Memory.tighten_mem (by simpa using hmem))
  have hfed := hpipeline _ hlimits meanwhile frame
  rw [← hacts] at hfed
  exact hfed

/-- A planar frame of odd width is turned and resized, with a header that says something else of it. -/
theorem never_faults_odd :
    let sink := (Sink.Memory.new grantLimit ⟨⟨2, 3⟩, 90⟩ (.listener (fun _ => true) [])).run
      [.move .nullToReady, .negotiate ⟨PixelFormat.i420.code, ⟨3, 1⟩⟩]
    let frame : Frame := ⟨#[16, 126, 235, 90, 128, 240, 128], ⟨9, 9⟩, .rgba, 0⟩
    (sink.renderAmid [.mark] frame).1.toOption = some (.rendered true) ∧
      Checked.feedAmid [.mark] frame sink.pipeline =
        .ok ((sink.renderAmid [.mark] frame).1, (sink.renderAmid [.mark] frame).2.pipeline) := by
  refine ⟨by decide +kernel, ?_⟩
  exact (never_faults (Nat.le_refl _) _).2 _ _ (by simp) _ _

end Pipeline

end FramePath

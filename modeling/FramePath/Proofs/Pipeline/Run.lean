import FramePath.Proofs.Machine
import FramePath.Proofs.Pipeline.Steps

/-!
# Runs of a pipeline

`Pipeline.Act` is what can happen to a pipeline: a negotiation, a change of the geometry, another consumer, a
restart, another limit of the host, and a frame, with changes that come in while it is on its way. `Pipeline.run`
does any acts in any order, and `Pipeline.reply` is what each is answered.

The canvases are reused from frame to frame, so what a frame finds on them depends on all frames before.
`Pipeline.Ready` says what every run keeps of them: unless the geometry changed since they were made, they fit it
(`ready_run`).
-/

namespace FramePath

namespace Geometry

/-- A change that is made only where it is none yet leaves the geometry as it is or marks it. -/
theorem same_or_dirty {geometry changed : Geometry} (hchanged : changed.dirty = true) (made : Prop)
    [Decidable made] :
    (if made then geometry else changed) = geometry ∨
      (if made then geometry else changed).dirty = true := by
  by_cases hmade : made
  · exact .inl (if_pos hmade)
  · rw [if_neg hmade]
    exact .inr hchanged

/-- A change leaves the geometry as it is or marks it. -/
theorem apply_same_or_dirty (geometry : Geometry) (change : Change) :
    geometry.apply change = geometry ∨ (geometry.apply change).dirty = true := by
  cases change with
  | width value => exact same_or_dirty rfl (geometry.requested.width = value)
  | height value => exact same_or_dirty rfl (geometry.requested.height = value)
  | angle value => exact same_or_dirty rfl (geometry.angle = value)
  | source size => exact .inr rfl
  | mark => exact .inr rfl

/-- Several changes in order. -/
def applyAll (changes : List Change) (geometry : Geometry) : Geometry :=
  changes.foldl apply geometry

/-- Changes that leave no mark leave the geometry as it is. -/
theorem applyAll_clean {changes : List Change} {geometry : Geometry}
    (hclean : (geometry.applyAll changes).dirty = false) : geometry.applyAll changes = geometry := by
  induction changes generalizing geometry with
  | nil => rfl
  | cons change changes ih =>
    have hlater : (geometry.apply change).applyAll changes = geometry.apply change := ih hclean
    rcases geometry.apply_same_or_dirty change with hsame | hdirty
    · exact hlater.trans hsame
    · have hstill : (geometry.apply change).dirty = false :=
        (congrArg Geometry.dirty hlater).symm.trans hclean
      exact absurd (hdirty.symm.trans hstill) (by decide)

end Geometry

namespace Pipeline

variable {pipeline after : Pipeline} {job : Job} {frame : Frame} {acknowledged : Bool}

/-- What can happen to a pipeline. -/
inductive Act where
  | negotiate (description : StreamDescription)
  | change (change : Geometry.Change)
  | attach (consumer : Consumer)
  | restart
  /-- From now on the host refuses requests of this many bytes or more. -/
  | tighten (limit : Nat)
  /-- A frame, and the changes that come in after it was admitted and before it is done. -/
  | feed (frame : Frame) (meanwhile : List Geometry.Change)

/-- Make several changes in order. -/
def changeAll (changes : List Geometry.Change) (pipeline : Pipeline) : Pipeline :=
  changes.foldl (fun pipeline change => pipeline.change change) pipeline

/-- Take one frame through the pipeline while changes come in. -/
def feedAmid (meanwhile : List Geometry.Change) (frame : Frame) (pipeline : Pipeline) :
    Except FrameError Outcome × Pipeline :=
  match pipeline.accept frame with
  | .error cause => (.error cause, pipeline.changeAll meanwhile)
  | .ok (job, pipeline) => (pipeline.changeAll meanwhile).perform job

/-- A frame that no change meets is fed alone. -/
theorem feedAmid_nil (frame : Frame) (pipeline : Pipeline) :
    pipeline.feedAmid [] frame = pipeline.feed frame := by
  unfold feedAmid feed
  cases pipeline.accept frame <;> rfl

/-- Do one act; a negotiation that is refused leaves the pipeline as it is. -/
def act (pipeline : Pipeline) : Act → Pipeline
  | .negotiate description => (pipeline.negotiate description).toOption.getD pipeline
  | .change change => pipeline.change change
  | .attach consumer => pipeline.attach consumer
  | .restart => pipeline.restart
  | .tighten limit => { pipeline with scratch := { pipeline.scratch with limit } }
  | .feed frame meanwhile => (pipeline.feedAmid meanwhile frame).2

/-- What a pipeline says to an act. -/
inductive Reply where
  | silent
  | agreed (result : Except FrameError Unit)
  | fed (result : Except FrameError Outcome)

/-- The reply to an act. -/
def reply (pipeline : Pipeline) : Act → Reply
  | .negotiate description => .agreed ((pipeline.negotiate description).map fun _ => ())
  | .feed frame meanwhile => .fed (pipeline.feedAmid meanwhile frame).1
  | _ => .silent

/-- A pipeline acts and replies. -/
def machine : Machine Pipeline Act Reply := ⟨act, reply⟩

/-- The format that an act agrees on, if it is a negotiation that is accepted. -/
def Act.agreed? : Act → Option PixelFormat
  | .negotiate description => if description.size.isEmpty then none else description.format?
  | _ => none

/-- A negotiation sets format and source together, or is refused and changes nothing. -/
theorem act_negotiate (description : StreamDescription) (pipeline : Pipeline) :
    pipeline.act (.negotiate description) =
      match (Act.negotiate description).agreed? with
      | none => pipeline
      | some format =>
          { pipeline with
            format := some format
            geometry := pipeline.geometry.setSource description.size } := by
  show (pipeline.negotiate description).toOption.getD pipeline =
    match (if description.size.isEmpty then none else description.format?) with
    | none => pipeline
    | some format => _
  unfold Pipeline.negotiate
  cases description.size.isEmpty <;> cases description.format? <;> rfl

/-- A negotiation changes the format and the geometry at most. -/
theorem act_negotiate_rest (description : StreamDescription) (pipeline : Pipeline) :
    ∃ format geometry, pipeline.act (.negotiate description) =
      { pipeline with format, geometry } := by
  rw [act_negotiate]
  rcases (Act.negotiate description).agreed? with _ | format
  · exact ⟨_, _, rfl⟩
  · exact ⟨_, _, rfl⟩

/-- Do several acts in order. -/
def run (acts : List Act) (pipeline : Pipeline) : Pipeline := acts.foldl act pipeline

/-- Unless the geometry changed since the canvases were made, they fit it. -/
def Ready (pipeline : Pipeline) : Prop :=
  ∀ canvases, pipeline.scratch.canvases = some canvases → pipeline.geometry.dirty = false →
    canvases.Fits pipeline.geometry

/-- A change of the geometry keeps the canvases ready. -/
theorem Ready.change (hready : pipeline.Ready) (change : Geometry.Change) :
    (pipeline.change change).Ready := by
  intro canvases hcanvases hclean
  have hgeometry : (pipeline.change change).geometry = pipeline.geometry.apply change := rfl
  rw [hgeometry] at hclean ⊢
  rcases pipeline.geometry.apply_same_or_dirty change with hsame | hdirty
  · rw [hsame] at hclean ⊢
    exact hready canvases hcanvases hclean
  · rw [hdirty] at hclean
    cases hclean

/-- Several changes keep the canvases ready. -/
theorem Ready.changeAll (hready : pipeline.Ready) (changes : List Geometry.Change) :
    (pipeline.changeAll changes).Ready := by
  induction changes generalizing pipeline with
  | nil => exact hready
  | cons change changes ih => exact ih (hready.change change)

/-- Several changes leave the rest of the pipeline. -/
theorem changeAll_eq (changes : List Geometry.Change) (pipeline : Pipeline) :
    pipeline.changeAll changes =
      { pipeline with geometry := pipeline.geometry.applyAll changes } := by
  induction changes generalizing pipeline with
  | nil => rfl
  | cons change changes ih => exact ih (pipeline.change change)

/-- A performed frame leaves the geometry, and its canvases fit the snapshot it was performed by. -/
theorem Performed.canvases_fit {result : Except FrameError Outcome}
    (hperformed : Performed job pipeline result after)
    (hready : ∀ canvases, pipeline.scratch.canvases = some canvases → job.geometry.dirty = false →
      canvases.Fits job.geometry) :
    after.geometry = pipeline.geometry ∧
      (∀ canvases, after.scratch.canvases = some canvases → canvases.Fits job.geometry) ∧
      ∀ acknowledged, result = .ok (.rendered acknowledged) →
        ∃ turn, Turn.ofDegrees? job.geometry.angle = some turn ∧
          job.format.frameBytes job.geometry.source ≤ job.payload.size ∧
          (acknowledged, after.consumer) = pipeline.consumer.take
            (.ofFrame job.format job.geometry.source job.geometry.output turn job.payload) := by
  cases hperformed with
  | refused =>
    exact ⟨rfl, (fun _ hcanvases => by cases hcanvases), fun _ hrefused => by cases hrefused⟩
  | skipped canvases kept scratch cause hobtained _ hdevelop =>
    have hkept := (Job.develop_spec (hobtained.fits hready)).1
    rw [hdevelop] at hkept
    refine ⟨rfl, ?_, fun _ hskipped => by cases hskipped⟩
    rintro _ ⟨⟩
    exact hkept
  | rendered canvases kept scratch picture hobtained _ hdevelop =>
    obtain ⟨hkept, hpicture⟩ := Job.develop_spec (hobtained.fits hready)
    rw [hdevelop] at hkept hpicture
    obtain ⟨turn, hturn, henough, rfl⟩ := hpicture picture rfl
    refine ⟨rfl, ?_, ?_⟩
    · rintro _ ⟨⟩
      exact hkept
    · rintro _ ⟨⟩
      exact ⟨turn, hturn, henough, rfl⟩

/-- What a frame can come to, whatever changes come in while it is on its way: it is refused at the door, or performed
by the geometry as it was when the frame came. -/
inductive Fed (pipeline : Pipeline) (meanwhile : List Geometry.Change) (frame : Frame) :
    Except FrameError Outcome → Pipeline → Prop where
  | halted :
      pipeline.halted = true →
      Fed pipeline meanwhile frame (.error .halted) (pipeline.changeAll meanwhile)
  | notNegotiated :
      pipeline.halted = false → pipeline.format = none →
      Fed pipeline meanwhile frame (.error .notNegotiated) (pipeline.changeAll meanwhile)
  | admitted (format : PixelFormat) (result : Except FrameError Outcome) (after : Pipeline) :
      pipeline.halted = false → pipeline.format = some format →
      Performed ⟨format, pipeline.geometry, frame.payload⟩
        { pipeline with geometry := pipeline.geometry.settled.applyAll meanwhile } result after →
      Fed pipeline meanwhile frame result after

/-- Feeding a frame is one of the three, if the canvases are ready. -/
theorem Ready.fed (hready : pipeline.Ready) (meanwhile : List Geometry.Change) (frame : Frame) :
    Fed pipeline meanwhile frame (pipeline.feedAmid meanwhile frame).1
      (pipeline.feedAmid meanwhile frame).2 := by
  unfold Pipeline.feedAmid Pipeline.accept
  cases hhalted : pipeline.halted with
  | true => exact .halted hhalted
  | false =>
    rw [if_neg (by decide)]
    rcases hformat : pipeline.format with _ | format
    · exact .notNegotiated hhalted hformat
    · dsimp only
      rw [changeAll_eq]
      refine .admitted format _ _ hhalted hformat ?_
      rw [← hformat, ← hhalted]
      exact performed hready

/-- What a frame leaves, and what is handed over, whatever changes come in while it is on its way. -/
theorem Ready.feedAmid (hready : pipeline.Ready) (meanwhile : List Geometry.Change) (frame : Frame) :
    (pipeline.feedAmid meanwhile frame).2.Ready ∧
      ∀ acknowledged, (pipeline.feedAmid meanwhile frame).1 = .ok (.rendered acknowledged) →
        ∃ format turn, pipeline.format = some format ∧
          Turn.ofDegrees? pipeline.geometry.angle = some turn ∧
          format.frameBytes pipeline.geometry.source ≤ frame.payload.size ∧
          (acknowledged, (pipeline.feedAmid meanwhile frame).2.consumer) = pipeline.consumer.take
            (.ofFrame format pipeline.geometry.source pipeline.geometry.output turn
              frame.payload) := by
  have hfed := hready.fed meanwhile frame
  generalize pipeline.feedAmid meanwhile frame = fed at hfed ⊢
  obtain ⟨result, after⟩ := fed
  dsimp only at hfed ⊢
  cases hfed with
  | halted => exact ⟨hready.changeAll meanwhile, fun _ hrefused => by cases hrefused⟩
  | notNegotiated => exact ⟨hready.changeAll meanwhile, fun _ hrefused => by cases hrefused⟩
  | admitted format _ _ _ hformat hperformed =>
    obtain ⟨hgeometry, hkept, hpicture⟩ := hperformed.canvases_fit hready
    refine ⟨?_, ?_⟩
    · -- A mark left by then is of a change that came in meanwhile: the snapshot was taken up before.
      intro canvases hcanvases hclean
      rw [hgeometry] at hclean ⊢
      rw [Geometry.applyAll_clean hclean]
      exact (hkept canvases hcanvases).settled
    · intro acknowledged hrendered
      obtain ⟨turn, hturn, henough, htake⟩ := hpicture acknowledged hrendered
      exact ⟨format, turn, hformat, hturn, henough, htake⟩

/-- One act keeps the canvases ready. -/
theorem Ready.act (hready : pipeline.Ready) (act : Act) : (pipeline.act act).Ready := by
  cases act with
  | negotiate description =>
    rw [act_negotiate]
    rcases (Act.negotiate description).agreed? with _ | format
    · exact hready
    · -- A source that is set marks the geometry, so nothing is asked of the canvases.
      intro canvases _ hclean
      cases hclean
  | change change => exact hready.change change
  | attach consumer => exact hready
  | restart =>
    intro canvases hcanvases
    cases hcanvases
  | tighten limit => exact hready
  | feed frame meanwhile => exact (hready.feedAmid meanwhile frame).1

/-- A new pipeline has no canvases that could be unfit. -/
theorem ready_initial (limit : Nat) (consumer : Consumer) : (initial limit consumer).Ready := by
  intro canvases hcanvases
  cases hcanvases

/-- The canvases are ready after every run. -/
theorem Ready.run (hready : pipeline.Ready) (acts : List Act) : (pipeline.run acts).Ready := by
  induction acts generalizing pipeline with
  | nil => exact hready
  | cons act acts ih => exact ih (hready.act act)

/-- What every act keeps while the canvases are ready, every run keeps. -/
theorem Ready.run_keeps {motive : Pipeline → Prop} (hready : pipeline.Ready)
    (hkept : motive pipeline) {acts : List Act}
    (hact : ∀ act ∈ acts, ∀ pipeline : Pipeline, pipeline.Ready → motive pipeline →
      motive (pipeline.act act)) : motive (pipeline.run acts) := by
  induction acts generalizing pipeline with
  | nil => exact hkept
  | cons act acts ih =>
    refine ih (hready.act act) (hact act (List.mem_cons_self ..) pipeline hready hkept) ?_
    exact fun other hmem => hact other (List.mem_cons_of_mem _ hmem)

/-- The canvases are ready in every reachable state. -/
theorem ready_run (limit : Nat) (consumer : Consumer) (acts : List Act) :
    ((initial limit consumer).run acts).Ready :=
  (ready_initial limit consumer).run acts

end Pipeline

end FramePath

import FramePath.Proofs.Pipeline.Stages
import FramePath.Proofs.Scratch

/-!
# What performing a frame can come to

On canvases that fit, a performed frame is one of three things: refused because canvases are due and the host does
not grant them, skipped because it is unfit, or rendered (`Performed`, `performed`). What is said of performed frames
is proved by these cases.
-/

namespace FramePath

namespace Scratch

variable {scratch after : Scratch} {geometry : Geometry} {canvases : Canvases}

/-- Fresh canvases fit the geometry for which they are made. -/
theorem fits_fresh (geometry : Geometry) : (Canvases.fresh geometry).Fits geometry := by
  unfold Canvases.fresh
  by_cases hangle : geometry.angle = 0
  · simp only [if_pos hangle]
    refine ⟨Bytes.size_blank _, Bytes.size_blank _, fun _ => hangle, ?_, ?_⟩
    · intro canvas hcanvas
      cases hcanvas
    · intro canvas turn hcanvas
      cases hcanvas
  · simp only [if_neg hangle]
    refine ⟨Bytes.size_blank _, Bytes.size_blank _, ?_, ?_, ?_⟩
    · intro hnone
      cases hnone
    · rintro _ ⟨⟩
      exact ⟨hangle, Bytes.size_blank _⟩
    · rintro _ turn ⟨⟩ _ slot k _ _ _
      exact Bytes.byteAt_blank _ _

/-- Canvases that fit a geometry unless it changed are replaced when it did, so a frame's canvases fit. -/
theorem Obtained.fits (hobtained : scratch.Obtained geometry (.ok canvases) after)
    (hready : ∀ canvases, scratch.canvases = some canvases → geometry.dirty = false →
      canvases.Fits geometry) : canvases.Fits geometry := by
  cases hobtained with
  | atHand _ hcanvases hclean => exact hready canvases hcanvases hclean
  | renewed => exact fits_fresh geometry

end Scratch

namespace Pipeline

variable {pipeline : Pipeline} {job : Job}

/-- What performing a frame can come to. -/
inductive Performed (job : Job) (pipeline : Pipeline) :
    Except FrameError Outcome → Pipeline → Prop where
  | refused (canvas : CanvasName) (bytes : Nat) :
      (job.geometry.dirty || !pipeline.scratch.isAllocated) = true →
      Scratch.refusal? pipeline.scratch.limit job.geometry = some (canvas, bytes) →
      Performed job pipeline (.error (.allocationFailed canvas bytes))
        { pipeline with scratch := pipeline.scratch.release, halted := true }
  | skipped (canvases kept scratch cause) :
      pipeline.scratch.Obtained job.geometry (.ok canvases) scratch → job.Unfit →
      job.develop canvases = (.error cause, kept) →
      Performed job pipeline (.ok .skipped)
        { pipeline with scratch := scratch.keep kept, tally := pipeline.tally.countSkipped }
  | rendered (canvases kept scratch picture) :
      pipeline.scratch.Obtained job.geometry (.ok canvases) scratch → ¬ job.Unfit →
      job.develop canvases = (.ok picture, kept) →
      Performed job pipeline (.ok (.rendered (pipeline.consumer.take picture).1))
        { pipeline with
          scratch := scratch.keep kept
          consumer := (pipeline.consumer.take picture).2
          tally := pipeline.tally.countRendered (pipeline.consumer.take picture).1 }

/-- Performing a frame is one of the three, if canvases that are not due fit. -/
theorem performed
    (hready : ∀ canvases, pipeline.scratch.canvases = some canvases → job.geometry.dirty = false →
      canvases.Fits job.geometry) :
    Performed job pipeline (pipeline.perform job).1 (pipeline.perform job).2 := by
  have hobtained := pipeline.scratch.obtained job.geometry
  unfold Pipeline.perform
  rcases hobtain : pipeline.scratch.obtain job.geometry with ⟨cause | canvases, scratch⟩
  · rw [hobtain] at hobtained
    cases hobtained with
    | refused canvas bytes hdue hrefusal => exact .refused canvas bytes hdue hrefusal
  · rw [hobtain] at hobtained
    have hfits := hobtained.fits hready
    dsimp only at hobtained ⊢
    rcases hdevelop : job.develop canvases with ⟨cause | picture, kept⟩
    · -- Only a frame that is unfit is refused by a stage, and no stage refuses fatally.
      by_cases hunfit : job.Unfit
      · obtain ⟨_, hcause, hmild⟩ := Job.develop_of_unfit hfits hunfit
        rw [hdevelop] at hcause
        cases hcause
        dsimp only
        rw [hmild, if_neg (by decide)]
        exact .skipped canvases kept scratch cause hobtained hunfit hdevelop
      · obtain ⟨_, hpicture⟩ := Job.develop_of_fit hfits hunfit
        rw [hdevelop] at hpicture
        cases hpicture
    · by_cases hunfit : job.Unfit
      · obtain ⟨_, hcause, _⟩ := Job.develop_of_unfit hfits hunfit
        rw [hdevelop] at hcause
        cases hcause
      · exact .rendered canvases kept scratch picture hobtained hunfit hdevelop

end Pipeline

end FramePath

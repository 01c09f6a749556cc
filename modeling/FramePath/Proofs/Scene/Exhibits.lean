import FramePath.Proofs.Scene.Panels

/-!
# What a surface is expected to show

A surface that is bound to one presenter shows what it is sent, one envelope after another. What it does with an
envelope depends on its pane alone, which is what it is and the bytes of its pixel buffer: the first frame gives the
pixel buffer a size if it has none; a surface whose backend lets frames be copied has as much of a frame as there is
room for copied over the start of its backing buffer, if it gives that out, and shows nothing if it does not; any
other is lent the frame. `Pane.performance` is what comes of a whole script that way. An `Exhibit` is the pane of a
surface with the signs that it has shown, and `Exhibit.play` lets it go on with a script.
-/

namespace FramePath

/-- A frame that a surface shows, or a visibility that it is told. Where a frame was copied, the surface shows what its
backing buffer holds then. -/
inductive Sign where
  | lent (frame : SharedFrame)
  | copied (frame : SharedFrame) (backing : Bytes)
  | visible (visible : Bool)
  deriving DecidableEq, Repr

/-- A panel with the bytes of its backing buffer. -/
structure Pane where
  panel : Panel
  backing : Bytes
  deriving DecidableEq, Repr

namespace Pane

/-- Whether frames are copied to the surface when it is bound. -/
def isZeroCopy (pane : Pane) : Bool := Backend.supportsZeroCopy pane.panel.profile.backend

/-- The pixel buffer has a size, and a zeroed backing buffer for it. -/
def sized (size : Size) (pane : Pane) : Pane := ⟨pane.panel.sized size, Surface.backingFor size⟩

/-- As much of a frame as there is room for is copied over the start of the backing buffer. -/
def copied (frame : SharedFrame) (pane : Pane) : Pane :=
  let payload := frame.frame.payload
  { pane with backing := pane.backing.overlay payload (min pane.backing.size payload.size) }

/-- The pane when an envelope has come to the surface. The first frame gives the pixel buffer its size. -/
def receive (envelope : Envelope) (pane : Pane) : Pane :=
  match envelope with
  | .frame shared _ => if pane.panel.bufferSize.isSome then pane else pane.sized shared.frame.size
  | .visibility _ => pane

/-- What the surface shows of an envelope. -/
def answer (envelope : Envelope) (pane : Pane) : List Sign :=
  match envelope with
  | .visibility visible => [.visible visible]
  | .frame frame _ =>
    if pane.isZeroCopy then
      if pane.panel.isWritable then [.copied frame (pane.copied frame).backing] else []
    else [.lent frame]

/-- The pane when the surface has shown an envelope. -/
def keep (envelope : Envelope) (pane : Pane) : Pane :=
  match envelope with
  | .visibility _ => pane
  | .frame frame _ => if pane.isZeroCopy && pane.panel.isWritable then pane.copied frame else pane

/-- What the surface shows of a script, one envelope after another. -/
def performance (pane : Pane) : List Envelope → List Sign
  | [] => []
  | envelope :: script =>
      let pane := pane.receive envelope
      pane.answer envelope ++ (pane.keep envelope).performance script

/-- An envelope leaves what the surface is. -/
theorem profile_receive (envelope : Envelope) (pane : Pane) :
    (pane.receive envelope).panel.profile = pane.panel.profile := by
  cases envelope with
  | visibility => rfl
  | frame shared epoch =>
    simp only [receive]
    split <;> rfl

/-- What it shows leaves its panel. -/
theorem panel_keep (envelope : Envelope) (pane : Pane) : (pane.keep envelope).panel = pane.panel := by
  cases envelope with
  | visibility => rfl
  | frame shared epoch =>
    simp only [keep]
    split <;> rfl

/-- A pixel buffer that has a size keeps it. -/
theorem receive_of_sized {pane : Pane} (hsized : pane.panel.bufferSize.isSome = true)
    (envelope : Envelope) : pane.receive envelope = pane := by
  cases envelope with
  | visibility => rfl
  | frame shared epoch => simp [receive, hsized]

/-- To give a pixel buffer its size ahead of its first frame makes no difference. -/
theorem receive_sized {pane : Pane} (hnone : pane.panel.bufferSize = none) (shared : SharedFrame)
    (epoch : Nat) :
    (pane.sized shared.frame.size).receive (.frame shared epoch) =
      pane.receive (.frame shared epoch) := by
  simp [receive, sized, Panel.sized, hnone]

end Pane

/-- The pane of a surface, and what it has shown so far. -/
structure Exhibit where
  pane : Pane
  signs : List Sign
  deriving DecidableEq, Repr

namespace Exhibit

/-- The surface shows some more. -/
def extend (signs : List Sign) (exhibit : Exhibit) : Exhibit :=
  { exhibit with signs := exhibit.signs ++ signs }

/-- The pixel buffer gets a size. -/
def sized (size : Size) (exhibit : Exhibit) : Exhibit :=
  { exhibit with pane := exhibit.pane.sized size }

/-- A frame is copied, and shown. -/
def copied (frame : SharedFrame) (exhibit : Exhibit) : Exhibit :=
  let pane := exhibit.pane.copied frame
  ⟨pane, exhibit.signs ++ [.copied frame pane.backing]⟩

/-- An envelope comes to the surface. -/
def receive (exhibit : Exhibit) (envelope : Envelope) : Exhibit :=
  let pane := exhibit.pane.receive envelope
  ⟨pane.keep envelope, exhibit.signs ++ pane.answer envelope⟩

/-- A script comes to the surface, one envelope after another. -/
def play (script : List Envelope) (exhibit : Exhibit) : Exhibit := script.foldl receive exhibit

/-- A script in two parts. -/
theorem play_append (first second : List Envelope) (exhibit : Exhibit) :
    exhibit.play (first ++ second) = (exhibit.play first).play second :=
  List.foldl_append

/-- Once the pixel buffer has a size, a frame brings no more than what the surface shows of it. -/
theorem play_frame {exhibit : Exhibit} (hsized : exhibit.pane.panel.bufferSize.isSome = true)
    (frame : SharedFrame) (epoch : Nat) :
    exhibit.play [.frame frame epoch] =
      ⟨exhibit.pane.keep (.frame frame epoch), exhibit.signs ++ exhibit.pane.answer (.frame frame epoch)⟩ := by
  simp [play, receive, Pane.receive_of_sized hsized]

/-- Before its first frame a surface may be given the size for it. -/
theorem play_sized {exhibit : Exhibit} (hnone : exhibit.pane.panel.bufferSize = none)
    (shared : SharedFrame) (epoch : Nat) :
    (exhibit.sized shared.frame.size).play [.frame shared epoch] =
      exhibit.play [.frame shared epoch] := by
  simp [play, receive, sized, Pane.receive_sized hnone]

/-- A script is performed after what was shown before. -/
theorem signs_play (script : List Envelope) (exhibit : Exhibit) :
    (exhibit.play script).signs = exhibit.signs ++ exhibit.pane.performance script := by
  induction script generalizing exhibit with
  | nil => exact (List.append_nil _).symm
  | cons envelope script ih =>
    rw [play, List.foldl_cons]
    refine (ih (exhibit.receive envelope)).trans ?_
    simp only [receive, Pane.performance, List.append_assoc]

/-- No script changes what the surface is. -/
theorem profile_play (script : List Envelope) (exhibit : Exhibit) :
    (exhibit.play script).pane.panel.profile = exhibit.pane.panel.profile := by
  induction script generalizing exhibit with
  | nil => rfl
  | cons envelope script ih =>
    refine (ih (exhibit.receive envelope)).trans ?_
    simp only [receive, Pane.panel_keep, Pane.profile_receive]

end Exhibit

/-- What a call makes a surface show. -/
def SurfaceCall.sign? : SurfaceCall → Option Sign
  | lend frame => some (.lent frame)
  | write frame backing => some (.copied frame backing)
  | visible asked => some (.visible asked)
  | _ => none

namespace Surface

/-- What a surface has shown, the oldest first. -/
def signs (surface : Surface) : List Sign := surface.log.reverse.filterMap SurfaceCall.sign?

/-- The pane of a surface. -/
def pane (surface : Surface) : Pane := ⟨surface.panel, surface.backing⟩

/-- The exhibit of a surface. -/
def exhibit (surface : Surface) : Exhibit := ⟨surface.pane, surface.signs⟩

/-- What a surface has shown is read off its log. -/
theorem aloof_signs : Aloof signs := by
  refine aloof_read fun {call} hroutine => ?_
  cases call with
  | lend => cases hroutine
  | write => cases hroutine
  | visible => cases hroutine
  | _ => rfl

/-- A call that is written down may be a sign, and changes nothing else that is seen. -/
theorem exhibit_record (call : SurfaceCall) (surface : Surface) :
    (surface.record call).exhibit = surface.exhibit.extend call.sign?.toList := by
  unfold exhibit pane signs
  rw [panel_record, read_record]
  rfl

/-- To the exhibit it is no matter who listens, or what is written down aside from pixels and visibility. -/
theorem inward_exhibit : Inward exhibit where
  hint surface := by simp [exhibit_record, SurfaceCall.sign?, Exhibit.extend]
  fill rect surface := by simp [exhibit_record, SurfaceCall.sign?, Exhibit.extend]
  connect owner epoch surface := by
    unfold exhibit pane
    rw [inward_panel.connect, aloof_signs.inward.connect]
    rfl
  disconnect id surface := by
    unfold exhibit pane
    rw [inward_panel.disconnect, aloof_signs.inward.disconnect]
    rfl
  forget surface := by
    unfold forget
    split <;> rfl

/-- A frame that is copied is shown with all that the backing buffer holds then. -/
theorem exhibit_copyIn (frame : SharedFrame) (surface : Surface) :
    (surface.copyIn frame).exhibit = surface.exhibit.copied frame := by
  have hsigns : (surface.copyIn frame).signs =
      surface.signs ++ [.copied frame (surface.pane.copied frame).backing] :=
    read_record SurfaceCall.sign? (.write frame _) _
  unfold exhibit pane
  rw [panel_copyIn, hsigns]
  rfl

/-- A size for the pixel buffer is no sign. -/
theorem exhibit_allocate (size : Size) (surface : Surface) :
    (surface.allocate size).exhibit = surface.exhibit.sized size := by
  unfold exhibit pane
  rw [panel_allocate]
  rfl

end Surface

namespace Scene

/-- The exhibit at a place. -/
def exhibit? (surface : Nat) (scene : Scene) : Option Exhibit :=
  scene.surfaces[surface]?.map Surface.exhibit

/-- What the surface at a place has shown. -/
def signs (surface : Nat) (scene : Scene) : List Sign :=
  (scene.surfaces[surface]?.map Surface.signs).getD []

variable {scene after : Scene} {surface : Nat} {exhibit : Exhibit}

/-- Exhibits are a view of the surfaces. -/
theorem exhibit_view (surface : Nat) (scene : Scene) :
    scene.exhibit? surface = (scene.view Surface.exhibit)[surface]? :=
  (List.getElem?_map ..).symm

/-- An exhibit has the signs of its surface. -/
theorem signs_of_exhibit (hexhibit : scene.exhibit? surface = some exhibit) :
    scene.signs surface = exhibit.signs := by
  obtain ⟨found, hfound, rfl⟩ := Option.map_eq_some_iff.1 hexhibit
  unfold signs
  rw [hfound]
  rfl

/-- An exhibit has the pixel buffer of its surface. -/
theorem bufferSize_of_exhibit (hexhibit : scene.exhibit? surface = some exhibit) :
    scene.bufferSize? surface = exhibit.pane.panel.bufferSize := by
  obtain ⟨found, hfound, rfl⟩ := Option.map_eq_some_iff.1 hexhibit
  unfold bufferSize?
  rw [hfound]
  rfl

/-- An exhibit is that of a surface which is there, and can be written to if the surface can. -/
theorem found_of_exhibit (hexhibit : scene.exhibit? surface = some exhibit) :
    ∃ found, scene.surfaces[surface]? = some found ∧ found.isWritable = exhibit.pane.panel.isWritable := by
  obtain ⟨found, hfound, rfl⟩ := Option.map_eq_some_iff.1 hexhibit
  exact ⟨found, hfound, found.isWritable_panel⟩

/-- Where the view of the exhibits is the same, so is each of them. -/
theorem exhibit_congr (hview : after.view Surface.exhibit = scene.view Surface.exhibit) (surface : Nat) :
    after.exhibit? surface = scene.exhibit? surface := by
  rw [exhibit_view, exhibit_view, hview]

/-- What one change does to the view of its surface, it does to the exhibit at that place. -/
theorem exhibit_changed {seen : Exhibit → Exhibit}
    (hview : after.view Surface.exhibit = (scene.view Surface.exhibit).modify surface seen)
    (hexhibit : scene.exhibit? surface = some exhibit) :
    after.exhibit? surface = some (seen exhibit) := by
  rw [exhibit_view] at hexhibit ⊢
  rw [hview, List.getElem?_modify_eq, hexhibit]
  rfl

/-- A surface that writes a call down shows it if it is a sign. -/
theorem exhibit_recorded (call : SurfaceCall) (hexhibit : scene.exhibit? surface = some exhibit) :
    (scene.record surface call).exhibit? surface = some (exhibit.extend call.sign?.toList) :=
  exhibit_changed (view_changeSurface (Surface.exhibit_record call) surface scene) hexhibit

/-- A frame that is copied is shown. -/
theorem exhibit_copied (frame : SharedFrame) (hexhibit : scene.exhibit? surface = some exhibit) :
    (scene.changeSurface surface (.copyIn frame)).exhibit? surface = some (exhibit.copied frame) :=
  exhibit_changed (view_changeSurface (Surface.exhibit_copyIn frame) surface scene) hexhibit

/-- A pixel buffer that gets a size has it. -/
theorem exhibit_sized (size : Size) (hexhibit : scene.exhibit? surface = some exhibit) :
    (scene.allocate surface size).exhibit? surface = some (exhibit.sized size) := by
  refine exhibit_changed (view_allocate_seen (fun rect surface => ?_) (Surface.exhibit_allocate size)
    surface scene) hexhibit
  rw [Surface.exhibit_record]
  simp [Exhibit.extend, SurfaceCall.sign?]

end Scene

end FramePath

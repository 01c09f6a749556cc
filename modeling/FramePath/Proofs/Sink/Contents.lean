import FramePath.Proofs.Desk.Exposure
import FramePath.Proofs.Sink.Agreement

/-!
# What is on a surface to which frames are copied

The frames that were counted as rendered on a surface account for all that is on it, byte by byte, and for the calls
that went with them. Frames that a display sink has agreed to are as long as their size needs, so where all are of the
size of the pixel buffer nothing is left of any but the last: see `contents_as_rendered`.
-/

namespace FramePath

namespace Sink

/-- The acts at the desk of a display sink, from the making of the sink. -/
def Station.history (surfaces : List Surface) (setup : DisplaySetup) (acts : List Station.Act) : List Desk.Act :=
  Station.opening setup ++ (Station.opened surfaces setup).program acts

namespace Logbook

/-- The desk of a noted sink is that of a presenter with this history. -/
theorem desk_history (surfaces : List Surface) (setup : DisplaySetup) (acts : List Station.Act) :
    ((opened surfaces setup).run acts).station.desk =
      (Desk.opened surfaces setup.id).run (Station.history surfaces setup acts) := by
  unfold Station.history
  rw [station_run, Station.desk_program, Desk.run_append, ← Station.desk_opened]
  rfl

/-- A frame of a given size that was queued fills a plate of this size, and there is something to fill. -/
theorem Faithful.covers {id : Nat} {logbook : Logbook} (hfaithful : logbook.Faithful id) {submission : Submission}
    {description : StreamDescription} (hqueued : submission ∈ logbook.queued)
    (hagreed : submission.agreed = some description) :
    0 < description.size.area * packedPixelBytes ∧
      description.size.area * packedPixelBytes ≤ submission.frame.frame.payload.size := by
  obtain ⟨found, hfound, hsuits⟩ := hfaithful.suits submission hqueued
  cases hfound.symm.trans hagreed
  rw [← hsuits.size]
  have hwidth : 0 < submission.frame.frame.size.columns :=
    Nat.pos_of_ne_zero fun hzero => hsuits.width (UInt32.toNat_inj.1 hzero)
  have hheight : 0 < submission.frame.frame.size.rows :=
    Nat.pos_of_ne_zero fun hzero => hsuits.height (UInt32.toNat_inj.1 hzero)
  exact ⟨Nat.mul_pos (Nat.mul_pos hwidth hheight) (by decide), hsuits.payload⟩

/-- As long as no consumer fails, the plate of a surface to which frames are copied is, whenever the consumer has
nothing to do, what the frames that were counted as rendered on the surface leave on it, each over those before it,
after its pixel buffer got its size: every frame that found a backing buffer was written over the start of it once,
and then the surface was told once to show it anew; of a frame that found none the surface was told nothing. So each
byte of a backing buffer that is given out is that of the last of these frames that has one there, or has stayed. If a
display sink gave the pixel buffer its size, and all frames counted on the surface were queued while a stream of this
size was agreed on, then the backing buffer is the beginning of the last of them. -/
theorem contents_as_rendered (surfaces : List Surface) :
    (∀ (id : Nat) (acts : List Desk.Act),
      let desk := (Desk.opened surfaces id).run acts
      let measures := Measures.keeper.onRun surfaces id acts
      (Desk.opened surfaces id).Unfailing acts → desk.presenter.mailbox.isIdle = true →
      ∀ place surface, desk.scene.surfaces[place]? = some surface →
        Backend.supportsZeroCopy surface.profile.backend = true →
        ∃ start, surfaces[place]? = some start ∧
          let ground := measures.ground place start.plate
          surface.plate = (measures.framesOn place).foldl Plate.take ground ∧
          (ground.isWritable = true → ∀ offset < ground.backing.size,
            surface.backing.byteAt offset =
              ((Plate.reaching? offset (measures.framesOn place)).map (·.frame.payload.byteAt offset)).getD
                (ground.backing.byteAt offset))) ∧
    (∀ (setup : DisplaySetup) (acts : List Station.Act),
      let history := Station.history surfaces setup acts
      let logbook := (opened surfaces setup).run acts
      let measures := Measures.keeper.onRun surfaces setup.id history
      (Desk.opened surfaces setup.id).Unfailing history →
      logbook.station.desk.presenter.mailbox.isIdle = true →
      ∀ place surface size last, logbook.station.scene.surfaces[place]? = some surface →
        Backend.supportsZeroCopy surface.profile.backend = true → surface.profile.withholdsBacking = false →
        measures.sizes place = [size] →
        (∀ frame ∈ measures.framesOn place, ∃ submission ∈ logbook.queued, submission.frame = frame ∧
          ∃ description, submission.agreed = some description ∧ description.size = size) →
        (measures.framesOn place).getLast? = some last →
        surface.backing.size = size.area * packedPixelBytes ∧
          surface.backing = last.frame.payload.extract 0 (size.area * packedPixelBytes)) := by
  constructor
  · intro id acts desk measures hunfailing hidle place surface hfound hcopies
    obtain ⟨start, hstart, hplate⟩ := (Desk.exposed_run hunfailing).at_rest hidle hfound hcopies
    refine ⟨start, hstart, hplate, fun hwritable offset hoffset => ?_⟩
    rw [show surface.backing = _ from congrArg Plate.backing hplate]
    exact Plate.byteAt_foldl hwritable _ hoffset
  · intro setup acts history logbook measures hunfailing hidle place surface size last hfound hcopies hgiven hsizes
      haccepted hlast
    have hfaithful := faithful_run surfaces setup acts
    have hdesk : logbook.station.desk = (Desk.opened surfaces setup.id).run history :=
      desk_history surfaces setup acts
    rw [hdesk] at hidle
    rw [show logbook.station.scene = _ from congrArg Desk.scene hdesk] at hfound
    obtain ⟨submission, hqueued, rfl, description, hagreed, rfl⟩ := haccepted last (List.mem_of_getLast? hlast)
    obtain ⟨hpixels, hcovers⟩ := hfaithful.covers hqueued hagreed
    exact (Desk.exposed_run hunfailing).covered hidle hfound hcopies hgiven hsizes hlast hpixels hcovers

/-- A surface to which frames are copied. -/
def copiedSurface : Surface := .new ⟨"buffer", true, false, false, false, none⟩ none

/-- A frame with one pixel. -/
def pixelFrame (mark : Nat) (payload : Bytes) : SharedFrame := ⟨mark, ⟨payload, ⟨1, 1⟩, .rgba, 0⟩⟩

/-- Two frames come to a surface, of which the second is too short. -/
def shortSecond : List Desk.Act :=
  [.setState .paused, .bind 0, .submit (pixelFrame 1 #[1, 2, 3, 4, 5]), .submit (pixelFrame 2 #[9, 8])] ++
    List.replicate 12 .advance

/-- Two frames that a display sink has agreed to come to a surface, both longer than they need be. -/
def longBoth : List Station.Act :=
  [.negotiate ⟨PixelFormat.rgba.code, ⟨1, 1⟩⟩, .move .nullToReady, .move .readyToPaused, .setSurface (some 0),
    .render (pixelFrame 1 #[1, 2, 3, 4, 5]), .render (pixelFrame 2 #[6, 7, 8, 9, 10, 11])] ++
    List.replicate 12 .advance

theorem contents_as_rendered_twice :
    let desk := (Desk.opened [copiedSurface] 0).run shortSecond
    let sink := (opened [copiedSurface] .default).run longBoth
    desk.scene.plates = [⟨false, #[9, 8, 3, 4],
      [.write (pixelFrame 1 #[1, 2, 3, 4, 5]) #[1, 2, 3, 4], .dirty,
        .write (pixelFrame 2 #[9, 8]) #[9, 8, 3, 4], .dirty]⟩] ∧
      (∀ surface ∈ desk.scene.surfaces, surface.backing.byteAt 1 = 8 ∧ surface.backing.byteAt 2 = 3) ∧
      sink.station.scene.surfaces.map Surface.backing = [#[6, 7, 8, 9]] := by
  obtain ⟨hdesk, hsink⟩ := contents_as_rendered [copiedSurface]
  have hall : ((Desk.opened [copiedSurface] 0).run shortSecond).scene.surfaces.map Surface.profile =
      [copiedSurface.profile] := by decide +kernel
  obtain ⟨surface, hsurfaces, hprofile⟩ := List.map_eq_singleton_iff.1 hall
  obtain ⟨start, hstart, hplate, hbytes⟩ := hdesk 0 shortSecond (by decide +kernel) (by decide +kernel) 0 surface
    (by rw [hsurfaces]; rfl) (by rw [hprofile]; decide)
  cases hstart
  refine ⟨?_, ?_, ?_⟩
  · unfold Scene.plates Scene.view
    rw [hsurfaces, List.map_singleton, hplate]
    decide +kernel
  · intro found hfound
    rw [hsurfaces] at hfound
    cases List.mem_singleton.1 hfound
    rw [hbytes (by decide +kernel) 1 (by decide +kernel), hbytes (by decide +kernel) 2 (by decide +kernel)]
    decide +kernel
  · have hall : ((opened [copiedSurface] .default).run longBoth).station.scene.surfaces.map Surface.profile =
        [copiedSurface.profile] := by decide +kernel
    obtain ⟨surface, hsurfaces, hprofile⟩ := List.map_eq_singleton_iff.1 hall
    have haccepted : ∀ frame ∈ [pixelFrame 1 #[1, 2, 3, 4, 5], pixelFrame 2 #[6, 7, 8, 9, 10, 11]],
        ∃ submission ∈ ((opened [copiedSurface] .default).run longBoth).queued, submission.frame = frame ∧
          ∃ description, submission.agreed = some description ∧ description.size = ⟨1, 1⟩ := by
      intro frame hframe
      simp only [List.mem_cons, List.not_mem_nil, or_false] at hframe
      rcases hframe with rfl | rfl
      · exact ⟨⟨_, some ⟨PixelFormat.rgba.code, ⟨1, 1⟩⟩⟩, .head _, rfl, _, rfl, rfl⟩
      · exact ⟨⟨_, some ⟨PixelFormat.rgba.code, ⟨1, 1⟩⟩⟩, .tail _ (.head _), rfl, _, rfl, rfl⟩
    have hframes : (Measures.keeper.onRun [copiedSurface] DisplaySetup.default.id
        (Station.history [copiedSurface] .default longBoth)).framesOn 0 =
        [pixelFrame 1 #[1, 2, 3, 4, 5], pixelFrame 2 #[6, 7, 8, 9, 10, 11]] := by decide +kernel
    have hbacking := (hsink .default longBoth (by decide +kernel) (by decide +kernel) 0 surface ⟨1, 1⟩
      (pixelFrame 2 #[6, 7, 8, 9, 10, 11]) (by rw [hsurfaces]; rfl) (by rw [hprofile]; decide)
      (by rw [hprofile]; rfl) (by decide +kernel) (by rw [hframes]; exact haccepted) (by rw [hframes]; rfl)).2
    rw [hsurfaces, List.map_singleton, hbacking]
    decide +kernel

end Logbook

end Sink

end FramePath

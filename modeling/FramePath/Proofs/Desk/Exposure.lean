import FramePath.Proofs.Desk.Loans
import FramePath.Proofs.Desk.Placing
import FramePath.Proofs.Desk.Programme
import FramePath.Proofs.Scene.Plates

/-!
# What copied frames leave

A frame that is copied is written over the plate of its surface with one step of the consumer and counted as rendered
with the next; without a backing buffer it is counted at once. `Desk.copied` is the frame in between, and the frames
counted and this one are those that were brought to the plate (`Backstage.Resumed.balanced`). `Exposed` says for a run
that a plate is what these frames leave on it, in order, after the pixel buffer got its size: no frame is brought to a
surface before.
-/

namespace FramePath

open Renderer (Call Job)

/-- For each surface, whether its backend has frames copied to it. -/
def Scene.manners (scene : Scene) : List Bool := scene.view fun surface => surface.pane.isZeroCopy

/-- Where the panels are the same, so are the manners. -/
theorem Scene.manners_congr {scene after : Scene} (hpanels : after.panels = scene.panels) :
    after.manners = scene.manners := by
  have hmanners : ∀ scene : Scene, scene.manners =
      scene.panels.map fun panel => Backend.supportsZeroCopy panel.profile.backend := by
    intro scene
    simp [manners, panels, view, Function.comp_def, Pane.isZeroCopy, Surface.pane]
  rw [hmanners, hpanels, ← hmanners]

/-- The frame that a call has copied and that is not counted yet. -/
def Renderer.Call.copied : Call → List Showing
  | .marking job => [⟨job.frame, job.bond⟩]
  | _ => []

namespace Backstage

/-- The frame that a call brings to a plate when it goes on. -/
def pressed (call : Call) (progress : Progress Call) : List Showing :=
  match call, progress with
  | .writing _, .failed => []
  | .writing job, _ => [⟨job.frame, job.bond⟩]
  | _, _ => []

/-- The frame that is counted as rendered when a call returns. -/
def counted (call : Call) (progress : Progress Call) : List Showing :=
  match call, progress with
  | .writing job, .returned | .marking job, .returned | .lending job, .returned => [⟨job.frame, job.bond⟩]
  | _, _ => []

/-- The frame that is copied and not counted when a call has gone on. -/
def copiedBy : Progress Call → List Showing
  | .waiting next => next.copied
  | .returned | .failed => []

variable {call next : Call} {stage after : Backstage} {progress : Progress Call} {place : Nat}

/-- A frame is counted as rendered as the renderer's count says. -/
theorem Resumed.tally_rendered (hresumed : Resumed call stage progress after) :
    after.renderer.tally.rendered = stage.renderer.tally.rendered + (counted call progress).length := by
  cases hresumed with
  | failed call => cases call <;> rfl
  | _ => rfl

/-- A frame that is brought to a plate is counted as rendered, at once or with the next step, and no other is but one
that is lent. -/
theorem Resumed.balanced (hresumed : Resumed call stage progress after) (hgoing : progress ≠ .failed)
    (hlent : ∀ {job}, call = .lending job → job.surface ≠ place) :
    Showing.at place call.copied ++ Showing.at place (pressed call progress) =
      Showing.at place (counted call progress) ++ Showing.at place (copiedBy progress) := by
  cases hresumed with
  | lent job => simp [counted, copiedBy, pressed, Call.copied, Showing.at, Job.bond, hlent rfl]
  | withheld job => exact (List.append_nil _).symm
  | failed => exact absurd rfl hgoing
  | _ => rfl

/-- A step that gives no pixel buffer a size brings its frame, if any, to the plate of its surface. -/
theorem Resumed.plate (hresumed : Resumed call stage progress after) (hother : ∀ {job}, call ≠ .sizing job) :
    after.scene.plates[place]? =
      stage.scene.plates[place]?.map ((Showing.at place (pressed call progress)).foldl Plate.take) := by
  have hstill : ∀ {plates : List Plate}, plates[place]? = plates[place]?.map ([].foldl Plate.take) :=
    fun {plates} => Option.map_id_apply.symm
  rw [hresumed.plates]
  generalize stage.scene.plates = plates
  have hpressed : ∀ job : Job, (plates.modify job.surface (.take · job.frame))[place]? =
      plates[place]?.map ((Showing.at place [⟨job.frame, job.bond⟩]).foldl Plate.take) := by
    intro job
    rw [List.getElem?_modify]
    by_cases hplace : job.surface = place
    · simp [Showing.at, Job.bond, hplace]
    · simp [Showing.at, Job.bond, hplace]
  cases call with
  | sizing job => exact absurd rfl hother
  | writing job =>
    cases progress with
    | failed => exact hstill
    | waiting next => exact hpressed job
    | returned => exact hpressed job
  | _ => exact hstill

end Backstage

namespace Desk

variable {desk after : Desk} {deed : Deed} {manners : List Bool} {place : Nat}

/-- The terms under which a surface is bound after a deed are those from before, or those that its backend sets. -/
theorem terms_perform {epoch surface : Nat} {zeroCopy : Bool} (hallows : desk.Allows deed)
    (hterms : (desk.perform deed).terms? = some ⟨⟨epoch, some surface⟩, zeroCopy⟩) :
    desk.terms? = some ⟨⟨epoch, some surface⟩, zeroCopy⟩ ∨ desk.scene.manners[surface]? = some zeroCopy := by
  by_cases hother : deed = .advance
  · subst hother
    exact .inl ((terms_advance desk).symm.trans hterms)
  obtain ⟨binding, hbinding, hlink, rfl⟩ := binding_of_terms hterms
  rcases bound_perform hallows hother hbinding (congrArg Link.surface hlink) with ⟨fit, hkept⟩ | ⟨_, _, _, rfl, _, rfl⟩
  · left
    unfold terms?
    rw [hkept]
    rw [← hlink]
    rfl
  · -- The deed attaches the surface, as its backend says.
    right
    obtain ⟨found, hfound, _, hcopies⟩ := hallows.2
    rw [← hcopies]
    unfold Scene.manners Scene.view
    rw [List.getElem?_map, hfound]
    rfl

/-- Frames are brought to surfaces in the manner of their backends. -/
structure Mannered (manners : List Bool) (desk : Desk) : Prop where
  same : desk.scene.manners = manners
  bound : ∀ {epoch surface zeroCopy}, desk.terms? = some ⟨⟨epoch, some surface⟩, zeroCopy⟩ →
    manners[surface]? = some zeroCopy
  going : ∀ {job}, desk.job? = some job → manners[job.surface]? = some job.zeroCopy
  mannerly : ∀ {call}, desk.call? = some call → call.Mannerly

namespace Mannered

/-- A step of the consumer keeps the manners. -/
theorem advance (hmannered : desk.Mannered manners) : desk.advance.Mannered manners where
  same := by
    have hkept : desk.advance.scene.manners = desk.scene.manners := by
      refine scene_advance fun hresumed => hresumed.view_still (fun _ _ => rfl) (fun _ _ => ?_) fun _ _ => ?_
      · simp [Pane.isZeroCopy, Surface.pane, Panel.sized]
      · simp [Pane.isZeroCopy, Surface.pane]
    exact hkept.trans hmannered.same
  bound hterms := hmannered.bound ((terms_advance desk).symm.trans hterms)
  going {job} hjob := by
    have hkind := advanced desk
    generalize desk.advance = after at hkind hjob
    cases hkind with
    | resting => exact hmannered.going hjob
    | taken => cases hjob
    | waiting call next queue stage htransport hresumed =>
      rcases hresumed.job hjob with hgoing | ⟨_, hterms⟩
      · exact hmannered.going ((job_of_call (call_running htransport)).trans hgoing)
      · exact hmannered.bound hterms
    | returned => cases hjob
    | failed => cases hjob
  mannerly {next} hnext := by
    have hkind := advanced desk
    generalize desk.advance = after at hkind hnext
    cases hkind with
    | resting => exact hmannered.mannerly hnext
    | taken =>
      cases hnext
      exact trivial
    | waiting call next queue stage htransport hresumed =>
      cases hnext
      exact hresumed.mannerly (hmannered.mannerly (call_running htransport))
    | returned => cases hnext
    | failed => cases hnext

/-- So does every deed. -/
theorem perform (hmannered : desk.Mannered manners) (hallows : desk.Allows deed) :
    (desk.perform deed).Mannered manners := by
  by_cases hother : deed = .advance
  · subst hother
    exact hmannered.advance
  have hcalm := calm hallows hother
  refine ⟨(Scene.manners_congr hcalm.panels).trans hmannered.same, fun hterms => ?_, fun hjob => ?_, fun hcall => ?_⟩
  · rcases terms_perform hallows hterms with hkept | hset
    · exact hmannered.bound hkept
    · exact hmannered.same ▸ hset
  · unfold job? at hjob
    rw [hcalm.call] at hjob
    exact hmannered.going hjob
  · exact hmannered.mannerly (hcalm.call.symm.trans hcall)

end Mannered

/-- A new presenter has bound nothing. -/
theorem mannered_opened (surfaces : List Surface) (id : Nat) :
    (opened surfaces id).Mannered (Scene.ofSurfaces surfaces).manners where
  same := rfl
  bound hterms := by cases hterms
  going hjob := by cases hjob
  mannerly hcall := by cases hcall

/-- The frame that has been copied and is not counted as rendered yet, if there is one. -/
def copied (desk : Desk) : List Showing := (desk.call?.map Call.copied).getD []

/-- While no call is in progress no frame is. -/
theorem copied_of_quiet (hquiet : desk.call? = none) : desk.copied = [] := by
  unfold copied
  rw [hquiet]
  rfl

/-- A frame is counted as rendered by the call in progress. -/
theorem renders_counted {call : Call} {queue : List Envelope} {progress : Progress Call} {stage : Backstage}
    (htransport : desk.presenter.mailbox.transport = .running (some call) queue)
    (hresumed : Backstage.Resumed call desk.backstage progress stage)
    (hafter : desk.advance.rendered = stage.renderer.tally.rendered) :
    desk.renders = Backstage.counted call progress := by
  have hrendered : desk.advance.rendered = desk.rendered + (Backstage.counted call progress).length :=
    hafter.trans hresumed.tally_rendered
  unfold renders
  rw [call_running htransport, Option.bind_some, hrendered]
  cases hresumed with
  | failed call => cases call <;> simp [Call.job?, Backstage.counted]
  | _ => simp [Call.job?, Backstage.counted]

/-- These frames are brought to the plate at a place with the next step of the consumer. Together with the frame copied
before they are those counted as rendered and the one that is copied then. -/
structure Brings (desk : Desk) (place : Nat) (brought : List SharedFrame) : Prop where
  accounted : Showing.at place desk.copied ++ brought =
    Showing.at place desk.renders ++ Showing.at place desk.advance.copied
  plate : desk.advance.scene.plates[place]? = desk.scene.plates[place]?.map (brought.foldl Plate.take)

/-- No frame is brought while no call is in progress. -/
theorem brings_nothing (hquiet : desk.call? = none) (hcopied : desk.advance.copied = [])
    (hscene : desk.advance.scene = desk.scene) : desk.Brings place [] where
  accounted := by
    have hnone : desk.renders = [] := by
      unfold renders
      rw [hquiet]
      rfl
    rw [hnone, hcopied, copied_of_quiet hquiet]
    rfl
  plate := by
    rw [hscene]
    exact Option.map_id_apply.symm

/-- A call that goes on, or returns, brings its frame where frames are copied, unless it gives a pixel buffer its
size. -/
theorem brings_resumed (hmannered : desk.Mannered manners) (hplace : manners[place]? = some true)
    {call : Call} {queue : List Envelope} {progress : Progress Call} {mailbox : Mailbox Call} {stage : Backstage}
    (htransport : desk.presenter.mailbox.transport = .running (some call) queue)
    (hresumed : Backstage.Resumed call desk.backstage progress stage) (hgoing : progress ≠ .failed)
    (hother : ∀ {job}, call ≠ .sizing job) (hafter : desk.advance = desk.afterMail mailbox stage)
    (hcopied : desk.advance.copied = Backstage.copiedBy progress) :
    desk.Brings place (Showing.at place (Backstage.pressed call progress)) where
  accounted := by
    have hcall := call_running htransport
    have hlent : ∀ {job}, call = .lending job → job.surface ≠ place := by
      rintro job rfl rfl
      have hcopies := (hmannered.going ((job_of_call hcall).trans rfl)).symm.trans hplace
      have hlends : job.zeroCopy = false := hmannered.mannerly hcall
      rw [hlends] at hcopies
      cases hcopies
    have hrenders : desk.renders = Backstage.counted call progress :=
      renders_counted htransport hresumed (congrArg rendered hafter)
    rw [hrenders, hcopied, ← hresumed.balanced hgoing hlent]
    unfold copied
    rw [hcall]
    rfl
  plate := by
    rw [hafter]
    exact hresumed.plate hother

/-- A step of the consumer that does not fail, and gives no pixel buffer its size, brings some frames to the plate of a
surface to which frames are copied. -/
theorem brings_advance (hmannered : desk.Mannered manners) (hplace : manners[place]? = some true)
    (halive : desk.advance.isDead = false) (hother : ∀ {job}, desk.call? ≠ some (.sizing job)) :
    ∃ brought, desk.Brings place brought := by
  have hkind := advanced desk
  have hunsized {call : Call} {queue : List Envelope}
      (htransport : desk.presenter.mailbox.transport = .running (some call) queue) {job : Job} :
      call ≠ .sizing job := by
    rintro rfl
    exact hother (call_running htransport)
  generalize hafter : desk.advance = after at hkind halive
  cases hkind with
  | resting hidle =>
    have hquiet := (quiet_of_idle hidle).1
    exact ⟨[], brings_nothing hquiet (by rw [hafter, copied_of_quiet hquiet]) (by rw [hafter])⟩
  | taken envelope queue htransport =>
    exact ⟨[], brings_nothing (call_running htransport) (by rw [hafter]; rfl) (by rw [hafter]; rfl)⟩
  | waiting call next queue stage htransport hresumed =>
    exact ⟨_, brings_resumed hmannered hplace htransport hresumed nofun (hunsized htransport) hafter
      (by rw [hafter]; rfl)⟩
  | returned call queue stage htransport hresumed =>
    exact ⟨_, brings_resumed hmannered hplace htransport hresumed nofun (hunsized htransport) hafter
      (by rw [hafter]; rfl)⟩
  | failed => cases halive

/-- A call that gives a pixel buffer its size does that to its plate, and nothing else to any. -/
theorem plates_sizing {job : Job} (hcall : desk.call? = some (.sizing job)) (halive : desk.advance.isDead = false) :
    desk.advance.scene.plates = desk.scene.plates.modify job.surface (.sized job.frame.frame.size) := by
  rw [scene_sizing hcall halive]
  exact Scene.view_allocate_seen (fun _ => Surface.plate_record rfl) (fun _ => rfl) _ _

/-- It counts no frame and copies none. -/
theorem uncounted_sizing {job : Job} (hcall : desk.call? = some (.sizing job)) (halive : desk.advance.isDead = false) :
    desk.renders = [] ∧ desk.copied = [] ∧ desk.advance.copied = [] := by
  refine ⟨?_, ?_, ?_⟩
  · rcases renders_cases desk with ⟨hnone, _⟩ | ⟨call, _, hother, hkind, _⟩
    · exact hnone
    · cases hother.symm.trans hcall
      rcases hkind with hkind | hkind | hkind <;> cases hkind
  · unfold copied
    rw [hcall]
    rfl
  · have hkind := advanced desk
    generalize desk.advance = after at hkind halive ⊢
    cases hkind with
    | resting hidle =>
      rw [(quiet_of_idle hidle).1] at hcall
      cases hcall
    | taken => rfl
    | waiting call next queue stage htransport hresumed =>
      cases (call_running htransport).symm.trans hcall
      cases hresumed
      rfl
    | returned => rfl
    | failed => rfl

end Desk

namespace Measures

variable {measures : Measures} {place : Nat}

/-- The frames that were counted as rendered on a surface. -/
def framesOn (place : Nat) (measures : Measures) : List SharedFrame :=
  Showing.at place (measures.rendered.map Sight.showing)

/-- A plate after the sizes that its pixel buffer got. -/
def ground (place : Nat) (measures : Measures) (plate : Plate) : Plate :=
  (measures.sizes place).foldl (fun plate size => plate.sized size) plate

/-- With a step of the consumer the frames on a surface are followed by the one that is counted. -/
theorem framesOn_extend (place : Nat) (desk : Desk) (measures : Measures) :
    (measures.extend desk).framesOn place = measures.framesOn place ++ Showing.at place desk.renders := by
  simp [framesOn, extend, Desk.sights, Showing.at, Function.comp_def]

/-- The ground changes only if the pixel buffer gets a size. -/
theorem ground_extend {desk : Desk} (hnone : ∀ fitting ∈ desk.fits, fitting.showing.bond.surface ≠ place)
    (measures : Measures) (plate : Plate) :
    (measures.extend desk).ground place plate = measures.ground place plate := by
  have hsizes : desk.fits.filter (·.showing.bond.surface == place) = [] := by
    simpa using hnone
  simp [ground, sizes, extend, hsizes]

end Measures

namespace Desk

variable {desk after : Desk} {deed : Deed} {before : Scene} {measures : Measures}

/-- The plates of the surfaces to which frames are copied are as the frames say that were counted on them. -/
structure Exposed (before : Scene) (desk : Desk) (measures : Measures) : Prop where
  fitted : desk.Fitted before.bufferSize? before.given measures
  unmissed : measures.missed = []
  mannered : desk.Mannered before.manners
  seen : ∀ sight ∈ measures.rendered, (desk.scene.bufferSize? sight.showing.bond.surface).isSome = true
  plates : ∀ {place}, before.manners[place]? = some true →
    desk.scene.plates[place]? = before.plates[place]?.map fun plate =>
      (measures.framesOn place ++ Showing.at place desk.copied).foldl Plate.take (measures.ground place plate)

namespace Exposed

/-- No frame was counted where the pixel buffer has no size. -/
theorem unframed {place : Nat} (hexposed : desk.Exposed before measures)
    (hunsized : desk.scene.bufferSize? place = none) : measures.framesOn place = [] := by
  unfold Measures.framesOn Showing.at
  simp only [List.map_eq_nil_iff, List.filter_eq_nil_iff, List.mem_map, beq_iff_eq]
  rintro showing ⟨sight, hsight, rfl⟩ rfl
  have hsized := hexposed.seen sight hsight
  rw [hunsized] at hsized
  cases hsized

/-- A step of the consumer keeps the plates so. -/
theorem plates_advance {place : Nat} (hexposed : desk.Exposed before measures)
    (halive : desk.advance.isDead = false) (hplace : before.manners[place]? = some true) :
    desk.advance.scene.plates[place]? = before.plates[place]?.map fun plate =>
      ((measures.extend desk).framesOn place ++ Showing.at place desk.advance.copied).foldl Plate.take
        ((measures.extend desk).ground place plate) := by
  have hplates := hexposed.plates hplace
  by_cases hsizing : ∃ job, desk.call? = some (.sizing job)
  · obtain ⟨job, hcall⟩ := hsizing
    obtain ⟨hrenders, hcopied, hnext⟩ := uncounted_sizing hcall halive
    have hfits : desk.fits = [⟨⟨job.frame, job.bond⟩, desk.advance.pending.head?⟩] := by
      unfold fits
      rw [hcall]
      exact if_neg (by simp [halive])
    rw [plates_sizing hcall halive, List.getElem?_modify, Measures.framesOn_extend, hrenders, hnext]
    rw [hcopied] at hplates
    by_cases hhere : job.surface = place
    · -- No frame was brought here yet: the pixel buffer had no size.
      subst hhere
      have hnone := hexposed.unframed ((hexposed.fitted.prepared hcall).unsized rfl)
      rw [hnone] at hplates ⊢
      rw [hplates]
      simp [Measures.ground, Measures.sizes, Measures.extend, hfits, Job.bond, Showing.at, Function.comp_def]
    · have hground := @Measures.ground_extend place desk (by simp [hfits, Job.bond, hhere]) measures
      simp only [hhere, if_false, hplates, hground]
      simp [Showing.at]
  · obtain ⟨brought, hbrought⟩ := brings_advance hexposed.mannered hplace halive
      fun hcall => hsizing ⟨_, hcall⟩
    have hfits : desk.fits = [] := by
      unfold fits
      split
      · next job hcall => exact absurd ⟨job, hcall⟩ hsizing
      · rfl
    have hground := @Measures.ground_extend place desk (by simp [hfits]) measures
    rw [hbrought.plate, hplates, Measures.framesOn_extend, List.append_assoc, ← hbrought.accounted,
      ← List.append_assoc, Option.map_map]
    simp only [hground, List.foldl_append, Function.comp_def]

/-- A step of the consumer that does not fail keeps all of it. -/
theorem advance (hexposed : desk.Exposed before measures) (halive : desk.advance.isDead = false) :
    desk.advance.Exposed before (measures.extend desk) := by
  have hfitted := hexposed.fitted.advance
  have hnone : (measures.extend desk).missed = [] :=
    @missed_note desk .advance measures halive hexposed.unmissed
  refine ⟨hfitted, hnone, hexposed.mannered.advance, ?_, hexposed.plates_advance halive⟩
  have hsized : ∀ {bond}, desk.advance.SeenTo (measures.extend desk) bond →
      (desk.advance.scene.bufferSize? bond.surface).isSome = true := by
    rintro bond (hsome | hmissed)
    · exact hsome
    · rw [hnone] at hmissed
      cases hmissed
  intro sight hmem
  rcases List.mem_append.1 hmem with hearlier | hnow
  · exact hsized (hexposed.fitted.seenTo_advance (.inl (hexposed.seen sight hearlier)))
  · have hseen := hfitted.seen sight (List.mem_append_right _ hmem)
    obtain ⟨showing, _, rfl⟩ := List.mem_map.1 hnow
    exact hsized hseen

/-- So does every deed with which the consumer does not fail. -/
theorem perform (hexposed : desk.Exposed before measures) (hallows : desk.Allows deed)
    (halive : (desk.perform deed).isDead = false) :
    (desk.perform deed).Exposed before (Measures.keeper.note desk deed measures) := by
  by_cases hother : deed = .advance
  · subst hother
    exact hexposed.advance halive
  have hcalm := calm hallows hother
  have hfitted := hexposed.fitted.perform hallows
  have hmissed := missed_note halive hexposed.unmissed
  have hnote : Measures.keeper.note desk deed measures = measures := by
    cases deed with
    | advance => exact absurd rfl hother
    | _ => rfl
  rw [hnote] at hfitted hmissed ⊢
  refine ⟨hfitted, hmissed, hexposed.mannered.perform hallows, fun sight hmem => ?_, fun hplace => ?_⟩
  · rw [Scene.bufferSize_congr hcalm.panels]
    exact hexposed.seen sight hmem
  · have hplates : (desk.perform deed).scene.plates = desk.scene.plates :=
      view_perform Surface.inward_plate hallows hother
    unfold copied
    rw [hplates, hcalm.call]
    exact hexposed.plates hplace

/-- While the consumer has nothing to do, the plate of a surface to which frames are copied is what the frames counted
on it leave. -/
theorem at_rest (hexposed : desk.Exposed before measures) (hidle : desk.presenter.mailbox.isIdle = true)
    {place : Nat} {surface : Surface} (hfound : desk.scene.surfaces[place]? = some surface)
    (hcopies : Backend.supportsZeroCopy surface.profile.backend = true) :
    ∃ start, before.surfaces[place]? = some start ∧
      surface.plate = (measures.framesOn place).foldl Plate.take (measures.ground place start.plate) := by
  have hplace : before.manners[place]? = some true := by
    rw [← hexposed.mannered.same]
    simp [Scene.manners, Scene.view, hfound, Surface.pane, Surface.panel, Pane.isZeroCopy, hcopies]
  have hplates := hexposed.plates hplace
  rw [copied_of_quiet (quiet_of_idle hidle).1, Scene.plates_getElem, Scene.plates_getElem, hfound] at hplates
  cases hstart : before.surfaces[place]? with
  | none =>
    rw [hstart] at hplates
    cases hplates
  | some start =>
    rw [hstart] at hplates
    refine ⟨start, rfl, ?_⟩
    simpa [Showing.at] using hplates

/-- If its pixel buffer got its size in the run, and the last frame counted on it has as many bytes, the backing
buffer of such a surface holds the beginning of this frame and nothing else. -/
theorem covered (hexposed : desk.Exposed before measures) (hidle : desk.presenter.mailbox.isIdle = true)
    {place : Nat} {surface : Surface} {size : Size} {last : SharedFrame}
    (hfound : desk.scene.surfaces[place]? = some surface)
    (hcopies : Backend.supportsZeroCopy surface.profile.backend = true)
    (hgiven : surface.profile.withholdsBacking = false) (hsizes : measures.sizes place = [size])
    (hlast : (measures.framesOn place).getLast? = some last) (hpixels : 0 < size.area * packedPixelBytes)
    (hcovers : size.area * packedPixelBytes ≤ last.frame.payload.size) :
    surface.backing.size = size.area * packedPixelBytes ∧
      surface.backing = last.frame.payload.extract 0 (size.area * packedPixelBytes) := by
  obtain ⟨start, _, hplate⟩ := hexposed.at_rest hidle hfound hcopies
  have hground : measures.ground place start.plate = start.plate.sized size := by
    unfold Measures.ground
    rw [hsizes]
    rfl
  have hroom : (start.plate.sized size).backing.size = size.area * packedPixelBytes := Bytes.size_blank _
  obtain ⟨hwithholds, hkept⟩ := Plate.foldl_keeps (measures.framesOn place) (start.plate.sized size)
  rw [hground] at hplate
  rw [← hplate] at hwithholds hkept
  rw [← hroom] at hpixels hcovers ⊢
  have hwritable : (start.plate.sized size).isWritable = true :=
    Plate.isWritable_iff.2 ⟨hwithholds.symm.trans hgiven, hpixels⟩
  refine ⟨hkept, ?_⟩
  rw [← Plate.backing_foldl hwritable hlast hcovers, ← hplate]
  rfl

end Exposed

/-- In a run in which the consumer does not fail, plates are as the frames say that were counted on them. -/
theorem exposed_run {surfaces : List Surface} {id : Nat} {acts : List Act}
    (hunfailing : (opened surfaces id).Unfailing acts) :
    ((opened surfaces id).run acts).Exposed (.ofSurfaces surfaces) (Measures.keeper.onRun surfaces id acts) := by
  refine Observer.unfailing_keeps (fun _ _ _ hallows halive hexposed => hexposed.perform hallows halive) hunfailing ?_
  refine ⟨fitted_opened surfaces id, rfl, mannered_opened surfaces id, nofun, fun _ => ?_⟩
  exact Option.map_id_apply.symm

end Desk

end FramePath

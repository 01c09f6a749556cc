import FramePath.Proofs.Desk.Calm

/-!
# Pixel buffers get their size once

The first frame that comes to a surface under a binding gives its pixel buffer a size, unless it has one. The mark
that a frame has come is set before the surface is asked for its size, so a consumer that fails in between leaves
the surface without a size for as long as the binding lasts. `Measures` keeps what is seen of pixel buffers in a run,
and `Fitted` what every deed keeps of it; `sized_once` says what it comes to: a pixel buffer gets at most
one size, that of a frame still to be shown, and only such a failure leaves a later frame without one.
-/

namespace FramePath

open Renderer (Call Job)

/-- A pixel buffer gets a size when a frame is brought to its surface. -/
structure Fitting where
  showing : Showing
  /-- The frame that is the next to be given to a surface then, if one is on its way. -/
  next : Option Envelope
  deriving DecidableEq, Repr

/-- A frame at a surface, and the size of the pixel buffer then. -/
structure Sight where
  showing : Showing
  size : Option Size
  deriving DecidableEq, Repr

/-- What is seen of pixel buffers. -/
structure Measures where
  fittings : List Fitting
  /-- The frames given to surfaces. -/
  given : List Sight
  /-- The frames counted as rendered. -/
  rendered : List Sight
  /-- The bindings under which the consumer failed before it had seen to the size. -/
  missed : List Bond
  deriving DecidableEq, Repr

namespace Renderer.Call

/-- The job of a call that has yet to see to the size of a pixel buffer. -/
def fitting? : Call → Option Job
  | approaching job true | sizing job => some job
  | _ => none

/-- The job of a call that has seen to it. -/
def fitted? : Call → Option Job
  | approaching job false | writing job | marking job | lending job => some job
  | _ => none

/-- A call gives its frame to a surface when it has seen to the size. -/
theorem fitted_of_given {showing : Showing} (call : Call) (hgiven : call.given? = some showing) :
    ∃ job, call.fitted? = some job ∧ showing = ⟨job.frame, job.bond⟩ := by
  cases call with
  | marking job => exact ⟨job, rfl, (Option.some.inj hgiven).symm⟩
  | lending job => exact ⟨job, rfl, (Option.some.inj hgiven).symm⟩
  | _ => cases hgiven

end Renderer.Call

/-- A call that has yet to see to a size still has to, or has seen to it, when it has gone on. -/
theorem Backstage.Resumed.fitting {call next : Call} {job : Job} {stage after : Backstage}
    (hresumed : Resumed call stage (.waiting next) after) (hjob : call.fitting? = some job) :
    next.fitting? = some job ∨ next.fitted? = some job := by
  cases hresumed with
  | sizing => exact .inl hjob
  | writing other first | lending other first =>
    cases first <;> cases hjob
    exact .inr rfl
  | sized => exact .inr hjob
  | _ => cases hjob

/-- After a step the binding is the one before, unless a frame was taken up for it. Then the call comes to the surface
as the first of its binding if the binding had no mark before. -/
theorem Backstage.Resumed.marking {call : Call} {stage after : Backstage} {progress : Progress Call}
    {binding : Binding} {surface : Nat} (hresumed : Resumed call stage progress after)
    (hbinding : after.scene.binding? stage.renderer.owner = some binding)
    (hsurface : binding.surface = some surface) :
    stage.scene.binding? stage.renderer.owner = some binding ∨
      ∃ before job, stage.scene.binding? stage.renderer.owner = some before ∧
        before.surface = some surface ∧ before.epoch = binding.epoch ∧
        job.bond = ⟨binding.epoch, surface⟩ ∧
        progress = .waiting (.approaching job (!before.sizeApplied)) := by
  cases hresumed with
  | accepted frame epoch _ before bound hbefore hbound hepoch =>
    obtain ⟨found, hfound, rfl⟩ := Option.map_eq_some_iff.1
      ((Scene.binding_changeBinding _ _ _).symm.trans hbinding)
    cases hbefore.symm.trans hfound
    cases hbound.symm.trans hsurface
    cases hepoch
    exact .inr ⟨before, _, hbefore, hbound, rfl, rfl, rfl⟩
  | sized job =>
    have hsame := (Resumed.sized job stage).binding_same nofun
    exact .inl (hsame.symm.trans hbinding)
  | _ => exact .inl hbinding

namespace Desk

/-- Frames counted as rendered. -/
def rendered (desk : Desk) : Nat := desk.presenter.renderer.tally.rendered

/-- The fitting that the next step of the consumer makes, if it makes one. -/
def fits (desk : Desk) : List Fitting :=
  match desk.call? with
  | some (.sizing job) =>
      if desk.advance.isDead then [] else [⟨⟨job.frame, job.bond⟩, desk.advance.pending.head?⟩]
  | _ => []

/-- The frame that is counted as rendered with the next step of the consumer, if one is. -/
def renders (desk : Desk) : List Showing :=
  match desk.call?.bind Call.job? with
  | some job => if desk.rendered < desk.advance.rendered then [⟨job.frame, job.bond⟩] else []
  | none => []

/-- The binding under which the consumer fails with its next step before it has seen to the size. -/
def misses (desk : Desk) : List Bond :=
  match desk.call?.bind Call.fitting? with
  | some job => if desk.advance.isDead then [job.bond] else []
  | none => []

/-- Frames at their surfaces, with the sizes of the pixel buffers now. -/
def sights (showings : List Showing) (desk : Desk) : List Sight :=
  showings.map fun showing => ⟨showing, desk.scene.bufferSize? showing.bond.surface⟩

end Desk

namespace Measures

/-- Nothing was seen yet. -/
def blank : Measures := ⟨[], [], [], []⟩

/-- The sizes that the pixel buffer of a surface got. -/
def sizes (surface : Nat) (measures : Measures) : List Size :=
  (measures.fittings.filter (·.showing.bond.surface == surface)).map (·.showing.frame.frame.size)

/-- What a step of the consumer adds. -/
def extend (desk : Desk) (measures : Measures) : Measures where
  fittings := measures.fittings ++ desk.fits
  given := measures.given ++ desk.advance.sights desk.advance.given
  rendered := measures.rendered ++ desk.advance.sights desk.renders
  missed := measures.missed ++ desk.misses

/-- Pixel buffers are measured with every step of the consumer. -/
def keeper : Observer Measures where
  blank := blank
  note desk deed measures :=
    match deed with
    | .advance => measures.extend desk
    | _ => measures

end Measures

namespace Desk

variable {desk : Desk}

/-- A step of the consumer changes no panel, or it gives the pixel buffer to which a call is on its way the size of the
frame in hand, which is the next to be given to a surface. -/
theorem fits_cases (desk : Desk) :
    (desk.fits = [] ∧ desk.advance.scene.panels = desk.scene.panels) ∨
      ∃ job, desk.call? = some (.sizing job) ∧
        desk.fits = [⟨⟨job.frame, job.bond⟩, some (.frame job.frame job.epoch)⟩] ∧
        desk.advance.scene.panels =
          desk.scene.panels.modify job.surface (.sized job.frame.frame.size) := by
  have hkind := advanced desk
  unfold fits
  generalize desk.advance = after at hkind ⊢
  cases hkind with
  | resting hidle =>
    rw [(quiet_of_idle hidle).1]
    exact .inl ⟨rfl, rfl⟩
  | taken envelope queue htransport =>
    rw [call_running htransport]
    exact .inl ⟨rfl, rfl⟩
  | waiting call next queue stage htransport hresumed =>
    have hpanels := hresumed.panels
    rw [call_running htransport]
    cases hresumed with
    | sized job => exact .inr ⟨job, rfl, rfl, hpanels⟩
    | _ => exact .inl ⟨rfl, hpanels⟩
  | returned call queue stage htransport hresumed =>
    have hpanels := hresumed.panels
    rw [call_running htransport]
    cases hresumed <;> exact .inl ⟨rfl, hpanels⟩
  | failed call queue stage htransport hresumed =>
    have hpanels := hresumed.panels
    rw [call_running htransport]
    refine .inl ⟨?_, hpanels.trans ?_⟩
    · cases call <;> rfl
    · cases call <;> rfl

/-- A step of the consumer counts no frame as rendered, or the one that it has brought to its surface. -/
theorem renders_cases (desk : Desk) :
    (desk.renders = [] ∧ desk.advance.rendered = desk.rendered) ∨
      ∃ call job, desk.call? = some call ∧
        (call = .writing job ∨ call = .marking job ∨ call = .lending job) ∧
        desk.renders = [⟨job.frame, job.bond⟩] ∧ desk.advance.rendered = desk.rendered + 1 := by
  have hkind := advanced desk
  generalize hafter : desk.advance = after at hkind
  have hstill : after.rendered = desk.rendered → desk.renders = [] ∧ after.rendered = desk.rendered := by
    intro hsame
    refine ⟨?_, hsame⟩
    unfold renders
    rw [hafter, hsame]
    split
    · exact if_neg (Nat.lt_irrefl _)
    · rfl
  have hmore : ∀ {call : Call} {job : Job}, desk.call? = some call → call.job? = some job →
      after.rendered = desk.rendered + 1 → desk.renders = [⟨job.frame, job.bond⟩] := by
    intro call job hcall hjob hcounted
    unfold renders
    rw [hcall, Option.bind_some, hjob, hafter]
    exact if_pos (by omega)
  cases hkind with
  | resting => exact .inl (hstill rfl)
  | taken => exact .inl (hstill rfl)
  | waiting call next queue stage htransport hresumed =>
    cases hresumed <;> exact .inl (hstill rfl)
  | returned call queue stage htransport hresumed =>
    have hcall := call_running htransport
    cases hresumed with
    | withheld job => exact .inr ⟨_, job, hcall, .inl rfl, hmore hcall rfl rfl, rfl⟩
    | marked job => exact .inr ⟨_, job, hcall, .inr (.inl rfl), hmore hcall rfl rfl, rfl⟩
    | lent job => exact .inr ⟨_, job, hcall, .inr (.inr rfl), hmore hcall rfl rfl, rfl⟩
    | _ => exact .inl (hstill rfl)
  | failed call queue stage htransport hresumed =>
    cases hresumed
    exact .inl (hstill rfl)

/-- The pixel buffer of a bound surface has a size, or the consumer failed when it should have got one. -/
def SeenTo (desk : Desk) (measures : Measures) (bond : Bond) : Prop :=
  (desk.scene.bufferSize? bond.surface).isSome = true ∨ bond ∈ measures.missed

/-- Where all surfaces are seen to, all frames are seen at surfaces that are. -/
theorem seen_sights {measures : Measures} {showings : List Showing}
    (hseen : ∀ showing ∈ showings, desk.SeenTo measures showing.bond) :
    ∀ sight ∈ desk.sights showings,
      sight.size.isSome = true ∨ sight.showing.bond ∈ measures.missed := by
  intro sight hmem
  obtain ⟨showing, hshowing, rfl⟩ := List.mem_map.1 hmem
  exact hseen showing hshowing

/-- What is known of the pixel buffer to which a call is on its way. -/
structure Prepared (desk : Desk) (measures : Measures) (call : Call) : Prop where
  unsized : ∀ {job}, call = .sizing job → desk.scene.bufferSize? job.surface = none
  seen : ∀ {job}, call.fitted? = some job → desk.SeenTo measures job.bond

/-- What is seen of pixel buffers is in order. `before` says what sizes they had before the presenter was there. -/
structure Fitted (before : Nat → Option Size) (given : List (List SharedFrame)) (desk : Desk)
    (measures : Measures) : Prop where
  sited : desk.Sited
  sizes : ∀ place,
    (before place).toList ++ measures.sizes place = (desk.scene.bufferSize? place).toList
  ahead : ∀ fitting ∈ measures.fittings, fitting.next = some fitting.showing.envelope
  told : ∀ place, desk.scene.given[place]? =
    given[place]?.map (· ++ Showing.at place (measures.given.map Sight.showing))
  counted : measures.rendered.length = desk.rendered
  seen : ∀ sight ∈ measures.given ++ measures.rendered,
    sight.size.isSome = true ∨ sight.showing.bond ∈ measures.missed
  prepared : ∀ {call}, desk.call? = some call → desk.Prepared measures call
  marked : ∀ {binding surface}, desk.binding? = some binding → binding.surface = some surface →
    binding.sizeApplied = true → desk.SeenTo measures ⟨binding.epoch, surface⟩ ∨
      ∃ job, desk.call?.bind Call.fitting? = some job ∧ job.bond = ⟨binding.epoch, surface⟩

namespace Fitted

variable {before : Nat → Option Size} {given : List (List SharedFrame)} {desk after : Desk}
  {measures : Measures}

/-- What was seen to stays so with every step of the consumer. -/
theorem seenTo_advance (hfitted : desk.Fitted before given measures) {bond : Bond}
    (hseen : desk.SeenTo measures bond) : desk.advance.SeenTo (measures.extend desk) bond := by
  rcases hseen with hsized | hmissed
  · left
    rcases fits_cases desk with ⟨_, hpanels⟩ | ⟨job, hcall, _, hpanels⟩
    · rwa [Scene.bufferSize_congr hpanels]
    · rw [Scene.bufferSize_of_sized hpanels (hfitted.sited.call hcall rfl)]
      split
      · rfl
      · exact hsized
  · exact .inr (List.mem_append_left _ hmissed)

/-- The sizes that were seen account for those that are there after a step of the consumer. -/
theorem sizes_advance (hfitted : desk.Fitted before given measures) (place : Nat) :
    (before place).toList ++ (measures.extend desk).sizes place =
      (desk.advance.scene.bufferSize? place).toList := by
  have hsizes := hfitted.sizes place
  simp only [Measures.sizes, Measures.extend, List.filter_append, List.map_append] at hsizes ⊢
  rcases fits_cases desk with ⟨hnone, hpanels⟩ | ⟨job, hcall, hfits, hpanels⟩
  · rw [hnone, Scene.bufferSize_congr hpanels]
    simpa using hsizes
  · rw [hfits, Scene.bufferSize_of_sized hpanels (hfitted.sited.call hcall rfl)]
    by_cases hplace : job.surface = place
    · -- The call came here because there was no size yet.
      subst hplace
      have hnone : desk.scene.bufferSize? job.surface = none :=
        (hfitted.prepared hcall).unsized rfl
      rw [hnone] at hsizes
      obtain ⟨hbefore, hearlier⟩ := List.append_eq_nil_iff.1 hsizes
      simp [hbefore, hearlier, Job.bond]
    · simpa [Job.bond, hplace] using hsizes

/-- What is known of the pixel buffer ahead is known after a step of the consumer. -/
theorem prepared_advance (hfitted : desk.Fitted before given measures) {call : Call}
    (hcall : desk.advance.call? = some call) :
    desk.advance.Prepared (measures.extend desk) call := by
  have hlater : ∀ {bond}, desk.SeenTo measures bond →
      desk.advance.SeenTo (measures.extend desk) bond := hfitted.seenTo_advance
  have hkind := advanced desk
  generalize desk.advance = after at hkind hcall hlater ⊢
  cases hkind with
  | resting hidle =>
    rw [(quiet_of_idle hidle).1] at hcall
    cases hcall
  | taken => cases hcall; exact ⟨nofun, nofun⟩
  | waiting going next queue stage htransport hresumed =>
    cases hcall
    have hgoing := call_running htransport
    have hbefore := hfitted.prepared hgoing
    cases hresumed with
    | accepted frame epoch _ binding surface hbinding hsurface hepoch =>
      refine ⟨nofun, fun hjob => ?_⟩
      cases hmark : binding.sizeApplied with
      | false =>
        rw [hmark] at hjob
        cases hjob
      | true =>
        rw [hmark] at hjob
        cases hjob
        rcases hfitted.marked hbinding hsurface hmark with hseen | ⟨job, hfitting, _⟩
        · exact hlater (hepoch ▸ hseen)
        · rw [hgoing] at hfitting
          cases hfitting
    | sizing job _ hnone =>
      refine ⟨fun hsame => ?_, nofun⟩
      cases hsame
      exact (Scene.bufferSize_congr (Scene.panels_record _ _ _) _).trans hnone
    | writing job first _ _ hasked =>
      refine ⟨nofun, fun hjob => ?_⟩
      cases hjob
      cases first with
      | false => exact hlater (hbefore.seen rfl)
      | true => exact hlater (.inl (hasked rfl))
    | lending job first _ _ hasked =>
      refine ⟨nofun, fun hjob => ?_⟩
      cases hjob
      cases first with
      | false => exact hlater (hbefore.seen rfl)
      | true => exact hlater (.inl (hasked rfl))
    | sized job =>
      refine ⟨nofun, fun hjob => ?_⟩
      cases hjob
      have hsized := Scene.bufferSize_of_sized (Scene.panels_allocate job.surface job.frame.frame.size _)
        (hfitted.sited.call hgoing rfl) job.surface
      rw [if_pos rfl] at hsized
      exact .inl (Option.isSome_iff_exists.2 ⟨_, hsized⟩)
    | written job => exact ⟨nofun, fun hjob => hlater (hbefore.seen hjob)⟩
    | revealing => exact ⟨nofun, nofun⟩
    | showing => exact ⟨nofun, nofun⟩
  | returned => cases hcall
  | failed => cases hcall

/-- Under the binding in force the pixel buffer is seen to, or a call is about it, after a step of the consumer. -/
theorem marked_advance (hfitted : desk.Fitted before given measures) {binding : Binding}
    {surface : Nat} (hbinding : desk.advance.binding? = some binding)
    (hsurface : binding.surface = some surface) (hmark : binding.sizeApplied = true) :
    desk.advance.SeenTo (measures.extend desk) ⟨binding.epoch, surface⟩ ∨
      ∃ job, desk.advance.call?.bind Call.fitting? = some job ∧
        job.bond = ⟨binding.epoch, surface⟩ := by
  have hprepared : ∀ {call}, desk.advance.call? = some call →
      desk.advance.Prepared (measures.extend desk) call := hfitted.prepared_advance
  have hmisses : ∀ {job}, desk.call?.bind Call.fitting? = some job → desk.advance.isDead = true →
      desk.advance.SeenTo (measures.extend desk) job.bond := by
    intro job hjob hdead
    refine .inr (List.mem_append_right _ ?_)
    unfold misses
    rw [hjob, hdead]
    exact List.mem_singleton_self _
  have hkept : desk.binding? = some binding →
      desk.advance.SeenTo (measures.extend desk) ⟨binding.epoch, surface⟩ ∨
        ∃ job, desk.call?.bind Call.fitting? = some job ∧ job.bond = ⟨binding.epoch, surface⟩ :=
    fun hbefore => (hfitted.marked hbefore hsurface hmark).imp_left hfitted.seenTo_advance
  have hkind := advanced desk
  unfold binding? at hbinding
  rw [(stepped desk).owner] at hbinding
  generalize desk.advance = after at hkind hmisses hkept hprepared hbinding ⊢
  cases hkind with
  | resting => exact hkept hbinding
  | taken envelope queue htransport =>
    rw [call_running htransport] at hkept
    exact (hkept hbinding).imp_right nofun
  | waiting call next queue stage htransport hresumed =>
    have hgoing := call_running htransport
    rcases hresumed.marking hbinding hsurface with
      hsame | ⟨before, job, hbefore, hbound, hepoch, hbond, hnext⟩
    · rcases hkept hsame with hseen | ⟨job, hjob, hbond⟩
      · exact .inl hseen
      · rw [hgoing] at hjob
        rcases hresumed.fitting hjob with hfitting | hfitted
        · exact .inr ⟨job, hfitting, hbond⟩
        · exact .inl (hbond ▸ (hprepared rfl).seen hfitted)
    · -- A frame is taken up: it is the first of its epoch, or another one has been before it.
      cases hnext
      rw [← hbond]
      cases hmarked : before.sizeApplied with
      | false => exact .inr ⟨job, rfl, rfl⟩
      | true =>
        rw [hmarked] at hprepared
        exact .inl ((hprepared rfl).seen rfl)
  | returned call queue stage htransport hresumed =>
    have hover : call.fitting? = none := by cases hresumed <;> rfl
    rcases hresumed.marking hbinding hsurface with hsame | ⟨_, _, _, _, _, _, hnext⟩
    · rcases hkept hsame with hseen | ⟨other, hjob, _⟩
      · exact .inl hseen
      · rw [call_running htransport, Option.bind_some, hover] at hjob
        cases hjob
    · cases hnext
  | failed call queue stage htransport hresumed =>
    rcases hresumed.marking hbinding hsurface with hsame | ⟨_, _, _, _, _, _, hnext⟩
    · rcases hkept hsame with hseen | ⟨other, hjob, hbond⟩
      · exact .inl hseen
      · exact .inl (hbond ▸ hmisses hjob rfl)
    · cases hnext

/-- A step of the consumer keeps what is seen of pixel buffers in order. -/
theorem advance (hfitted : desk.Fitted before given measures) :
    desk.advance.Fitted before given (measures.extend desk) where
  sited := hfitted.sited.advance
  sizes := hfitted.sizes_advance
  ahead fitting hmem := by
    rcases List.mem_append.1 hmem with hold | hnew
    · exact hfitted.ahead fitting hold
    · rcases fits_cases desk with ⟨hnone, _⟩ | ⟨job, _, hfits, _⟩
      · rw [hnone] at hnew
        cases hnew
      · rw [hfits] at hnew
        cases List.mem_singleton.1 hnew
        rfl
  told place := by
    have hsights : (desk.advance.sights desk.advance.given).map Sight.showing = desk.advance.given := by
      simp [sights, Function.comp_def]
    simp only [Measures.extend, List.map_append, Showing.at_append, hsights]
    rw [(stepped desk).given, hfitted.told, Option.map_map]
    simp only [Function.comp_def, List.append_assoc]
  counted := by
    have hcounted := hfitted.counted
    rcases renders_cases desk with ⟨hnone, hsame⟩ | ⟨_, _, _, _, hrenders, hmore⟩
    · simp [Measures.extend, sights, hnone, hsame, hcounted]
    · simp [Measures.extend, sights, hrenders, hmore, hcounted]
  seen sight hmem := by
    have hold : sight ∈ measures.given ++ measures.rendered →
        sight.size.isSome = true ∨ sight.showing.bond ∈ (measures.extend desk).missed :=
      fun hmem => (hfitted.seen sight hmem).imp_right (List.mem_append_left _)
    rcases List.mem_append.1 hmem with hgiven | hrendered
    · rcases List.mem_append.1 hgiven with hearlier | hnow
      · exact hold (List.mem_append_left _ hearlier)
      · refine seen_sights (fun showing hshowing => ?_) sight hnow
        obtain ⟨call, hcall, hshown⟩ := Option.bind_eq_some_iff.1 (Option.mem_toList.1 hshowing)
        obtain ⟨job, hjob, rfl⟩ := call.fitted_of_given hshown
        exact (hfitted.prepared_advance hcall).seen hjob
    · rcases List.mem_append.1 hrendered with hearlier | hnow
      · exact hold (List.mem_append_right _ hearlier)
      · refine seen_sights (fun showing hshowing => ?_) sight hnow
        rcases renders_cases desk with ⟨hnone, _⟩ | ⟨call, job, hcall, hkind, hrenders, _⟩
        · rw [hnone] at hshowing
          cases hshowing
        · rw [hrenders] at hshowing
          cases List.mem_singleton.1 hshowing
          refine hfitted.seenTo_advance ((hfitted.prepared hcall).seen ?_)
          rcases hkind with rfl | rfl | rfl <;> rfl
  prepared := hfitted.prepared_advance
  marked := hfitted.marked_advance

/-- A calm deed keeps it in order if it leaves the binding or begins a new one. -/
theorem calm (hfitted : desk.Fitted before given measures) (hcalm : Calm desk after)
    (hsited : after.Sited)
    (hbinding : ∀ {binding surface}, after.binding? = some binding → binding.surface = some surface →
      binding.sizeApplied = true → ∃ fit, desk.binding? = some { binding with fit }) :
    after.Fitted before given measures where
  sited := hsited
  sizes place := by
    rw [Scene.bufferSize_congr hcalm.panels]
    exact hfitted.sizes place
  ahead := hfitted.ahead
  told place := by
    rw [show after.scene.given = desk.scene.given from hcalm.view Surface.aloof_given]
    exact hfitted.told place
  counted := by
    obtain ⟨released, htally⟩ := hcalm.tally
    unfold rendered
    rw [htally]
    exact hfitted.counted
  seen := hfitted.seen
  prepared hcall := by
    rw [hcalm.call] at hcall
    have hprepared := hfitted.prepared hcall
    refine ⟨fun hsame => ?_, fun hjob => ?_⟩
    · exact (Scene.bufferSize_congr hcalm.panels _).trans (hprepared.unsized hsame)
    · unfold SeenTo
      rw [Scene.bufferSize_congr hcalm.panels]
      exact hprepared.seen hjob
  marked hsome hsurface hmark := by
    obtain ⟨fit, hbefore⟩ := hbinding hsome hsurface hmark
    unfold SeenTo
    rw [Scene.bufferSize_congr hcalm.panels, hcalm.call]
    have hseen := hfitted.marked hbefore hsurface hmark
    exact hseen

/-- Every deed keeps it in order. -/
theorem perform {deed : Deed} (hfitted : desk.Fitted before given measures)
    (hallows : desk.Allows deed) :
    (desk.perform deed).Fitted before given (Measures.keeper.note desk deed measures) := by
  by_cases hother : deed = .advance
  · subst hother
    exact hfitted.advance
  · have hnote : Measures.keeper.note desk deed measures = measures := by
      cases deed with
      | advance => exact absurd rfl hother
      | _ => rfl
    rw [hnote]
    refine hfitted.calm (Desk.calm hallows hother) (hfitted.sited.perform hallows) ?_
    intro binding surface hbinding hsurface hmark
    rcases bound_perform hallows hother hbinding hsurface with hkept | ⟨_, _, _, _, _, rfl⟩
    · exact hkept
    · cases hmark

end Fitted

/-- Nothing was seen of the surfaces of a new presenter. -/
theorem fitted_opened (surfaces : List Surface) (id : Nat) :
    (opened surfaces id).Fitted (Scene.ofSurfaces surfaces).bufferSize?
      (Scene.ofSurfaces surfaces).given .blank where
  sited := sited_opened surfaces id
  sizes place := List.append_nil _
  ahead := nofun
  told place := Scene.given_nothing rfl place
  counted := rfl
  seen := nofun
  prepared hcall := by cases hcall
  marked hbinding hsurface hmark := by
    cases hbinding
    cases hsurface

/-- What is seen of pixel buffers in a run is in order. -/
theorem fitted_run (surfaces : List Surface) (id : Nat) (acts : List Act) :
    ((opened surfaces id).run acts).Fitted (Scene.ofSurfaces surfaces).bufferSize?
      (Scene.ofSurfaces surfaces).given (Measures.keeper.onRun surfaces id acts) :=
  Observer.run_keeps (fun _ _ _ hallows hfitted => hfitted.perform hallows) surfaces id acts
    (fitted_opened surfaces id)

/-- A deed with which the consumer does not fail misses no size. -/
theorem missed_note {deed : Deed} {measures : Measures} (halive : (desk.perform deed).isDead = false)
    (hnone : measures.missed = []) : (Measures.keeper.note desk deed measures).missed = [] := by
  cases deed with
  | advance =>
    have hnow : desk.misses = [] := by
      unfold misses
      rw [show desk.advance.isDead = false from halive]
      split <;> rfl
    simp [Measures.keeper, Measures.extend, hnow, hnone]
  | _ => exact hnone

/-- While the consumer does not fail, no size is missed. -/
theorem missed_of_unfailing {surfaces : List Surface} {id : Nat} {acts : List Act}
    (hunfailing : (opened surfaces id).Unfailing acts) :
    (Measures.keeper.onRun surfaces id acts).missed = [] := by
  let kept (_ : Desk) (measures : Measures) : Prop := measures.missed = []
  show kept ((opened surfaces id).run acts) (Measures.keeper.onRun surfaces id acts)
  refine Observer.unfailing_keeps (fun desk deed measures _ halive hnone => ?_) hunfailing rfl
  exact missed_note halive hnone

/-- In every run a pixel buffer gets at most one size, and none if it had one before: the size of the frame that is
then the next to be given to a surface. Every frame that is given to a surface or counted as rendered finds the
pixel buffer with a size, unless the consumer failed under the same binding when it was about to give it one; and
without a failure none is missed. -/
theorem sized_once (surfaces : List Surface) (id : Nat) (acts : List Act) :
    let scene := Scene.ofSurfaces surfaces
    let desk := (opened surfaces id).run acts
    let measures := Measures.keeper.onRun surfaces id acts
    (∀ place,
      (scene.bufferSize? place).toList ++ measures.sizes place =
        (desk.scene.bufferSize? place).toList ∧
      (measures.sizes place).length ≤ 1 ∧
      ((scene.bufferSize? place).isSome = true → measures.sizes place = [])) ∧
    (∀ fitting ∈ measures.fittings, fitting.next = some fitting.showing.envelope) ∧
    (∀ place, desk.scene.given[place]? =
      scene.given[place]?.map (· ++ Showing.at place (measures.given.map Sight.showing))) ∧
    measures.rendered.length = desk.presenter.renderer.tally.rendered ∧
    (∀ sight ∈ measures.given ++ measures.rendered,
      sight.size.isSome = true ∨ sight.showing.bond ∈ measures.missed) ∧
    ((opened surfaces id).Unfailing acts → measures.missed = []) := by
  have hfitted := fitted_run surfaces id acts
  refine ⟨fun place => ?_, hfitted.ahead, hfitted.told, hfitted.counted, hfitted.seen,
    missed_of_unfailing⟩
  have hsizes := hfitted.sizes place
  have hlength := congrArg List.length hsizes
  have hone : ((((opened surfaces id).run acts).scene.bufferSize? place).toList).length ≤ 1 :=
    Option.length_toList_le
  rw [List.length_append] at hlength
  refine ⟨hsizes, by omega, fun hpreset => ?_⟩
  obtain ⟨size, hsize⟩ := Option.isSome_iff_exists.1 hpreset
  have hfirst : ((Scene.ofSurfaces surfaces).bufferSize? place).toList.length = 1 := by simp [hsize]
  exact List.length_eq_zero_iff.1 (by omega)

/-- Two frames come to a surface that has no size yet. -/
def sizedFresh : List Act :=
  let frame (mark : Nat) (size : Size) : SharedFrame := ⟨mark, ⟨#[], size, .rgba, 0⟩⟩
  [.setState .paused, .bind 0, .submit (frame 1 ⟨2, 3⟩), .submit (frame 2 ⟨5, 5⟩)] ++
    List.replicate 12 .advance

theorem sized_once_fresh :
    let desk := (opened [.new ⟨"opengl", true, false, false, false, none⟩ none] 0).run sizedFresh
    let measures := Measures.keeper.onRun [.new ⟨"opengl", true, false, false, false, none⟩ none] 0
      sizedFresh
    desk.presenter.renderer.tally.rendered = 2 ∧ desk.scene.bufferSize? 0 = some ⟨2, 3⟩ ∧
      measures.sizes 0 = [⟨2, 3⟩] ∧ measures.missed = [] ∧
      ∀ sight ∈ measures.rendered, sight.size.isSome = true := by
  obtain ⟨hsizes, _, _, _, hseen, hmissed⟩ :=
    sized_once [.new ⟨"opengl", true, false, false, false, none⟩ none] 0 sizedFresh
  have hsize : ((opened [.new ⟨"opengl", true, false, false, false, none⟩ none] 0).run
      sizedFresh).scene.bufferSize? 0 = some ⟨2, 3⟩ := by decide +kernel
  have hnone := hmissed (by decide +kernel)
  have hgot := (hsizes 0).1
  rw [hsize] at hgot
  refine ⟨by decide +kernel, hsize, hgot, hnone, fun sight hsight => ?_⟩
  rcases hseen sight (List.mem_append_right _ hsight) with hsome | hlost
  · exact hsome
  · rw [hnone] at hlost
    cases hlost

/-- The consumer fails when the first frame is about to give the pixel buffer its size; the next frame comes back, and
the one after it goes to a new consumer. -/
def sizeMissed : List Act :=
  let frame (mark : Nat) : SharedFrame := ⟨mark, ⟨#[], ⟨1, 1⟩, .rgba, 0⟩⟩
  [.setState .paused, .bind 0, .arm (some ⟨0, .size⟩), .submit (frame 1)] ++
    List.replicate 5 .advance ++ [.submit (frame 2), .submit (frame 3)] ++
    List.replicate 5 .advance

/-- A frame is rendered on a surface whose pixel buffer has no size. -/
theorem rendered_unsized :
    let desk := (opened [.new ⟨"opengl", true, false, false, false, none⟩ none] 0).run sizeMissed
    let measures := Measures.keeper.onRun [.new ⟨"opengl", true, false, false, false, none⟩ none] 0
      sizeMissed
    desk.presenter.renderer.tally.rendered = 1 ∧ desk.scene.boundSurface? desk.owner = some 0 ∧
      desk.scene.given.map (·.map SharedFrame.mark) = [[3]] ∧ desk.scene.bufferSize? 0 = none ∧
      measures.missed = [⟨2, 0⟩] := by
  decide +kernel

end Desk

end FramePath

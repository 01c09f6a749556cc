import FramePath.Proofs.Sink.Run

/-!
# A memory sink and its lifecycle

Frames are to flow from the paused state upwards, and what leaves those states gives the scratch memory back.
`Orderly` says that a run keeps to this: no picture is handed over below the paused state, and after a teardown
nothing is allocated before that state is entered again. A memory sink does not look at its run state when a frame
comes, so a run keeps to this if its frames come in time (`orderly_if_timely`), and a frame that comes after a teardown
may break it (`rendered_below_paused`).
-/

namespace FramePath

namespace Sink.Memory

variable {sink : Memory}

/-- Whether an act is a frame. -/
def Act.isFrame : Act → Bool
  | .render .. => true
  | _ => false

/-- Whether a picture was handed over in a step. -/
def handsOver (step : Machine.Step Memory Act Pipeline.Reply) : Bool :=
  match step.reply with
  | .fed (.ok (.rendered _)) => true
  | _ => false

/-- Whether a frame was taken up in a step, so that it was given canvases. -/
def takesUp (step : Machine.Step Memory Act Pipeline.Reply) : Bool :=
  match step.reply with
  | .fed (.ok _) => true
  | _ => false

/-- A frame comes only while frames may be shown. -/
def Timely (step : Machine.Step Memory Act Pipeline.Reply) : Prop :=
  step.act.isFrame = true → step.before.state.canRender = true

instance (step : Machine.Step Memory Act Pipeline.Reply) : Decidable (Timely step) :=
  inferInstanceAs (Decidable (_ → _))

/-- A run keeps to the lifecycle: below the paused state no picture is handed over, and from a teardown on there are
no canvases until that state is entered again. -/
structure Orderly (sink : Memory) (acts : List Act) : Prop where
  quiet : ∀ step ∈ machine.steps acts sink, step.before.state.canRender = false → handsOver step = false
  released : ∀ before transition since rest, acts = before ++ .move transition :: (since ++ rest) →
    transition.isTeardown = true →
    let torn := (sink.run before).move transition
    (∀ step ∈ machine.steps since torn, step.after.state.canRender = false) →
      (torn.run since).pipeline.scratch.canvases = none

/-- A frame leaves the run state, and its pipeline as the pipeline does. -/
theorem step_render (sink : Memory) (frame : Frame) (meanwhile : List Geometry.Change) :
    machine.step sink (.render frame meanwhile) =
      ⟨sink, .render frame meanwhile, .fed (sink.pipeline.feedAmid meanwhile frame).1,
        ⟨(sink.pipeline.feedAmid meanwhile frame).2, sink.state⟩⟩ := rfl

/-- What a step can do to the consumer in place and to the canvases. Either a frame is taken up, and its picture is
handed over or not; or no frame is, and then canvases are kept or given back, and another consumer is put in place at
most. -/
theorem step_cases (hready : sink.pipeline.Ready) (act : Act) :
    let step := machine.step sink act
    let after := step.after.pipeline
    (act.isFrame = true ∧ takesUp step = true ∧
      ((handsOver step = true ∧ ∃ picture, after.consumer = (sink.pipeline.consumer.take picture).2) ∨
        (handsOver step = false ∧ after.consumer = sink.pipeline.consumer))) ∨
    (handsOver step = false ∧
      (after.scratch.canvases = sink.pipeline.scratch.canvases ∨ after.scratch.canvases = none) ∧
      ((∃ consumer, act = .attach consumer) ∨ after.consumer = sink.pipeline.consumer)) := by
  dsimp only
  cases act with
  | negotiate description =>
    obtain ⟨_, _, hnegotiated⟩ := Pipeline.act_negotiate_rest description sink.pipeline
    have hpipeline := (sink.pipeline_act (.negotiate description)).trans hnegotiated
    exact .inr ⟨rfl, .inl (congrArg (·.scratch.canvases) hpipeline), .inr (congrArg (·.consumer) hpipeline)⟩
  | change change => exact .inr ⟨rfl, .inl rfl, .inr rfl⟩
  | attach consumer => exact .inr ⟨rfl, .inl rfl, .inl ⟨consumer, rfl⟩⟩
  | move transition => cases transition <;> exact .inr ⟨rfl, by first | exact .inl rfl | exact .inr rfl, .inr rfl⟩
  | tighten limit => exact .inr ⟨rfl, .inl rfl, .inr rfl⟩
  | render frame meanwhile =>
    have hfed := hready.fed meanwhile frame
    rw [step_render]
    generalize (sink.pipeline.feedAmid meanwhile frame).1 = result,
      (sink.pipeline.feedAmid meanwhile frame).2 = after at hfed
    cases hfed with
    | halted =>
      rw [Pipeline.changeAll_eq]
      exact .inr ⟨rfl, .inl rfl, .inr rfl⟩
    | notNegotiated =>
      rw [Pipeline.changeAll_eq]
      exact .inr ⟨rfl, .inl rfl, .inr rfl⟩
    | admitted _ _ _ _ _ hperformed =>
      cases hperformed with
      | refused => exact .inr ⟨rfl, .inr rfl, .inr rfl⟩
      | skipped => exact .inl ⟨rfl, rfl, .inr ⟨rfl, rfl⟩⟩
      | rendered _ _ _ picture => exact .inl ⟨rfl, rfl, .inl ⟨rfl, picture, rfl⟩⟩

/-- Only a frame hands over a picture, one to the consumer in place, and only another consumer changes it otherwise. -/
theorem consumer_step (hready : sink.pipeline.Ready) (act : Act) :
    let step := machine.step sink act
    (handsOver step = true ∧ act.isFrame = true ∧ ∃ picture,
      step.after.pipeline.consumer = (sink.pipeline.consumer.take picture).2) ∨
    (handsOver step = false ∧
      ((∃ consumer, act = .attach consumer) ∨ step.after.pipeline.consumer = sink.pipeline.consumer)) := by
  rcases step_cases hready act with ⟨hframe, _, ⟨hgiven, hpicture⟩ | ⟨hkept, hsame⟩⟩ | ⟨hkept, _, hsame⟩
  · exact .inl ⟨hgiven, hframe, hpicture⟩
  · exact .inr ⟨hkept, .inr hsame⟩
  · exact .inr ⟨hkept, hsame⟩

/-- Only a frame that is taken up brings canvases where there are none. -/
theorem canvases_step (hready : sink.pipeline.Ready) (hnone : sink.pipeline.scratch.canvases = none) (act : Act) :
    let step := machine.step sink act
    step.after.pipeline.scratch.canvases = none ∨ act.isFrame = true ∧ takesUp step = true := by
  rcases step_cases hready act with ⟨hframe, htaken, _⟩ | ⟨_, hsame | hreleased, _⟩
  · exact .inr ⟨hframe, htaken⟩
  · exact .inl (hsame.trans hnone)
  · exact .inl hreleased

/-- Only a frame hands over a picture, whatever the state of the sink. -/
theorem isFrame_of_handsOver {step : Machine.Step Memory Act Pipeline.Reply} {acts : List Act}
    (hmem : step ∈ machine.steps acts sink) (hgiven : handsOver step = true) : step.act.isFrame = true := by
  obtain ⟨_, _, _, hstep⟩ := Machine.exists_of_mem_steps hmem
  rw [hstep] at hgiven
  generalize step.act = act at hgiven
  cases act with
  | render frame meanwhile => rfl
  | _ => cases hgiven

/-- Where there are no canvases, there are none after a run in which no frame is taken up. -/
theorem canvases_run (hready : sink.pipeline.Ready) (hnone : sink.pipeline.scratch.canvases = none)
    (acts : List Act) :
    (sink.run acts).pipeline.scratch.canvases = none ∨
      ∃ step ∈ machine.steps acts sink, step.act.isFrame = true ∧ takesUp step = true := by
  induction acts generalizing sink with
  | nil => exact .inl hnone
  | cons act acts ih =>
    rcases canvases_step hready hnone act with hstill | htaken
    · rcases ih (ready_act hready act) hstill with hlater | ⟨step, hmem, htaken⟩
      · exact .inl hlater
      · exact .inr ⟨step, List.mem_cons_of_mem _ hmem, htaken⟩
    · exact .inr ⟨_, List.mem_cons_self, htaken⟩

/-- A run that starts below the paused state and never enters it finds the sink below it in every step. -/
theorem below_before (hbelow : sink.state.canRender = false) {acts : List Act}
    (hstays : ∀ step ∈ machine.steps acts sink, step.after.state.canRender = false) :
    ∀ step ∈ machine.steps acts sink, step.before.state.canRender = false := by
  induction acts generalizing sink with
  | nil => exact fun _ hmem => absurd hmem List.not_mem_nil
  | cons act acts ih =>
    have hnext : (sink.act act).state.canRender = false := hstays _ List.mem_cons_self
    intro step hmem
    rcases List.mem_cons.1 hmem with rfl | hmem
    · exact hbelow
    · exact ih hnext (fun other hother => hstays other (List.mem_cons_of_mem _ hother)) step hmem

/-- After a teardown there are no canvases, unless a frame is taken up later. -/
theorem canvases_torn (hready : sink.pipeline.Ready) {transition : Transition}
    (hteardown : transition.isTeardown = true) (since : List Act) :
    ((sink.move transition).run since).pipeline.scratch.canvases = none ∨
      ∃ step ∈ machine.steps since (sink.move transition), step.act.isFrame = true ∧ takesUp step = true := by
  have hreleased : (sink.move transition).pipeline.scratch.canvases = none := by
    unfold move
    rw [if_pos hteardown]
    rfl
  exact canvases_run (ready_act hready (.move transition)) hreleased since

/-- A run keeps to the lifecycle if its frames come only while frames may be shown. -/
theorem orderly_if_timely (hready : sink.pipeline.Ready) {acts : List Act}
    (htimely : ∀ step ∈ machine.steps acts sink, Timely step) : Orderly sink acts where
  quiet := by
    intro step hmem hbelow
    by_contra hgiven
    have hframe := isFrame_of_handsOver hmem (eq_true_of_ne_false hgiven)
    exact absurd (htimely step hmem hframe) (by rw [hbelow]; decide)
  released := by
    intro before transition since rest hacts hteardown torn hstays
    have hready : (sink.run before).pipeline.Ready := by
      rw [pipeline_run]
      exact hready.run _
    rcases canvases_torn hready hteardown since with hnone | ⟨step, hmem, hframe, _⟩
    · exact hnone
    · -- The frame came while the sink was below the paused state, so it was not timely.
      have hbelow := below_before (Transition.canRender_of_isTeardown hteardown) hstays step hmem
      have hrun : step ∈ machine.steps acts sink := by
        rw [hacts, Machine.steps_append]
        refine List.mem_append_right _ (List.mem_cons_of_mem _ ?_)
        rw [Machine.steps_append]
        exact List.mem_append_left _ hmem
      exact absurd (htimely step hrun hframe) (by rw [hbelow]; decide)

/-- In every reachable state of a memory sink, whatever its run state: only a frame hands over a picture, to the
consumer in place, and after a teardown there are no canvases until a frame is taken up. So a run keeps to the lifecycle
if its frames come only from the paused state upwards. -/
theorem lifecycle_of_timely_frames (limit : Nat) (request : Request) (consumer : Consumer) (acts : List Act) :
    let sink := (new limit request consumer).run acts
    (∀ act, let step := machine.step sink act
      (handsOver step = true ∧ act.isFrame = true ∧ ∃ picture,
        step.after.pipeline.consumer = (sink.pipeline.consumer.take picture).2) ∨
      (handsOver step = false ∧
        ((∃ consumer, act = .attach consumer) ∨ step.after.pipeline.consumer = sink.pipeline.consumer))) ∧
    (∀ transition since, transition.isTeardown = true →
      ((sink.move transition).run since).pipeline.scratch.canvases = none ∨
        ∃ step ∈ machine.steps since (sink.move transition), step.act.isFrame = true ∧ takesUp step = true) ∧
    ((∀ step ∈ machine.steps acts (new limit request consumer), Timely step) →
      Orderly (new limit request consumer) acts) := by
  have hready := ready_run limit request consumer acts
  exact ⟨consumer_step hready, fun _ since hteardown => canvases_torn hready hteardown since,
    orderly_if_timely (ready_run limit request consumer [])⟩

/-- A frame is rendered in the paused state, the sink is torn down, and it is started again before the next frame. -/
def twoRounds : List Act :=
  [.negotiate ⟨PixelFormat.rgba.code, ⟨1, 1⟩⟩, .move .nullToReady, .move .readyToPaused,
    .render ⟨#[1, 2, 3, 4], ⟨1, 1⟩, .rgba, 0⟩ [], .move .pausedToReady, .change (.angle 90), .move .readyToPaused,
    .render ⟨#[5, 6, 7, 8], ⟨1, 1⟩, .rgba, 1⟩ []]

theorem lifecycle_of_timely_frames_two_rounds :
    let sink := new 64 .default (.listener (fun _ => true) [])
    let torn := (sink.run (twoRounds.take 4)).move .pausedToReady
    Orderly sink twoRounds ∧ (sink.run (twoRounds.take 4)).pipeline.scratch.canvases ≠ none ∧
      (torn.run [.change (.angle 90)]).pipeline.scratch.canvases = none ∧
      (sink.run twoRounds).pipeline.tally = ⟨2, 0, 2⟩ := by
  obtain ⟨-, -, horderly⟩ := lifecycle_of_timely_frames 64 .default (.listener (fun _ => true) []) twoRounds
  replace horderly := horderly (by decide +kernel)
  have hreleased := horderly.released (twoRounds.take 4) .pausedToReady [.change (.angle 90)] (twoRounds.drop 6)
    rfl rfl (by decide +kernel)
  exact ⟨horderly, by decide +kernel, hreleased, by decide +kernel⟩

/-- A frame is rendered in the paused state, and another one after the teardown. -/
def afterTeardown : List Act :=
  [.negotiate ⟨PixelFormat.rgba.code, ⟨1, 1⟩⟩, .move .nullToReady, .move .readyToPaused,
    .render ⟨#[1, 2, 3, 4], ⟨1, 1⟩, .rgba, 0⟩ [], .move .pausedToReady,
    .render ⟨#[5, 6, 7, 8], ⟨1, 1⟩, .rgba, 1⟩ []]

/-- The frame after the teardown is handed over in the ready state, and brings canvases back. -/
theorem rendered_below_paused :
    let sink := new 64 .default (.listener (fun _ => true) [])
    let ready := sink.run (afterTeardown.take 5)
    let after := sink.run afterTeardown
    ready.state = .ready ∧ ready.pipeline.scratch.canvases = none ∧ ready.pipeline.consumer.received.length = 1 ∧
      after.state = .ready ∧ after.pipeline.scratch.canvases ≠ none ∧
      after.pipeline.consumer.received.length = 2 ∧ ¬ Orderly sink afterTeardown := by
  refine ⟨by decide +kernel, by decide +kernel, by decide +kernel, by decide +kernel, by decide +kernel,
    by decide +kernel, fun horderly => ?_⟩
  have hquiet : ∀ step ∈ machine.steps afterTeardown (new 64 .default (.listener (fun _ => true) [])),
      step.before.state.canRender = false → handsOver step = false := horderly.quiet
  exact absurd hquiet (by decide +kernel)

end Sink.Memory

end FramePath

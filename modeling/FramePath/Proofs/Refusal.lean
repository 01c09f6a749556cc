import FramePath.Proofs.Embedding
import FramePath.Proofs.Sink.Station

/-!
# What is refused leaves no trace

A memory sink, a handle and a display sink refuse a stream, a frame, a surface or a call before they touch anything. A
refusal leaves the state that it finds (`Sink.Memory.refused_act`, `Embedding.Handle.InStep.refused_act`,
`Sink.Station.refused_act`), so it can be left out of a run, which is otherwise the same step by step
(`Machine.Idle.heeded`). There are two failures that leave a trace: canvases that are not granted halt a sink, and an
envelope that no consumer takes is counted, and closes the mailbox of one that has failed.
-/

namespace FramePath

namespace Pipeline

/-- Why an act was refused, if it was. -/
def Reply.refusal? : Reply → Option FrameError
  | agreed (.error cause) | fed (.error cause) => some cause
  | _ => none

/-- Agree on a stream step by step: its format and its size are looked at before the format is set, and then the
source. -/
def agreeing (description : StreamDescription) : ExceptT FrameError (StateM Pipeline) Unit := do
  match description.format? with
  | none => throw (.unsupportedFormat description.code)
  | some format =>
    if description.size.isEmpty then throw (.invalidGeometry description.size)
    modify fun pipeline => { pipeline with format := some format }
    modify fun pipeline => { pipeline with geometry := pipeline.geometry.setSource description.size }

/-- Step by step it comes to the same, and a refusal comes before the first step that sets anything. -/
theorem run_agreeing (description : StreamDescription) (pipeline : Pipeline) :
    (agreeing description).run.run pipeline =
      match pipeline.negotiate description with
      | .ok after => (.ok (), after)
      | .error cause => (.error cause, pipeline) := by
  unfold agreeing Pipeline.negotiate
  cases description.format? with
  | none => rfl
  | some format =>
    cases description.size.isEmpty <;> rfl

end Pipeline

namespace Sink.Memory

variable {sink : Memory}

/-- The changes that come in during an act. -/
def Act.meanwhile : Act → List Geometry.Change
  | .render _ meanwhile => meanwhile
  | _ => []

/-- What a refusal leaves of a memory sink: what it finds, but for the changes that come in meanwhile. Only canvases
that are not granted to a frame halt the sink, which has none then. -/
def Refused (sink : Memory) (act : Act) (after : Memory) : FrameError → Prop
  | .allocationFailed _ _ => ∃ frame meanwhile, act = .render frame meanwhile ∧
      sink.pipeline.halted = false ∧
      after = { sink with pipeline := { sink.pipeline with
        geometry := sink.pipeline.geometry.settled.applyAll meanwhile
        scratch := sink.pipeline.scratch.release
        halted := true } }
  | _ => after = sink.run (act.meanwhile.map .change)

/-- Whether a step was refused, not for want of canvases, while nothing else came in. -/
def isIdle (step : Machine.Step Memory Act Pipeline.Reply) : Bool :=
  match step.reply.refusal? with
  | none | some (.allocationFailed _ _) => false
  | some _ => step.act.meanwhile.isEmpty

/-- Changes come to the pipeline one after another. -/
theorem run_changes (changes : List Geometry.Change) (sink : Memory) :
    sink.run (changes.map .change) = { sink with pipeline := sink.pipeline.changeAll changes } := by
  induction changes generalizing sink with
  | nil => rfl
  | cons change changes ih => exact ih (sink.change change)

/-- What a refusal of a memory sink leaves. -/
theorem refused_act (hready : sink.pipeline.Ready) {act : Act} {cause : FrameError}
    (hrefused : (sink.reply act).refusal? = some cause) : sink.Refused act (sink.act act) cause := by
  cases act with
  | negotiate description =>
    simp only [reply, Memory.act, negotiate, Pipeline.negotiate] at hrefused ⊢
    cases hformat : description.format? with
    | none =>
      rw [hformat] at hrefused
      cases hrefused
      rfl
    | some format =>
      cases hempty : description.size.isEmpty with
      | true =>
        rw [hformat, hempty] at hrefused
        cases hrefused
        rfl
      | false =>
        rw [hformat, hempty] at hrefused
        cases hrefused
  | render frame meanwhile =>
    have hfed := hready.fed meanwhile frame
    have hchanges := run_changes meanwhile sink
    change (Pipeline.Reply.fed (sink.pipeline.feedAmid meanwhile frame).1).refusal? = some cause at hrefused
    change sink.Refused _ { sink with pipeline := (sink.pipeline.feedAmid meanwhile frame).2 } cause
    generalize (sink.pipeline.feedAmid meanwhile frame).1 = result,
      (sink.pipeline.feedAmid meanwhile frame).2 = after at hfed hrefused ⊢
    cases hfed with
    | halted =>
      cases hrefused
      exact hchanges.symm
    | notNegotiated =>
      cases hrefused
      exact hchanges.symm
    | admitted _ _ _ hgoing _ hperformed =>
      cases hperformed with
      | refused =>
        cases hrefused
        exact ⟨frame, meanwhile, rfl, hgoing, rfl⟩
      | skipped => cases hrefused
      | rendered => cases hrefused
  | _ => cases hrefused

/-- A refusal that is not for want of canvases leaves a memory sink as it is. -/
theorem idle : machine.Idle (·.pipeline.Ready) isIdle := by
  intro sink act hready hidle
  unfold isIdle at hidle
  cases hrefusal : (machine.step sink act).reply.refusal? with
  | none =>
    rw [hrefusal] at hidle
    cases hidle
  | some cause =>
    have hrefused := refused_act hready hrefusal
    rw [hrefusal] at hidle
    cases cause with
    | allocationFailed => cases hidle
    | _ =>
      have halone : act.meanwhile = [] := List.isEmpty_iff.1 hidle
      refine Eq.trans hrefused ?_
      rw [halone]
      rfl

end Sink.Memory

namespace Embedding

/-- Whether the reply to an order says that it was refused. -/
def Order.isRefused (reply : Reply) : Order → Bool
  | negotiate _ | move _ =>
    match reply with
    | .status number => number == doneStatus false
    | _ => false
  | push .. =>
    match reply with
    | .status number => number == errorStatus
    | _ => false
  | report _ =>
    match reply with
    | .numbers number _ => number == doneStatus false
    | _ => false
  | attach _ | setOutputSize _ | setAngle _ => false

/-- Whether an event was a call that was refused. -/
def Event.isRefused (reply : Reply) : Event → Bool
  | call order _ => order.isRefused reply
  | _ => false

namespace Handle

variable {handle : Handle}

/-- What a refusal leaves of a handle: what it finds, unless canvases are not granted to a payload that was pushed. -/
def Refused (handle : Handle) (event : Event) (after : Handle) : Prop :=
  after = handle ∨ ∃ payload timestamp frame canvas bytes, event = .call (.push (some payload) timestamp) true ∧
    after.remembered = handle.remembered ∧
    handle.sink.Refused (.render frame []) after.sink (.allocationFailed canvas bytes)

/-- Whether a step was a call that was refused without halting the sink. -/
def isIdle (step : Machine.Step Handle Event Reply) : Bool :=
  step.act.isRefused step.reply &&
    step.after.sink.pipeline.halted == step.before.sink.pipeline.halted

/-- What a payload that is refused leaves of a handle. -/
theorem InStep.left_by_push (hinstep : handle.InStep) {payload : Bytes} {timestamp : Nat}
    (hrefused : (Embedding.push (some payload) timestamp (some handle)).1 = errorStatus) :
    ∃ after, (Embedding.push (some payload) timestamp (some handle)).2 = some after ∧
      handle.Refused (.call (.push (some payload) timestamp) true) after := by
  simp only [Embedding.push] at hrefused ⊢
  split at hrefused
  · exact ⟨handle, rfl, .inl rfl⟩
  · rename_i frame _
    have hrender := Sink.Memory.renderAmid_nil frame handle.sink
    cases hresult : (handle.sink.render frame).1 with
    | ok outcome =>
      dsimp only at hrefused
      rw [hresult] at hrefused
      cases outcome <;> cases hrefused
    | error cause =>
      have hreply : (handle.sink.reply (.render frame [])).refusal? = some cause := by
        show (Pipeline.Reply.fed (handle.sink.renderAmid [] frame).1).refusal? = some cause
        rw [hrender, hresult]
        rfl
      have hleft := Sink.Memory.refused_act hinstep.ready hreply
      rw [show handle.sink.act (.render frame []) = (handle.sink.render frame).2 from
        congrArg Prod.snd hrender] at hleft
      refine ⟨_, rfl, ?_⟩
      cases cause with
      | allocationFailed canvas bytes =>
        exact .inr ⟨payload, timestamp, frame, canvas, bytes, rfl, rfl, hleft⟩
      | _ =>
        refine .inl ?_
        rw [show (handle.sink.render frame).2 = handle.sink from hleft]

/-- What a refusal of a handle leaves. -/
theorem InStep.refused_act (hinstep : handle.InStep) {event : Event}
    (hrefused : event.isRefused (handle.act event).1 = true) : handle.Refused event (handle.act event).2 := by
  cases event with
  | tighten => cases hrefused
  | answer => cases hrefused
  | call order hasHandle =>
    cases hasHandle with
    | false => exact .inl rfl
    | true =>
      cases order with
      | attach => cases hrefused
      | setOutputSize => cases hrefused
      | setAngle => cases hrefused
      | report => exact .inl rfl
      | negotiate description =>
        simp only [Handle.act, Order.call, Embedding.negotiate] at hrefused ⊢
        cases hresult : handle.sink.negotiate description with
        | error cause => exact .inl rfl
        | ok sink =>
          rw [hresult] at hrefused
          cases hrefused
      | move number =>
        simp only [Handle.act, Order.call, Embedding.move] at hrefused ⊢
        cases hresult : Transition.ofNumber? number with
        | none => exact .inl rfl
        | some transition =>
          rw [hresult] at hrefused
          cases hrefused
      | push payload timestamp =>
        cases payload with
        | none => exact .inl rfl
        | some payload =>
          have hstatus : (Embedding.push (some payload) timestamp (some handle)).1 = errorStatus :=
            eq_of_beq hrefused
          obtain ⟨after, hafter, hleft⟩ := hinstep.left_by_push hstatus
          simp only [Handle.act, Order.call, Prod.map_snd, hafter]
          exact hleft

/-- A refusal that does not halt the sink leaves a handle as it is. -/
theorem idle : machine.Idle InStep isIdle := by
  intro handle event hinstep hidle
  obtain ⟨hrefused, hhalted⟩ := Bool.and_eq_true_iff.1 hidle
  rcases hinstep.refused_act hrefused with hsame | ⟨_, _, _, _, _, _, _, _, _, _, hgoing, hafter⟩
  · exact hsame
  · -- Canvases that are not granted halt a sink that was not halted.
    replace hhalted : (handle.act event).2.sink.pipeline.halted = handle.sink.pipeline.halted :=
      eq_of_beq hhalted
    rw [hafter, hgoing] at hhalted
    cases hhalted

end Handle

end Embedding

/-- Agree on a stream of packed frames step by step: all is looked at before the stream is set. -/
def Sink.Display.agreeing (description : StreamDescription) : ExceptT DisplayError (StateM Sink.Display) Unit := do
  match description.format? with
  | none => throw (.frame (.unsupportedFormat description.code))
  | some format =>
    if format.isPlanar then throw (.unsupportedFormat format)
    if description.size.isEmpty then throw (.frame (.invalidGeometry description.size))
    modify fun sink => { sink with description := some description }

/-- Step by step it comes to the same, and a refusal comes before the stream is set. -/
theorem Sink.Display.run_agreeing (description : StreamDescription) (sink : Sink.Display) :
    (agreeing description).run.run sink =
      match sink.negotiate description with
      | .ok after => (.ok (), after)
      | .error cause => (.error cause, sink) := by
  unfold agreeing negotiate
  cases description.format? with
  | none => rfl
  | some format =>
    dsimp only
    cases format.isPlanar with
    | true => rfl
    | false => cases description.size.isEmpty <;> rfl

namespace Sink.Station

variable {station : Station}

/-- Whether a reply is a refusal. -/
def Reply.isRefused : Reply → Bool
  | done (.error _) | admitted (.error _) => true
  | _ => false

/-- A refusal leaves a display sink, its presenter and all surfaces as they are. -/
theorem refused_act {act : Act} (hrefused : (station.reply act).isRefused = true) : station.act act = station := by
  cases act with
  | setSurface surface unbound bound =>
    cases surface with
    | none => cases hrefused
    | some surface =>
      have hbind := station.desk.bind_cases unbound bound surface
      change (Reply.done (station.desk.bindAmid unbound bound surface).1).isRefused = true at hrefused
      show (⟨(station.desk.bindAmid unbound bound surface).2.scene,
        { station.sink with
          presenter := (station.desk.bindAmid unbound bound surface).2.presenter }⟩ : Station) = station
      rcases hbind with hleft | ⟨_, _, hbound⟩
      · rw [hleft]
        rfl
      · rw [hbound] at hrefused
        cases hrefused
  | negotiate description =>
    simp only [reply, Station.act] at hrefused ⊢
    cases hresult : station.sink.negotiate description with
    | error cause => rfl
    | ok sink =>
      rw [hresult] at hrefused
      cases hrefused
  | render frame =>
    simp only [reply, Station.act, Display.render] at hrefused ⊢
    cases hresult : station.sink.check frame.frame with
    | error cause => rfl
    | ok =>
      rw [hresult] at hrefused
      cases hrefused
  | _ => cases hrefused

/-- So its refusals can be left out. -/
theorem idle : machine.Idle (fun _ => True) fun step => step.reply.isRefused :=
  fun _ _ _ hrefused => refused_act hrefused

end Sink.Station

/-- A send fails only if the consumer has failed, and then the mailbox is closed, or if the host refuses to start
one. -/
theorem Desk.failed_send {desk : Desk} {envelope : Envelope} (hfailed : (desk.send envelope).1 = false) :
    desk.isDeaf = true ∧ (desk.send envelope).2 = desk.bouncing envelope := by
  cases hdeaf : desk.isDeaf with
  | false =>
    rw [send_of_hearing envelope hdeaf] at hfailed
    cases hfailed
  | true => exact ⟨rfl, by rw [send_of_deaf envelope hdeaf]⟩

/-- In every reachable state of a memory sink, a handle and a display sink, wherever its consumer stands, what is
refused leaves the state as it is, but for the changes that come in during a frame, and can be left out of a run,
which is otherwise the same step by step. A stream is refused before the first step that sets anything. Only canvases
that are not granted to a frame halt a sink and give back those it has. Only a send fails for which there is no consumer
to be had: the envelope is dropped and counted, and the mailbox of a consumer that has failed is closed. -/
theorem refusals_leave_no_trace :
    (∀ limit request consumer acts,
      let created := Sink.Memory.new limit request consumer
      let sink := created.run acts
      let heeded := Sink.Memory.machine.heeded Sink.Memory.isIdle acts created
      (∀ act cause, (sink.reply act).refusal? = some cause → sink.Refused act (sink.act act) cause) ∧
      (∀ description cause after,
        (Pipeline.agreeing description).run.run sink.pipeline = (.error cause, after) → after = sink.pipeline) ∧
      Sink.Memory.machine.run heeded created = sink ∧
      Sink.Memory.machine.steps heeded created =
        (Sink.Memory.machine.steps acts created).filter fun step => !Sink.Memory.isIdle step) ∧
    (∀ limit request consumer events,
      let created := Embedding.Handle.create limit request consumer
      let handle := created.run events
      let heeded := Embedding.Handle.machine.heeded Embedding.Handle.isIdle events created
      (∀ event : Embedding.Event, event.isRefused (handle.act event).1 = true →
        handle.Refused event (handle.act event).2) ∧
      Embedding.Handle.machine.run heeded created = handle ∧
      Embedding.Handle.machine.steps heeded created =
        (Embedding.Handle.machine.steps events created).filter fun step => !Embedding.Handle.isIdle step) ∧
    (∀ surfaces setup acts,
      let opened := Sink.Station.opened surfaces setup
      let station := opened.run acts
      let heeded := Sink.Station.machine.heeded (·.reply.isRefused) acts opened
      (∀ act, (station.reply act).isRefused = true → station.act act = station) ∧
      (∀ description cause after,
        (Sink.Display.agreeing description).run.run station.sink = (.error cause, after) → after = station.sink) ∧
      (∀ envelope, (station.desk.send envelope).1 = false →
        station.desk.isDeaf = true ∧ (station.desk.send envelope).2 = station.desk.bouncing envelope) ∧
      Sink.Station.machine.run heeded opened = station ∧
      Sink.Station.machine.steps heeded opened =
        (Sink.Station.machine.steps acts opened).filter fun step => !step.reply.isRefused) := by
  refine ⟨?_, ?_, ?_⟩
  · intro limit request consumer acts
    have hcreated := Sink.Memory.ready_run limit request consumer []
    refine ⟨fun act cause => Sink.Memory.refused_act (Sink.Memory.ready_run limit request consumer acts), ?_,
      Sink.Memory.idle.heeded (fun _ act hready => Sink.Memory.ready_act hready act) acts hcreated⟩
    intro description cause after hrefused
    rw [Pipeline.run_agreeing] at hrefused
    split at hrefused
    · cases hrefused
    · exact (congrArg Prod.snd hrefused).symm
  · intro limit request consumer events
    have hcreated := Embedding.Handle.InStep.create limit request consumer
    exact ⟨fun event => (hcreated.run events).refused_act,
      Embedding.Handle.idle.heeded (fun _ event hinstep => (hinstep.act event).2.2) events hcreated⟩
  · intro surfaces setup acts
    refine ⟨fun act => Sink.Station.refused_act, ?_, fun envelope => Desk.failed_send,
      Sink.Station.idle.heeded (fun _ _ _ => trivial) acts trivial⟩
    intro description cause after hrefused
    rw [Sink.Display.run_agreeing] at hrefused
    split at hrefused
    · cases hrefused
    · exact (congrArg Prod.snd hrefused).symm

/-- A frame comes too early, two streams are refused, a frame is rendered, and after a change of the angle no canvases
are granted to the next one. -/
def narrowing : List Sink.Memory.Act :=
  [.render ⟨#[1, 2, 3, 4], ⟨1, 1⟩, .rgba, 0⟩ [], .negotiate ⟨6, ⟨1, 1⟩⟩, .negotiate ⟨99, ⟨1, 1⟩⟩,
    .negotiate ⟨6, ⟨0, 1⟩⟩, .render ⟨#[1, 2, 3, 4], ⟨1, 1⟩, .rgba, 1⟩ [], .change (.angle 90), .tighten 4,
    .render ⟨#[1, 2, 3, 4], ⟨1, 1⟩, .rgba, 2⟩ []]

theorem refusals_leave_no_trace_narrowing :
    let created := Sink.Memory.new 64 .default (.listener (fun _ => true) [])
    let early := created.run (narrowing.take 6)
    let sink := created.run narrowing
    let handle := (Embedding.Handle.create 64 none .absent).run Embedding.session
    let station := (Sink.Station.opened [.new ⟨"legacy", true, false, false, false, none⟩ (some ⟨1, 1⟩),
      .new ⟨"legacy", false, false, false, false, none⟩ none] .default).run Sink.Station.lendingSecond
    early.pipeline.geometry.dirty = true ∧ early.act (.negotiate ⟨2, ⟨0, 5⟩⟩) = early ∧
      sink.pipeline.halted = true ∧ sink.act (.render ⟨#[1, 2, 3, 4], ⟨1, 1⟩, .rgba, 3⟩ []) = sink ∧
      Sink.Memory.machine.run (Sink.Memory.machine.heeded Sink.Memory.isIdle narrowing created) created = sink ∧
      (Sink.Memory.machine.heeded Sink.Memory.isIdle narrowing created).length = 5 ∧
      handle.Refused (.call (.move 7) true) (handle.act (.call (.move 7) true)).2 ∧
      station.desk.presenter.mailbox.transport.queue.length = 1 ∧ station.act (.setSurface (some 1)) = station ∧
      station.act (.negotiate ⟨1, ⟨2, 2⟩⟩) = station ∧
      station.act (.render ⟨4, ⟨#[1], ⟨1, 1⟩, .rgba, 0⟩⟩) = station := by
  obtain ⟨hmemory, hhandle, hstation⟩ := refusals_leave_no_trace
  obtain ⟨hearly, -⟩ := hmemory 64 .default (.listener (fun _ => true) []) (narrowing.take 6)
  obtain ⟨hsink, -, hheeded, -⟩ := hmemory 64 .default (.listener (fun _ => true) []) narrowing
  obtain ⟨hhandle, -⟩ := hhandle 64 none .absent Embedding.session
  obtain ⟨hstation, -⟩ := hstation [.new ⟨"legacy", true, false, false, false, none⟩ (some ⟨1, 1⟩),
    .new ⟨"legacy", false, false, false, false, none⟩ none] .default Sink.Station.lendingSecond
  refine ⟨by decide +kernel, hearly _ (.invalidGeometry ⟨0, 5⟩) (by decide +kernel), by decide +kernel,
    hsink _ .halted (by decide +kernel), hheeded, by decide +kernel, hhandle _ (by decide +kernel),
    by decide +kernel, hstation _ (by decide +kernel), hstation _ (by decide +kernel),
    hstation _ (by decide +kernel)⟩

end FramePath

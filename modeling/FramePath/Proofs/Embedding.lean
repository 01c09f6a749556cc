import FramePath.Embedding
import FramePath.Proofs.Pipeline.Outcome
import FramePath.Proofs.Sink.Run

/-!
# The numeric interface does what a memory sink does

`Embedding.Event` is what can happen to a handle: any call of the host, with the handle or without one, and what the
host's memory and the listener do meanwhile. `Order.drive` says what each call is to a memory sink. A handle keeps the
stream description that its sink goes by (`InStep`), so that a payload without a header is read as the sink reads it:
from call to call, handle and sink give the same replies and come to the same state (`handle_drives_sink`).
-/

namespace FramePath

/-- What a listener answered when it was handed the last picture. -/
def Consumer.lastAnswer : Consumer → Bool
  | absent => false
  | listener answer received => answer received

/-- Only a change of the source changes the source. -/
theorem Geometry.source_apply {change : Change} (hother : ∀ size, change ≠ .source size)
    (geometry : Geometry) : (geometry.apply change).source = geometry.source := by
  cases change with
  | width value =>
    simp only [apply, setWidth]
    split <;> rfl
  | height value =>
    simp only [apply, setHeight]
    split <;> rfl
  | angle value =>
    simp only [apply, setAngle]
    split <;> rfl
  | source size => exact absurd rfl (hother size)
  | mark => rfl

/-- Canvases are obtained unless they are due and the host does not grant them. -/
theorem Scratch.isOk_obtain (scratch : Scratch) (geometry : Geometry) :
    (scratch.obtain geometry).1.isOk = true ↔
      (if geometry.dirty || !scratch.isAllocated then refusal? scratch.limit geometry else none) = none := by
  have hobtained := scratch.obtained geometry
  generalize scratch.obtain geometry = result at hobtained ⊢
  obtain ⟨result, after⟩ := result
  dsimp only at hobtained ⊢
  cases result with
  | error cause =>
    cases hobtained with
    | refused canvas bytes hdue hrefusal =>
      rw [if_pos hdue, hrefusal]
      simp [Except.isOk, Except.toBool]
  | ok canvases =>
    rw [hobtained.granted]
    simp [Except.isOk, Except.toBool]

namespace Pipeline

variable {pipeline : Pipeline}

/-- What a frame that no change meets can come to. -/
theorem Ready.fed_alone (hready : pipeline.Ready) (frame : Frame) :
    Fed pipeline [] frame (pipeline.feed frame).1 (pipeline.feed frame).2 := by
  rw [← feedAmid_nil]
  exact hready.fed [] frame

/-- A frame leaves the source and the format agreed on. -/
theorem Ready.agreed_feed (hready : pipeline.Ready) (frame : Frame) :
    (pipeline.feed frame).2.format = pipeline.format ∧
      (pipeline.feed frame).2.geometry.source = pipeline.geometry.source := by
  have hfed := hready.fed_alone frame
  refine ⟨hfed.same.1, ?_⟩
  generalize (pipeline.feed frame).1 = result, (pipeline.feed frame).2 = after at hfed
  cases hfed with
  | halted => rfl
  | notNegotiated => rfl
  | admitted format _ _ _ _ hperformed => cases hperformed <;> rfl

/-- A frame is refused while the pipeline is halted, before a stream is agreed on, and for want of canvases. -/
theorem Ready.refused_feed (hready : pipeline.Ready) (frame : Frame) :
    (pipeline.feed frame).1.isOk = false ↔
      pipeline.halted = true ∨ pipeline.format = none ∨
        (pipeline.scratch.obtain pipeline.geometry).1.isOk = false := by
  have hfed := hready.fed_alone frame
  have hobtain := pipeline.scratch.isOk_obtain pipeline.geometry
  generalize (pipeline.feed frame).1 = result, (pipeline.feed frame).2 = after at hfed ⊢
  cases hfed with
  | halted hhalted => simp [hhalted, Except.isOk, Except.toBool]
  | notNegotiated hgoing hnone => simp [hnone, Except.isOk, Except.toBool]
  | admitted format _ _ hgoing hformat hperformed =>
    rw [hgoing, hformat]
    cases hperformed with
    | refused canvas bytes hdue hrefusal =>
      have hlacking : (pipeline.scratch.obtain pipeline.geometry).1.isOk = false := by
        rw [← Bool.not_eq_true, hobtain, if_pos hdue]
        simp [show Scratch.refusal? pipeline.scratch.limit pipeline.geometry = _ from hrefusal]
      rw [hlacking]
      simp [Except.isOk, Except.toBool]
    | skipped canvases kept scratch cause hobtained =>
      rw [hobtain.2 hobtained.granted]
      simp [Except.isOk, Except.toBool]
    | rendered canvases kept scratch picture hobtained =>
      rw [hobtain.2 hobtained.granted]
      simp [Except.isOk, Except.toBool]

/-- What a frame adds to the counts, told by its outcome and by the listener's answer. -/
theorem Ready.tally_feed (hready : pipeline.Ready) (frame : Frame) :
    (pipeline.feed frame).2.tally =
      match (pipeline.feed frame).1 with
      | .ok (.rendered _) => pipeline.tally.countRendered (pipeline.feed frame).2.consumer.lastAnswer
      | .ok .skipped => pipeline.tally.countSkipped
      | .error _ => pipeline.tally := by
  have hfed := hready.fed_alone frame
  generalize (pipeline.feed frame).1 = result, (pipeline.feed frame).2 = after at hfed ⊢
  cases hfed with
  | halted => rfl
  | notNegotiated => rfl
  | admitted format _ _ _ _ hperformed =>
    cases hperformed with
    | refused => rfl
    | skipped => rfl
    | rendered canvases kept scratch picture =>
      show pipeline.tally.countRendered (pipeline.consumer.take picture).1 =
        pipeline.tally.countRendered (pipeline.consumer.take picture).2.lastAnswer
      cases pipeline.consumer <;> rfl

end Pipeline

/-- A negotiation is refused, or format and source are those of the description. -/
theorem Sink.Memory.negotiate_cases (description : StreamDescription) (sink : Sink.Memory) :
    (∃ cause, sink.negotiate description = .error cause) ∨
      ∃ format, description.format? = some format ∧ sink.negotiate description = .ok { sink with
        pipeline := { sink.pipeline with
          format := some format
          geometry := sink.pipeline.geometry.setSource description.size } } := by
  unfold negotiate Pipeline.negotiate
  cases description.format? with
  | none => exact .inl ⟨_, rfl⟩
  | some format =>
    cases description.size.isEmpty with
    | true => exact .inl ⟨_, rfl⟩
    | false => exact .inr ⟨format, rfl, rfl⟩

namespace Embedding

/-- What a host can ask of a handle. -/
inductive Order where
  | attach (consumer : Consumer)
  | setOutputSize (size : Size)
  | setAngle (degrees : UInt32)
  | negotiate (description : StreamDescription)
  | move (number : UInt32)
  | push (payload : Option Bytes) (timestamp : Nat)
  | report (hasPlace : Bool)

/-- What can happen to a handle. -/
inductive Event where
  /-- A call of the host, with the handle or without one. -/
  | call (order : Order) (hasHandle : Bool)
  /-- From now on the host refuses requests of this many bytes or more. -/
  | tighten (limit : Nat)
  /-- The listener in place changes its mind about what to acknowledge. -/
  | answer (answer : List Picture → Bool)

/-- What a call gives back. -/
inductive Reply where
  | silent
  | status (number : Int)
  | numbers (number : Int) (report : Option Report)

/-- An event, the reply to it, and the memory sink after it. -/
structure Entry where
  event : Event
  reply : Reply
  sink : Sink.Memory

namespace Order

/-- The call that an order is for. -/
def call (handle : Option Handle) : Order → Reply × Option Handle
  | attach consumer => (.silent, Embedding.attach consumer handle)
  | setOutputSize size => (.silent, Embedding.setOutputSize size handle)
  | setAngle degrees => (.silent, Embedding.setAngle degrees handle)
  | negotiate description => (Embedding.negotiate description handle).map .status id
  | move number => (Embedding.move number handle).map .status id
  | push payload timestamp => (Embedding.push payload timestamp handle).map .status id
  | report hasPlace =>
      let (number, numbers) := Embedding.report hasPlace handle
      (.numbers number numbers, handle)

/-- The reply to a call that lacks what it needs. -/
def refusal : Order → Reply
  | attach _ | setOutputSize _ | setAngle _ => .silent
  | negotiate _ | move _ => .status 0
  | push .. => .status (-1)
  | report _ => .numbers 0 none

/-- What an order is to a memory sink. A payload is a frame in the format and of the size agreed on. -/
def drive (sink : Sink.Memory) : Order → Reply × Sink.Memory
  | attach consumer => (.silent, sink.attach consumer)
  | setOutputSize size => (.silent, (sink.change (.width size.width)).change (.height size.height))
  | setAngle degrees => (.silent, sink.change (.angle degrees))
  | negotiate description =>
    match sink.negotiate description with
    | .ok sink => (.status 1, sink)
    | .error _ => (.status 0, sink)
  | move number =>
    match Transition.ofNumber? number with
    | some transition => (.status 1, sink.move transition)
    | none => (.status 0, sink)
  | push payload timestamp =>
    match payload, sink.pipeline.format with
    | some payload, some format =>
      match sink.render ⟨payload, sink.pipeline.geometry.source, format, timestamp⟩ with
      | (.ok (.rendered _), sink) => (.status 1, sink)
      | (.ok .skipped, sink) => (.status 0, sink)
      | (.error _, sink) => (.status (-1), sink)
    | _, _ => (.status (-1), sink)
  | report hasPlace =>
    let { scratch, tally, halted, .. } := sink.pipeline
    let bytes := scratch.convertedBytes + scratch.rotatedBytes + scratch.resizedBytes
    let numbers : Report :=
      ⟨tally.processed, tally.skipped, tally.acknowledged, scratch.reallocations, bytes, halted⟩
    if hasPlace then (.numbers 1 (some numbers), sink) else (.numbers 0 none, sink)

end Order

/-- What an event is to a memory sink. A call without a handle has no effect. -/
def Event.drive (sink : Sink.Memory) : Event → Reply × Sink.Memory
  | call order true => order.drive sink
  | call order false => (order.refusal, sink)
  | tighten limit => (.silent, sink.act (.tighten limit))
  | answer mind => (.silent, sink.attach (sink.pipeline.consumer.withAnswer mind))

/-- What several events are to a memory sink. -/
def drives : List Event → Sink.Memory → List Entry
  | [], _ => []
  | event :: events, sink =>
      let (reply, sink) := event.drive sink
      ⟨event, reply, sink⟩ :: drives events sink

namespace Handle

/-- Let an event happen. -/
def act (handle : Handle) : Event → Reply × Handle
  | .call order true => (order.call (some handle)).map id (·.getD handle)
  | .call order false => ((order.call none).1, handle)
  | .tighten limit => (.silent, { handle with sink := handle.sink.act (.tighten limit) })
  | .answer mind => (.silent, handle.withAnswer mind)

/-- The handle after several events. -/
def run (events : List Event) (handle : Handle) : Handle :=
  events.foldl (fun handle event => (handle.act event).2) handle

/-- What several events leave behind, one entry for each. -/
def trace : List Event → Handle → List Entry
  | [], _ => []
  | event :: events, handle =>
      let (reply, handle) := handle.act event
      ⟨event, reply, handle.sink⟩ :: trace events handle

/-- A handle acts and replies. -/
def machine : Machine Handle Event Reply where
  act handle event := (handle.act event).2
  reply handle event := (handle.act event).1

/-- The handle remembers the description by which its sink goes. -/
structure InStep (handle : Handle) : Prop where
  ready : handle.sink.pipeline.Ready
  format : handle.sink.pipeline.format = handle.remembered.bind StreamDescription.format?
  known : ∀ description, handle.remembered = some description → description.format?.isSome = true
  source : ∀ description, handle.remembered = some description →
    handle.sink.pipeline.geometry.source = description.size

namespace InStep

variable {handle : Handle}

/-- The handle remembers nothing if and only if its sink goes by nothing. -/
theorem remembered_none (hinstep : handle.InStep) :
    handle.remembered = none ↔ handle.sink.pipeline.format = none := by
  rw [hinstep.format]
  cases hremembered : handle.remembered with
  | none => simp
  | some description =>
    have hknown := hinstep.known description hremembered
    simpa [Option.isSome_iff_ne_none] using hknown

/-- A new handle remembers nothing, and its sink goes by nothing. -/
theorem create (limit : Nat) (request : Option Sink.Request) (consumer : Consumer) :
    (Handle.create limit request consumer).InStep where
  ready := by
    have hready := Pipeline.ready_initial limit consumer
    show (Sink.Memory.new limit (request.getD .default) consumer).pipeline.Ready
    rw [Sink.Memory.pipeline_new]
    exact hready.run _
  format := rfl
  known := nofun
  source := nofun

/-- What changes neither the format nor the source keeps the handle in step. -/
theorem stays (hinstep : handle.InStep) {sink : Sink.Memory} (hready : sink.pipeline.Ready)
    (hformat : sink.pipeline.format = handle.sink.pipeline.format)
    (hsource : sink.pipeline.geometry.source = handle.sink.pipeline.geometry.source) :
    InStep { handle with sink } where
  ready := hready
  format := hformat.trans hinstep.format
  known := hinstep.known
  source description hknown := hsource.trans (hinstep.source description hknown)

/-- A stream that is agreed on is remembered; one that is refused leaves handle and sink as they are. -/
theorem negotiate (hinstep : handle.InStep) (description : StreamDescription) :
    ∃ after, (Order.negotiate description).call (some handle) =
        (((Order.negotiate description).drive handle.sink).1, some after) ∧
      after.sink = ((Order.negotiate description).drive handle.sink).2 ∧ after.InStep := by
  simp only [Order.call, Order.drive, Embedding.negotiate]
  rcases handle.sink.negotiate_cases description with ⟨cause, hrefused⟩ | ⟨format, hformat, hagreed⟩
  · rw [hrefused]
    exact ⟨handle, rfl, rfl, hinstep⟩
  · rw [hagreed]
    refine ⟨_, rfl, rfl, ?_, ?_, ?_, ?_⟩
    · -- A source that is set marks the geometry, so nothing is asked of the canvases.
      intro canvases _ hclean
      cases hclean
    · exact hformat.symm
    · rintro _ ⟨⟩
      simp [hformat]
    · rintro _ ⟨⟩
      rfl

/-- A payload is read as the sink reads it. -/
theorem push (hinstep : handle.InStep) (payload : Option Bytes) (timestamp : Nat) :
    ∃ after, (Order.push payload timestamp).call (some handle) =
        (((Order.push payload timestamp).drive handle.sink).1, some after) ∧
      after.sink = ((Order.push payload timestamp).drive handle.sink).2 ∧ after.InStep := by
  cases payload with
  | none => exact ⟨handle, rfl, rfl, hinstep⟩
  | some payload =>
    have hformat := hinstep.format
    simp only [Order.call, Order.drive, Embedding.push]
    cases hremembered : handle.remembered with
    | none =>
      rw [hremembered] at hformat
      rw [hformat]
      exact ⟨handle, rfl, rfl, hinstep⟩
    | some description =>
      obtain ⟨format, hknown⟩ := Option.isSome_iff_exists.1 (hinstep.known description hremembered)
      rw [hremembered] at hformat
      rw [hformat, hinstep.source description hremembered]
      simp only [Option.bind_some, hknown, Option.map_some]
      generalize (⟨payload, description.size, format, timestamp⟩ : Frame) = frame
      have hready := (hinstep.ready.feedAmid [] frame).1
      rw [Pipeline.feedAmid_nil] at hready
      obtain ⟨hkept, hsource⟩ := hinstep.ready.agreed_feed frame
      have hstays : InStep { handle with sink := (handle.sink.render frame).2 } :=
        hinstep.stays hready hkept hsource
      rw [hremembered] at hstays
      refine ⟨_, ?_, ?_, hstays⟩
      · rcases handle.sink.render frame with ⟨_ | _ | _, _⟩ <;> rfl
      · rcases handle.sink.render frame with ⟨_ | _ | _, _⟩ <;> rfl

/-- A push is refused exactly when its frame is. -/
theorem refused_push (hinstep : handle.InStep) (payload : Bytes) (timestamp : Nat) :
    (Embedding.push (some payload) timestamp (some handle)).1 = errorStatus ↔
      handle.sink.pipeline.halted = true ∨ handle.sink.pipeline.format = none ∨
        (handle.sink.pipeline.scratch.obtain handle.sink.pipeline.geometry).1.isOk = false := by
  simp only [Embedding.push]
  cases hremembered : handle.remembered with
  | none =>
    have hnone := hinstep.remembered_none.1 hremembered
    simp [hnone]
  | some description =>
    obtain ⟨format, hknown⟩ := Option.isSome_iff_exists.1 (hinstep.known description hremembered)
    have hstatus : ∀ result, outcomeStatus result = errorStatus ↔ result.isOk = false := by
      intro result
      rcases result with cause | acknowledged | _ <;> simp [outcomeStatus, Except.isOk, Except.toBool,
        errorStatus, renderedStatus, skippedStatus]
    simp only [Option.bind_some, hknown, Option.map_some]
    rw [hstatus]
    exact hinstep.ready.refused_feed _

/-- Every order is to a handle what it is to its sink. -/
theorem call (hinstep : handle.InStep) (order : Order) :
    ∃ after, order.call (some handle) = ((order.drive handle.sink).1, some after) ∧
      after.sink = (order.drive handle.sink).2 ∧ after.InStep := by
  cases order with
  | attach consumer =>
    exact ⟨_, rfl, rfl, hinstep.stays (hinstep.ready.act (.attach consumer)) rfl rfl⟩
  | setOutputSize size =>
    have hready := (hinstep.ready.change (.width size.width)).change (.height size.height)
    refine ⟨_, rfl, rfl, hinstep.stays hready rfl ?_⟩
    exact (Geometry.source_apply (by simp) _).trans (Geometry.source_apply (by simp) _)
  | setAngle degrees =>
    have hready := hinstep.ready.change (.angle degrees)
    exact ⟨_, rfl, rfl, hinstep.stays hready rfl (Geometry.source_apply (by simp) _)⟩
  | negotiate description => exact hinstep.negotiate description
  | move number =>
    simp only [Order.call, Order.drive, Embedding.move]
    cases Transition.ofNumber? number with
    | none => exact ⟨handle, rfl, rfl, hinstep⟩
    | some transition =>
      refine ⟨_, rfl, rfl, ?_⟩
      unfold Sink.Memory.move
      cases transition.isTeardown with
      | true => exact hinstep.stays (hinstep.ready.act .restart) rfl rfl
      | false => exact hinstep.stays hinstep.ready rfl rfl
  | push payload timestamp => exact hinstep.push payload timestamp
  | report hasPlace =>
    refine ⟨handle, ?_, ?_, hinstep⟩
    · cases hasPlace <;> rfl
    · cases hasPlace <;> rfl

/-- So is every event. -/
theorem act (hinstep : handle.InStep) (event : Event) :
    (handle.act event).1 = (event.drive handle.sink).1 ∧
      (handle.act event).2.sink = (event.drive handle.sink).2 ∧ (handle.act event).2.InStep := by
  cases event with
  | call order hasHandle =>
    cases hasHandle with
    | true =>
      obtain ⟨after, hcall, hsink, hafter⟩ := hinstep.call order
      simp only [Handle.act]
      rw [hcall]
      exact ⟨rfl, hsink, hafter⟩
    | false =>
      refine ⟨?_, rfl, hinstep⟩
      cases order with
      | push payload => cases payload <;> rfl
      | _ => rfl
  | tighten limit => exact ⟨rfl, rfl, hinstep.stays (hinstep.ready.act (.tighten limit)) rfl rfl⟩
  | answer mind => exact ⟨rfl, rfl, hinstep.stays hinstep.ready rfl rfl⟩

/-- So are several events. -/
theorem trace_eq (hinstep : handle.InStep) (events : List Event) :
    handle.trace events = drives events handle.sink := by
  induction events generalizing handle with
  | nil => rfl
  | cons event events ih =>
    obtain ⟨hreply, hsink, hafter⟩ := hinstep.act event
    simp only [trace, drives]
    rw [ih hafter, hreply, hsink]

/-- A handle stays in step. -/
theorem run (hinstep : handle.InStep) (events : List Event) : (handle.run events).InStep := by
  induction events generalizing handle with
  | nil => exact hinstep
  | cons event events ih => exact ih (hinstep.act event).2.2

end InStep

end Handle

namespace Entry

/-- A push that was answered so. -/
def isPush (status : Int) (entry : Entry) : Bool :=
  match entry.event, entry.reply with
  | .call (.push ..) _, .status number => number == status
  | _, _ => false

/-- A stream that was agreed on. -/
def isAgreement (entry : Entry) : Bool :=
  match entry.event, entry.reply with
  | .call (.negotiate _) _, .status number => number == 1
  | _, _ => false

end Entry

namespace Handle

variable {handle : Handle}

/-- What the handle remembers comes from a stream that was agreed on. -/
theorem remembered_act (event : Event) (handle : Handle) :
    (handle.act event).2.remembered = none ↔ handle.remembered = none ∧
      Entry.isAgreement ⟨event, (handle.act event).1, (handle.act event).2.sink⟩ = false := by
  cases event with
  | call order hasHandle =>
    cases hasHandle with
    | false => cases order <;> exact (and_iff_left rfl).symm
    | true =>
      cases order with
      | negotiate description =>
        simp only [act, Order.call, Embedding.negotiate]
        cases handle.sink.negotiate description with
        | error cause => exact (and_iff_left rfl).symm
        | ok sink => exact ⟨nofun, fun hboth => nomatch hboth.2⟩
      | move number =>
        simp only [act, Order.call, Embedding.move]
        cases Transition.ofNumber? number <;> exact (and_iff_left rfl).symm
      | push payload timestamp =>
        refine (and_iff_left rfl).symm.trans (and_congr_left' ?_)
        cases payload with
        | none => rfl
        | some payload =>
          simp only [act, Order.call, Embedding.push]
          split <;> rfl
      | _ => exact (and_iff_left rfl).symm
  | _ => exact (and_iff_left rfl).symm

end Handle

/-- What an event adds to the counts of a sink. -/
theorem tally_drive {sink : Sink.Memory} (hready : sink.pipeline.Ready) (event : Event) :
    let (reply, after) := event.drive sink
    let entry : Entry := ⟨event, reply, after⟩
    let tally := sink.pipeline.tally
    after.pipeline.tally = ⟨tally.processed + (entry.isPush 1).toNat,
      tally.skipped + (entry.isPush 0).toNat,
      tally.acknowledged + (entry.isPush 1 && after.pipeline.consumer.lastAnswer).toNat⟩ := by
  cases event with
  | call order hasHandle =>
    cases hasHandle with
    | false => cases order <;> rfl
    | true =>
      cases order with
      | negotiate description =>
        simp only [Event.drive, Order.drive]
        rcases sink.negotiate_cases description with ⟨cause, hrefused⟩ | ⟨format, _, hagreed⟩
        · rw [hrefused]
          rfl
        · rw [hagreed]
          rfl
      | move number =>
        simp only [Event.drive, Order.drive]
        cases Transition.ofNumber? number with
        | none => rfl
        | some transition =>
          simp only [Sink.Memory.move]
          cases transition.isTeardown <;> rfl
      | push payload timestamp =>
        simp only [Event.drive, Order.drive]
        cases payload with
        | none => rfl
        | some payload =>
          cases sink.pipeline.format with
          | none => rfl
          | some format =>
            dsimp only
            generalize (⟨payload, sink.pipeline.geometry.source, format, timestamp⟩ : Frame) = frame
            have htally := hready.tally_feed frame
            unfold Sink.Memory.render
            generalize sink.pipeline.feed frame = fed at htally ⊢
            rcases fed with ⟨_ | _ | _, after⟩
            · exact htally
            · exact htally
            · exact htally
      | report hasPlace => cases hasPlace <;> rfl
      | _ => rfl
  | _ => rfl

namespace Handle

/-- A handle remembers something if and only if a stream was agreed on. -/
theorem remembered_run (events : List Event) (handle : Handle) :
    (handle.run events).remembered = none ↔
      handle.remembered = none ∧ ∀ entry ∈ handle.trace events, entry.isAgreement = false := by
  induction events generalizing handle with
  | nil => simp [run, trace]
  | cons event events ih =>
    refine (ih (handle.act event).2).trans ?_
    rw [remembered_act event handle, and_assoc]
    simp [trace]

/-- The counts are those of the entries. -/
theorem InStep.tally_run {handle : Handle} (hinstep : handle.InStep) (events : List Event) :
    let entries := handle.trace events
    let tally := handle.sink.pipeline.tally
    (handle.run events).sink.pipeline.tally = ⟨tally.processed + entries.countP (Entry.isPush 1),
      tally.skipped + entries.countP (Entry.isPush 0),
      tally.acknowledged +
        entries.countP fun entry => entry.isPush 1 && entry.sink.pipeline.consumer.lastAnswer⟩ := by
  induction events generalizing handle with
  | nil => rfl
  | cons event events ih =>
    obtain ⟨hreply, hsink, hafter⟩ := hinstep.act event
    have hone := tally_drive hinstep.ready event
    dsimp only at hone
    rw [← hreply, ← hsink] at hone
    have hcount : ∀ (holds : Entry → Bool) entry entries,
        (entry :: entries).countP holds = (holds entry).toNat + entries.countP holds := by
      intro holds entry entries
      rw [List.countP_cons]
      cases holds entry <;> simp [Nat.add_comm]
    refine (ih hafter).trans ?_
    rw [hone]
    simp only [trace, hcount, Nat.add_assoc]

end Handle

/-- Whatever a host does with a handle, with or without it, replies and states are those of a memory sink of which it
would ask the same. The handle remembers a description if and only if its sink goes by one, and it is the same; a
description that is refused leaves it. A payload is refused if and only if no description was ever accepted, the
sink is halted, or canvases are due for it that are not granted. The counts are those of the pushes so answered, and of
the listener's acknowledgements. -/
theorem handle_drives_sink (limit : Nat) (request : Option Sink.Request) (consumer : Consumer)
    (events : List Event) :
    let created := Handle.create limit request consumer
    let handle := created.run events
    let entries := created.trace events
    let pipeline := handle.sink.pipeline
    entries = drives events (.new limit (request.getD .default) consumer) ∧
    (handle.remembered = none ↔ pipeline.format = none) ∧
    (∀ description, handle.remembered = some description →
      pipeline.format = description.format? ∧ pipeline.geometry.source = description.size) ∧
    (∀ description, (negotiate description (some handle)).1 = doneStatus false →
      (negotiate description (some handle)).2 = some handle) ∧
    (∀ payload timestamp, (push (some payload) timestamp (some handle)).1 = errorStatus ↔
      (∀ entry ∈ entries, entry.isAgreement = false) ∨ pipeline.halted = true ∨
        (pipeline.scratch.obtain pipeline.geometry).1.isOk = false) ∧
    pipeline.tally.processed = entries.countP (Entry.isPush renderedStatus) ∧
    pipeline.tally.skipped = entries.countP (Entry.isPush skippedStatus) ∧
    pipeline.tally.acknowledged = entries.countP fun entry =>
      entry.isPush renderedStatus && entry.sink.pipeline.consumer.lastAnswer := by
  have hcreated := Handle.InStep.create limit request consumer
  have hinstep := hcreated.run events
  have hremembered := Handle.remembered_run events (Handle.create limit request consumer)
  have htally := hcreated.tally_run events
  dsimp only
  generalize (Handle.create limit request consumer).run events = handle at hinstep hremembered htally ⊢
  have hknown : handle.remembered = none ↔ handle.sink.pipeline.format = none := hinstep.remembered_none
  refine ⟨hcreated.trace_eq events, hknown, ?_, ?_, ?_, ?_⟩
  · intro description hsome
    refine ⟨?_, hinstep.source description hsome⟩
    rw [hinstep.format, hsome]
    rfl
  · intro description hrefused
    simp only [negotiate] at hrefused ⊢
    rcases handle.sink.negotiate_cases description with ⟨cause, herror⟩ | ⟨format, _, hagreed⟩
    · rw [herror]
    · rw [hagreed] at hrefused
      cases hrefused
  · intro payload timestamp
    have hnone : (∀ entry ∈ (Handle.create limit request consumer).trace events, entry.isAgreement = false) ↔
        handle.sink.pipeline.format = none := by
      rw [← hknown, hremembered]
      exact (and_iff_right rfl).symm
    rw [hnone, or_left_comm]
    exact hinstep.refused_push payload timestamp
  · rw [htally]
    exact ⟨Nat.zero_add _, Nat.zero_add _, Nat.zero_add _⟩

/-- A payload too early, one that is rendered and one that is too short; calls that lack what they need; and one payload
for which the host grants no canvases. -/
def session : List Event :=
  [.call (.push (some #[1, 2, 3, 4]) 0) true, .call (.negotiate ⟨6, ⟨1, 1⟩⟩) true, .call (.negotiate ⟨6, ⟨0, 1⟩⟩) true,
    .call (.push (some #[1, 2, 3, 4]) 1) true, .call (.push (some #[1]) 2) true, .call (.push none 3) true,
    .call (.push (some #[1, 2, 3, 4]) 4) false, .call (.move 9) true, .call (.report false) true,
    .call (.setAngle 90) true, .tighten 4, .call (.push (some #[1, 2, 3, 4]) 5) true]

theorem handle_drives_sink_session :
    let created := Handle.create 64 none (.listener (fun _ => true) [])
    let handle := created.run session
    handle.sink.pipeline.format = some .rgba ∧ handle.sink.pipeline.geometry.source = ⟨1, 1⟩ ∧
      (negotiate ⟨6, ⟨0, 1⟩⟩ (some handle)).2 = some handle ∧
      (push (some #[1, 2, 3, 4]) 6 (some handle)).1 = errorStatus ∧
      handle.sink.pipeline.tally = ⟨1, 1, 1⟩ ∧
      (created.trace session).countP (Entry.isPush errorStatus) = 4 := by
  obtain ⟨-, -, hagreed, hrefused, hpush, -⟩ :=
    handle_drives_sink 64 none (.listener (fun _ => true) []) session
  have hremembered : ((Handle.create 64 none (.listener (fun _ => true) [])).run session).remembered =
      some ⟨6, ⟨1, 1⟩⟩ := by decide +kernel
  have hhalted : ((Handle.create 64 none (.listener (fun _ => true) [])).run
      session).sink.pipeline.halted = true := by decide +kernel
  obtain ⟨hformat, hsource⟩ := hagreed _ hremembered
  exact ⟨hformat, hsource, hrefused ⟨6, ⟨0, 1⟩⟩ (by decide +kernel),
    (hpush #[1, 2, 3, 4] 6).2 (.inr (.inl hhalted)), by decide +kernel, by decide +kernel⟩

end Embedding

end FramePath

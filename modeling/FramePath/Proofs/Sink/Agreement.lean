import FramePath.Proofs.Desk.Isolation
import FramePath.Proofs.Desk.Standing
import FramePath.Proofs.Sink.Station

/-!
# Only frames that were agreed on are shown

A display sink checks a frame when it is rendered, and its presenter shows it later, when another stream may have been
agreed on or none may be left. A `Sink.Logbook` notes which stream was agreed on last, and with each frame that is
queued the stream that was agreed on then. `Logbook.Faithful` says what every act keeps of the notes (`Faithful.act`),
and `accepted_program` that the frames queued are those that the presenter accepts, of which it shows some and no
others (`only_agreed_frames_shown`).
-/

namespace FramePath

/-- A stream that a display sink can show: packed frames with pixels. -/
def StreamDescription.IsPresentable (description : StreamDescription) : Prop :=
  ∃ format, description.format? = some format ∧ format.isPlanar = false ∧ description.size.isEmpty = false

/-- A frame has the format and the size of a stream, is packed, and has as many bytes as its pixels need. -/
structure Frame.Suits (frame : Frame) (description : StreamDescription) : Prop where
  format : description.format? = some frame.format
  size : frame.size = description.size
  packed : frame.format.isPlanar = false
  width : frame.size.width ≠ 0
  height : frame.size.height ≠ 0
  payload : frame.size.width.toNat * frame.size.height.toNat * 4 ≤ frame.payload.size

/-- A frame of the format and the size of a stream that can be shown suits it if its payload is not too short. -/
theorem Frame.suits_iff {description : StreamDescription} (hpresentable : description.IsPresentable)
    (frame : Frame) :
    frame.Suits description ↔ description.format? = some frame.format ∧ frame.size = description.size ∧
      frame.expectedBytes ≤ frame.payload.size := by
  obtain ⟨format, hformat, hpacked, hpixels⟩ := hpresentable
  constructor
  · intro hsuits
    refine ⟨hsuits.format, hsuits.size, ?_⟩
    unfold expectedBytes
    rw [PixelFormat.frameBytes_of_packed hsuits.packed]
    exact hsuits.payload
  · rintro ⟨hsame, hsize, hbytes⟩
    obtain rfl : format = frame.format := Option.some.inj (hformat.symm.trans hsame)
    rw [← hsize] at hpixels
    unfold expectedBytes at hbytes
    rw [PixelFormat.frameBytes_of_packed hpacked] at hbytes
    simp only [Size.isEmpty, Bool.or_eq_false_iff, beq_eq_false_iff_ne] at hpixels
    exact ⟨hsame, hsize, hpacked, hpixels.1, hpixels.2, hbytes⟩

/-- No act changes the number by which a presenter is named. -/
theorem Standing.id_foldl (acts : List Desk.Act) (standing : Standing) :
    (acts.foldl follow standing).id = standing.id := by
  induction acts generalizing standing with
  | nil => rfl
  | cons act acts ih =>
    refine (ih (standing.follow act)).trans ?_
    cases act <;> rfl

namespace Desk

/-- The frame that an act puts into the mailbox. -/
def admitted (desk : Desk) : Act → List SharedFrame
  | .submit frame =>
    match (desk.submit frame).1 with
    | .queued => [frame]
    | .dropped => []
  | _ => []

/-- A presenter is silenced by an active source that is not its own. -/
theorem isSilenced_iff (presenter : Presenter) :
    presenter.isSilenced = false ↔
      presenter.activeSource = none ∨ presenter.activeSource = some presenter.id := by
  unfold Presenter.isSilenced
  cases presenter.activeSource with
  | none => simp
  | some active => simp

/-- There is a consumer to be had unless it has failed or the host refuses to start one. -/
theorem isHearing_iff (desk : Desk) :
    desk.isDeaf = false ↔ desk.isDead = false ∧ desk.presenter.mailbox.obstacle = none := by
  unfold isDeaf
  rw [Bool.or_eq_false_iff, Option.isSome_eq_false_iff, Option.isNone_iff_eq_none]

/-- A frame is queued if the presenter renders, no other source is active, a surface is bound, the consumer has not
failed, and the host does not refuse to start one where there is none. -/
theorem queued_iff (frame : SharedFrame) (desk : Desk) :
    (desk.submit frame).1 = .queued ↔ desk.presenter.state.canRender = true ∧
      (desk.presenter.activeSource = none ∨ desk.presenter.activeSource = some desk.presenter.id) ∧
      desk.isBound = true ∧ desk.isDead = false ∧ desk.presenter.mailbox.obstacle = none := by
  have hadmits : desk.admits = true ↔ desk.presenter.state.canRender = true ∧
      (desk.presenter.activeSource = none ∨ desk.presenter.activeSource = some desk.presenter.id) ∧
      desk.isBound = true := by
    rw [← isSilenced_iff]
    simp [admits, and_assoc]
  suffices hqueued : (desk.submit frame).1 = .queued ↔ desk.admits = true ∧ desk.isDeaf = false by
    rw [hqueued, hadmits, isHearing_iff, and_assoc, and_assoc]
  have hsubmitted := desk.submitted frame
  generalize desk.submit frame = result at hsubmitted ⊢
  cases hsubmitted with
  | dropped refusal hrefused => simp [hrefused]
  | queued epoch surface hadmits _ hhearing => simp [hadmits, hhearing]
  | bounced epoch surface _ _ hdeaf => simp [hdeaf]

end Desk

namespace Watch

/-- The frames accepted with a submit are those that are put into the mailbox. -/
theorem accepted_submit (frame : SharedFrame) (watch : Watch) :
    (watch.submit frame).accepted.map Accepted.frame =
      watch.accepted.map Accepted.frame ++ watch.desk.admitted (.submit frame) := by
  have hsubmitted := watch.desk.submitted frame
  simp only [submit, Desk.admitted]
  generalize watch.desk.submit frame = result at hsubmitted ⊢
  cases hsubmitted with
  | dropped => exact (List.append_nil _).symm
  | bounced => exact (List.append_nil _).symm
  | queued epoch surface _ hlink => simp [Desk.bond_of_link hlink]

/-- Nothing but a submit has a frame accepted. -/
theorem accepted_performAll {deeds : List Desk.Deed} (hunsent : ∀ frame, .submit frame ∉ deeds) (watch : Watch) :
    (watch.performAll deeds).accepted = watch.accepted := by
  induction deeds generalizing watch with
  | nil => rfl
  | cons deed deeds ih =>
    refine (ih (fun frame hmem => hunsent frame (List.mem_cons_of_mem _ hmem)) (watch.perform deed)).trans ?_
    cases deed with
    | submit frame => exact absurd (List.mem_cons_self ..) (hunsent frame)
    | _ => rfl

/-- The frames accepted are those that are put into the mailbox. -/
theorem accepted_act (watch : Watch) (act : Desk.Act) :
    (watch.act act).accepted.map Accepted.frame =
      watch.accepted.map Accepted.frame ++ watch.desk.admitted act := by
  cases act with
  | submit frame => exact watch.accepted_submit frame
  | _ =>
    refine Eq.trans ?_ (List.append_nil _).symm
    refine congrArg (List.map Accepted.frame) (accepted_performAll (fun frame hmem => ?_) watch)
    cases Desk.canDo_deeds hmem

end Watch

namespace Sink

namespace Display

variable {sink : Display} {description : StreamDescription}

/-- A stream is agreed on if it can be shown, and otherwise refused without a change. -/
theorem negotiate_cases (description : StreamDescription) (sink : Display) :
    (∃ cause, sink.negotiate description = .error cause ∧ ¬ description.IsPresentable) ∨
      sink.negotiate description = .ok { sink with description := some description } ∧
        description.IsPresentable := by
  unfold negotiate StreamDescription.IsPresentable
  cases description.format? with
  | none => exact .inl ⟨_, rfl, nofun⟩
  | some format =>
    dsimp only
    cases hplanar : format.isPlanar with
    | true => exact .inl ⟨_, rfl, by simp [hplanar]⟩
    | false =>
      cases hempty : description.size.isEmpty with
      | true => exact .inl ⟨_, rfl, by simp⟩
      | false => exact .inr ⟨rfl, format, rfl, hplanar, rfl⟩

/-- A frame passes the check if and only if it suits the stream agreed on. -/
theorem isOk_check (hpresentable : ∀ description, sink.description = some description → description.IsPresentable)
    (frame : Frame) :
    (sink.check frame).isOk = true ↔
      ∃ description, sink.description = some description ∧ frame.Suits description := by
  unfold check
  cases hdescription : sink.description with
  | none => simp [Except.isOk, Except.toBool]
  | some description =>
    have hsuits := Frame.suits_iff (hpresentable description hdescription) frame
    simp only [Option.some.injEq, exists_eq_left', hsuits]
    split
    · next hformat => simp [hformat, Except.isOk, Except.toBool]
    · next hformat =>
      split
      · next hsize => simp [hsize, Except.isOk, Except.toBool]
      · next hsize =>
        split
        · next hshort => simp [Nat.not_le.2 hshort, Except.isOk, Except.toBool]
        · next hlong =>
          simp [Decidable.not_not.1 hformat, Decidable.not_not.1 hsize, Nat.not_lt.1 hlong, Except.isOk,
            Except.toBool]

end Display

namespace Station

variable {station : Station}

/-- What a sink answers when a frame is rendered. -/
def answer (frame : SharedFrame) (station : Station) : Except DisplayError Admission :=
  (station.sink.render frame station.scene).1

/-- A frame that passes the check is answered by the presenter. -/
theorem answer_eq (frame : SharedFrame) (station : Station) :
    station.answer frame =
      (station.sink.check frame.frame).map fun _ => (station.desk.submit frame).1 := by
  unfold answer Display.render
  cases station.sink.check frame.frame <;> rfl

/-- The frame that an act puts into the presenter's mailbox. -/
def queues (station : Station) : Act → List SharedFrame
  | .render frame =>
    match station.answer frame with
    | .ok .queued => [frame]
    | _ => []
  | _ => []

/-- What an act puts into the mailbox is answered so. -/
theorem answer_of_mem_queues {act : Act} {frame : SharedFrame} (hmem : frame ∈ station.queues act) :
    station.answer frame = .ok .queued := by
  cases act with
  | render asked =>
    simp only [queues] at hmem
    split at hmem
    · next hanswer =>
      cases List.mem_singleton.1 hmem
      exact hanswer
    · cases hmem
  | _ => cases hmem

/-- A watch accepts the frames that a sink puts into the mailbox. -/
theorem accepted_inner {watch : Watch} (hdesk : watch.desk = station.desk) (act : Act) :
    (watch.run (station.inner act)).accepted.map Accepted.frame =
      watch.accepted.map Accepted.frame ++ station.queues act := by
  have hone : ∀ inner, (watch.run [inner]).accepted.map Accepted.frame =
      watch.accepted.map Accepted.frame ++ station.desk.admitted inner := by
    intro inner
    rw [← hdesk]
    exact watch.accepted_act inner
  cases act with
  | setSurface surface => cases surface <;> exact hone _
  | negotiate description => exact (List.append_nil _).symm
  | render frame =>
    simp only [inner, queues, answer_eq]
    cases hcheck : station.sink.check frame.frame with
    | error cause => exact (List.append_nil _).symm
    | ok =>
      refine (hone (.submit frame)).trans ?_
      simp only [Desk.admitted, Except.map]
      cases (station.desk.submit frame).1 <;> rfl
  | move transition amid =>
    cases transition with
    | readyToNull =>
      refine ((watch.act (.setState .null)).accepted_act (.teardown amid)).trans ?_
      rfl
    | _ => exact hone _
  | _ => exact hone _

/-- Where its presenter stands changes as it does with the acts at the desk. -/
theorem standing_act (station : Station) (act : Act) :
    (station.act act).sink.presenter.standing =
      (station.inner act).foldl Standing.follow station.sink.presenter.standing := by
  have hdesk := congrArg (·.presenter.standing) (station.desk_act act)
  exact hdesk.trans (Desk.standing_run _ _)

/-- The stream that an act agrees on. -/
def agrees (station : Station) : Act → Option StreamDescription
  | .negotiate description =>
      if (station.sink.negotiate description).isOk then some description else none
  | _ => none

/-- Whether an act is the last transition, with which the stream is forgotten. -/
def Act.forgets : Act → Bool
  | .move .readyToNull _ => true
  | _ => false

/-- The last transition agrees on none. -/
theorem agrees_of_forgets {act : Act} (hforgets : act.forgets = true) : station.agrees act = none := by
  cases act with
  | negotiate description => cases hforgets
  | _ => rfl

/-- A stream that an act agrees on can be shown. -/
theorem isPresentable_of_agrees {act : Act} {description : StreamDescription}
    (hagrees : station.agrees act = some description) : description.IsPresentable := by
  cases act with
  | negotiate asked =>
    obtain ⟨haccepted, ⟨⟩⟩ := Option.ite_none_right_eq_some.1 hagrees
    rcases station.sink.negotiate_cases description with ⟨cause, hrefused, _⟩ | ⟨_, hpresentable⟩
    · rw [hrefused] at haccepted
      cases haccepted
    · exact hpresentable
  | _ => cases hagrees

/-- A sink goes by the stream that was agreed on until the stream is forgotten. -/
theorem description_act (station : Station) (act : Act) :
    (station.act act).sink.description =
      if act.forgets then none else (station.agrees act).or station.sink.description := by
  cases act with
  | negotiate description =>
    simp only [Station.act, Act.forgets, agrees]
    rcases station.sink.negotiate_cases description with ⟨cause, hrefused, _⟩ | ⟨hagreed, _⟩
    · rw [hrefused]
      rfl
    · rw [hagreed]
      rfl
  | render frame =>
    simp only [Station.act, Display.render]
    cases station.sink.check frame.frame <;> rfl
  | move transition => cases transition <;> rfl
  | _ => rfl

/-- The run state to which an act leads. -/
def Act.target? : Act → Option RunState
  | .move transition _ => some transition.target
  | _ => none

/-- Sink and presenter are in the state of the last transition. -/
theorem state_act (station : Station) (act : Act) :
    (station.act act).sink.state = act.target?.getD station.sink.state ∧
      (station.act act).sink.presenter.state = act.target?.getD station.sink.presenter.state := by
  have hpresenter := congrArg Standing.state (station.standing_act act)
  cases act with
  | setSurface surface => cases surface <;> exact ⟨rfl, hpresenter⟩
  | negotiate description =>
    refine ⟨?_, hpresenter⟩
    simp only [Station.act]
    rcases station.sink.negotiate_cases description with ⟨cause, hrefused, _⟩ | ⟨hagreed, _⟩
    · rw [hrefused]
      rfl
    · rw [hagreed]
      rfl
  | render frame =>
    simp only [Station.act, Display.render, inner] at hpresenter ⊢
    cases hcheck : station.sink.check frame.frame with
    | error cause => exact ⟨rfl, rfl⟩
    | ok =>
      rw [hcheck] at hpresenter
      exact ⟨rfl, hpresenter⟩
  | move transition => cases transition <;> exact ⟨rfl, hpresenter⟩
  | _ => exact ⟨rfl, hpresenter⟩

end Station

/-- A frame that was queued, and the stream that was agreed on last before. -/
structure Submission where
  frame : SharedFrame
  agreed : Option StreamDescription

/-- A display sink, the stream that was agreed on last, whether the sink was taken down since, and the frames that were
queued, in order. -/
structure Logbook where
  station : Station
  agreed : Option StreamDescription
  isForgotten : Bool
  queued : List Submission

namespace Logbook

open Station (Act)

/-- The notes on a new sink. -/
def opened (surfaces : List Surface) (setup : DisplaySetup) : Logbook :=
  ⟨.opened surfaces setup, none, false, []⟩

/-- Do one act and note what comes of it. -/
def act (logbook : Logbook) (act : Act) : Logbook where
  station := logbook.station.act act
  agreed := (logbook.station.agrees act).or logbook.agreed
  isForgotten := (logbook.station.agrees act).isNone && (act.forgets || logbook.isForgotten)
  queued := logbook.queued ++ (logbook.station.queues act).map fun frame => ⟨frame, logbook.agreed⟩

/-- Do several acts in order. -/
def run (acts : List Act) (logbook : Logbook) : Logbook := acts.foldl act logbook

/-- The stream by which a sink goes: the one agreed on last, unless the sink was taken down since. -/
def inForce (logbook : Logbook) : Option StreamDescription :=
  if logbook.isForgotten then none else logbook.agreed

/-- Notes are taken of what the sink does anyway. -/
theorem station_run (acts : List Act) (logbook : Logbook) :
    (logbook.run acts).station = logbook.station.run acts := by
  induction acts generalizing logbook with
  | nil => rfl
  | cons act acts ih => exact ih (logbook.act act)

/-- The notes are true of the sink: it stands where it says, goes by the stream in force, and has agreed to no stream
that it could not show and queued no frame that did not suit. -/
structure Faithful (id : Nat) (logbook : Logbook) : Prop where
  id : logbook.station.sink.presenter.id = id
  state : logbook.station.sink.presenter.state = logbook.station.sink.state
  description : logbook.station.sink.description = logbook.inForce
  presentable : ∀ description, logbook.agreed = some description → description.IsPresentable
  suits : ∀ submission ∈ logbook.queued, ∃ description, submission.agreed = some description ∧
    submission.frame.frame.Suits description

variable {id : Nat} {logbook : Logbook}

/-- The stream by which a sink goes can be shown. -/
theorem Faithful.isPresentable (hfaithful : logbook.Faithful id) {description : StreamDescription}
    (hdescription : logbook.station.sink.description = some description) : description.IsPresentable := by
  rw [hfaithful.description, inForce] at hdescription
  exact hfaithful.presentable description (Option.ite_none_left_eq_some.1 hdescription).2

/-- A frame is answered without an error if and only if it suits the stream by which the sink goes. -/
theorem Faithful.answer_isOk (hfaithful : logbook.Faithful id) {frame : SharedFrame} :
    (logbook.station.answer frame).isOk = true ↔
      ∃ description, logbook.station.sink.description = some description ∧ frame.frame.Suits description := by
  rw [← Display.isOk_check (fun _ => hfaithful.isPresentable), Station.answer_eq]
  cases logbook.station.sink.check frame.frame <;> rfl

/-- Every act keeps the notes true. -/
theorem Faithful.act (hfaithful : logbook.Faithful id) (act : Act) : (logbook.act act).Faithful id where
  id := by
    have hstanding := congrArg Standing.id (logbook.station.standing_act act)
    exact (hstanding.trans (Standing.id_foldl _ _)).trans hfaithful.id
  state := by
    obtain ⟨hsink, hpresenter⟩ := logbook.station.state_act act
    refine hpresenter.trans ?_
    rw [hfaithful.state]
    exact hsink.symm
  description := by
    refine (logbook.station.description_act act).trans ?_
    rw [hfaithful.description]
    show _ = if (logbook.station.agrees act).isNone && (act.forgets || logbook.isForgotten) then none
      else (logbook.station.agrees act).or logbook.agreed
    by_cases hforgets : act.forgets = true
    · simp [hforgets, Station.agrees_of_forgets hforgets]
    · rw [if_neg hforgets, Bool.eq_false_iff.2 hforgets]
      cases logbook.station.agrees act <;> rfl
  presentable description hagreed := by
    rcases Option.or_eq_some_iff.1 hagreed with hnew | ⟨_, hbefore⟩
    · exact Station.isPresentable_of_agrees hnew
    · exact hfaithful.presentable description hbefore
  suits submission hmem := by
    rcases List.mem_append.1 hmem with hbefore | hnew
    · exact hfaithful.suits submission hbefore
    · obtain ⟨frame, hqueued, rfl⟩ := List.mem_map.1 hnew
      have hanswer := Station.answer_of_mem_queues hqueued
      obtain ⟨description, hdescription, hsuits⟩ := hfaithful.answer_isOk.1 (by rw [hanswer]; rfl)
      rw [hfaithful.description, inForce] at hdescription
      exact ⟨description, (Option.ite_none_left_eq_some.1 hdescription).2, hsuits⟩

/-- The notes on a new sink are true. -/
theorem faithful_opened (surfaces : List Surface) (setup : DisplaySetup) :
    (opened surfaces setup).Faithful setup.id where
  id := by
    obtain ⟨id, visible, fit⟩ := setup
    cases visible <;> rfl
  state := by
    obtain ⟨id, visible, fit⟩ := setup
    cases visible <;> rfl
  description := rfl
  presentable := nofun
  suits := nofun

/-- The notes are true after every run. -/
theorem faithful_run (surfaces : List Surface) (setup : DisplaySetup) (acts : List Act) :
    ((opened surfaces setup).run acts).Faithful setup.id := by
  suffices hgeneral : ∀ logbook : Logbook, logbook.Faithful setup.id → (logbook.run acts).Faithful setup.id from
    hgeneral _ (faithful_opened surfaces setup)
  induction acts with
  | nil => exact fun _ hfaithful => hfaithful
  | cons act acts ih => exact fun logbook hfaithful => ih _ (hfaithful.act act)

/-- A watch of the desk accepts the frames that are noted as queued. -/
theorem accepted_program (acts : List Act) {watch : Watch} (hdesk : watch.desk = logbook.station.desk)
    (haccepted : watch.accepted.map Accepted.frame = logbook.queued.map Submission.frame) :
    (watch.run (logbook.station.program acts)).accepted.map Accepted.frame =
      (logbook.run acts).queued.map Submission.frame := by
  induction acts generalizing watch logbook with
  | nil => exact haccepted
  | cons act acts ih =>
    have hstep : watch.run (logbook.station.program (act :: acts)) =
        (watch.run (logbook.station.inner act)).run ((logbook.act act).station.program acts) :=
      List.foldl_append
    have hnext : (watch.run (logbook.station.inner act)).desk = (logbook.act act).station.desk := by
      rw [Watch.desk_run, hdesk]
      exact (logbook.station.desk_act act).symm
    rw [hstep]
    refine ih hnext ?_
    rw [Station.accepted_inner hdesk, haccepted]
    simp [Logbook.act, Function.comp_def]

/-- Whatever is done with a display sink and to its surfaces, the frames that surfaces are given are, in order,
frames that were queued, each for one showing. Every frame that was queued has the format and the size of the
stream that was agreed on last before; it is packed and not empty, and its payload is as long as its pixels need.
The sink goes by the stream that was agreed on last, and by none once it was taken down. A frame is answered
without an error exactly if it suits that stream, and it is queued exactly if moreover the sink is paused or
playing, no other source is active, a surface is bound, the consumer in place has not failed, and the host does
not refuse to start one where there is none. -/
theorem only_agreed_frames_shown (surfaces : List Surface) (setup : DisplaySetup) (acts : List Act) :
    let logbook := (opened surfaces setup).run acts
    let station := logbook.station
    station = (Station.opened surfaces setup).run acts ∧
    (∃ showings : List Showing,
      (∀ surface, station.scene.given[surface]? =
        (surfaces.map Surface.given)[surface]?.map (· ++ Showing.at surface showings)) ∧
      (showings.map Showing.frame).Sublist (logbook.queued.map Submission.frame)) ∧
    (∀ submission ∈ logbook.queued, ∃ description, submission.agreed = some description ∧
      submission.frame.frame.Suits description) ∧
    station.sink.description = logbook.inForce ∧
    (∀ frame, (station.answer frame).isOk = true ↔
      ∃ description, logbook.inForce = some description ∧ frame.frame.Suits description) ∧
    (∀ frame, station.answer frame = .ok .queued ↔
      (station.answer frame).isOk = true ∧ station.sink.state.canRender = true ∧
      (station.sink.presenter.activeSource = none ∨ station.sink.presenter.activeSource = some setup.id) ∧
      station.desk.isBound = true ∧ station.desk.isDead = false ∧
      station.desk.presenter.mailbox.obstacle = none) := by
  have hfaithful := faithful_run surfaces setup acts
  let opening := (Watch.opened surfaces setup.id).run (Station.opening setup)
  have hdesk : opening.desk = (Logbook.opened surfaces setup).station.desk :=
    (Watch.desk_run _ _).trans (Station.desk_opened surfaces setup).symm
  have hnone : opening.accepted = [] := by
    obtain ⟨id, visible, fit⟩ := setup
    cases visible <;> rfl
  have haccepted := accepted_program acts hdesk (by rw [hnone]; rfl)
  have hisolated := Watch.isolated_run surfaces setup.id
    (Station.opening setup ++ (Station.opened surfaces setup).program acts)
  have hwatch : (Watch.opened surfaces setup.id).run
      (Station.opening setup ++ (Station.opened surfaces setup).program acts) =
        opening.run ((Logbook.opened surfaces setup).station.program acts) := List.foldl_append
  have hend : (opening.run ((Logbook.opened surfaces setup).station.program acts)).desk =
      ((opened surfaces setup).run acts).station.desk := by
    rw [Watch.desk_run, hdesk, station_run, Station.desk_program]
  rw [hwatch] at hisolated
  have hstation := station_run acts (opened surfaces setup)
  dsimp only
  generalize opening.run ((Logbook.opened surfaces setup).station.program acts) = watch at hisolated haccepted hend
  generalize (opened surfaces setup).run acts = logbook at *
  refine ⟨hstation, ⟨watch.showings, ?_, ?_⟩, hfaithful.suits, hfaithful.description, ?_, ?_⟩
  · have hscene : watch.desk.scene = logbook.station.scene := congrArg Desk.scene hend
    rw [← hscene]
    exact hisolated.given
  · have hshown := hisolated.showings.map Showing.frame
    rw [List.map_map] at hshown
    rw [← haccepted]
    exact hshown
  · intro frame
    rw [hfaithful.answer_isOk, hfaithful.description]
  · intro frame
    have hqueued := Desk.queued_iff frame logbook.station.desk
    rw [show logbook.station.desk.presenter.state = _ from hfaithful.state,
      show logbook.station.desk.presenter.id = _ from hfaithful.id] at hqueued
    refine Iff.trans ?_ (and_congr_right' hqueued)
    rw [Station.answer_eq]
    cases logbook.station.sink.check frame.frame with
    | error cause => simp [Except.map, Except.isOk, Except.toBool]
    | ok => simp [Except.map, Except.isOk, Except.toBool]

/-- A frame is queued for the stream first agreed on, and shown after another stream was agreed on. -/
def renegotiated : List Act :=
  [.negotiate ⟨PixelFormat.rgba.code, ⟨1, 1⟩⟩, .move .nullToReady, .move .readyToPaused, .setSurface (some 0),
    .render ⟨1, ⟨#[1, 2, 3, 4], ⟨1, 1⟩, .rgba, 0⟩⟩, .negotiate ⟨PixelFormat.bgra.code, ⟨1, 1⟩⟩] ++
    List.replicate 4 .advance

theorem only_agreed_frames_shown_renegotiated :
    let first : SharedFrame := ⟨1, ⟨#[1, 2, 3, 4], ⟨1, 1⟩, .rgba, 0⟩⟩
    let second : SharedFrame := ⟨2, ⟨#[1, 2, 3, 4], ⟨1, 1⟩, .bgra, 0⟩⟩
    let logbook := (opened [.new ⟨"legacy", true, false, false, false, none⟩ (some ⟨1, 1⟩)] .default).run renegotiated
    logbook.station.scene.given[0]? = some [first] ∧
      first.frame.Suits ⟨PixelFormat.rgba.code, ⟨1, 1⟩⟩ ∧
      (logbook.station.answer first).isOk = false ∧
      logbook.station.answer second = .ok .queued := by
  obtain ⟨-, -, hsuits, -, hanswer, hqueued⟩ := only_agreed_frames_shown
    [.new ⟨"legacy", true, false, false, false, none⟩ (some ⟨1, 1⟩)] .default renegotiated
  refine ⟨by decide +kernel, ?_, ?_, ?_⟩
  · obtain ⟨description, hagreed, hfirst⟩ := hsuits
      ⟨⟨1, ⟨#[1, 2, 3, 4], ⟨1, 1⟩, .rgba, 0⟩⟩, some ⟨PixelFormat.rgba.code, ⟨1, 1⟩⟩⟩ (.head _)
    cases hagreed
    exact hfirst
  · rw [← Bool.not_eq_true, hanswer]
    rintro ⟨description, hforce, hfirst⟩
    cases hforce
    exact absurd hfirst.format (by decide)
  · have hsecond : (Frame.mk #[1, 2, 3, 4] ⟨1, 1⟩ .bgra 0).Suits ⟨PixelFormat.bgra.code, ⟨1, 1⟩⟩ :=
      ⟨rfl, rfl, rfl, by decide, by decide, by decide⟩
    refine (hqueued _).2 ⟨(hanswer _).2 ⟨_, rfl, hsecond⟩, ?_⟩
    decide +kernel

end Logbook

end Sink

end FramePath

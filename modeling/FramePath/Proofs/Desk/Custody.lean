import FramePath.Proofs.Desk.Deeds
import FramePath.Proofs.Lease

/-!
# Every reference is accounted for

A presenter has one lease on a frame for each place where the frame is: in the queue, in hand, held after
it was lent, and held before the frame in hand. `Custody` says so, with room for frames that the producer is just
carrying to the mailbox. The renderer's steps keep it, hence so do the consumer's steps, a close and a
send, and hence every deed. `references_accounted` is the law for all runs.
-/

namespace FramePath

open Renderer (Call Job)

/-- All places where frames are kept, those of the call in progress first. -/
def places (mailbox : Mailbox Call) (renderer : Renderer) : List SharedFrame :=
  (mailbox.transport.call?.map Call.frames).getD [] ++
    (renderer.held.toList ++ mailbox.transport.queue.flatMap Envelope.frames)

/-- Number of the entries of a list that are the frame with this mark. -/
def copies (mark : Nat) (frames : List SharedFrame) : Nat :=
  frames.countP fun frame => frame.mark == mark

/-- The places of a frame, told apart. -/
theorem copies_places (mark : Nat) (mailbox : Mailbox Call) (renderer : Renderer) :
    copies mark (places mailbox renderer) =
      copies mark (mailbox.transport.queue.flatMap Envelope.frames) +
      copies mark ((mailbox.transport.call?.map Call.envelope).toList.flatMap Envelope.frames) +
      copies mark renderer.held.toList +
      copies mark (mailbox.transport.call?.bind Call.previous?).toList := by
  unfold copies places
  rw [List.countP_append, List.countP_append]
  cases mailbox.transport.call? with
  | none =>
    simp only [Option.map_none, Option.getD_none, Option.bind_none, Option.toList_none,
      List.flatMap_nil, List.countP_nil]
    omega
  | some call =>
    simp only [Option.map_some, Option.getD_some, Option.bind_some, Option.toList_some,
      List.flatMap_singleton, Call.frames, List.countP_append]
    omega

/-- There is one lease for each frame that is carried and for each place of a frame; a call on its way to a
surface has taken the held frame over; and without a transport nothing is held. -/
structure Custody (carried : List SharedFrame) (mailbox : Mailbox Call) (stage : Backstage) : Prop where
  backs : stage.leases.Backs (carried ++ places mailbox stage.renderer)
  taken_over : ∀ call job, mailbox.transport.call? = some call → call.job? = some job →
    stage.renderer.held = none
  at_rest : mailbox.transport = .absent → stage.renderer.held = none

variable {mailbox : Mailbox Call} {stage : Backstage} {carried others : List SharedFrame}

/-- What the leases are for after a call has gone on with its own frames, the held one and others. -/
def Progress.Keeps (progress : Progress Call) (after : Backstage) (others : List SharedFrame) : Prop :=
  match progress with
  | .waiting next =>
      after.leases.Backs (next.frames ++ (after.renderer.held.toList ++ others)) ∧
        ∀ job, next.job? = some job → after.renderer.held = none
  | .returned | .failed => after.leases.Backs (after.renderer.held.toList ++ others)

/-- A call lets go of its frames, puts them away or goes on with them, and of the held one just so. -/
theorem Backstage.Resumed.keeps {call : Call} {after : Backstage} {progress : Progress Call}
    (hresumed : Resumed call stage progress after)
    (hbacks : stage.leases.Backs (call.frames ++ (stage.renderer.held.toList ++ others)))
    (htaken : ∀ job, call.job? = some job → stage.renderer.held = none) :
    progress.Keeps after others := by
  cases hresumed with
  | stale frame epoch stage =>
    have hall : stage.leases.Backs ((frame :: stage.renderer.held.toList) ++ others) := hbacks
    exact hall.releaseAll
  | accepted frame epoch stage binding surface => exact ⟨hbacks, fun _ _ => rfl⟩
  | sizing job stage => exact ⟨hbacks, fun _ _ => htaken job rfl⟩
  | writing job first stage => exact ⟨hbacks, fun _ _ => htaken job rfl⟩
  | lending job first stage => exact ⟨hbacks, fun _ _ => htaken job rfl⟩
  | sized job stage => exact ⟨hbacks, fun _ _ => htaken job rfl⟩
  | written job stage surface => exact ⟨hbacks, fun _ _ => htaken job rfl⟩
  | withheld job stage =>
    have hall : stage.leases.Backs (job.frames ++ (stage.renderer.held.toList ++ others)) := hbacks
    exact hall.releaseAll
  | marked job stage =>
    have hall : stage.leases.Backs (job.frames ++ (stage.renderer.held.toList ++ others)) := hbacks
    exact hall.releaseAll
  | lent job stage =>
    -- The frame in hand becomes the held one, and the one held before is let go of.
    have hnone := htaken job rfl
    rw [hnone] at hbacks
    have hall : stage.leases.Backs (job.previous.toList ++ (job.frame :: others)) :=
      hbacks.perm List.perm_middle.symm
    exact hall.releaseAll
  | unseen visible stage => exact hbacks
  | revealing visible stage surface => exact ⟨hbacks, by intro job hjob; cases hjob⟩
  | showing visible surface stage => exact ⟨hbacks, by intro job hjob; cases hjob⟩
  | shown visible surface stage => exact hbacks
  | failed call stage point =>
    have hall : stage.leases.Backs (call.frames ++ (stage.renderer.held.toList ++ others)) := hbacks
    exact hall.releaseAll

namespace Custody

/-- A step of the consumer keeps the accounts. -/
theorem advance (hcustody : Custody [] mailbox stage) :
    Custody [] (mailbox.advance stage).1 (mailbox.advance stage).2 := by
  obtain ⟨hbacks, htaken, hrest⟩ := hcustody
  have hstep := Mailbox.advanced mailbox stage
  generalize (mailbox.advance stage).1 = after, (mailbox.advance stage).2 = next at hstep ⊢
  cases hstep with
  | resting => exact ⟨hbacks, htaken, hrest⟩
  | taken envelope queue tally refusal stage =>
    refine ⟨hbacks.perm ?_, ?_, nofun⟩
    · -- The frames of the envelope move from the head of the queue into the hand.
      show (stage.renderer.held.toList ++ (envelope.frames ++ queue.flatMap Envelope.frames)).Perm
        ((envelope.frames ++ []) ++ (stage.renderer.held.toList ++ queue.flatMap Envelope.frames))
      rw [List.append_nil]
      exact List.perm_append_comm_assoc ..
    · intro call job hcall hjob
      cases hcall
      cases hjob
  | waiting call going queue tally refusal stage next hgoing =>
    obtain ⟨hkept, hover⟩ :=
      (Backstage.resumed_of_going hgoing).keeps hbacks fun job hjob => htaken call job rfl hjob
    refine ⟨hkept, ?_, nofun⟩
    intro other job hcall hjob
    cases hcall
    exact hover job hjob
  | returned call queue tally refusal stage next hgoing =>
    have hkept :=
      (Backstage.resumed_of_going hgoing).keeps hbacks fun job hjob => htaken call job rfl hjob
    refine ⟨hkept, ?_, nofun⟩
    intro other job hcall
    cases hcall
  | failed call queue tally refusal stage next hgoing =>
    have hkept : next.leases.Backs (next.renderer.held.toList ++ queue.flatMap Envelope.frames) :=
      (Backstage.resumed_of_going hgoing).keeps hbacks fun job hjob => htaken call job rfl hjob
    refine ⟨?_, ?_, nofun⟩
    · -- The call has let go of its frames, so those of the queue and the held one are left.
      rw [Backstage.disposeAll_eq]
      have hqueue : next.leases.Backs
          (queue.flatMap Envelope.frames ++ next.renderer.held.toList) :=
        hkept.perm List.perm_append_comm
      have hleft : (next.release (queue.flatMap Envelope.frames)).leases.Backs
          next.renderer.held.toList := hqueue.releaseAll
      exact hleft.perm (.of_eq (List.append_nil _).symm)
    · intro other job hcall
      cases hcall

/-- Draining lets go of the held frame, so that a closed mailbox leaves no lease out. -/
theorem of_drain {tally : MailTally} {refusal : Option String}
    (hbacks : stage.leases.Backs stage.renderer.held.toList) :
    Custody [] ⟨.absent, tally, refusal⟩ stage.drain := by
  have hnone : stage.drain.renderer.held = none := by
    show stage.renderer.letGo.held = none
    unfold Renderer.letGo
    split
    · assumption
    · rfl
  have hall : stage.leases.Backs (stage.renderer.held.toList ++ []) :=
    hbacks.perm (.of_eq (List.append_nil _).symm)
  have hreleased : stage.drain.leases.Backs [] := hall.releaseAll
  refine ⟨?_, fun _ _ _ _ => hnone, fun _ => hnone⟩
  show stage.drain.leases.Backs (stage.drain.renderer.held.toList ++ [])
  rw [hnone]
  exact hreleased

/-- A close without a call in progress gives every lease back but that on what is carried. -/
theorem close_quiet (hquiet : mailbox.transport.call? = none)
    (hcustody : Custody [] mailbox stage) :
    Custody [] (mailbox.close stage).1 (mailbox.close stage).2 := by
  obtain ⟨transport, tally, refusal⟩ := mailbox
  obtain ⟨hbacks, htaken, hrest⟩ := hcustody
  cases transport with
  | absent => exact ⟨hbacks, htaken, hrest⟩
  | crashed =>
    have hheld : stage.leases.Backs stage.renderer.held.toList :=
      hbacks.perm (.of_eq (List.append_nil _))
    exact of_drain hheld
  | running call queue =>
    cases hquiet
    have hplaces : stage.leases.Backs
        (stage.renderer.held.toList ++ queue.flatMap Envelope.frames) := hbacks
    have hqueue := hplaces.perm List.perm_append_comm
    have hleft : (Mailbox.disposeAll queue stage).leases.Backs
        (Mailbox.disposeAll queue stage).renderer.held.toList := by
      rw [Backstage.disposeAll_eq]
      exact hqueue.releaseAll
    exact of_drain hleft

/-- A close gives every lease back, after the call in progress has come to its end. -/
theorem close (hcustody : Custody [] mailbox stage) :
    Custody [] (mailbox.close stage).1 (mailbox.close stage).2 := by
  have hstep : ∀ mailbox stage, mailbox.transport.call?.isSome = true → Custody [] mailbox stage →
      Custody [] (mailbox.advance stage).1 (mailbox.advance stage).2 :=
    fun _ _ _ hcustody => hcustody.advance
  have hquiet : ∀ mailbox stage, mailbox.transport.call? = none → Custody [] mailbox stage →
      Custody [] (mailbox.close stage).1 (mailbox.close stage).2 :=
    fun _ _ hquiet hcustody => hcustody.close_quiet hquiet
  exact @Mailbox.close_of_calls _ _ _ _ (fun closed => Custody [] closed.1 closed.2) hstep hquiet
    mailbox stage hcustody

/-- A send puts what is carried into the queue, or lets go of it with everything else. -/
theorem send {envelope : Envelope} (hcustody : Custody envelope.frames mailbox stage) :
    Custody [] (mailbox.send envelope stage).2.1 (mailbox.send envelope stage).2.2 := by
  obtain ⟨transport, tally, refusal⟩ := mailbox
  obtain ⟨hbacks, htaken, hrest⟩ := hcustody
  cases transport with
  | absent =>
    cases refusal with
    | none =>
      refine ⟨hbacks.perm ?_, ?_, nofun⟩
      · show (envelope.frames ++ (stage.renderer.held.toList ++ [])).Perm
          (stage.renderer.held.toList ++ (envelope.frames ++ []))
        rw [List.append_nil, List.append_nil]
        exact List.perm_append_comm
      · intro call job hcall
        cases hcall
    | some cause =>
      have hcarried : stage.leases.Backs (envelope.frames ++ (stage.renderer.held.toList ++ [])) :=
        hbacks
      have hleft : (stage.release envelope.frames).leases.Backs (stage.renderer.held.toList ++ []) :=
        hcarried.releaseAll
      refine ⟨hleft, ?_, fun _ => hrest rfl⟩
      intro call job hcall
      cases hcall
  | running call queue =>
    refine ⟨hbacks.perm ?_, htaken, nofun⟩
    refine List.perm_iff_count.2 fun frame => ?_
    simp only [places, Mailbox.send, Mailbox.accepting, Transport.call?, Transport.queue, List.flatMap_append,
      List.flatMap_singleton, List.count_append, List.nil_append]
    omega
  | crashed =>
    have hcarried : stage.leases.Backs (envelope.frames ++ (stage.renderer.held.toList ++ [])) :=
      hbacks
    have hheld : (stage.release envelope.frames).leases.Backs stage.renderer.held.toList :=
      hcarried.releaseAll.perm (.of_eq (List.append_nil _))
    exact of_drain hheld

end Custody

namespace Desk

/-- The accounts of a desk. -/
def Accounted (desk : Desk) : Prop :=
  Custody [] desk.presenter.mailbox desk.backstage

variable {desk : Desk}

/-- What concerns the scene only leaves the accounts as they are. -/
theorem Accounted.of_presenter {other : Desk} (haccounted : desk.Accounted)
    (hsame : other.presenter = desk.presenter) : other.Accounted := by
  obtain ⟨scene, presenter⟩ := desk
  obtain ⟨scene', presenter'⟩ := other
  cases hsame
  exact ⟨haccounted.backs, haccounted.taken_over, haccounted.at_rest⟩

/-- The consumer's steps keep the accounts. -/
theorem Accounted.advance (haccounted : desk.Accounted) : desk.advance.Accounted :=
  Custody.advance haccounted

/-- A close keeps the accounts. -/
theorem Accounted.close (haccounted : desk.Accounted) : desk.close.Accounted :=
  Custody.close haccounted

/-- Sending what the desk has a lease on beyond its accounts puts the accounts right. -/
theorem accounted_send {envelope : Envelope}
    (hcustody : Custody envelope.frames desk.presenter.mailbox desk.backstage) :
    (desk.send envelope).2.Accounted := by
  have hsent := hcustody.send
  unfold Desk.send
  generalize desk.presenter.mailbox.send envelope desk.backstage = sent at hsent ⊢
  obtain ⟨accepted, mailbox, stage⟩ := sent
  cases accepted with
  | ok _ => exact hsent
  | error _ => exact hsent

/-- An announcement keeps the accounts. -/
theorem Accounted.announce (haccounted : desk.Accounted) : desk.announce.Accounted := by
  unfold Desk.announce
  split
  · exact haccounted
  · exact accounted_send haccounted

/-- Asking for a visibility keeps the accounts. -/
theorem Accounted.setVisible (haccounted : desk.Accounted) (visible : Bool) :
    (desk.setVisible visible).Accounted := by
  unfold Desk.setVisible
  dsimp only
  split
  · exact accounted_send haccounted
  · exact haccounted

/-- A submit keeps the accounts: the lease it takes goes with the frame. -/
theorem Accounted.submit (haccounted : desk.Accounted) (frame : SharedFrame) :
    (desk.submit frame).2.Accounted := by
  have hcarried : Custody [frame] desk.presenter.mailbox (desk.lease frame).backstage :=
    ⟨haccounted.backs.take frame, haccounted.taken_over, haccounted.at_rest⟩
  rcases desk.submit_cases frame with
    ⟨_, hdropped⟩ | ⟨_, _, hdropped⟩ | ⟨_, _, _, hdropped⟩ | ⟨_, _, binding, _, _, _, hsent⟩
  · rw [hdropped]
    exact haccounted
  · rw [hdropped]
    exact haccounted
  · rw [hdropped]
    exact haccounted
  · rw [hsent]
    have haccepted : ((desk.lease frame).send (.frame frame binding.epoch)).2.Accounted :=
      accounted_send hcarried
    split
    · exact haccepted
    · exact haccepted

/-- Every deed keeps the accounts. -/
theorem Accounted.perform (haccounted : desk.Accounted) (deed : Deed) : (desk.perform deed).Accounted := by
  cases deed with
  | unbind => exact haccounted.of_presenter desk.presenter_unbind
  | attach surface zeroCopy => exact haccounted.of_presenter (presenter_attach surface zeroCopy desk)
  | announce => exact haccounted.announce
  | setVisible visible => exact haccounted.setVisible visible
  | submit frame => exact haccounted.submit frame
  | advance => exact haccounted.advance
  | close => exact haccounted.close
  | destroy surface => exact haccounted.of_presenter rfl
  | arrange arrangement =>
    cases arrangement with
    | state => exact haccounted
    | source => exact haccounted
    | bar => exact ⟨haccounted.backs, haccounted.taken_over, haccounted.at_rest⟩
    | _ => exact haccounted.of_presenter rfl

/-- A desk that was just opened has nothing and no lease. -/
theorem accounted_opened (surfaces : List Surface) (id : Nat) : (opened surfaces id).Accounted := by
  refine ⟨Leases.backs_none, ?_, fun _ => rfl⟩
  intro call job hcall
  cases hcall

/-- After every run of a new presenter its references are accounted for. -/
theorem accounted_run (surfaces : List Surface) (id : Nat) (acts : List Act) :
    ((opened surfaces id).run acts).Accounted :=
  run_of_deeds (fun _ deed _ hkept => hkept.perform deed) acts (accounted_opened surfaces id)

/-- The references to a frame are as many as the places where it is. -/
theorem Accounted.references_eq (haccounted : desk.Accounted) (mark : Nat) :
    desk.presenter.references mark =
      copies mark (places desk.presenter.mailbox desk.presenter.renderer) :=
  haccounted.backs.count_eq mark

/-- Without a transport nothing is held, and no reference is out. -/
theorem Accounted.at_end (haccounted : desk.Accounted)
    (habsent : desk.presenter.mailbox.transport = .absent) :
    desk.presenter.renderer.held = none ∧ ∀ mark, desk.presenter.references mark = 0 := by
  have hnone : desk.presenter.renderer.held = none := haccounted.at_rest habsent
  refine ⟨hnone, fun mark => ?_⟩
  rw [haccounted.references_eq, copies_places, habsent, hnone]
  rfl

/-- After any run, the references to a frame are as many as the places where it is: in the queue, in
hand, held after it was lent, and held before the frame in hand. No reference was ever given back twice.
And without a transport the queue is empty, nothing is held, and no reference is out. -/
theorem references_accounted (surfaces : List Surface) (id : Nat) (acts : List Act) :
    let presenter := ((opened surfaces id).run acts).presenter
    let transport := presenter.mailbox.transport
    (∀ mark, presenter.references mark =
      copies mark (transport.queue.flatMap Envelope.frames) +
      copies mark ((transport.call?.map Call.envelope).toList.flatMap Envelope.frames) +
      copies mark presenter.renderer.held.toList +
      copies mark (transport.call?.bind Call.previous?).toList) ∧
    presenter.leases.overdrawn = 0 ∧
    (transport = .absent →
      transport.queue = [] ∧ presenter.renderer.held = none ∧ ∀ mark, presenter.references mark = 0) := by
  have haccounted := accounted_run surfaces id acts
  generalize (opened surfaces id).run acts = desk at haccounted
  have hreferences := haccounted.references_eq
  refine ⟨?_, haccounted.backs.overdrawn_eq, ?_⟩
  · intro mark
    rw [hreferences, copies_places]
  · intro habsent
    exact ⟨by rw [habsent]; rfl, haccounted.at_end habsent⟩

/-- One frame, submitted three times: lent to a surface and held, on its way there again, and waiting. -/
def threefold : List Act :=
  let frame : SharedFrame := ⟨1, ⟨#[], ⟨1, 1⟩, .rgba, 0⟩⟩
  [.setState .paused, .bind 0, .submit frame, .advance, .advance, .advance, .advance, .advance,
    .submit frame, .submit frame, .advance, .advance]

theorem references_accounted_threefold :
    let desk := (opened [.new ⟨"legacy", true, false, false, false, none⟩ (some ⟨1, 1⟩)] 0).run threefold
    desk.presenter.references 1 = 3 ∧ desk.teardown.presenter.mailbox.transport = .absent ∧
      desk.teardown.presenter.references 1 = 0 := by
  refine ⟨by decide +kernel, transport_teardown [] _, ?_⟩
  have haccounted := references_accounted
    [.new ⟨"legacy", true, false, false, false, none⟩ (some ⟨1, 1⟩)] 0 (threefold ++ [.teardown])
  rw [run_append] at haccounted
  exact (haccounted.2.2 (transport_teardown [] _)).2.2 1

end Desk

end FramePath

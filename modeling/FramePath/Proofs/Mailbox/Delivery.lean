import FramePath.Proofs.Mailbox.Noted
import FramePath.Recorder

/-!
# Delivery in order, and each frame counted once

What a producer may rely on. Each consumer handles what was accepted for it in the order of sending; a close
throws away what it did not come to, and counts the frames among it; and without failures every accepted frame
is counted either as delivered or as discarded. The calls in the record of the shifts are those that the recipient
itself has noted (`Watched.Recited`). `delivered_in_order` states this for all runs and all recipients.
-/

namespace FramePath

namespace Mailbox

/-- Of a shift that is over and did not fail, every accepted frame was delivered or discarded. -/
theorem Shift.Settled.frames {shift : Shift} (hsettled : shift.Settled)
    (hgood : shift.failed = false) :
    shift.accepted.countP Envelope.isFrame =
      shift.finished.countP Envelope.isFrame + shift.discarded := by
  obtain ⟨rest, hrest⟩ := hsettled.called_leads
  have hdiscarded : shift.discarded = rest.countP Envelope.isFrame := by
    simp [Shift.discarded, hgood, Shift.remainder_eq hrest.symm]
  rw [← hrest, List.countP_append, hsettled.finished_eq hgood, hdiscarded]

/-- Over shifts that are over without a failure, every accepted frame came to the end of its call or was thrown
away. -/
theorem Shift.summed_frames {shifts : List Shift}
    (hsettled : ∀ shift ∈ shifts, shift.Settled ∧ shift.failed = false) :
    summed (·.accepted.countP Envelope.isFrame) shifts =
      summed (·.finished.countP Envelope.isFrame) shifts + summed discarded shifts := by
  induction shifts with
  | nil => rfl
  | cons shift shifts ih =>
    obtain ⟨hover, hrest⟩ := List.forall_mem_cons.1 hsettled
    have hframes := hover.1.frames hover.2
    have hearlier := ih hrest
    simp only [summed_cons]
    omega

variable {σ κ : Type} [recipient : Recipient σ κ]

namespace Watched

/-- The calls of every shift, over or at work, are made in the order of sending. -/
theorem Faithful.called_leads {watched : Watched σ κ} (hfaithful : watched.Faithful) :
    ∀ shift ∈ watched.shifts, shift.called <+: shift.accepted := by
  intro shift hshift
  cases List.mem_append.1 hshift with
  | inr hpast => exact (hfaithful.past shift hpast).called_leads
  | inl hpresent =>
    have hat : watched.present = some shift := by simpa using hpresent
    have hfollows := hfaithful.present
    rw [hat] at hfollows
    cases htransport : watched.mailbox.transport with
    | absent => rw [htransport] at hfollows; exact hfollows.elim
    | running call queue =>
      rw [htransport] at hfollows
      exact ⟨queue, hfollows.2.1.symm⟩
    | crashed => rw [htransport] at hfollows; exact hfollows.2

/-- An idle consumer has been called with all that was accepted for it. -/
theorem Faithful.called_all {watched : Watched σ κ} (hfaithful : watched.Faithful)
    (hidle : watched.mailbox.transport = .running none []) :
    ∃ shift, watched.present = some shift ∧ shift.called = shift.accepted := by
  have hfollows := hfaithful.present
  rw [hidle] at hfollows
  cases hpresent : watched.present with
  | none => rw [hpresent] at hfollows; exact hfollows.elim
  | some shift =>
    rw [hpresent] at hfollows
    exact ⟨shift, rfl, by rw [hfollows.2.1, List.append_nil]⟩

/-- What a close without a failure does: the call in hand ends and is counted, no other call is made, and
of the rest the frames are counted as discarded and nothing else is. -/
theorem Faithful.close_counts {watched : Watched σ κ} (hfaithful : watched.Faithful) {ended : Shift}
    (hended : watched.close.past = ended :: watched.past) (hgood : ended.failed = false) :
    ∃ shift, watched.present = some shift ∧
      ended.accepted = shift.accepted ∧ ended.called = shift.called ∧
      watched.close.mailbox.tally =
        { sent := watched.mailbox.tally.sent
          delivered := watched.mailbox.tally.delivered +
            (watched.mailbox.transport.hand σ).toList.countP Envelope.isFrame
          discarded := watched.mailbox.tally.discarded + ended.remainder.countP Envelope.isFrame
          visibilityChanges := watched.mailbox.tally.visibilityChanges +
            (watched.mailbox.transport.hand σ).toList.countP fun envelope => !envelope.isFrame } := by
  obtain ⟨⟨transport, tally, refusal⟩, state, past, present⟩ := watched
  have hfollows := hfaithful.present
  cases present with
  | none => simp [Watched.close] at hended
  | some shift =>
    refine ⟨shift, rfl, ?_⟩
    have hshown : Shift.observeClose ⟨transport, tally, refusal⟩ state shift = ended :=
      (List.cons.inj hended).1
    subst hshown
    cases transport with
    | absent => exact hfollows.elim
    | crashed => exact Bool.noConfusion (hfollows.1.symm.trans hgood)
    | running call queue =>
      have hremainder := Shift.remainder_eq hfollows.2.1
      cases call with
      | none =>
        refine ⟨rfl, rfl, ?_⟩
        show tally.countDiscarded queue = ⟨_, _, tally.discarded + shift.remainder.countP _, _⟩
        rw [hremainder]
        rfl
      | some call =>
        simp only [Shift.observeClose, Transport.call?] at hgood ⊢
        cases hfinish : Mailbox.finish call state with
        | mk returned after =>
          cases returned with
          | false => simp [hfinish, Shift.fail] at hgood
          | true =>
            refine ⟨rfl, rfl, ?_⟩
            simp only [Watched.close, Mailbox.close, closed, hfinish, if_true]
            show (tally.countHandled _).countDiscarded queue =
              ⟨_, _, tally.discarded + shift.remainder.countP _, _⟩
            rw [hremainder, MailTally.countHandled_eq]
            rfl

/-- Without failures, and with nothing in hand or in the queue, every accepted frame is counted as
delivered or as discarded. -/
theorem Faithful.frames {watched : Watched σ κ} (hfaithful : watched.Faithful)
    (hgood : ∀ shift ∈ watched.shifts, shift.failed = false)
    (hidle : watched.mailbox.isIdle = true) :
    watched.total (·.accepted.countP Envelope.isFrame) =
      watched.mailbox.tally.delivered + watched.mailbox.tally.discarded := by
  obtain ⟨⟨transport, tally, refusal⟩, state, past, present⟩ := watched
  have hpast := Shift.summed_frames fun shift hshift =>
    ⟨hfaithful.past shift hshift, hgood shift (List.mem_append_right _ hshift)⟩
  have hfollows := hfaithful.present
  rw [hfaithful.delivered, hfaithful.discarded]
  cases present with
  | none => exact hpast
  | some shift =>
    rw [total_some, total_some]
    have hall : shift.accepted = shift.finished := by
      cases transport with
      | absent => exact hfollows.elim
      | crashed => exact Bool.noConfusion (hfollows.1.symm.trans (hgood shift (List.mem_cons_self ..)))
      | running call queue =>
        obtain ⟨rfl, rfl⟩ : call = none ∧ queue = [] := by
          simpa [isIdle, Transport.call?, Transport.queue] using hidle
        rw [hfollows.2.1, hfollows.2.2]
        simp
    rw [hall, hpast, ← Nat.add_assoc]

/-- The envelope in hand with which the recipient has not been called yet. -/
def unopened (watched : Watched (Noted σ) (Noted.Call κ)) : List Envelope :=
  (watched.mailbox.transport.call?.map (Noted.Call.opening σ)).getD []

/-- What a recipient was called with, and which calls returned, is what the record of the shifts says, one shift after
another. The envelope that was just taken is the next to be called with. -/
structure Recited (watched : Watched (Noted σ) (Noted.Call κ)) : Prop where
  faithful : watched.Faithful
  called : watched.state.called ++ watched.unopened = watched.shifts.reverse.flatMap Shift.called
  returned : watched.state.returned = watched.shifts.reverse.flatMap Shift.finished

omit recipient in
/-- What all shifts come to is what those that are over come to, and then the one at work. -/
theorem flatMap_shifts (part : Shift → List Envelope) (mailbox : Mailbox κ) (state : σ)
    (past : List Shift) (shift : Shift) :
    (shifts ⟨mailbox, state, past, some shift⟩).reverse.flatMap part =
      past.reverse.flatMap part ++ part shift := by
  simp [shifts]

section Recital

variable {mailbox after : Mailbox (Noted.Call κ)} {noted next : Noted σ} {past : List Shift}
  {shift changed : Shift}

/-- What more is noted of the shift at work is what more its record says. -/
theorem Recited.going {more ended : List Envelope} (hrecited : Recited ⟨mailbox, noted, past, some shift⟩)
    (hfaithful : Faithful (⟨after, next, past, some changed⟩ : Watched (Noted σ) (Noted.Call κ)))
    (hcalled : changed.called = shift.called ++ more)
    (hfinished : changed.finished = shift.finished ++ ended)
    (hnoted : next.called ++ unopened ⟨after, next, past, some changed⟩ =
      noted.called ++ unopened ⟨mailbox, noted, past, some shift⟩ ++ more)
    (hreturned : next.returned = noted.returned ++ ended) :
    Recited ⟨after, next, past, some changed⟩ where
  faithful := hfaithful
  called := by
    rw [hnoted, hrecited.called, flatMap_shifts, flatMap_shifts, hcalled, List.append_assoc]
  returned := by
    rw [hreturned, hrecited.returned, flatMap_shifts, flatMap_shifts, hfinished, List.append_assoc]

/-- A step of the consumer is noted as it is recorded: a call begins when the recipient is called. -/
theorem Recited.advance {watched : Watched (Noted σ) (Noted.Call κ)} (hrecited : watched.Recited) :
    watched.advance.Recited := by
  have hfaithful := hrecited.faithful.advance
  obtain ⟨mailbox, noted, past, present⟩ := watched
  have hfollows := hrecited.faithful.present
  have hstep := advanced mailbox noted
  unfold Watched.advance at hfaithful ⊢
  generalize mailbox.advance noted = moved at hstep hfaithful ⊢
  obtain ⟨after, next⟩ := moved
  dsimp only at hstep hfaithful ⊢
  cases hstep with
  | resting =>
    have hsame : present.map (.observe (Noted σ) mailbox.transport mailbox.transport) = present := by
      cases present with
      | none => rfl
      | some shift => exact congrArg some (Shift.observe_same rfl shift)
    rw [hsame]
    exact hrecited
  | taken envelope queue =>
    cases present with
    | none => exact hfollows.elim
    | some shift =>
      rw [Option.map_some, Shift.observe_of_taken] at hfaithful ⊢
      refine hrecited.going hfaithful rfl (List.append_nil _).symm ?_ (List.append_nil _).symm
      show noted.called ++ [recipient.envelope (recipient.start envelope)] = noted.called ++ [] ++ [envelope]
      rw [recipient.envelope_start, List.append_nil]
  | waiting call going queue tally refusal _ next hgoing =>
    cases present with
    | none => exact hfollows.elim
    | some shift =>
      rw [Option.map_some, Shift.observe_of_waiting hgoing] at hfaithful ⊢
      obtain ⟨_, hbegun, hnext⟩ := Noted.resume_waiting hgoing
      refine hrecited.going hfaithful (List.append_nil _).symm (List.append_nil _).symm ?_ ?_
      · show next.called ++ Noted.Call.opening σ going = noted.called ++ Noted.Call.opening σ call ++ []
        rw [hnext]
        simp [Noted.Call.opening, hbegun]
      · rw [hnext, List.append_nil]
  | returned call queue tally refusal _ next hgoing =>
    cases present with
    | none => exact hfollows.elim
    | some shift =>
      obtain ⟨_, hnext⟩ := Noted.resume_returned hgoing
      have hended : (shift.observe (Noted σ) (.running (some call) queue) (.running none queue)).finished =
          shift.finished ++ [recipient.envelope call.call] := rfl
      refine hrecited.going hfaithful (List.append_nil _).symm hended ?_ ?_
      · show next.called ++ [] = noted.called ++ Noted.Call.opening σ call ++ []
        rw [hnext]
      · rw [hnext]
  | failed call queue tally refusal _ next hgoing =>
    cases present with
    | none => exact hfollows.elim
    | some shift =>
      obtain ⟨_, hnext⟩ := Noted.resume_failed hgoing
      have hshown : shift.observe (Noted σ) (.running (some call) queue) .crashed = shift.fail := rfl
      rw [Option.map_some, hshown] at hfaithful ⊢
      rw [Noted.disposeAll_eq] at hfaithful ⊢
      refine hrecited.going hfaithful (List.append_nil _).symm (List.append_nil _).symm ?_ ?_
      · show next.called ++ [] = noted.called ++ Noted.Call.opening σ call ++ []
        rw [hnext]
      · rw [hnext, List.append_nil]

/-- Closing a mailbox without a call in progress calls nobody. -/
theorem notes_close (hquiet : mailbox.transport.call? = none) (noted : Noted σ) :
    (mailbox.close noted).2.called = noted.called ∧
      (mailbox.close noted).2.returned = noted.returned := by
  obtain ⟨transport, tally, refusal⟩ := mailbox
  cases transport with
  | absent => exact ⟨rfl, rfl⟩
  | crashed => exact ⟨rfl, rfl⟩
  | running call queue =>
    cases hquiet
    simp only [Mailbox.close, Noted.disposeAll_eq]
    exact ⟨rfl, rfl⟩

/-- Where no call is in progress, a shift that comes to its end stays in the record as it was noted. -/
theorem Recited.over {present : Option Shift} (hrecited : Recited ⟨mailbox, noted, past, present⟩)
    (hquiet : mailbox.transport.call? = none)
    (hfaithful : Faithful (⟨after, next, present.toList ++ past, none⟩ : Watched (Noted σ) (Noted.Call κ)))
    (hafter : after.transport.call? = none) (hcalled : next.called = noted.called)
    (hreturned : next.returned = noted.returned) :
    Recited ⟨after, next, present.toList ++ past, none⟩ where
  faithful := hfaithful
  called := by
    have hbefore := hrecited.called
    unfold unopened at hbefore ⊢
    rw [hquiet] at hbefore
    rw [hafter, hcalled]
    exact hbefore
  returned := hreturned.trans hrecited.returned

/-- A close without a call in progress is noted as it is recorded. -/
theorem Recited.close_quiet {watched : Watched (Noted σ) (Noted.Call κ)} (hrecited : watched.Recited)
    (hquiet : watched.mailbox.transport.call? = none) : watched.close.Recited := by
  have hfaithful := hrecited.faithful.close
  obtain ⟨mailbox, noted, past, present⟩ := watched
  replace hquiet : mailbox.transport.call? = none := hquiet
  have hsame : present.map (.observeClose mailbox noted) = present := by
    have hshown : Shift.observeClose mailbox noted = id := by
      funext shift
      simp [Shift.observeClose, hquiet]
    rw [hshown]
    exact Option.map_id_apply
  have hclosed : (mailbox.close noted).1.transport.call? = none := by
    rw [transport_close]
    rfl
  obtain ⟨hcalled, hreturned⟩ := notes_close hquiet noted
  unfold Watched.close at hfaithful ⊢
  dsimp only at hfaithful ⊢
  rw [hsame] at hfaithful ⊢
  exact hrecited.over hquiet hfaithful hclosed hcalled hreturned

/-- Every close is noted as it is recorded. -/
theorem Recited.close {watched : Watched (Noted σ) (Noted.Call κ)} (hrecited : watched.Recited) :
    watched.close.Recited := by
  induction watched using call_induction with
  | quiet watched hcall => exact hrecited.close_quiet hcall
  | step watched call hcall ih =>
    rw [← watched.close_advance hcall]
    exact ih hrecited.advance

/-- A send calls nobody. -/
theorem Recited.send {watched : Watched (Noted σ) (Noted.Call κ)} (hrecited : watched.Recited)
    (envelope : Envelope) : (watched.send envelope).Recited := by
  have hfaithful := hrecited.faithful.send envelope
  obtain ⟨⟨transport, tally, refusal⟩, noted, past, present⟩ := watched
  have hfollows := hrecited.faithful.present
  cases transport with
  | absent =>
    cases present with
    | some shift => exact hfollows.elim
    | none =>
      cases refusal with
      | some cause => exact hrecited.over rfl hfaithful rfl rfl rfl
      | none =>
        refine ⟨hfaithful, ?_, ?_⟩
        · refine hrecited.called.trans ?_
          exact (flatMap_shifts Shift.called _ noted past _).symm ▸ (List.append_nil _).symm
        · refine hrecited.returned.trans ?_
          exact (flatMap_shifts Shift.finished _ noted past _).symm ▸ (List.append_nil _).symm
  | running call queue =>
    cases present with
    | none => exact hfollows.elim
    | some shift =>
      exact hrecited.going hfaithful (List.append_nil _).symm (List.append_nil _).symm
        (List.append_nil _).symm (List.append_nil _).symm
  | crashed => exact hrecited.over rfl hfaithful rfl rfl rfl

end Recital

/-- Every act is noted as it is recorded. -/
theorem Recited.act {watched : Watched (Noted σ) (Noted.Call κ)} (hrecited : watched.Recited)
    (act : Act σ) : (watched.act act.noted).Recited := by
  cases act with
  | send envelope => exact hrecited.send envelope
  | close => exact hrecited.close
  | drop => exact hrecited.close
  | advance => exact hrecited.advance
  | bar refusal => exact ⟨hrecited.faithful.act (.bar refusal), hrecited.called, hrecited.returned⟩
  | stir change =>
    exact ⟨hrecited.faithful.act (Act.noted (.stir change)), hrecited.called, hrecited.returned⟩

/-- After any run the notes are those of the record. -/
theorem recited_run (acts : List (Act σ)) (state : σ) :
    ((initial (.blank state) : Watched (Noted σ) (Noted.Call κ)).run (acts.map Act.noted)).Recited := by
  have hrun : ∀ (acts : List (Act σ)) (watched : Watched (Noted σ) (Noted.Call κ)), watched.Recited →
      (watched.run (acts.map Act.noted)).Recited := by
    intro acts
    induction acts with
    | nil => exact fun _ hrecited => hrecited
    | cons act acts ih => exact fun watched hrecited => ih _ (hrecited.act act)
  exact hrun acts _ ⟨faithful_initial _, rfl, rfl⟩

end Watched

/-- Delivery for every run and every recipient. The calls in the record are those of the recipient itself: what it
notes when it is called, one consumer after another, is what the record says, and so are the calls that
returned; only the envelope that was just taken from the queue is recorded and not called with yet.

For each consumer, from the send that starts it to the close that ends it, the calls of the recipient are a prefix of
the accepted envelopes, in the order of sending and unchanged; while it is open and idle they are all of them. A
close without a failure lets the call in hand end, makes no other, counts each frame of the rest once as
discarded and counts nothing for the rest's changes of visibility. The mailbox counts as sent what it accepted,
and as long as no call has failed, the accepted frames are those delivered and those discarded whenever nothing
is in hand or in the queue. -/
theorem delivered_in_order (acts : List (Act σ)) (state : σ) :
    let watched := (Watched.initial state : Watched σ κ).run acts
    let noted := (Watched.initial (.blank state) : Watched (Noted σ) (Noted.Call κ)).run
      (acts.map Act.noted)
    let tally := watched.mailbox.tally
    let hand := (watched.mailbox.transport.hand σ).toList
    noted.forget = watched ∧
    noted.state.called ++ noted.unopened = watched.shifts.reverse.flatMap Shift.called ∧
    noted.state.returned = watched.shifts.reverse.flatMap Shift.finished ∧
    (∀ shift ∈ watched.shifts, shift.called <+: shift.accepted) ∧
    (watched.mailbox.transport = .running none [] →
      ∃ shift, watched.present = some shift ∧ shift.called = shift.accepted) ∧
    (∀ ended, watched.close.past = ended :: watched.past → ended.failed = false →
      ∃ shift, watched.present = some shift ∧
        ended.accepted = shift.accepted ∧ ended.called = shift.called ∧
        watched.close.mailbox.tally =
          { sent := tally.sent
            delivered := tally.delivered + hand.countP Envelope.isFrame
            discarded := tally.discarded + ended.remainder.countP Envelope.isFrame
            visibilityChanges :=
              tally.visibilityChanges + hand.countP fun envelope => !envelope.isFrame }) ∧
    tally.sent = watched.total (·.accepted.length) ∧
    ((∀ shift ∈ watched.shifts, shift.failed = false) → watched.mailbox.isIdle = true →
      watched.total (·.accepted.countP Envelope.isFrame) = tally.delivered + tally.discarded) := by
  have hfaithful := Watched.faithful_run (κ := κ) acts state
  have hforget : Watched.forget _ = (Watched.initial state).run acts :=
    Watched.forget_run (Watched.initial (.blank state) : Watched (Noted σ) (Noted.Call κ)) acts
  have hrecited := Watched.recited_run (κ := κ) acts state
  have hshifts := congrArg Watched.shifts hforget
  refine ⟨hforget, ?_, ?_, hfaithful.called_leads, hfaithful.called_all,
    fun _ hended hgood => hfaithful.close_counts hended hgood, hfaithful.sent, hfaithful.frames⟩
  · rw [← hshifts]
    exact hrecited.called
  · rw [← hshifts]
    exact hrecited.returned

/-- A frame and a change of visibility are sent, the frame is handled to the end and the change taken up, and
with it in hand and another frame in the queue the mailbox is closed. -/
def midstreamClose : List (Act Recorder) :=
  let frame : SharedFrame := ⟨1, ⟨#[], ⟨1, 1⟩, .rgba, 0⟩⟩
  [.send (.frame frame 7), .send (.visibility false), .advance, .advance, .advance, .advance,
    .send (.frame frame 8), .close]

theorem delivered_in_order_midstream :
    let watched := (Watched.initial (Recorder.initial true) : Watched Recorder _).run midstreamClose
    let noted := (Watched.initial (.blank (Recorder.initial true)) : Watched (Noted Recorder) _).run
      (midstreamClose.map Act.noted)
    (∀ shift ∈ watched.shifts, shift.failed = false) ∧ watched.mailbox.isIdle = true ∧
      watched.mailbox.tally = ⟨3, 1, 1, 1⟩ ∧
      watched.total (·.accepted.countP Envelope.isFrame) =
        watched.mailbox.tally.delivered + watched.mailbox.tally.discarded ∧
      noted.state.called = [.frame ⟨1, ⟨#[], ⟨1, 1⟩, .rgba, 0⟩⟩ 7, .visibility false] ∧
      watched.state.log = noted.state.called.reverse := by
  obtain ⟨_, hcalled, _, _, _, _, _, hframes⟩ :=
    delivered_in_order midstreamClose (Recorder.initial true)
  have hnoted : Noted.called _ = [.frame ⟨1, ⟨#[], ⟨1, 1⟩, .rgba, 0⟩⟩ 7, .visibility false] :=
    (List.append_nil _).symm.trans (hcalled.trans (by decide))
  exact ⟨by decide, by decide, by decide, hframes (by decide) (by decide), hnoted,
    hnoted ▸ by decide⟩

end Mailbox

end FramePath

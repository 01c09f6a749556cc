import FramePath.Proofs.Mailbox.Steps

/-!
# Order and accounting of deliveries

A mailbox under watch keeps the record of its consumers. A `Shift` is one consumer, from the send that
starts it to the close that ends it: what was accepted for it, what its recipient was called with, and
which calls came to their end. `Watched.run` does any acts in any order, the consumer's own steps among
them, so that a call may stand for as long as the other acts take. `Watched.Faithful` ties the record to the
mailbox; it holds after every run (`Watched.faithful_run`), and the laws of delivery follow from it.
-/

namespace FramePath

namespace Transport

/-- Whether the consumer has failed. -/
def isCrashed {κ : Type} : Transport κ → Bool
  | .crashed => true
  | _ => false

/-- The envelope of the call in progress. -/
def hand (σ : Type) {κ : Type} [recipient : Recipient σ κ] (transport : Transport κ) :
    Option Envelope :=
  transport.call?.map recipient.envelope

end Transport

namespace Mailbox

/-- What one consumer was given and what became of it. -/
structure Shift where
  /-- The envelopes that were accepted, in the order of their sending. -/
  accepted : List Envelope
  /-- The envelopes with which the recipient was called, in the order of the calls. -/
  called : List Envelope
  /-- The envelopes of the calls that came to their end. -/
  finished : List Envelope
  /-- Whether a call failed. -/
  failed : Bool

namespace Shift

/-- A consumer that was just started. -/
def fresh : Shift := ⟨[], [], [], false⟩

/-- One more envelope accepted. -/
def accept (envelope : Envelope) (shift : Shift) : Shift :=
  { shift with accepted := shift.accepted ++ [envelope] }

/-- The recipient is called with an envelope. -/
def call (envelope : Envelope) (shift : Shift) : Shift :=
  { shift with called := shift.called ++ [envelope] }

/-- The call for an envelope comes to its end. -/
def finish (envelope : Envelope) (shift : Shift) : Shift :=
  { shift with finished := shift.finished ++ [envelope] }

/-- The call in progress fails. -/
def fail (shift : Shift) : Shift := { shift with failed := true }

/-- The envelopes that were accepted and that no call was made for, if calls are made in order. -/
def remainder (shift : Shift) : List Envelope := shift.accepted.drop shift.called.length

/-- The frames that a close throws away. After a failure they are lost before the close. -/
def discarded (shift : Shift) : Nat :=
  if shift.failed then 0 else shift.remainder.countP Envelope.isFrame

/-- A number summed over several shifts. -/
def summed (measure : Shift → Nat) (shifts : List Shift) : Nat :=
  (shifts.map measure).foldr (· + ·) 0

/-- The first shift adds its part to the sum. -/
theorem summed_cons (measure : Shift → Nat) (shift : Shift) (shifts : List Shift) :
    summed measure (shift :: shifts) = measure shift + summed measure shifts := rfl

/-- A shift that is over: calls were made in the order of sending, and all but a failed one ended. -/
structure Settled (shift : Shift) : Prop where
  called_leads : shift.called <+: shift.accepted
  finished_eq : shift.failed = false → shift.finished = shift.called

/-- The envelopes that are not called follow those that are. -/
theorem remainder_eq {shift : Shift} {queue : List Envelope}
    (haccepted : shift.accepted = shift.called ++ queue) : shift.remainder = queue := by
  simp [remainder, haccepted]

end Shift

/-- A mailbox with the state its recipient works on, the shifts that are over, the latest first, and the
shift at work. -/
structure Watched (σ κ : Type) where
  mailbox : Mailbox κ
  state : σ
  past : List Shift
  present : Option Shift

/-- What can be done to a mailbox, and what can happen to it. -/
inductive Act (σ : Type) where
  | send (envelope : Envelope)
  | close
  /-- The mailbox is dropped, which closes it. -/
  | drop
  /-- The consumer goes one step on. -/
  | advance
  /-- The host is to refuse the next start of a consumer, or none any more. -/
  | bar (refusal : Option String)
  /-- Others change what the recipient works on. -/
  | stir (change : σ → σ)

variable {σ κ : Type} [recipient : Recipient σ κ]

/-- What a step of the consumer shows: a call begins, ends or fails. -/
def Shift.observe (σ : Type) {κ : Type} [Recipient σ κ] (before after : Transport κ)
    (shift : Shift) : Shift :=
  match before.hand σ, after.hand σ with
  | none, some envelope => shift.call envelope
  | some envelope, none => if after.isCrashed then shift.fail else shift.finish envelope
  | _, _ => shift

/-- What a close shows: the call in progress ends or fails. -/
def Shift.observeClose (mailbox : Mailbox κ) (state : σ) (shift : Shift) : Shift :=
  match mailbox.transport.call? with
  | none => shift
  | some call =>
      if (Mailbox.finish call state).1 then shift.finish (recipient.envelope call) else shift.fail

namespace Watched

/-- A mailbox that was never used. -/
def initial (state : σ) : Watched σ κ := ⟨.initial, state, [], none⟩

/-- All shifts, the latest first. -/
def shifts (watched : Watched σ κ) : List Shift := watched.present.toList ++ watched.past

/-- A number summed over all shifts. -/
def total (measure : Shift → Nat) (watched : Watched σ κ) : Nat :=
  Shift.summed measure watched.shifts

/-- Send an envelope. What is refused finds the consumer failed, and ends its shift, or finds none. -/
def send (envelope : Envelope) (watched : Watched σ κ) : Watched σ κ :=
  match watched.mailbox.send envelope watched.state with
  | (.ok (), mailbox, state) =>
      { watched with
        mailbox, state, present := some ((watched.present.getD .fresh).accept envelope) }
  | (.error _, mailbox, state) => ⟨mailbox, state, watched.shifts, none⟩

/-- Close the mailbox, which ends the shift. -/
def close (watched : Watched σ κ) : Watched σ κ :=
  let (mailbox, state) := watched.mailbox.close watched.state
  let ended := watched.present.map (.observeClose watched.mailbox watched.state)
  ⟨mailbox, state, ended.toList ++ watched.past, none⟩

/-- Let the consumer go one step on. -/
def advance (watched : Watched σ κ) : Watched σ κ :=
  let (mailbox, state) := watched.mailbox.advance watched.state
  { watched with
    mailbox, state
    present := watched.present.map (.observe σ watched.mailbox.transport mailbox.transport) }

/-- Do one act. -/
def act (watched : Watched σ κ) : Act σ → Watched σ κ
  | .send envelope => watched.send envelope
  | .close | .drop => watched.close
  | .advance => watched.advance
  | .bar refusal => { watched with mailbox := watched.mailbox.bar refusal }
  | .stir change => { watched with state := change watched.state }

/-- Do several acts in order. -/
def run (acts : List (Act σ)) (watched : Watched σ κ) : Watched σ κ := acts.foldl act watched

end Watched

/-- The shift at work is what the transport says: the envelopes accepted are those called and those in
the queue, and the one in hand is called but not finished. -/
def Follows : Transport κ → Option Shift → Prop
  | .absent, none => True
  | .running call queue, some shift =>
      shift.failed = false ∧ shift.accepted = shift.called ++ queue ∧
        shift.called = shift.finished ++ (call.map recipient.envelope).toList
  | .crashed, some shift => shift.failed = true ∧ shift.called <+: shift.accepted
  | _, _ => False

/-- The record is what the mailbox did, and the counts are those of the record. -/
structure Watched.Faithful (watched : Watched σ κ) : Prop where
  present : Follows (σ := σ) watched.mailbox.transport watched.present
  past : ∀ shift ∈ watched.past, shift.Settled
  sent : watched.mailbox.tally.sent = watched.total (·.accepted.length)
  delivered :
    watched.mailbox.tally.delivered = watched.total (·.finished.countP Envelope.isFrame)
  visibility :
    watched.mailbox.tally.visibilityChanges =
      watched.total (·.finished.countP fun envelope => !envelope.isFrame)
  discarded : watched.mailbox.tally.discarded = Shift.summed Shift.discarded watched.past

/-- Handling an envelope to the end counts it by its kind. -/
theorem MailTally.countHandled_eq (tally : MailTally) (envelope : Envelope) :
    tally.countHandled envelope =
      { tally with
        delivered := tally.delivered + [envelope].countP Envelope.isFrame
        visibilityChanges :=
          tally.visibilityChanges + [envelope].countP fun envelope => !envelope.isFrame } := by
  cases envelope <;> rfl

/-- Where the envelope in hand stays the same, a step shows nothing. -/
theorem Shift.observe_same {before after : Transport κ} (hsame : after.hand σ = before.hand σ)
    (shift : Shift) : shift.observe σ before after = shift := by
  unfold Shift.observe
  rw [hsame]
  cases before.hand σ <;> rfl

/-- An envelope that is taken from the queue shows as a call. -/
theorem Shift.observe_of_taken (envelope : Envelope) (queue : List Envelope) (shift : Shift) :
    shift.observe σ (.running none (envelope :: queue))
      (.running (some (recipient.start envelope)) queue) = shift.call envelope := by
  unfold Shift.observe Transport.hand
  simp [Transport.call?, recipient.envelope_start]

/-- A call that comes to another call point shows nothing. -/
theorem Shift.observe_of_waiting {call next : κ} {state after : σ}
    (hgoing : recipient.resume call state = (.waiting next, after)) (queue : List Envelope)
    (shift : Shift) :
    shift.observe σ (.running (some call) queue) (.running (some next) queue) = shift := by
  apply Shift.observe_same
  show some (recipient.envelope next) = some (recipient.envelope call)
  rw [recipient.envelope_resume hgoing]

namespace Watched

omit recipient in
/-- Without a shift at work, a total is that of the shifts that are over. -/
theorem total_none (measure : Shift → Nat) (mailbox : Mailbox κ) (state : σ) (past : List Shift) :
    total measure ⟨mailbox, state, past, none⟩ = Shift.summed measure past := rfl

omit recipient in
/-- A shift at work adds its part to the total. -/
theorem total_some (measure : Shift → Nat) (mailbox : Mailbox κ) (state : σ) (past : List Shift)
    (shift : Shift) :
    total measure ⟨mailbox, state, past, some shift⟩ =
      measure shift + Shift.summed measure past := rfl

/-- Before anything happened, the record is empty and so are the counts. -/
theorem faithful_initial (state : σ) : (initial state : Watched σ κ).Faithful where
  present := trivial
  past := by intro shift hshift; cases hshift
  sent := rfl
  delivered := rfl
  visibility := rfl
  discarded := rfl

/-- An accepted envelope is the last of its shift's. A refused one ends the shift of the consumer that failed, or no
consumer was started for it. -/
theorem Faithful.send {watched : Watched σ κ} (hfaithful : watched.Faithful) (envelope : Envelope) :
    (watched.send envelope).Faithful := by
  obtain ⟨⟨transport, tally, refusal⟩, state, past, present⟩ := watched
  obtain ⟨hpresent, hpast, hsent, hdelivered, hvisibility, hdiscarded⟩ := hfaithful
  cases transport with
  | absent =>
    cases present with
    | some shift => exact hpresent.elim
    | none =>
      cases refusal with
      | some cause => exact ⟨trivial, hpast, hsent, hdelivered, hvisibility, hdiscarded⟩
      | none =>
        simp only [total_none] at hsent hdelivered hvisibility
        refine ⟨⟨rfl, rfl, rfl⟩, hpast, ?_, ?_, ?_, hdiscarded⟩
        · show tally.sent + 1 = total _ ⟨_, _, _, some _⟩
          rw [total_some, hsent, Nat.add_comm]
          rfl
        · show tally.delivered = total _ ⟨_, _, _, some _⟩
          rw [total_some, hdelivered]
          exact (Nat.zero_add _).symm
        · show tally.visibilityChanges = total _ ⟨_, _, _, some _⟩
          rw [total_some, hvisibility]
          exact (Nat.zero_add _).symm
  | running call queue =>
    cases present with
    | none => exact hpresent.elim
    | some shift =>
      obtain ⟨hgood, haccepted, hcalled⟩ := hpresent
      refine ⟨⟨hgood, ?_, hcalled⟩, hpast, ?_, hdelivered, hvisibility, hdiscarded⟩
      · show shift.accepted ++ [envelope] = shift.called ++ (queue ++ [envelope])
        rw [haccepted, List.append_assoc]
      · show tally.sent + 1 = total _ ⟨_, _, _, some (shift.accept envelope)⟩
        rw [show tally.sent = _ from hsent, total_some, total_some]
        simp only [Shift.accept, List.length_append, List.length_singleton]
        omega
  | crashed =>
    cases present with
    | none => exact hpresent.elim
    | some shift =>
      obtain ⟨hfailed, horder⟩ := hpresent
      refine ⟨trivial, ?_, hsent, hdelivered, hvisibility, ?_⟩
      · intro ended hended
        cases List.mem_cons.1 hended with
        | inl h => subst h; exact ⟨horder, by simp [hfailed]⟩
        | inr h => exact hpast ended h
      · show tally.discarded = Shift.summed Shift.discarded (shift :: past)
        simpa [Shift.summed_cons, Shift.discarded, hfailed] using hdiscarded

/-- A step of the consumer moves at most one envelope on: from the queue into a call, or from a call to
its end. -/
theorem Faithful.advance {watched : Watched σ κ} (hfaithful : watched.Faithful) :
    watched.advance.Faithful := by
  obtain ⟨mailbox, state, past, present⟩ := watched
  obtain ⟨hpresent, hpast, hsent, hdelivered, hvisibility, hdiscarded⟩ := hfaithful
  have hstep := advanced mailbox state
  unfold Watched.advance
  generalize mailbox.advance state = moved at hstep ⊢
  obtain ⟨after, next⟩ := moved
  dsimp only at hstep ⊢
  cases hstep with
  | resting =>
    -- No call begins, ends or fails, so the shift shows nothing.
    have hsame : present.map (.observe σ mailbox.transport mailbox.transport) = present := by
      cases present with
      | none => rfl
      | some shift => exact congrArg some (Shift.observe_same rfl shift)
    rw [hsame]
    exact ⟨hpresent, hpast, hsent, hdelivered, hvisibility, hdiscarded⟩
  | taken envelope queue =>
    cases present with
    | none => exact hpresent.elim
    | some shift =>
      obtain ⟨hgood, haccepted, hcalled⟩ := hpresent
      rw [Option.map_some, Shift.observe_of_taken]
      refine ⟨⟨hgood, ?_, ?_⟩, hpast, hsent, hdelivered, hvisibility, hdiscarded⟩
      · show shift.accepted = shift.called ++ [envelope] ++ queue
        rw [haccepted, List.append_assoc]
        rfl
      · show shift.called ++ [envelope] = shift.finished ++ _
        rw [hcalled]
        simp [recipient.envelope_start]
  | waiting call going queue tally refusal state next hgoing =>
    cases present with
    | none => exact hpresent.elim
    | some shift =>
      obtain ⟨hgood, haccepted, hcalled⟩ := hpresent
      rw [Option.map_some, Shift.observe_of_waiting hgoing]
      refine ⟨⟨hgood, haccepted, ?_⟩, hpast, hsent, hdelivered, hvisibility, hdiscarded⟩
      rw [hcalled]
      simp [recipient.envelope_resume hgoing]
  | returned call queue tally refusal state next hgoing =>
    cases present with
    | none => exact hpresent.elim
    | some shift =>
      obtain ⟨hgood, haccepted, hcalled⟩ := hpresent
      have hshown : shift.observe σ (.running (some call) queue) (.running none queue) =
          shift.finish (recipient.envelope call) := rfl
      rw [Option.map_some, hshown]
      have hended : shift.called = shift.finished ++ [recipient.envelope call] := hcalled
      rw [MailTally.countHandled_eq]
      refine ⟨⟨hgood, haccepted, ?_⟩, hpast, hsent, ?_, ?_, hdiscarded⟩
      · show shift.called = shift.finished ++ [recipient.envelope call] ++ []
        rw [hended, List.append_nil]
      · show tally.delivered + _ = total _ ⟨_, _, _, some (shift.finish _)⟩
        rw [show tally.delivered = _ from hdelivered, total_some, total_some]
        simp only [Shift.finish, List.countP_append]
        omega
      · show tally.visibilityChanges + _ = total _ ⟨_, _, _, some (shift.finish _)⟩
        rw [show tally.visibilityChanges = _ from hvisibility, total_some, total_some]
        simp only [Shift.finish, List.countP_append]
        omega
  | failed call queue tally refusal state next hgoing =>
    cases present with
    | none => exact hpresent.elim
    | some shift =>
      obtain ⟨hgood, haccepted, hcalled⟩ := hpresent
      have hshown : shift.observe σ (.running (some call) queue) .crashed = shift.fail := rfl
      rw [Option.map_some, hshown]
      refine ⟨⟨rfl, ?_⟩, hpast, hsent, hdelivered, hvisibility, hdiscarded⟩
      exact ⟨queue, haccepted.symm⟩

/-- While a call is in progress, closing now and closing after one more step leave the same record. -/
theorem close_advance (watched : Watched σ κ) {call : κ}
    (hcall : watched.mailbox.transport.call? = some call) :
    watched.advance.close = watched.close := by
  obtain ⟨mailbox, state, past, present⟩ := watched
  have hclosed := Mailbox.close_advance state hcall
  have hstep := advanced mailbox state
  unfold Watched.close Watched.advance
  generalize mailbox.advance state = moved at hclosed hstep ⊢
  obtain ⟨after, next⟩ := moved
  dsimp only at hclosed hstep ⊢
  have hshown : ∀ shift : Shift,
      Shift.observeClose after next (shift.observe σ mailbox.transport after.transport) =
        Shift.observeClose mailbox state shift := by
    intro shift
    cases hstep with
    | resting _ _ hrest => simp [isIdle, hcall] at hrest
    | taken => cases hcall
    | waiting call going queue tally refusal state next hgoing =>
      rw [Shift.observe_of_waiting hgoing]
      simp only [Shift.observeClose, Transport.call?, finish_of_waiting hgoing,
        recipient.envelope_resume hgoing]
    | returned call queue tally refusal state next hgoing =>
      simp only [Shift.observeClose, Transport.call?, finish_of_returned hgoing]
      rfl
    | failed call queue tally refusal state next hgoing =>
      simp only [Shift.observeClose, Transport.call?, finish_of_failed hgoing]
      rfl
  rw [hclosed, Option.map_map]
  cases present with
  | none => rfl
  | some shift => simp only [Option.map_some, Function.comp_apply, hshown]

/-- A close without a call in progress ends the shift. Of a consumer that did not fail, the queue is thrown
away and the frames in it are counted. -/
theorem Faithful.close_quiet {watched : Watched σ κ} (hfaithful : watched.Faithful)
    (hquiet : watched.mailbox.transport.call? = none) : watched.close.Faithful := by
  obtain ⟨⟨transport, tally, refusal⟩, state, past, present⟩ := watched
  obtain ⟨hpresent, hpast, hsent, hdelivered, hvisibility, hdiscarded⟩ := hfaithful
  cases transport with
  | absent =>
    cases present with
    | some shift => exact hpresent.elim
    | none => exact ⟨trivial, hpast, hsent, hdelivered, hvisibility, hdiscarded⟩
  | crashed =>
    cases present with
    | none => exact hpresent.elim
    | some shift =>
      obtain ⟨hfailed, horder⟩ := hpresent
      have hsettled : shift.Settled := ⟨horder, by simp [hfailed]⟩
      refine ⟨trivial, List.forall_mem_cons.2 ⟨hsettled, hpast⟩, hsent, hdelivered, hvisibility, ?_⟩
      show tally.discarded = Shift.summed Shift.discarded (shift :: past)
      simpa [Shift.summed_cons, Shift.discarded, hfailed] using hdiscarded
  | running call queue =>
    -- Nothing is in hand, so the queue is all that was accepted and not called.
    cases hquiet
    cases present with
    | none => exact hpresent.elim
    | some shift =>
      obtain ⟨hgood, haccepted, hcalled⟩ := hpresent
      have hsettled : shift.Settled := ⟨⟨queue, haccepted.symm⟩, fun _ => by simp [hcalled]⟩
      refine ⟨trivial, List.forall_mem_cons.2 ⟨hsettled, hpast⟩, hsent, hdelivered, hvisibility, ?_⟩
      show tally.discarded + queue.countP _ = Shift.summed Shift.discarded (shift :: past)
      simp only [Shift.summed_cons, Shift.discarded, hgood,
        Shift.remainder_eq haccepted, show tally.discarded = _ from hdiscarded]
      exact Nat.add_comm _ _

/-- What holds where no call is in progress, and before a step of a call if it holds after, holds of every mailbox. -/
theorem call_induction {motive : Watched σ κ → Prop}
    (quiet : ∀ watched, watched.mailbox.transport.call? = none → motive watched)
    (step : ∀ watched call, watched.mailbox.transport.call? = some call → motive watched.advance →
      motive watched) (watched : Watched σ κ) : motive watched := by
  -- The induction is on the work ahead, which every step of the call makes less.
  generalize hwork : watched.mailbox.work σ = work
  induction work using Nat.strongRecOn generalizing watched with
  | _ work ih =>
    cases hcall : watched.mailbox.transport.call? with
    | none => exact quiet watched hcall
    | some call =>
      have hbusy : watched.mailbox.isIdle = false := by simp [isIdle, hcall]
      have hless := work_advance_lt watched.state hbusy
      exact step watched call hcall (ih _ (hwork ▸ hless) watched.advance rfl)

/-- A close ends the shift, after the call in progress has come to its end. -/
theorem Faithful.close {watched : Watched σ κ} (hfaithful : watched.Faithful) :
    watched.close.Faithful := by
  induction watched using call_induction with
  | quiet watched hcall => exact hfaithful.close_quiet hcall
  | step watched call hcall ih =>
    rw [← watched.close_advance hcall]
    exact ih hfaithful.advance

/-- An act keeps the record faithful. -/
theorem Faithful.act {watched : Watched σ κ} (hfaithful : watched.Faithful) (act : Act σ) :
    (watched.act act).Faithful := by
  cases act with
  | send envelope => exact hfaithful.send envelope
  | close => exact hfaithful.close
  | drop => exact hfaithful.close
  | advance => exact hfaithful.advance
  | bar refusal =>
      exact ⟨hfaithful.present, hfaithful.past, hfaithful.sent, hfaithful.delivered,
        hfaithful.visibility, hfaithful.discarded⟩
  | stir change =>
      exact ⟨hfaithful.present, hfaithful.past, hfaithful.sent, hfaithful.delivered,
        hfaithful.visibility, hfaithful.discarded⟩

/-- Acts keep the record faithful. -/
theorem Faithful.run {watched : Watched σ κ} (hfaithful : watched.Faithful) (acts : List (Act σ)) :
    (watched.run acts).Faithful := by
  induction acts generalizing watched with
  | nil => exact hfaithful
  | cons act acts ih => exact ih (hfaithful.act act)

/-- After any run the record is faithful. -/
theorem faithful_run (acts : List (Act σ)) (state : σ) :
    ((initial state : Watched σ κ).run acts).Faithful :=
  (faithful_initial state).run acts

end Watched

end Mailbox

end FramePath

import FramePath.DisplayError
import FramePath.Recipient

/-!
# Mailboxes

A mailbox carries envelopes from a producer to a recipient in the order in which they were sent. The
producer never waits: `send` starts the consumer if there is none and puts the envelope last in the
queue. The consumer works by itself, and `advance` is one step of it: it takes the next envelope, or
its call goes on to the next call point. `close` lets a call in progress go on to its end, throws
away the queue and drains the recipient. A consumer is started by the host, which may refuse it.
-/

namespace FramePath

/-- The consumer's side of a mailbox. -/
inductive Transport (κ : Type) where
  /-- No consumer has been started since the beginning or the last close. -/
  | absent
  /-- A consumer is at work on a call, or idle, with a queue before it. -/
  | running (call : Option κ) (queue : List Envelope)
  /-- The consumer failed. What it had in hand and in its queue is gone. -/
  | crashed

namespace Transport

/-- The call in progress. -/
def call? {κ : Type} : Transport κ → Option κ
  | running call _ => call
  | _ => none

/-- The envelopes that wait. -/
def queue {κ : Type} : Transport κ → List Envelope
  | running _ queue => queue
  | _ => []

/-- Whether the producer has a transport, be its consumer alive or not. -/
def isOpen {κ : Type} : Transport κ → Bool
  | absent => false
  | _ => true

end Transport

/-- Counts of envelopes. -/
structure MailTally where
  sent : Nat
  delivered : Nat
  discarded : Nat
  visibilityChanges : Nat
  deriving DecidableEq, Repr

namespace MailTally

/-- Nothing counted yet. -/
def zero : MailTally := ⟨0, 0, 0, 0⟩

/-- One more envelope accepted. -/
def countSent (tally : MailTally) : MailTally := { tally with sent := tally.sent + 1 }

/-- One more envelope handled to the end. -/
def countHandled (tally : MailTally) : Envelope → MailTally
  | .frame .. => { tally with delivered := tally.delivered + 1 }
  | .visibility _ => { tally with visibilityChanges := tally.visibilityChanges + 1 }

/-- A queue thrown away: its frames count, its changes of visibility do not. -/
def countDiscarded (tally : MailTally) (queue : List Envelope) : MailTally :=
  { tally with discarded := tally.discarded + queue.countP Envelope.isFrame }

end MailTally

/-- A mailbox whose recipient is handled by calls `κ`. -/
structure Mailbox (κ : Type) where
  transport : Transport κ
  tally : MailTally
  /-- Why the host is to refuse the next start of a consumer, if it is. -/
  refusal : Option String

namespace Mailbox

/-- A mailbox that was never used. -/
def initial {κ : Type} : Mailbox κ := ⟨.absent, .zero, none⟩

/-- Let the host refuse the next start of a consumer, or none any more. -/
def bar {κ : Type} (refusal : Option String) (mailbox : Mailbox κ) : Mailbox κ :=
  { mailbox with refusal }

variable {σ κ : Type} [recipient : Recipient σ κ]

/-- Let go of a queue. -/
def disposeAll (queue : List Envelope) (state : σ) : σ := queue.foldl recipient.dispose state

/-- One step of the consumer. Idle with an empty queue, dead or absent, it has none to take. -/
def advance (mailbox : Mailbox κ) (state : σ) : Mailbox κ × σ :=
  match mailbox.transport with
  | .running none (envelope :: queue) =>
      ({ mailbox with transport := .running (some (recipient.start envelope)) queue }, state)
  | .running (some call) queue =>
    match recipient.resume call state with
    | (.waiting call, state) =>
        ({ mailbox with transport := .running (some call) queue }, state)
    | (.returned, state) =>
        ({ mailbox with
            transport := .running none queue
            tally := mailbox.tally.countHandled (recipient.envelope call) }, state)
    | (.failed, state) => ({ mailbox with transport := .crashed }, disposeAll queue state)
  | _ => (mailbox, state)

/-- Let a call go on for at most `fuel` call points, and say whether it came to its end. -/
def finishWithin : Nat → κ → σ → Bool × σ
  | 0, _, state => (false, state)
  | fuel + 1, call, state =>
    match recipient.resume call state with
    | (.waiting call, state) => finishWithin fuel call state
    | (.returned, state) => (true, state)
    | (.failed, state) => (false, state)

/-- Let a call go on until it returns or fails, and say whether it returned. Its rank bounds the call
points ahead. -/
def finish (call : κ) (state : σ) : Bool × σ :=
  finishWithin (recipient.rank call + 1) call state

/-- No transport any more, and these counts. -/
def closed {κ : Type} (tally : MailTally) (mailbox : Mailbox κ) : Mailbox κ :=
  { mailbox with transport := .absent, tally }

/-- Stop the consumer and let go of everything. Without a transport there is nothing to do. -/
def close (mailbox : Mailbox κ) (state : σ) : Mailbox κ × σ :=
  match mailbox.transport with
  | .absent => (mailbox, state)
  | .crashed => (mailbox.closed mailbox.tally, recipient.drained state)
  | .running none queue =>
      (mailbox.closed (mailbox.tally.countDiscarded queue),
        recipient.drained (disposeAll queue state))
  | .running (some call) queue =>
    match finish call state with
    | (true, state) =>
        (mailbox.closed
            ((mailbox.tally.countHandled (recipient.envelope call)).countDiscarded queue),
          recipient.drained (disposeAll queue state))
    | (false, state) =>
        (mailbox.closed mailbox.tally, recipient.drained (disposeAll queue state))

/-- One more envelope accepted, with this consumer before it. -/
def accepting {κ : Type} (call : Option κ) (queue : List Envelope) (mailbox : Mailbox κ) :
    Mailbox κ :=
  { mailbox with transport := .running call queue, tally := mailbox.tally.countSent }

/-- Put an envelope into the mailbox, starting a consumer if there is none. If the host refuses the
start, the envelope is dropped and there is still none, so that the next one asks again. If the consumer
has failed, the envelope is dropped and the mailbox closed, so that the next one starts afresh. -/
def send (envelope : Envelope) (mailbox : Mailbox κ) (state : σ) :
    Except DisplayError Unit × Mailbox κ × σ :=
  match mailbox.transport with
  | .absent =>
    match mailbox.refusal with
    | none => (.ok (), mailbox.accepting none [envelope], state)
    | some cause =>
        (.error (.consumerUnavailable cause), mailbox.bar none, recipient.dispose state envelope)
  | .running call queue => (.ok (), mailbox.accepting call (queue ++ [envelope]), state)
  | .crashed => (.error .consumerGone, mailbox.close (recipient.dispose state envelope))

/-- The frames in the mailbox: the one in hand and those in the queue. -/
def frames (σ : Type) {κ : Type} [recipient : Recipient σ κ] (mailbox : Mailbox κ) :
    List SharedFrame :=
  ((mailbox.transport.call?.map recipient.envelope).toList ++ mailbox.transport.queue).flatMap
    Envelope.frames

/-- A bound on the steps that the consumer can take before it is idle or dead. -/
def work (σ : Type) {κ : Type} [recipient : Recipient σ κ] (mailbox : Mailbox κ) : Nat :=
  (mailbox.transport.queue.map fun envelope => recipient.rank (recipient.start envelope) + 2).foldr (· + ·) 0 +
    (mailbox.transport.call?.map fun call => recipient.rank call + 1).getD 0

/-- Whether the consumer has nothing to do. -/
def isIdle {κ : Type} (mailbox : Mailbox κ) : Bool :=
  mailbox.transport.call?.isNone && mailbox.transport.queue.isEmpty

/-- More fuel than the rank of a call does not change how it ends. -/
theorem finishWithin_of_rank_lt {fuel : Nat} {call : κ} (state : σ)
    (enough : recipient.rank call < fuel) :
    finishWithin fuel call state = finish call state := by
  unfold finish
  generalize hbound : recipient.rank call + 1 = bound
  have within : recipient.rank call < bound := by omega
  clear hbound
  induction fuel generalizing bound call state with
  | zero => exact absurd enough (Nat.not_lt_zero _)
  | succ fuel ih =>
    cases bound with
    | zero => exact absurd within (Nat.not_lt_zero _)
    | succ bound =>
      simp only [finishWithin]
      cases going : recipient.resume call state with
      | mk progress after =>
        cases progress with
        | waiting next =>
          have lower := recipient.rank_resume going
          exact ih after (by omega) bound (by omega)
        | returned => rfl
        | failed => rfl

/-- Closing a mailbox that has no transport does nothing. -/
theorem close_of_absent {mailbox : Mailbox κ} (state : σ)
    (absent : mailbox.transport = .absent) : mailbox.close state = (mailbox, state) := by
  simp [close, absent]

/-- After a close there is no transport. -/
theorem transport_close (mailbox : Mailbox κ) (state : σ) :
    (mailbox.close state).1.transport = .absent := by
  unfold close
  split
  · assumption
  · rfl
  · rfl
  · split <;> rfl

/-- A step of a consumer that has something to do leaves less to do. -/
theorem work_advance_lt {mailbox : Mailbox κ} (state : σ) (busy : mailbox.isIdle = false) :
    (mailbox.advance state).1.work σ < mailbox.work σ := by
  obtain ⟨transport, tally, refusal⟩ := mailbox
  cases transport with
  | absent => simp [isIdle, Transport.call?, Transport.queue] at busy
  | crashed => simp [isIdle, Transport.call?, Transport.queue] at busy
  | running call queue =>
    cases call with
    | none =>
      cases queue with
      | nil => simp [isIdle, Transport.call?, Transport.queue] at busy
      | cons envelope queue =>
        simp only [advance, work, Transport.call?, Transport.queue, Option.map_some,
          Option.map_none, Option.getD_some, Option.getD_none, List.map_cons, List.foldr_cons]
        omega
    | some call =>
      simp only [advance]
      cases going : recipient.resume call state with
      | mk progress after =>
        cases progress with
        | waiting next =>
          have lower := recipient.rank_resume going
          simp only [work, Transport.call?, Transport.queue, Option.map_some,
            Option.getD_some]
          omega
        | returned =>
          simp only [work, Transport.call?, Transport.queue, Option.map_some,
            Option.map_none, Option.getD_some, Option.getD_none]
          omega
        | failed =>
          simp only [work, Transport.call?, Transport.queue, Option.map_some,
            Option.map_none, Option.getD_some, Option.getD_none, List.map_nil, List.foldr_nil]
          omega

end Mailbox

end FramePath

import FramePath.Proofs.Mailbox.Delivery
import FramePath.Proofs.Mailbox.Noted

/-!
# Recovery from a consumer that failed

A `Report` lists what a producer sees of a run: what was accepted, how many consumers were started, and what left the
mailbox without one: a close, a refused send, or a start that the host refused. `Watched.Accounted` ties the report
and the notes of the recipient to the record of the shifts: every consumer that came to its end was drained once, was
refused only after it failed, and what it was given and did not finish was let go of. `recovers` says so for all runs
and all recipients, and what a refused send and the sends after it come to.
-/

namespace FramePath

namespace Mailbox

/-- What leaves a mailbox without a consumer. -/
inductive Lapse where
  /-- The consumer was closed. -/
  | closed
  /-- This envelope was sent after the consumer had failed. -/
  | refused (envelope : Envelope)
  /-- The host did not start a consumer for this envelope. -/
  | unstarted (envelope : Envelope)
  deriving DecidableEq

namespace Lapse

/-- The envelope that was not accepted. -/
def envelope? : Lapse → Option Envelope
  | closed => none
  | refused envelope | unstarted envelope => some envelope

/-- Whether a consumer came to its end. -/
def ends : Lapse → Bool
  | unstarted _ => false
  | _ => true

end Lapse

namespace Shift

/-- The envelopes that were accepted and whose calls did not come to their end, if calls are made in order. -/
def unfinished (shift : Shift) : List Envelope := shift.accepted.drop shift.finished.length

/-- The envelopes that are not finished follow those that are. -/
theorem unfinished_eq {shift : Shift} {rest : List Envelope}
    (haccepted : shift.accepted = shift.finished ++ rest) : shift.unfinished = rest := by
  simp [unfinished, haccepted]

/-- What is let go of over shifts that are over: of each what it did not finish, and what was not accepted. -/
def dropped : List Shift → List Lapse → List Envelope
  | shifts, .unstarted envelope :: lapses => envelope :: dropped shifts lapses
  | shift :: shifts, lapse :: lapses =>
      shift.unfinished ++ lapse.envelope?.toList ++ dropped shifts lapses
  | _, _ => []

/-- An envelope for which no consumer was started is let go of after the rest. -/
theorem dropped_unstarted {gone : List Shift} {lapses : List Lapse}
    (hlength : (lapses.filter Lapse.ends).length = gone.length) (envelope : Envelope) :
    dropped gone (lapses ++ [.unstarted envelope]) = dropped gone lapses ++ [envelope] := by
  induction lapses generalizing gone with
  | nil =>
    cases gone with
    | nil => rfl
    | cons shift gone => cases hlength
  | cons lapse lapses ih =>
    cases lapse with
    | unstarted other => exact congrArg (other :: ·) (ih hlength)
    | closed =>
      cases gone with
      | nil => cases hlength
      | cons shift gone =>
        have hrest := ih (Nat.succ.inj hlength)
        exact (congrArg (_ ++ ·) hrest).trans (List.append_assoc ..).symm
    | refused other =>
      cases gone with
      | nil => cases hlength
      | cons shift gone =>
        have hrest := ih (Nat.succ.inj hlength)
        exact (congrArg (_ ++ ·) hrest).trans (List.append_assoc ..).symm

/-- What a shift that comes to its end leaves is let go of after the rest. -/
theorem dropped_over {gone : List Shift} {lapses : List Lapse}
    (hlength : (lapses.filter Lapse.ends).length = gone.length) (shift : Shift) {lapse : Lapse}
    (hends : lapse.ends = true) :
    dropped (gone ++ [shift]) (lapses ++ [lapse]) =
      dropped gone lapses ++ (shift.unfinished ++ lapse.envelope?.toList) := by
  induction lapses generalizing gone with
  | nil =>
    cases gone with
    | nil => cases lapse <;> first | exact List.append_nil _ | cases hends
    | cons other gone => cases hlength
  | cons earlier lapses ih =>
    cases earlier with
    | unstarted envelope => exact congrArg (envelope :: ·) (ih hlength)
    | closed =>
      cases gone with
      | nil => cases hlength
      | cons other gone =>
        have hrest := ih (Nat.succ.inj hlength)
        exact (congrArg (_ ++ ·) hrest).trans (List.append_assoc ..).symm
    | refused envelope =>
      cases gone with
      | nil => cases hlength
      | cons other gone =>
        have hrest := ih (Nat.succ.inj hlength)
        exact (congrArg (_ ++ ·) hrest).trans (List.append_assoc ..).symm

/-- How a record of shifts goes on, the latest first: as it was, with a shift that begins, or with more for the
latest. -/
inductive Grown (shifts : List Shift) : List Shift → Prop where
  | same : Grown shifts shifts
  | begun (shift : Shift) : Grown shifts (shift :: shifts)
  | on {shift changed : Shift} {earlier : List Shift} :
      shifts = shift :: earlier → shift.accepted <+: changed.accepted →
      Grown shifts (changed :: earlier)

/-- A record goes on where the latest shift changes and what was accepted for it does not. -/
theorem Grown.map {change : Shift → Shift}
    (hsame : ∀ shift, (change shift).accepted = shift.accepted) (present : Option Shift)
    (past : List Shift) :
    Grown (present.toList ++ past) ((present.map change).toList ++ past) := by
  cases present with
  | none => exact .same
  | some shift => exact .on rfl ((hsame shift).symm ▸ List.prefix_rfl)

end Shift

/-- What a producer sees of a run. -/
structure Report where
  /-- The envelopes that were accepted, in the order of their sending. -/
  accepted : List Envelope
  /-- The number of consumers that were started. -/
  started : Nat
  /-- What left the mailbox without a consumer, in order. -/
  lapses : List Lapse
  deriving DecidableEq

variable {σ κ : Type} [recipient : Recipient σ κ]

/-- What a step shows is no matter of what was accepted. -/
theorem Shift.accepted_observe (before after : Transport κ) (shift : Shift) :
    (shift.observe σ before after).accepted = shift.accepted := by
  unfold Shift.observe
  split
  · rfl
  · split <;> rfl
  · rfl

/-- Nor is what a close shows. -/
theorem Shift.accepted_observeClose (mailbox : Mailbox κ) (state : σ) (shift : Shift) :
    (shift.observeClose mailbox state).accepted = shift.accepted := by
  unfold Shift.observeClose
  split
  · rfl
  · split <;> rfl

/-- How consumers came to their ends, in order. -/
def Report.endings (report : Report) : List Lapse := report.lapses.filter Lapse.ends

/-- Nothing seen yet. -/
def Report.blank : Report := ⟨[], 0, []⟩

/-- Note what is seen of an act. -/
def Report.note (watched : Watched σ κ) (act : Act σ) (report : Report) : Report :=
  let before := watched.mailbox.transport
  match act with
  | .send envelope =>
    match watched.mailbox.send envelope watched.state with
    | (.ok (), after, _) =>
        { report with
          accepted := report.accepted ++ [envelope]
          started := report.started + (!before.isOpen && after.transport.isOpen).toNat }
    | (.error _, _) =>
        let lapse := if before.isOpen then Lapse.refused envelope else .unstarted envelope
        { report with lapses := report.lapses ++ [lapse] }
  | .close | .drop =>
      if before.isOpen then { report with lapses := report.lapses ++ [.closed] } else report
  | .advance | .bar _ | .stir _ => report

/-- Note what is seen of several acts in order. -/
def Report.noteAll : List (Act σ) → Watched σ κ → Report → Report
  | [], _, report => report
  | act :: acts, watched, report => noteAll acts (watched.act act) (report.note watched act)

namespace Watched

omit recipient in
/-- What was let go of because the consumer at work has failed. -/
def lost (watched : Watched σ κ) : List Envelope :=
  match watched.present with
  | some shift => if shift.failed then shift.unfinished else []
  | none => []

omit recipient in
/-- A consumer that has not failed has lost nothing. -/
theorem lost_of_good {shift : Shift} (hgood : shift.failed = false) (mailbox : Mailbox κ) (state : σ)
    (past : List Shift) : lost ⟨mailbox, state, past, some shift⟩ = [] :=
  if_neg (by rw [hgood]; decide)

omit recipient in
/-- A consumer that has failed has lost what it did not finish. -/
theorem lost_of_failed {shift : Shift} (hfailed : shift.failed = true) (mailbox : Mailbox κ)
    (state : σ) (past : List Shift) :
    lost ⟨mailbox, state, past, some shift⟩ = shift.unfinished :=
  if_pos hfailed

/-- A report and the notes of the recipient agree with the record. -/
structure Accounted (report : Report) (watched : Watched (Noted σ) (Noted.Call κ)) : Prop where
  faithful : watched.Faithful
  /-- Of a failed consumer one call was begun that did not come to its end, the one in hand. -/
  broken : ∀ shift ∈ watched.shifts, shift.failed = true →
    ∃ hand, shift.called = shift.finished ++ [hand]
  accepted : report.accepted = watched.shifts.reverse.flatMap Shift.accepted
  started : report.started = watched.shifts.length
  ended : report.endings.length = watched.past.length
  refused : ∀ ended ∈ watched.past.reverse.zip report.endings, ended.2.envelope?.isSome = true →
    ended.1.failed = true
  drains : watched.state.drains = report.endings.length
  dropped : watched.state.dropped = Shift.dropped watched.past.reverse report.lapses ++ watched.lost

variable {report : Report} {mailbox after : Mailbox (Noted.Call κ)} {noted next : Noted σ} {past : List Shift}
  {shift changed : Shift}

/-- Before anything happened there is nothing to account for. -/
theorem accounted_initial (state : σ) :
    (initial (.blank state) : Watched (Noted σ) (Noted.Call κ)).Accounted .blank where
  faithful := faithful_initial _
  broken := by intro shift hshift; cases hshift
  accepted := rfl
  started := rfl
  ended := rfl
  refused := by intro ended hended; cases hended
  drains := rfl
  dropped := rfl

/-- What a consumer at work does without failing is no matter of the account. -/
theorem Accounted.going (haccounted : Accounted report ⟨mailbox, noted, past, some shift⟩)
    (hfaithful : Faithful (⟨after, next, past, some changed⟩ : Watched (Noted σ) (Noted.Call κ)))
    (haccepted : changed.accepted = shift.accepted)
    (hwas : shift.failed = false) (hgood : changed.failed = false)
    (hdropped : next.dropped = noted.dropped) (hdrains : next.drains = noted.drains) :
    Accounted report (⟨after, next, past, some changed⟩ : Watched (Noted σ) (Noted.Call κ)) where
  faithful := hfaithful
  broken := by
    intro other hother hfailed
    rcases List.mem_cons.1 hother with rfl | hpast
    · rw [hgood] at hfailed
      cases hfailed
    · exact haccounted.broken other (List.mem_cons_of_mem _ hpast) hfailed
  accepted := by
    rw [haccounted.accepted]
    simp [shifts, haccepted]
  started := haccounted.started
  ended := haccounted.ended
  refused := haccounted.refused
  drains := hdrains.trans haccounted.drains
  dropped := by
    have hbefore := haccounted.dropped
    rw [lost_of_good hwas] at hbefore
    rw [lost_of_good hgood]
    exact hdropped.trans hbefore

/-- A consumer that fails lets go of the envelope in hand and of its queue, and of nothing else that was accepted. -/
theorem Accounted.failing {hand : Envelope} {queue : List Envelope}
    (haccounted : Accounted report ⟨mailbox, noted, past, some shift⟩)
    (hfaithful : Faithful (⟨after, next, past, some shift.fail⟩ : Watched (Noted σ) (Noted.Call κ)))
    (hwas : shift.failed = false) (hcalled : shift.called = shift.finished ++ [hand])
    (haccepted : shift.accepted = shift.called ++ queue)
    (hdropped : next.dropped = noted.dropped ++ hand :: queue) (hdrains : next.drains = noted.drains) :
    Accounted report (⟨after, next, past, some shift.fail⟩ : Watched (Noted σ) (Noted.Call κ)) where
  faithful := hfaithful
  broken := by
    intro other hother hfailed
    rcases List.mem_cons.1 hother with rfl | hpast
    · exact ⟨hand, hcalled⟩
    · exact haccounted.broken other (List.mem_cons_of_mem _ hpast) hfailed
  accepted := by
    rw [haccounted.accepted]
    simp [shifts, Shift.fail]
  started := haccounted.started
  ended := haccounted.ended
  refused := haccounted.refused
  drains := hdrains.trans haccounted.drains
  dropped := by
    have hbefore : noted.dropped = Shift.dropped past.reverse report.lapses ++ [] := by
      rw [← lost_of_good hwas mailbox noted past]
      exact haccounted.dropped
    have hunfinished : shift.fail.unfinished = hand :: queue := by
      apply Shift.unfinished_eq
      show shift.accepted = shift.finished ++ hand :: queue
      rw [haccepted, hcalled, List.append_assoc]
      rfl
    have hfailed : shift.fail.failed = true := rfl
    rw [lost_of_failed hfailed, hunfinished, hdropped, hbefore, List.append_nil]

/-- A step of the consumer is accounted for: if its call fails, it lets go of the envelope in hand and of the queue. -/
theorem Accounted.advance {watched : Watched (Noted σ) (Noted.Call κ)} (haccounted : watched.Accounted report) :
    watched.advance.Accounted report := by
  have hfaithful := haccounted.faithful.advance
  obtain ⟨mailbox, noted, past, present⟩ := watched
  have hfollows := haccounted.faithful.present
  have hstep := advanced mailbox noted
  unfold Watched.advance at hfaithful ⊢
  generalize mailbox.advance noted = moved at hstep hfaithful ⊢
  obtain ⟨after, next⟩ := moved
  dsimp only at hstep hfaithful ⊢
  cases hstep with
  | resting =>
    -- No call begins, ends or fails, so the shift shows nothing.
    have hsame : present.map (.observe (Noted σ) mailbox.transport mailbox.transport) = present := by
      cases present with
      | none => rfl
      | some shift => exact congrArg some (Shift.observe_same rfl shift)
    rw [hsame]
    exact haccounted
  | taken envelope queue =>
    cases present with
    | none => exact hfollows.elim
    | some shift =>
      rw [Option.map_some, Shift.observe_of_taken] at hfaithful ⊢
      exact haccounted.going hfaithful rfl hfollows.1 hfollows.1 rfl rfl
  | waiting call going queue tally refusal _ next hgoing =>
    cases present with
    | none => exact hfollows.elim
    | some shift =>
      rw [Option.map_some, Shift.observe_of_waiting hgoing] at hfaithful ⊢
      obtain ⟨_, _, hnext⟩ := Noted.resume_waiting hgoing
      exact haccounted.going hfaithful rfl hfollows.1 hfollows.1 (by rw [hnext]) (by rw [hnext])
  | returned call queue tally refusal _ next hgoing =>
    cases present with
    | none => exact hfollows.elim
    | some shift =>
      obtain ⟨_, hnext⟩ := Noted.resume_returned hgoing
      exact haccounted.going hfaithful rfl hfollows.1 hfollows.1 (by rw [hnext]) (by rw [hnext])
  | failed call queue tally refusal _ next hgoing =>
    cases present with
    | none => exact hfollows.elim
    | some shift =>
      obtain ⟨_, hnext⟩ := Noted.resume_failed hgoing
      obtain ⟨hgood, haccepted, hcalled⟩ := hfollows
      have hshown : shift.observe (Noted σ) (.running (some call) queue) .crashed = shift.fail := rfl
      rw [Option.map_some, hshown] at hfaithful ⊢
      rw [Noted.disposeAll_eq] at hfaithful ⊢
      refine haccounted.failing hfaithful hgood hcalled haccepted ?_ (by rw [hnext])
      show next.dropped ++ queue = noted.dropped ++ ([recipient.envelope call.call] ++ queue)
      rw [hnext, List.append_assoc]

/-- A consumer that comes to its end is accounted for, if it is drained once and all that it did not finish has been
let go of by then. -/
theorem Accounted.over {lapse : Lapse} (hends : lapse.ends = true)
    (haccounted : Accounted report ⟨mailbox, noted, past, some shift⟩)
    (hfaithful : Faithful (⟨after, next, shift :: past, none⟩ : Watched (Noted σ) (Noted.Call κ)))
    (hrefused : lapse.envelope?.isSome = true → shift.failed = true)
    (hdropped : next.dropped = Shift.dropped past.reverse report.lapses ++
      (shift.unfinished ++ lapse.envelope?.toList))
    (hdrains : next.drains = noted.drains + 1) :
    Accounted { report with lapses := report.lapses ++ [lapse] }
      (⟨after, next, shift :: past, none⟩ : Watched (Noted σ) (Noted.Call κ)) := by
  have hlength : past.reverse.length = report.endings.length := by
    rw [List.length_reverse]
    exact haccounted.ended.symm
  have hendings : Report.endings { report with lapses := report.lapses ++ [lapse] } =
      report.endings ++ [lapse] := by
    show (report.lapses ++ [lapse]).filter Lapse.ends = _
    rw [List.filter_append, List.filter_cons_of_pos hends]
    rfl
  have hzip : (shift :: past).reverse.zip (report.endings ++ [lapse]) =
      past.reverse.zip report.endings ++ [(shift, lapse)] := by
    rw [List.reverse_cons, List.zip_append hlength]
    rfl
  refine ⟨hfaithful, haccounted.broken, haccounted.accepted, haccounted.started, ?_, ?_, ?_, ?_⟩
  · rw [hendings, List.length_append, haccounted.ended]
    rfl
  · rw [hendings]
    show ∀ ended ∈ (shift :: past).reverse.zip (report.endings ++ [lapse]), _
    rw [hzip]
    intro ended hended hsome
    rcases List.mem_append.1 hended with hearlier | hlast
    · exact haccounted.refused ended hearlier hsome
    · cases List.mem_singleton.1 hlast
      exact hrefused hsome
  · rw [hendings, hdrains, haccounted.drains, List.length_append]
    rfl
  · show next.dropped = Shift.dropped (shift :: past).reverse (report.lapses ++ [lapse]) ++ []
    rw [List.append_nil, List.reverse_cons, Shift.dropped_over hlength.symm shift hends]
    exact hdropped

/-- A close ends the consumer at work, if there is one. -/
theorem Accounted.close_quiet {watched : Watched (Noted σ) (Noted.Call κ)} (haccounted : watched.Accounted report)
    (hquiet : watched.mailbox.transport.call? = none) (hopen : watched.mailbox.transport.isOpen = true) :
    watched.close.Accounted { report with lapses := report.lapses ++ [.closed] } := by
  have hfaithful := haccounted.faithful.close
  obtain ⟨⟨transport, tally, refusal⟩, noted, past, present⟩ := watched
  have hfollows := haccounted.faithful.present
  cases transport with
  | absent => cases hopen
  | crashed =>
    cases present with
    | none => exact hfollows.elim
    | some shift =>
      refine haccounted.over rfl hfaithful nofun ?_ rfl
      have hbefore := haccounted.dropped
      rw [lost_of_failed hfollows.1] at hbefore
      show noted.dropped = _ ++ (shift.unfinished ++ [])
      rw [List.append_nil]
      exact hbefore
  | running call queue =>
    cases hquiet
    cases present with
    | none => exact hfollows.elim
    | some shift =>
      obtain ⟨hgood, haccepted, hcalled⟩ := hfollows
      have hunfinished : shift.unfinished = queue := by
        apply Shift.unfinished_eq
        rw [haccepted, hcalled]
        simp
      have hbefore : noted.dropped = Shift.dropped past.reverse report.lapses ++ [] := by
        rw [← lost_of_good hgood ⟨.running none queue, tally, refusal⟩ noted past]
        exact haccounted.dropped
      unfold Watched.close Mailbox.close at hfaithful ⊢
      dsimp only at hfaithful ⊢
      rw [Noted.disposeAll_eq] at hfaithful ⊢
      refine haccounted.over rfl hfaithful nofun ?_ rfl
      show noted.dropped ++ queue = Shift.dropped past.reverse report.lapses ++ (shift.unfinished ++ [])
      rw [hbefore, hunfinished, List.append_nil, List.append_nil]

/-- A step of a call leaves the transport open. -/
theorem isOpen_advance {watched : Watched σ κ} {call : κ}
    (hcall : watched.mailbox.transport.call? = some call) :
    watched.advance.mailbox.transport.isOpen = true := by
  obtain ⟨_, ⟨later, hrunning⟩ | hcrashed⟩ := advance_queue watched.state hcall
  · show (watched.mailbox.advance watched.state).1.transport.isOpen = true
    rw [hrunning]
    rfl
  · show (watched.mailbox.advance watched.state).1.transport.isOpen = true
    rw [hcrashed]
    rfl

/-- A close ends the consumer at work, after the call in progress has come to its end. -/
theorem Accounted.close {watched : Watched (Noted σ) (Noted.Call κ)} (haccounted : watched.Accounted report)
    (hopen : watched.mailbox.transport.isOpen = true) :
    watched.close.Accounted { report with lapses := report.lapses ++ [.closed] } := by
  induction watched using call_induction with
  | quiet watched hcall => exact haccounted.close_quiet hcall hopen
  | step watched call hcall ih =>
    rw [← watched.close_advance hcall]
    exact ih haccounted.advance (isOpen_advance hcall)

/-- A close where there is no transport changes nothing. -/
theorem Faithful.close_absent {watched : Watched σ κ} (hfaithful : watched.Faithful)
    (habsent : watched.mailbox.transport = .absent) : watched.close = watched := by
  obtain ⟨⟨transport, tally, refusal⟩, state, past, present⟩ := watched
  cases habsent
  have hfollows := hfaithful.present
  cases present with
  | none => rfl
  | some shift => exact hfollows.elim

/-- An envelope for which no consumer is started is let go of, and all else stays. -/
theorem Accounted.unstarted (haccounted : Accounted report ⟨mailbox, noted, past, none⟩)
    (hfaithful : Faithful (⟨after, next, past, none⟩ : Watched (Noted σ) (Noted.Call κ)))
    (envelope : Envelope) (hdropped : next.dropped = noted.dropped ++ [envelope])
    (hdrains : next.drains = noted.drains) :
    Accounted { report with lapses := report.lapses ++ [.unstarted envelope] }
      (⟨after, next, past, none⟩ : Watched (Noted σ) (Noted.Call κ)) := by
  have hendings : Report.endings { report with lapses := report.lapses ++ [.unstarted envelope] } =
      report.endings := by
    show (report.lapses ++ [Lapse.unstarted envelope]).filter Lapse.ends = _
    rw [List.filter_append]
    exact List.append_nil _
  have hlength : report.endings.length = past.reverse.length := by
    rw [List.length_reverse]
    exact haccounted.ended
  refine ⟨hfaithful, haccounted.broken, haccounted.accepted, haccounted.started,
    hendings ▸ haccounted.ended, hendings ▸ haccounted.refused, ?_, ?_⟩
  · rw [hendings]
    exact hdrains.trans haccounted.drains
  · have hbefore : noted.dropped = Shift.dropped past.reverse report.lapses ++ [] := haccounted.dropped
    show next.dropped = Shift.dropped past.reverse (report.lapses ++ [.unstarted envelope]) ++ []
    rw [hdropped, hbefore, Shift.dropped_unstarted hlength, List.append_nil, List.append_nil]

/-- What is sent is accounted for. -/
theorem Accounted.send {watched : Watched (Noted σ) (Noted.Call κ)} (haccounted : watched.Accounted report)
    (envelope : Envelope) :
    (watched.send envelope).Accounted (report.note watched (.send envelope)) := by
  have hfaithful := haccounted.faithful.send envelope
  obtain ⟨⟨transport, tally, refusal⟩, noted, past, present⟩ := watched
  have hfollows := haccounted.faithful.present
  cases transport with
  | absent =>
    cases present with
    | some shift => exact hfollows.elim
    | none =>
      cases refusal with
      | some cause => exact haccounted.unstarted hfaithful envelope rfl rfl
      | none =>
        refine ⟨hfaithful, ?_, ?_, ?_, haccounted.ended, haccounted.refused, haccounted.drains,
          haccounted.dropped⟩
        · intro other hother hfailed
          rcases List.mem_cons.1 hother with rfl | hpast
          · cases hfailed
          · exact haccounted.broken other hpast hfailed
        · show report.accepted ++ [envelope] = (Shift.fresh.accept envelope :: past).reverse.flatMap _
          rw [haccounted.accepted, List.reverse_cons, List.flatMap_append, List.flatMap_singleton]
          rfl
        · exact congrArg (· + 1) haccounted.started
  | running call queue =>
    cases present with
    | none => exact hfollows.elim
    | some shift =>
      obtain ⟨hgood, _, _⟩ := hfollows
      refine ⟨hfaithful, ?_, ?_, haccounted.started, haccounted.ended, haccounted.refused,
        haccounted.drains, ?_⟩
      · intro other hother hfailed
        rcases List.mem_cons.1 hother with rfl | hpast
        · exact absurd (hgood.symm.trans hfailed) (by decide)
        · exact haccounted.broken other (List.mem_cons_of_mem _ hpast) hfailed
      · show report.accepted ++ [envelope] = (shift.accept envelope :: past).reverse.flatMap _
        rw [haccounted.accepted, List.reverse_cons, List.flatMap_append, List.flatMap_singleton]
        simp [shifts, Shift.accept]
      · have hbefore := haccounted.dropped
        have hstill : (shift.accept envelope).failed = false := hgood
        rw [lost_of_good hgood] at hbefore
        show noted.dropped = _ ++ lost ⟨_, noted, past, some (shift.accept envelope)⟩
        rw [lost_of_good hstill]
        exact hbefore
  | crashed =>
    cases present with
    | none => exact hfollows.elim
    | some shift =>
      refine haccounted.over rfl hfaithful (fun _ => hfollows.1) ?_ rfl
      have hbefore := haccounted.dropped
      rw [lost_of_failed hfollows.1] at hbefore
      replace hbefore : noted.dropped = _ ++ shift.unfinished := hbefore
      show noted.dropped ++ [envelope] =
        Shift.dropped past.reverse report.lapses ++ (shift.unfinished ++ [envelope])
      rw [hbefore, List.append_assoc]

/-- Every act is accounted for. -/
theorem Accounted.act {watched : Watched (Noted σ) (Noted.Call κ)} (haccounted : watched.Accounted report)
    (act : Act σ) : (watched.act act.noted).Accounted (report.note watched act.noted) := by
  have hclose : watched.close.Accounted (report.note watched .close) := by
    show watched.close.Accounted (if watched.mailbox.transport.isOpen then _ else report)
    cases hopen : watched.mailbox.transport.isOpen with
    | true => exact haccounted.close hopen
    | false =>
      have habsent : watched.mailbox.transport = .absent := by
        cases htransport : watched.mailbox.transport with
        | absent => rfl
        | running => rw [htransport] at hopen; cases hopen
        | crashed => rw [htransport] at hopen; cases hopen
      rw [haccounted.faithful.close_absent habsent]
      exact haccounted
  cases act with
  | send envelope => exact haccounted.send envelope
  | close => exact hclose
  | drop => exact hclose
  | advance => exact haccounted.advance
  | bar refusal =>
    exact ⟨haccounted.faithful.act (.bar refusal), haccounted.broken, haccounted.accepted,
      haccounted.started, haccounted.ended, haccounted.refused, haccounted.drains,
      haccounted.dropped⟩
  | stir change =>
    exact ⟨haccounted.faithful.act (.stir _), haccounted.broken, haccounted.accepted,
      haccounted.started, haccounted.ended, haccounted.refused, haccounted.drains,
      haccounted.dropped⟩

/-- Every run is accounted for. -/
theorem Accounted.run {watched : Watched (Noted σ) (Noted.Call κ)} (haccounted : watched.Accounted report)
    (acts : List (Act σ)) :
    (watched.run (acts.map Act.noted)).Accounted (report.noteAll (acts.map Act.noted) watched) := by
  induction acts generalizing watched report with
  | nil => exact haccounted
  | cons act acts ih => exact ih (haccounted.act act)

/-- A report is the same with the notes of the recipient and without. -/
theorem note_noted (watched : Watched (Noted σ) (Noted.Call κ)) (act : Act σ) (report : Report) :
    report.note watched act.noted = report.note watched.forget act := by
  obtain ⟨⟨transport, tally, refusal⟩, noted, past, present⟩ := watched
  cases act with
  | send envelope =>
    cases transport with
    | absent => cases refusal <;> rfl
    | running call queue => rfl
    | crashed => rfl
  | _ => cases transport <;> rfl

/-- A report of a run is the same with the notes of the recipient and without. -/
theorem noteAll_noted (watched : Watched (Noted σ) (Noted.Call κ)) (acts : List (Act σ)) (report : Report) :
    report.noteAll (acts.map Act.noted) watched = report.noteAll acts watched.forget := by
  induction acts generalizing watched report with
  | nil => rfl
  | cons act acts ih =>
    refine (ih (watched.act act.noted) _).trans ?_
    rw [note_noted, forget_act]
    rfl

section Restart

variable {watched : Watched σ κ} {earlier : List Shift} {first : Envelope}

/-- The consumer has failed exactly if its shift has. -/
theorem Faithful.isCrashed_eq (hfaithful : watched.Faithful) :
    watched.mailbox.transport.isCrashed = watched.present.any (·.failed) := by
  obtain ⟨⟨transport, tally, refusal⟩, state, past, present⟩ := watched
  have hfollows := hfaithful.present
  cases transport with
  | absent =>
    cases present with
    | none => rfl
    | some shift => exact hfollows.elim
  | running call queue =>
    cases present with
    | none => exact hfollows.elim
    | some shift => exact hfollows.1.symm
  | crashed =>
    cases present with
    | none => exact hfollows.elim
    | some shift => exact hfollows.1.symm

/-- There is a transport exactly if a shift is at work. -/
theorem Faithful.isOpen_eq (hfaithful : watched.Faithful) :
    watched.mailbox.transport.isOpen = watched.present.isSome := by
  obtain ⟨⟨transport, tally, refusal⟩, state, past, present⟩ := watched
  have hfollows := hfaithful.present
  cases transport <;> cases present <;> first | rfl | exact hfollows.elim

/-- Without a transport, only a send changes the transport, the counts or the record. -/
theorem Faithful.act_absent (hfaithful : watched.Faithful)
    (habsent : watched.mailbox.transport = .absent) {act : Act σ}
    (hquiet : ∀ envelope, act ≠ .send envelope) :
    (watched.act act).mailbox.transport = .absent ∧
      (watched.act act).mailbox.tally = watched.mailbox.tally ∧
      (watched.act act).shifts = watched.shifts := by
  obtain ⟨⟨transport, tally, refusal⟩, state, past, present⟩ := watched
  have hfollows := hfaithful.present
  cases habsent
  cases present with
  | some shift => exact hfollows.elim
  | none =>
    cases act with
    | send envelope => exact absurd rfl (hquiet envelope)
    | _ => exact ⟨rfl, rfl, rfl⟩

/-- Without a transport, acts that send nothing leave the transport, the counts and the record. -/
theorem Faithful.run_absent (hfaithful : watched.Faithful)
    (habsent : watched.mailbox.transport = .absent) {acts : List (Act σ)}
    (hquiet : ∀ envelope, Act.send envelope ∉ acts) :
    (watched.run acts).mailbox.transport = .absent ∧
      (watched.run acts).mailbox.tally = watched.mailbox.tally ∧
      (watched.run acts).shifts = watched.shifts := by
  induction acts generalizing watched with
  | nil => exact ⟨habsent, rfl, rfl⟩
  | cons act acts ih =>
    have hnone (envelope : Envelope) (hsend : act = .send envelope) : False :=
      hquiet envelope (hsend ▸ List.mem_cons_self ..)
    obtain ⟨hstill, htally, hshifts⟩ := hfaithful.act_absent habsent hnone
    obtain ⟨hlast, htallies, hrecord⟩ := ih (hfaithful.act act) hstill fun envelope hmem =>
      hquiet envelope (List.mem_cons_of_mem _ hmem)
    exact ⟨hlast, htallies.trans htally, hrecord.trans hshifts⟩

/-- An act leaves the record, begins a shift, or carries the latest one on. -/
theorem grown_act (watched : Watched σ κ) (act : Act σ) :
    Shift.Grown watched.shifts (watched.act act).shifts := by
  have hclose : Shift.Grown watched.shifts watched.close.shifts :=
    .map (Shift.accepted_observeClose _ _) watched.present watched.past
  cases act with
  | send envelope =>
    show Shift.Grown watched.shifts (watched.send envelope).shifts
    unfold Watched.send
    rcases watched.mailbox.send envelope watched.state with ⟨⟨_⟩ | ⟨⟩, mailbox, state⟩
    · exact .same
    · show Shift.Grown (watched.present.toList ++ watched.past) _
      cases watched.present with
      | none => exact .begun _
      | some shift => exact .on rfl (List.prefix_append ..)
  | close => exact hclose
  | drop => exact hclose
  | advance => exact .map (Shift.accepted_observe _ _) watched.present watched.past
  | bar refusal => exact .same
  | stir change => exact .same

/-- A shift was begun with this envelope when these were over. -/
def Began (earlier : List Shift) (first : Envelope) (watched : Watched σ κ) : Prop :=
  ∃ newer shift, watched.shifts = newer ++ shift :: earlier ∧ [first] <+: shift.accepted

/-- A shift that was begun stays in the record, with the envelope that it was begun with. -/
theorem Began.act (hbegan : watched.Began earlier first) (act : Act σ) :
    (watched.act act).Began earlier first := by
  obtain ⟨newer, shift, hshifts, hfirst⟩ := hbegan
  have hgrown := watched.grown_act act
  rw [hshifts] at hgrown
  generalize hafter : (watched.act act).shifts = after at hgrown
  cases hgrown with
  | same => exact ⟨newer, shift, hafter, hfirst⟩
  | begun latest => exact ⟨latest :: newer, shift, hafter, hfirst⟩
  | on hlatest haccepted =>
    cases newer with
    | nil =>
      obtain ⟨rfl, rfl⟩ := List.cons.inj hlatest
      exact ⟨[], _, hafter, hfirst.trans haccepted⟩
    | cons latest newer =>
      obtain ⟨rfl, rfl⟩ := List.cons.inj hlatest
      exact ⟨_ :: newer, shift, hafter, hfirst⟩

/-- A shift that was begun stays in the record over several acts. -/
theorem Began.run (hbegan : watched.Began earlier first) (acts : List (Act σ)) :
    (watched.run acts).Began earlier first := by
  induction acts generalizing watched with
  | nil => exact hbegan
  | cons act acts ih => exact ih (hbegan.act act)

/-- A send is refused exactly if the consumer has failed, or there is none and the host refuses to start one. -/
theorem Faithful.send_eq (hfaithful : watched.Faithful) (envelope : Envelope) :
    (watched.mailbox.send envelope watched.state).1 =
      if watched.present.any (·.failed) then .error .consumerGone
      else match watched.mailbox.obstacle with
        | none => .ok ()
        | some cause => .error (.consumerUnavailable cause) := by
  rw [← hfaithful.isCrashed_eq]
  obtain ⟨⟨transport, tally, refusal⟩, state, past, present⟩ := watched
  cases transport with
  | absent => cases refusal <;> rfl
  | running call queue => rfl
  | crashed => rfl

/-- Of a consumer that has failed the mailbox holds nothing. -/
theorem Faithful.transport_of_failed (hfaithful : watched.Faithful)
    (hfailed : watched.present.any (·.failed) = true) :
    watched.mailbox.transport = .crashed := by
  rw [← hfaithful.isCrashed_eq] at hfailed
  cases htransport : watched.mailbox.transport with
  | crashed => rfl
  | _ =>
    rw [htransport] at hfailed
    cases hfailed

/-- The consumer that was started with this envelope, when these shifts were over, handles it first: no other before it,
and it by the time that nothing is left to handle, if it has not come to its end. -/
def ServedFirst (earlier : List Shift) (first : Envelope) (watched : Watched σ κ) : Prop :=
  ∃ newer shift, watched.shifts = newer ++ shift :: earlier ∧ [first] <+: shift.accepted ∧
    (shift.called = [] ∨ [first] <+: shift.called) ∧
    (newer = [] → watched.mailbox.transport = .running none [] → [first] <+: shift.called)

/-- What a consumer was started with it handles first. -/
theorem Began.servedFirst (hbegan : watched.Began earlier first) (hfaithful : watched.Faithful) :
    watched.ServedFirst earlier first := by
  obtain ⟨newer, shift, hshifts, hfirst⟩ := hbegan
  have hcalled := hfaithful.called_leads shift (hshifts ▸ by simp)
  refine ⟨newer, shift, hshifts, hfirst, ?_, ?_⟩
  · rcases hempty : shift.called with _ | ⟨envelope, rest⟩
    · exact .inl rfl
    · rw [hempty] at hcalled
      exact .inr (List.prefix_of_prefix_length_le hfirst hcalled (by simp))
  · rintro rfl hidle
    obtain ⟨current, hpresent, hall⟩ := hfaithful.called_all hidle
    unfold shifts at hshifts
    rw [hpresent] at hshifts
    obtain ⟨rfl, _⟩ := List.cons.inj hshifts
    rw [hall]
    exact hfirst

/-- A refused envelope is let go of, the recipient drained and the transport gone; nothing is counted. -/
theorem act_refused (hcrashed : watched.mailbox.transport = .crashed) (envelope : Envelope) :
    watched.act (.send envelope) =
      ⟨watched.mailbox.closed watched.mailbox.tally,
        recipient.drained (recipient.dispose watched.state envelope), watched.shifts, none⟩ := by
  obtain ⟨⟨transport, tally, refusal⟩, state, past, present⟩ := watched
  cases hcrashed
  rfl

/-- There is no transport, and the next envelope starts a consumer that handles it first. If the host refuses the
start, the envelope is let go of, and all else stays but the refusal. -/
structure Restarts (watched : Watched σ κ) : Prop where
  absent : watched.mailbox.transport = .absent
  started : watched.mailbox.refusal = none → ∀ next,
    (watched.mailbox.send next watched.state).1 = .ok () ∧
      (watched.act (.send next)).mailbox =
        ⟨.running none [next], watched.mailbox.tally.countSent, none⟩ ∧
      ∀ later, ((watched.act (.send next)).run later).ServedFirst watched.shifts next
  unstarted : ∀ cause, watched.mailbox.refusal = some cause → ∀ next,
    (watched.mailbox.send next watched.state).1 = .error (.consumerUnavailable cause) ∧
      watched.act (.send next) = { watched with
        mailbox := watched.mailbox.bar none, state := recipient.dispose watched.state next }

/-- Where there is no transport, the next envelope starts a consumer unless the host refuses. -/
theorem Faithful.restarts (hfaithful : watched.Faithful)
    (habsent : watched.mailbox.transport = .absent) : watched.Restarts := by
  obtain ⟨⟨transport, tally, refusal⟩, state, past, present⟩ := watched
  cases habsent
  have hfollows := hfaithful.present
  cases present with
  | some shift => exact hfollows.elim
  | none =>
    refine ⟨rfl, fun hwilling next => ?_, fun cause hbarred next => ?_⟩
    · cases hwilling
      refine ⟨rfl, rfl, fun later => ?_⟩
      have hbegan : Began past next
          (Watched.act ⟨⟨.absent, tally, none⟩, state, past, none⟩ (.send next) : Watched σ κ) :=
        ⟨[], Shift.fresh.accept next, rfl, List.prefix_rfl⟩
      exact (hbegan.run later).servedFirst ((hfaithful.act (.send next)).run later)
    · cases hbarred
      exact ⟨rfl, rfl⟩

end Restart

end Watched

/-- Recovery for every run and every recipient. A send is refused exactly if the consumer has failed, or there is none
and the host refuses to start one. If the consumer has failed, the mailbox holds nothing of what the consumer was
given, the envelope is let go of, the recipient is drained, the transport is gone and nothing is counted. Where there
is no transport, after that and at any other time, the next envelope is accepted and starts a consumer that handles it
first; if the host refuses the start, the envelope is let go of and it is the turn of the one after it. A close
without a transport changes nothing.

Over the whole run each consumer that came to its end did so once, by a close or by a refused send, and by a refused
send only if it had failed. The recipient was drained once for each consumer but the one at work. Each envelope that
was accepted belongs to one consumer, which is called with no other; and what a consumer was given and did not finish,
the envelope in hand when it failed among it, was let go of once, when it failed or was closed, as was every envelope
that was not accepted. -/
theorem recovers (acts : List (Act σ)) (state : σ) :
    let start : Watched σ κ := Watched.initial state
    let watched := start.run acts
    let report := Report.blank.noteAll acts start
    let noted := (Watched.initial (.blank state) : Watched (Noted σ) (Noted.Call κ)).run
      (acts.map Act.noted)
    (∀ envelope, (watched.mailbox.send envelope watched.state).1 =
      if watched.present.any (·.failed) then .error .consumerGone
      else match watched.mailbox.obstacle with
        | none => .ok ()
        | some cause => .error (.consumerUnavailable cause)) ∧
    (watched.present.any (·.failed) = true → watched.mailbox.transport = .crashed ∧
      ∀ envelope,
        let refused := watched.act (.send envelope)
        refused.mailbox = ⟨.absent, watched.mailbox.tally, watched.mailbox.refusal⟩ ∧
        refused.state = recipient.drained (recipient.dispose watched.state envelope) ∧
        ∀ between, (∀ other, Act.send other ∉ between) →
          let resting := refused.run between
          resting.mailbox.tally = watched.mailbox.tally ∧ resting.shifts = watched.shifts ∧
            resting.Restarts) ∧
    (watched.mailbox.transport = .absent → watched.act .close = watched ∧ watched.Restarts) ∧
    noted.forget = watched ∧
    noted.state.drains + watched.mailbox.transport.isOpen.toNat = report.started ∧
    report.started = watched.shifts.length ∧
    report.accepted = watched.shifts.reverse.flatMap Shift.accepted ∧
    report.endings.length = watched.past.length ∧
    (∀ ended ∈ watched.past.reverse.zip report.endings, ended.2.envelope?.isSome = true →
      ended.1.failed = true) ∧
    (∀ shift ∈ watched.shifts, shift.called <+: shift.accepted ∧
      (shift.failed = true → ∃ hand, shift.called = shift.finished ++ [hand])) ∧
    noted.state.called ++ noted.unopened = watched.shifts.reverse.flatMap Shift.called ∧
    noted.state.dropped = Shift.dropped watched.past.reverse report.lapses ++ watched.lost := by
  have hfaithful : ((Watched.initial state).run acts : Watched σ κ).Faithful :=
    Watched.faithful_run acts state
  have haccounted := (Watched.accounted_initial state : Watched.Accounted _ (_ : Watched _ (Noted.Call κ))).run acts
  have hrecited := Watched.recited_run (κ := κ) acts state
  have hforget := Watched.forget_run (Watched.initial (.blank state) : Watched (Noted σ) (Noted.Call κ)) acts
  rw [Watched.noteAll_noted] at haccounted
  replace haccounted : Watched.Accounted
    (Report.blank.noteAll acts (Watched.initial state : Watched σ κ)) _ := haccounted
  replace hforget : Watched.forget _ = (Watched.initial state).run acts := hforget
  dsimp only
  generalize (Watched.initial (.blank state) : Watched (Noted σ) (Noted.Call κ)).run (acts.map Act.noted) = noted
    at haccounted hrecited hforget ⊢
  generalize Report.blank.noteAll acts (Watched.initial state : Watched σ κ) = report
    at haccounted ⊢
  rw [← hforget] at hfaithful ⊢
  refine ⟨hfaithful.send_eq, ?_, fun habsent => ⟨hfaithful.close_absent habsent, hfaithful.restarts habsent⟩,
    rfl, ?_, haccounted.started, haccounted.accepted, haccounted.ended, haccounted.refused, ?_,
    hrecited.called, haccounted.dropped⟩
  · intro hfailed
    have hcrashed := hfaithful.transport_of_failed hfailed
    refine ⟨hcrashed, fun envelope => ?_⟩
    have hrefused := hfaithful.act (.send envelope)
    rw [Watched.act_refused hcrashed envelope] at hrefused ⊢
    refine ⟨rfl, rfl, fun between hquiet => ?_⟩
    obtain ⟨habsent, htally, hshifts⟩ := hrefused.run_absent rfl hquiet
    exact ⟨htally, hshifts, (hrefused.run between).restarts habsent⟩
  · have hcount : noted.shifts.length = noted.present.toList.length + noted.past.length :=
      List.length_append
    have hone : noted.forget.mailbox.transport.isOpen.toNat = noted.present.toList.length := by
      rw [hfaithful.isOpen_eq]
      show noted.present.isSome.toNat = _
      cases noted.present <;> rfl
    rw [hone, haccounted.started, haccounted.drains, haccounted.ended, hcount, Nat.add_comm]
  · intro shift hshift
    exact ⟨hfaithful.called_leads shift hshift, haccounted.broken shift hshift⟩

/-- A frame of one pixel. -/
def pixel (mark : Nat) : Envelope := .frame ⟨mark, ⟨#[], ⟨1, 1⟩, .rgba, 0⟩⟩ 7

/-- A frame is handled to the end, and the call for another fails while a third is in the queue. -/
def midstreamFault : List (Act Recorder) :=
  [.send (pixel 1), .send (pixel 2), .advance, .advance, .advance,
    .stir fun recorder => { recorder with fault := some .frame },
    .send (pixel 3), .advance, .advance, .advance]

theorem recovers_midstream :
    let start : Watched Recorder _ := Watched.initial (Recorder.initial true)
    let watched := start.run midstreamFault
    let noted := (Watched.initial (.blank (Recorder.initial true)) : Watched (Noted Recorder) _).run
      (midstreamFault.map Act.noted)
    let resting := (watched.act (.send (pixel 4))).run [.close]
    let barred := (watched.act (.send (pixel 4))).run [.bar (some "out of threads")]
    let restarted := resting.act (.send (pixel 5))
    Report.blank.noteAll midstreamFault start = ⟨[pixel 1, pixel 2, pixel 3], 1, []⟩ ∧
      noted.state.dropped = [pixel 2, pixel 3] ∧ noted.state.drains = 0 ∧
      (watched.mailbox.send (pixel 4) watched.state).1 = .error .consumerGone ∧
      (watched.act (.send (pixel 4))).state.drains = 1 ∧
      (resting.mailbox.send (pixel 5) resting.state).1 = .ok () ∧
      (restarted.run [.advance]).ServedFirst watched.shifts (pixel 5) ∧
      (barred.mailbox.send (pixel 5) barred.state).1 =
        .error (.consumerUnavailable "out of threads") ∧
      (barred.act (.send (pixel 5))).mailbox.transport = .absent := by
  obtain ⟨hsend, hrefused, _, _, hdrains, _, _, _, _, _, _, hdropped⟩ :=
    recovers midstreamFault (Recorder.initial true)
  obtain ⟨_, hgone⟩ := hrefused (by decide)
  obtain ⟨_, hstate, hnext⟩ := hgone (pixel 4)
  obtain ⟨_, hshifts, hrestarts⟩ := hnext [.close] (by simp)
  obtain ⟨_, _, hbarred⟩ := hnext [.bar (some "out of threads")] (by simp)
  obtain ⟨hresult, _, hserved⟩ := hrestarts.started rfl (pixel 5)
  obtain ⟨hunavailable, hstill⟩ := hbarred.unstarted _ rfl (pixel 5)
  have hreport : Report.blank.noteAll midstreamFault
      (Watched.initial (Recorder.initial true) : Watched Recorder _) =
        ⟨[pixel 1, pixel 2, pixel 3], 1, []⟩ := by decide
  rw [hreport] at hdrains hdropped
  refine ⟨hreport, hdropped.trans (by decide), ?_, (hsend (pixel 4)).trans (by rfl), ?_, hresult,
    hshifts ▸ hserved [.advance], hunavailable, ?_⟩
  · exact Nat.succ.inj hdrains
  · rw [hstate]
    rfl
  · rw [hstill]
    exact hbarred.absent

end Mailbox

end FramePath

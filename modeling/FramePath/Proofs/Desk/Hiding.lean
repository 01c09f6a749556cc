import FramePath.Proofs.Desk.Outlook

/-!
# Hidden content stays hidden

A frame that is submitted while its presenter is hidden comes to its surface behind the change of visibility that
hides it. The mailbox keeps the order; but a change of visibility that comes back, because the consumer has failed or
none can be started, or waits when a consumer fails, is lost, and what is submitted after it may be seen. A `Veil`
keeps for each envelope on its way what was asked for when it was sent, and whether the change before it was lost.
`hidden_stays_hidden` says that nothing else lets hidden content be seen.
-/

namespace FramePath

open Renderer (Call Job)
open Surface (Aloof)

/-- An envelope that a mailbox took. -/
structure Posting where
  envelope : Envelope
  /-- The visibility last asked for when it was sent. -/
  visible : Bool
  /-- Whether the change of visibility last sent under the binding was lost before. -/
  lapsed : Bool
  deriving DecidableEq, Repr

/-- Whether the surface must be hidden when it gets the frame inside. -/
def Posting.isSecret (posting : Posting) : Bool := !posting.visible && !posting.lapsed

/-- A frame given to a surface, the posting that it came in, and the visibility that the surface was told last. -/
structure Exposure where
  showing : Showing
  posting : Option Posting
  told : Bool
  deriving DecidableEq, Repr

namespace Exposure

/-- The frame came in a posting under its epoch, and if that was secret, the surface had been told to hide. -/
def Sound (exposure : Exposure) : Prop :=
  ∃ posting, exposure.posting = some posting ∧ posting.envelope = exposure.showing.envelope ∧
    (posting.isSecret = true → exposure.told = false)

end Exposure

/-- What is known about the envelopes on their way, and what was shown. -/
structure Veil where
  /-- Whether the change of visibility last sent under the binding is lost, or none was yet that hides the surface. -/
  lapsed : Bool
  hand : Option Posting
  waiting : List Posting
  exposures : List Exposure
  deriving DecidableEq, Repr

namespace Veil

/-- Nothing is on its way. -/
def blank : Veil := ⟨false, none, [], []⟩

/-- A change of visibility is sent, or comes back. -/
def tell (visible deaf : Bool) (veil : Veil) : Veil :=
  if deaf then { veil with lapsed := true }
  else { veil with lapsed := false, waiting := veil.waiting ++ [⟨.visibility visible, visible, false⟩] }

/-- The posting in hand comes to a surface. -/
def expose (after : Desk) (veil : Veil) : Veil :=
  { veil with
    exposures := veil.exposures ++ after.given.map fun showing =>
      ⟨showing, veil.hand, after.scene.told showing.bond.surface⟩ }

/-- The next posting is taken in hand. -/
def take (veil : Veil) : Veil :=
  { veil with hand := veil.waiting.head?, waiting := veil.waiting.tail }

/-- The posting in hand is done with. -/
def finish (veil : Veil) : Veil := { veil with hand := none }

/-- All postings are lost with the queue. -/
def lose (queue : List Envelope) (veil : Veil) : Veil :=
  { veil with
    lapsed := veil.lapsed || queue.any (·.visible?.isSome)
    hand := none
    waiting := [] }

/-- The consumer takes the next posting in hand, is done with the one in hand, or fails. -/
def shift (before after : Desk) (veil : Veil) : Veil :=
  match before.call?, after.call? with
  | none, some _ => veil.take
  | some _, none =>
    if after.isDead then veil.lose before.presenter.mailbox.transport.queue else veil.finish
  | _, _ => veil

variable {before after : Desk} {call next : Call} {veil : Veil}

/-- A consumer that rests leaves the postings. -/
theorem shift_resting (hbefore : before.call? = none) (hafter : after.call? = none) :
    veil.shift before after = veil := by
  unfold shift
  rw [hbefore, hafter]

/-- A consumer that begins a call takes the next posting. -/
theorem shift_taken (hbefore : before.call? = none) (hafter : after.call? = some next) :
    veil.shift before after = veil.take := by
  unfold shift
  rw [hbefore, hafter]

/-- A call that goes on is for the same posting. -/
theorem shift_waiting (hbefore : before.call? = some call) (hafter : after.call? = some next) :
    veil.shift before after = veil := by
  unfold shift
  rw [hbefore, hafter]

/-- A call that returns is done with its posting. -/
theorem shift_returned (hbefore : before.call? = some call) (hafter : after.call? = none)
    (halive : after.isDead = false) : veil.shift before after = veil.finish := by
  unfold shift
  rw [hbefore, hafter, halive]
  rfl

/-- A call that fails loses all. -/
theorem shift_failed (hbefore : before.call? = some call) (hafter : after.call? = none)
    (hdead : after.isDead = true) :
    veil.shift before after = veil.lose before.presenter.mailbox.transport.queue := by
  unfold shift
  rw [hbefore, hafter, hdead]
  rfl

/-- A veil is kept by what a deed finds. -/
def keeper : Observer Veil where
  blank := blank
  note desk deed veil :=
    match deed with
    | .attach _ _ => { veil with lapsed := !desk.presenter.visible }
    | .announce => if desk.presenter.visible then veil else veil.tell false desk.isDeaf
    | .setVisible visible => if desk.isBound then veil.tell visible desk.isDeaf else veil
    | .submit frame =>
      match (desk.submit frame).1 with
      | .queued =>
        { veil with
          waiting := veil.waiting ++
            [⟨.frame frame desk.epoch, desk.presenter.visible, veil.lapsed⟩] }
      | .dropped => veil
    | .advance => (veil.expose desk.advance).shift desk desk.advance
    | .close => { veil with hand := none, waiting := [] }
    | _ => veil

end Veil

/-- A surface that was told this visibility has been told to hide before each secret frame of an epoch. -/
def Heralded (epoch : Nat) : Bool → List Posting → Prop
  | _, [] => True
  | told, posting :: postings =>
      (∀ frame, posting.envelope = .frame frame epoch → posting.isSecret = true → told = false) ∧
        Heralded epoch (posting.envelope.visible?.getD told) postings

/-- One more posting at the end. -/
theorem heralded_concat {epoch : Nat} {told : Bool} {postings : List Posting} {posting : Posting}
    (hheralded : Heralded epoch told postings)
    (hlast : ∀ frame, posting.envelope = .frame frame epoch → posting.isSecret = true →
      foretell told (postings.map Posting.envelope) = false) :
    Heralded epoch told (postings ++ [posting]) := by
  induction postings generalizing told with
  | nil => exact ⟨hlast, trivial⟩
  | cons first postings ih => exact ⟨hheralded.1, ih hheralded.2 hlast⟩

/-- Frames of other epochs need no herald. -/
theorem heralded_of_other {epoch : Nat} (told : Bool) {postings : List Posting}
    (hother : ∀ frame, .frame frame epoch ∉ postings.map Posting.envelope) :
    Heralded epoch told postings := by
  induction postings generalizing told with
  | nil => exact trivial
  | cons posting postings ih =>
    refine ⟨fun frame hframe => ?_, ih _ fun frame hmem => hother frame (List.mem_cons_of_mem _ hmem)⟩
    exact absurd (List.mem_cons.2 (.inl hframe.symm)) (hother frame)

namespace Backstage

/-- A step that gives a frame to a surface, or leaves one ahead, tells no surface anything. The showing was ahead
before, or its frame is taken up for the binding in force. -/
theorem Resumed.bearing {call : Call} {stage after : Backstage} {progress : Progress Call}
    {showing : Showing} (hresumed : Resumed call stage progress after)
    (hshowing : showing ∈ givenBy progress ++ dueBy progress) :
    (∀ surface, after.scene.told surface = stage.scene.told surface) ∧
      (showing ∈ call.due ∨ call = .taken showing.envelope ∧
        stage.scene.link? stage.renderer.owner = some ⟨showing.bond.epoch, some showing.bond.surface⟩) := by
  have hquiet : ∀ surface, (spoken call progress stage.scene).told surface =
      stage.scene.told surface → after.scene.told surface = stage.scene.told surface :=
    fun surface hspoken => (Scene.told_congr (hresumed.view Surface.aloof_told) surface).trans hspoken
  cases hresumed with
  | accepted frame epoch stage binding surface hbinding hsurface hepoch =>
    cases List.mem_singleton.1 hshowing
    refine ⟨fun other => hquiet other rfl, .inr ⟨rfl, ?_⟩⟩
    unfold Scene.link?
    rw [hbinding, ← hepoch]
    exact congrArg some (congrArg (Link.mk binding.epoch) hsurface)
  | sizing => exact ⟨fun other => hquiet other rfl, .inl hshowing⟩
  | writing => exact ⟨fun other => hquiet other rfl, .inl hshowing⟩
  | sized => exact ⟨fun other => hquiet other rfl, .inl hshowing⟩
  | lending job =>
    exact ⟨fun other => hquiet other (Scene.told_record_silent rfl _ _ _), .inl hshowing⟩
  | written job =>
    exact ⟨fun other => hquiet other (Scene.told_copyIn job.frame _ _ _), .inl hshowing⟩
  | _ => cases hshowing

end Backstage

namespace Desk

/-- What a veil says is true of the desk. `before` is what the surfaces were given before. -/
structure Veiled (before : List (List SharedFrame)) (desk : Desk) (veil : Veil) : Prop where
  sited : desk.Sited
  hand : veil.hand.map Posting.envelope = desk.presenter.mailbox.transport.hand Backstage
  waiting : veil.waiting.map Posting.envelope = desk.presenter.mailbox.transport.queue
  heralded : ∀ {epoch surface}, desk.link? = some ⟨epoch, some surface⟩ →
    Heralded epoch (desk.outlook surface) veil.waiting
  asked : ∀ {epoch surface}, desk.link? = some ⟨epoch, some surface⟩ →
    desk.presenter.visible = false → veil.lapsed = false → desk.prospect surface = false
  taken : ∀ {posting frame epoch surface}, veil.hand = some posting →
    desk.call? = some (.taken (.frame frame epoch)) → desk.link? = some ⟨epoch, some surface⟩ →
    posting.isSecret = true → desk.scene.told surface = false
  going : ∀ {posting showing}, veil.hand = some posting → showing ∈ desk.due →
    posting.isSecret = true → desk.scene.told showing.bond.surface = false
  sound : ∀ exposure ∈ veil.exposures, exposure.Sound
  given : ∀ surface, desk.scene.given[surface]? =
    before[surface]?.map (· ++ Showing.at surface (veil.exposures.map Exposure.showing))

namespace Veiled

variable {before : List (List SharedFrame)} {desk after : Desk} {veil : Veil}

/-- What is done aside from the mail leaves the veil where no surface is bound anew. -/
theorem aside (hveiled : desk.Veiled before veil) (haside : Aside desk after) (hsited : after.Sited)
    (hlink : ∀ {epoch surface}, after.link? = some ⟨epoch, some surface⟩ →
      desk.link? = some ⟨epoch, some surface⟩) : after.Veiled before veil where
  sited := hsited
  hand := by rw [haside.transport]; exact hveiled.hand
  waiting := by rw [haside.transport]; exact hveiled.waiting
  heralded {epoch surface} hbound := by
    rw [haside.outlook]
    exact hveiled.heralded (hlink hbound)
  asked {epoch surface} hbound := by
    rw [haside.visible, haside.prospect]
    exact hveiled.asked (hlink hbound)
  taken hhand hcall hbound := by
    rw [haside.told]
    exact hveiled.taken hhand (haside.call ▸ hcall) (hlink hbound)
  going {posting showing} hhand hshowing := by
    have hdue : after.due = desk.due := by
      unfold due
      rw [haside.call]
    rw [haside.told]
    exact hveiled.going hhand (hdue ▸ hshowing)
  sound := hveiled.sound
  given surface := by
    rw [show after.scene.given = desk.scene.given from haside.view Surface.aloof_given]
    exact hveiled.given surface

/-- Where the last change of visibility counts as lost, nothing is promised about what is asked for now. -/
theorem asking (hveiled : desk.Veiled before veil) (visible : Bool) :
    (desk.asking visible).Veiled before { veil with lapsed := true } where
  sited := hveiled.sited.papers
  hand := hveiled.hand
  waiting := hveiled.waiting
  heralded := hveiled.heralded
  asked _ _ hlapsed := by cases hlapsed
  taken := hveiled.taken
  going := hveiled.going
  sound := hveiled.sound
  given := hveiled.given

/-- Nor about a surface that is attached: nothing on its way is for its binding. -/
theorem attach (hveiled : desk.Veiled before veil) {surface : Nat} (zeroCopy : Bool)
    (hfound : desk.scene.surfaces[surface]?.isSome = true) :
    (desk.attach surface zeroCopy).Veiled before { veil with lapsed := true } := by
  have haside := aside_attach surface zeroCopy desk
  have hsited := hveiled.sited.attach zeroCopy hfound
  have hlater : ∀ {epoch other}, (desk.attach surface zeroCopy).link? = some ⟨epoch, some other⟩ →
      ∀ frame, .frame frame epoch ∉ desk.mail := by
    intro epoch other hlink frame hmem
    obtain ⟨rfl, _⟩ := hveiled.sited.attached hfound hlink
    have hdated := hveiled.sited.dated hmem
    omega
  refine ⟨hsited, ?_, ?_, ?_, fun _ _ hlapsed => (by cases hlapsed), ?_, ?_, hveiled.sound, ?_⟩
  · rw [haside.transport]
    exact hveiled.hand
  · rw [haside.transport]
    exact hveiled.waiting
  · intro epoch other hlink
    refine heralded_of_other _ fun frame hmem => hlater hlink frame ?_
    rw [hveiled.waiting] at hmem
    exact List.mem_append_right _ hmem
  · intro posting frame epoch other _ hcall hlink
    refine absurd ?_ (hlater hlink frame)
    refine List.mem_append_left _ (Option.mem_toList.2 ?_)
    unfold Transport.hand
    rw [show desk.presenter.mailbox.transport.call? = _ from haside.call.symm.trans hcall]
    rfl
  · intro posting showing hhand hshowing
    have hdue : (desk.attach surface zeroCopy).due = desk.due := by
      unfold due
      rw [haside.call]
    rw [haside.told]
    exact hveiled.going hhand (hdue ▸ hshowing)
  · intro place
    rw [show (desk.attach surface zeroCopy).scene.given = desk.scene.given from
      haside.view Surface.aloof_given]
    exact hveiled.given place

/-- Where it counts as lost, nothing is promised. -/
theorem lapses (hveiled : desk.Veiled before veil) : desk.Veiled before { veil with lapsed := true } :=
  { hveiled with asked := nofun }

/-- While the presenter is to be visible, no change of visibility is missed. -/
theorem clears (hveiled : desk.Veiled before veil) (hvisible : desk.presenter.visible = true) :
    desk.Veiled before { veil with lapsed := false } :=
  { hveiled with asked := fun _ hhidden => by rw [hvisible] at hhidden; cases hhidden }

/-- Where nothing is bound nothing is promised, so a queue may be thrown away. -/
theorem drained (hveiled : desk.Veiled before veil) (leases : Leases) (tally : MailTally)
    (hasked : ∀ {epoch surface}, desk.link? = some ⟨epoch, some surface⟩ →
      desk.presenter.visible = false → veil.lapsed = false → desk.scene.told surface = false) :
    (desk.drained leases tally).Veiled before { veil with hand := none, waiting := [] } where
  sited := hveiled.sited.drained leases tally
  hand := rfl
  waiting := rfl
  heralded _ := trivial
  asked hlink := hasked ((link_drained leases tally desk).symm.trans hlink)
  taken hhand := by cases hhand
  going hhand := by cases hhand
  sound := hveiled.sound
  given := hveiled.given

/-- What is sent is a posting of its own, behind those that wait. -/
theorem posts (hveiled : desk.Veiled before veil) (posting : Posting) {lapsed : Bool}
    (halive : desk.isDead = false) (hsited : (desk.posting posting.envelope).Sited)
    (hlast : ∀ {epoch surface}, desk.link? = some ⟨epoch, some surface⟩ →
      ∀ frame, posting.envelope = .frame frame epoch → posting.isSecret = true →
        desk.prospect surface = false)
    (hasked : ∀ {epoch surface}, desk.link? = some ⟨epoch, some surface⟩ →
      desk.presenter.visible = false → lapsed = false →
        posting.envelope.visible?.getD (desk.prospect surface) = false) :
    (desk.posting posting.envelope).Veiled before
      { veil with lapsed, waiting := veil.waiting ++ [posting] } where
  sited := hsited
  hand := by
    rw [hveiled.hand]
    unfold Transport.hand
    exact congrArg (Option.map _) (call_posting posting.envelope desk).symm
  waiting := by
    rw [queue_posting _ halive, ← hveiled.waiting]
    exact List.map_append
  heralded {epoch surface} hlink := by
    rw [outlook_posting]
    refine heralded_concat (hveiled.heralded hlink) fun frame hframe hsecret => ?_
    rw [hveiled.waiting]
    exact hlast hlink frame hframe hsecret
  asked {epoch surface} hlink hhidden hlapsed := by
    rw [prospect_posting _ _ halive]
    exact hasked hlink hhidden hlapsed
  taken {posting frame epoch surface} hhand hcall :=
    hveiled.taken hhand ((call_posting _ desk).symm.trans hcall)
  going {posting showing} hhand hshowing := by
    unfold due at hshowing
    rw [call_posting] at hshowing
    exact hveiled.going hhand hshowing
  sound := hveiled.sound
  given := hveiled.given

/-- A change of visibility that is sent decides what the surface will have been told. -/
theorem tells (hveiled : desk.Veiled before veil) {visible : Bool}
    (hvisible : desk.presenter.visible = visible) (halive : desk.isDead = false) :
    (desk.posting (.visibility visible)).Veiled before (veil.tell visible false) :=
  hveiled.posts ⟨.visibility visible, visible, false⟩ halive
    (hveiled.sited.posting nofun) nofun fun _ hhidden _ => hvisible.symm.trans hhidden

/-- A frame that is sent while the surface is to be hidden comes behind the change that hides it. -/
theorem queues (hveiled : desk.Veiled before veil) {frame : SharedFrame} {epoch surface : Nat}
    (hlink : desk.link? = some ⟨epoch, some surface⟩) (halive : desk.isDead = false) :
    (desk.posting (.frame frame epoch)).Veiled before
      { veil with
        waiting := veil.waiting ++ [⟨.frame frame epoch, desk.presenter.visible, veil.lapsed⟩] } := by
  refine hveiled.posts ⟨.frame frame epoch, desk.presenter.visible, veil.lapsed⟩ halive ?_ ?_
    fun hlink hhidden hlapsed => hveiled.asked hlink hhidden hlapsed
  · refine hveiled.sited.posting fun other later hsame => ?_
    cases hsame
    exact Nat.le_of_eq (epoch_of_link hlink).symm
  · intro epoch surface hlink _ _ hsecret
    have hboth : (!desk.presenter.visible && !veil.lapsed) = true := hsecret
    simp only [Bool.and_eq_true, Bool.not_eq_true'] at hboth
    exact hveiled.asked hlink hboth.1 hboth.2

/-- While the consumer has nothing to do, there are no postings. -/
theorem empty_of_idle (hveiled : desk.Veiled before veil)
    (hidle : desk.presenter.mailbox.isIdle = true) : veil.hand = none ∧ veil.waiting = [] := by
  obtain ⟨hcall, hqueue⟩ := quiet_of_idle hidle
  have hhand := hveiled.hand
  have hwaiting := hveiled.waiting
  unfold Transport.hand at hhand
  rw [show desk.presenter.mailbox.transport.call? = none from hcall] at hhand
  rw [hqueue] at hwaiting
  exact ⟨Option.map_eq_none_iff.1 hhand, List.map_eq_nil_iff.1 hwaiting⟩

/-- A count is no matter to the veil. -/
theorem count (hveiled : desk.Veiled before veil) (change : AdmissionTally → AdmissionTally) :
    (desk.count change).Veiled before veil :=
  { hveiled with
    sited := hveiled.sited.papers
    asked := hveiled.asked, going := hveiled.going }

/-- Nor is a consumer that the host has not started. -/
theorem turnedAway (hveiled : desk.Veiled before veil) (leases : Leases) :
    (desk.turnedAway leases).Veiled before veil :=
  { hveiled with
    sited := hveiled.sited.turnedAway leases
    asked := hveiled.asked, going := hveiled.going }

/-- An envelope that comes back leaves the veil: nothing was on its way any more. -/
theorem bounces (hveiled : desk.Veiled before veil) (envelope : Envelope) :
    (desk.bouncing envelope).Veiled before veil := by
  cases hdead : desk.isDead with
  | false =>
    rw [bouncing_of_alive envelope hdead]
    exact (hveiled.turnedAway _).count _
  | true =>
    have hidle := idle_of_dead hdead
    obtain ⟨hhand, hwaiting⟩ := hveiled.empty_of_idle hidle
    have hdrained := hveiled.drained (desk.backstage.release envelope.frames).drain.leases
      desk.presenter.mailbox.tally fun {epoch surface} hlink hhidden hlapsed => by
        rw [← prospect_of_idle hidle]
        exact hveiled.asked hlink hhidden hlapsed
    rw [bouncing_of_dead envelope hdead]
    obtain ⟨lapsed, hand, waiting, exposures⟩ := veil
    cases hhand
    cases hwaiting
    exact hdrained.count _

/-- While a call is in progress, its envelope is that of the posting in hand. -/
theorem hand_of_call (hveiled : desk.Veiled before veil) {call : Call}
    (hcall : desk.call? = some call) :
    ∃ posting, veil.hand = some posting ∧ posting.envelope = call.envelope := by
  have hsame := hveiled.hand
  unfold Transport.hand at hsame
  rw [show desk.presenter.mailbox.transport.call? = some call from hcall] at hsame
  exact Option.map_eq_some_iff.1 hsame

/-- A surface that is given the frame in hand, or has it ahead, has been told to hide if the posting is secret. -/
theorem covers (hveiled : desk.Veiled before veil) {call : Call} {progress : Progress Call}
    {stage : Backstage} {posting : Posting} {showing : Showing} (hcall : desk.call? = some call)
    (hresumed : Backstage.Resumed call desk.backstage progress stage)
    (hhand : veil.hand = some posting)
    (hshowing : showing ∈ Backstage.givenBy progress ++ Backstage.dueBy progress)
    (hsecret : posting.isSecret = true) : stage.scene.told showing.bond.surface = false := by
  obtain ⟨htold, hahead⟩ := hresumed.bearing hshowing
  rw [htold]
  rcases hahead with hdue | ⟨htaken, hlink⟩
  · refine hveiled.going hhand ?_ hsecret
    unfold due
    rw [hcall]
    exact hdue
  · subst htaken
    exact hveiled.taken hhand hcall hlink hsecret

/-- What a step of the consumer shows is sound. -/
theorem exposes (hveiled : desk.Veiled before veil) :
    ∀ exposure ∈ (veil.expose desk.advance).exposures, exposure.Sound := by
  intro exposure hmem
  rcases List.mem_append.1 hmem with hold | hnew
  · exact hveiled.sound exposure hold
  · obtain ⟨showing, hgiven, rfl⟩ := List.mem_map.1 hnew
    have hkind := advanced desk
    generalize desk.advance = after at hkind hgiven ⊢
    cases hkind with
    | resting hidle =>
      unfold Desk.given at hgiven
      rw [(quiet_of_idle hidle).1] at hgiven
      cases hgiven
    | taken => cases hgiven
    | returned => cases hgiven
    | failed => cases hgiven
    | waiting call next queue stage htransport hresumed =>
      have hcall := call_running htransport
      obtain ⟨posting, hhand, henvelope⟩ := hveiled.hand_of_call hcall
      have hnext : next.envelope = showing.envelope := by
        have hsome : next.given? = some showing := Option.mem_toList.1 hgiven
        cases next <;> cases hsome <;> rfl
      refine ⟨posting, hhand, henvelope.trans (hresumed.envelope.symm.trans hnext), ?_⟩
      exact hveiled.covers hcall hresumed hhand (List.mem_append_left _ hgiven)

/-- What the surfaces are given is what is exposed. -/
theorem gives (hveiled : desk.Veiled before veil) (surface : Nat) :
    desk.advance.scene.given[surface]? = before[surface]?.map
      (· ++ Showing.at surface ((veil.expose desk.advance).exposures.map Exposure.showing)) := by
  have hshowings : (veil.expose desk.advance).exposures.map Exposure.showing =
      veil.exposures.map Exposure.showing ++ desk.advance.given := by
    unfold Veil.expose
    rw [List.map_append, List.map_map]
    exact congrArg _ (List.map_id _)
  rw [hshowings, (stepped desk).given, hveiled.given, Option.map_map, Showing.at_append]
  exact congrArg (Option.map · _) (funext fun frames => List.append_assoc ..)

/-- A step of the consumer leaves the veil. -/
theorem advance (hveiled : desk.Veiled before veil) :
    desk.advance.Veiled before ((veil.expose desk.advance).shift desk desk.advance) := by
  have hsited := hveiled.sited.advance
  have hsound := hveiled.exposes
  have hgiven := hveiled.gives
  have hlinks := (stepped desk).link
  have hprospect : ∀ {epoch surface}, desk.link? = some ⟨epoch, some surface⟩ →
      desk.advance.isDead = false → desk.advance.prospect surface = desk.prospect surface :=
    prospect_advance hveiled.sited
  have hkind := advanced desk
  generalize desk.advance = after at hsited hsound hgiven hlinks hprospect hkind ⊢
  cases hkind with
  | resting hidle =>
    rw [Veil.shift_resting (quiet_of_idle hidle).1 (quiet_of_idle hidle).1]
    exact { hveiled with sound := hsound, given := hgiven }
  | taken envelope queue htransport =>
    have hcall := call_running htransport
    have hqueue : veil.waiting.map Posting.envelope = envelope :: queue := by
      rw [hveiled.waiting, htransport]
      rfl
    obtain ⟨posting, postings, hwaiting, rfl, hrest⟩ := List.map_eq_cons_iff.1 hqueue
    have hnext : ∀ {epoch surface}, desk.link? = some ⟨epoch, some surface⟩ →
        Heralded epoch (desk.scene.told surface) (posting :: postings) := by
      intro epoch surface hlink
      have hheralded := hveiled.heralded hlink
      unfold outlook at hheralded
      rw [hcall, hwaiting] at hheralded
      exact hheralded
    rw [Veil.shift_taken hcall rfl]
    unfold Veil.take Veil.expose
    dsimp only
    rw [hwaiting]
    refine ⟨hsited, rfl, hrest, ?_, ?_, ?_, nofun, hsound, hgiven⟩
    · intro epoch surface hlink
      exact (hnext hlink).2
    · intro epoch surface hlink hhidden hlapsed
      rw [hprospect hlink rfl]
      exact hveiled.asked hlink hhidden hlapsed
    · intro taken frame epoch surface hhand htaken hlink hsecret
      cases hhand
      have hframe : posting.envelope = .frame frame epoch := Call.taken.inj (Option.some.inj htaken)
      exact (hnext hlink).1 frame hframe hsecret
  | waiting call next queue stage htransport hresumed =>
    have hcall := call_running htransport
    have hhand : veil.hand.map Posting.envelope = some next.envelope := by
      rw [hveiled.hand, htransport, hresumed.envelope]
      rfl
    rw [Veil.shift_waiting hcall rfl]
    refine ⟨hsited, hhand, ?_, ?_, ?_, ?_, ?_, hsound, hgiven⟩
    · exact hveiled.waiting.trans (by rw [htransport]; rfl)
    · intro epoch surface hlink
      have hbound := hlinks.symm.trans hlink
      have hsame := outlook_resumed hveiled.sited hbound htransport hresumed
      show Heralded epoch (Backstage.leavesBy surface (stage.scene.told surface) (.waiting next))
        veil.waiting
      rw [hsame]
      exact hveiled.heralded hbound
    · intro epoch surface hlink hhidden hlapsed
      have hbound := hlinks.symm.trans hlink
      rw [hprospect hbound rfl]
      exact hveiled.asked hbound hhidden hlapsed
    · intro posting frame epoch surface _ htaken
      exact absurd (Option.some.inj htaken) (hresumed.ne_taken _)
    · intro posting showing hposting hshowing hsecret
      exact hveiled.covers hcall hresumed hposting (List.mem_append_right _ hshowing) hsecret
  | returned call queue stage htransport hresumed =>
    have hcall := call_running htransport
    rw [Veil.shift_returned hcall rfl rfl]
    refine ⟨hsited, rfl, ?_, ?_, ?_, nofun, nofun, hsound, hgiven⟩
    · exact hveiled.waiting.trans (by rw [htransport]; rfl)
    · intro epoch surface hlink
      have hbound := hlinks.symm.trans hlink
      have hsame := outlook_resumed hveiled.sited hbound htransport hresumed
      show Heralded epoch (Backstage.leavesBy surface (stage.scene.told surface) .returned) veil.waiting
      rw [hsame]
      exact hveiled.heralded hbound
    · intro epoch surface hlink hhidden hlapsed
      have hbound := hlinks.symm.trans hlink
      rw [hprospect hbound rfl]
      exact hveiled.asked hbound hhidden hlapsed
  | failed call queue stage htransport hresumed =>
    rw [Veil.shift_failed (call_running htransport) rfl rfl]
    refine ⟨hsited, rfl, rfl, fun _ => trivial, ?_, nofun, nofun, hsound, hgiven⟩
    intro epoch surface hlink hhidden hlapsed
    have hbound := hlinks.symm.trans hlink
    obtain ⟨hkept, hnone⟩ := Bool.or_eq_false_iff.1 hlapsed
    -- No change of visibility is lost with the queue, so what was to come had come already.
    have hsame := outlook_resumed hveiled.sited hbound htransport hresumed
    have hasked := hveiled.asked hbound hhidden hkept
    unfold prospect at hasked
    rw [foretell_frames] at hasked
    · exact hsame.trans hasked
    · intro envelope hmem
      have hsilent := List.any_eq_false.1 hnone envelope hmem
      simpa using hsilent

/-- A lease is no matter to the veil. -/
theorem lease (hveiled : desk.Veiled before veil) (frame : SharedFrame) :
    (desk.lease frame).Veiled before veil :=
  { hveiled with
    sited := hveiled.sited.papers
    asked := hveiled.asked, going := hveiled.going }

/-- Every deed leaves the veil. -/
theorem perform (hveiled : desk.Veiled before veil) {deed : Deed} (hallows : desk.Allows deed) :
    (desk.perform deed).Veiled before (Veil.keeper.note desk deed veil) := by
  have hsited := hveiled.sited.perform hallows
  obtain ⟨link, hlink⟩ := hveiled.sited.link
  cases deed with
  | attach surface zeroCopy =>
    have hattached := hveiled.attach zeroCopy hallows.2.isSome
    show (desk.attach surface zeroCopy).Veiled before { veil with lapsed := !desk.presenter.visible }
    cases hvisible : desk.presenter.visible with
    | true =>
      exact hattached.clears ((aside_attach surface zeroCopy desk).visible.trans hvisible)
    | false => exact hattached
  | announce =>
    have hannounced := desk.announced
    show desk.announce.Veiled before _
    simp only [Veil.keeper]
    generalize desk.announce = after at hannounced ⊢
    cases hannounced with
    | shown hvisible =>
      rw [hvisible]
      exact hveiled
    | told hvisible hhearing =>
      rw [hvisible, hhearing]
      exact hveiled.tells hvisible (alive_of_hearing hhearing)
    | bounced hvisible hdeaf =>
      rw [hvisible, hdeaf]
      exact hveiled.lapses.bounces _
  | unbind =>
    refine hveiled.aside (aside_unbind desk) hsited fun hbound => ?_
    cases (link_unbind hlink).symm.trans hbound
  | setVisible visible =>
    have hasked := desk.asked visible
    show (desk.setVisible visible).Veiled before _
    simp only [Veil.keeper]
    generalize desk.setVisible visible = after at hasked ⊢
    cases hasked with
    | kept hunbound =>
      have hkept := hveiled.asking visible
      rw [hunbound]
      exact { hkept with
        asked := fun hbound => absurd hbound (link_of_unbound hunbound), going := hkept.going }
    | told hbound hhearing =>
      rw [hbound, hhearing]
      exact (hveiled.asking visible).tells rfl (alive_of_hearing hhearing)
    | bounced hbound hdeaf =>
      rw [hbound, hdeaf]
      exact (hveiled.asking visible).bounces _
  | submit frame =>
    have hsubmitted := desk.submitted frame
    show (desk.submit frame).2.Veiled before _
    simp only [Veil.keeper]
    generalize desk.submit frame = result at hsubmitted ⊢
    cases hsubmitted with
    | dropped refusal => exact hveiled.count (refusal.charge ·)
    | queued epoch surface hadmits hbound hhearing =>
      rw [epoch_of_link hbound]
      exact ((hveiled.lease frame).queues hbound (alive_of_hearing hhearing)).count fun tally =>
        { tally with sent := tally.sent + 1 }
    | bounced epoch surface => exact (hveiled.lease frame).bounces _
  | advance => exact hveiled.advance
  | close =>
    show desk.close.Veiled before { veil with hand := none, waiting := [] }
    rcases close_of_quiet hallows.1 with ⟨habsent, hsame⟩ | ⟨_, leases, hclosed⟩
    · have hidle : desk.presenter.mailbox.isIdle = true := by
        unfold Mailbox.isIdle
        rw [habsent]
        rfl
      obtain ⟨hhand, hwaiting⟩ := hveiled.empty_of_idle hidle
      rw [hsame, ← hhand, ← hwaiting]
      exact hveiled
    · rw [hclosed]
      exact hveiled.drained _ _ fun hbound => absurd hbound (link_of_no_bond hallows.2)
  | destroy surface =>
    obtain ⟨after, hafter, hloses, _⟩ := Scene.link_destroy surface hlink
    replace hafter : (desk.changeScene (.destroy surface)).link? = some after := hafter
    exact hveiled.aside (aside_destroy surface desk) hsited (link_of_loses hlink hafter hloses)
  | arrange arrangement =>
    exact hveiled.aside (aside_arrange arrangement desk) hsited
      fun hbound => (link_arrange arrangement desk).symm.trans hbound

end Veiled

/-- Nothing is on its way to a new presenter's surfaces. -/
theorem veiled_opened (surfaces : List Surface) (id : Nat) :
    (opened surfaces id).Veiled (surfaces.map Surface.given) Veil.blank where
  sited := sited_opened surfaces id
  hand := rfl
  waiting := rfl
  heralded _ := trivial
  asked hlink := by cases hlink
  taken hhand := by cases hhand
  going hhand := by cases hhand
  sound _ hmem := by cases hmem
  given surface := Scene.given_nothing rfl surface

/-- After any run the veil is true. -/
theorem veiled_run (surfaces : List Surface) (id : Nat) (acts : List Act) :
    ((opened surfaces id).run acts).Veiled (surfaces.map Surface.given)
      (Veil.keeper.onRun surfaces id acts) :=
  Observer.run_keeps (fun _ _ _ hallows hveiled => hveiled.perform hallows) surfaces id acts
    (veiled_opened surfaces id)

/-- In every run, with any failures, the frames that the surfaces were given are those of the exposures, each
of which came in a posting under its own epoch; and the postings that are left are the envelopes on their way. If a
frame was submitted while the presenter was to be hidden, its surface had last been told to hide when it was given
the frame, unless the change of visibility last sent under the binding before the submit was lost: it came
back because the consumer had failed or none could be started, or was in the queue when the consumer failed. -/
theorem hidden_stays_hidden (surfaces : List Surface) (id : Nat) (acts : List Act) :
    let desk := (opened surfaces id).run acts
    let veil := Veil.keeper.onRun surfaces id acts
    (∀ surface, desk.scene.given[surface]? = (surfaces.map Surface.given)[surface]?.map
      (· ++ Showing.at surface (veil.exposures.map Exposure.showing))) ∧
    (∀ exposure ∈ veil.exposures, ∃ posting, exposure.posting = some posting ∧
      posting.envelope = exposure.showing.envelope ∧
      (posting.visible = false → posting.lapsed = false → exposure.told = false)) ∧
    (veil.hand.toList ++ veil.waiting).map Posting.envelope = desk.mail := by
  have hveiled := veiled_run surfaces id acts
  refine ⟨hveiled.given, ?_, ?_⟩
  · intro exposure hmem
    obtain ⟨posting, hposting, henvelope, hsecret⟩ := hveiled.sound exposure hmem
    refine ⟨posting, hposting, henvelope, fun hhidden hkept => hsecret ?_⟩
    unfold Posting.isSecret
    rw [hhidden, hkept]
    rfl
  · unfold mail
    rw [List.map_append, hveiled.waiting, ← hveiled.hand]
    exact congrArg (· ++ _) (Option.toList_map ..).symm

/-- A presenter whose first frame fails on its way to the surface, and the next comes back, is asked to hide, and
has another frame shown. -/
def hiddenAfterFailure : List Act :=
  let frame (mark : Nat) : SharedFrame := ⟨mark, ⟨#[], ⟨1, 1⟩, .rgba, 0⟩⟩
  [.setState .paused, .bind 0, .submit (frame 1), .arm (some ⟨0, .lend⟩), .advance, .advance,
    .advance, .advance, .submit (frame 2), .setVisible false, .submit (frame 3), .advance, .advance,
    .advance, .advance, .advance, .advance, .advance]

theorem hidden_stays_hidden_after_failure :
    let veil := Veil.keeper.onRun [.new ⟨"opengl", true, false, false, false, none⟩ (some ⟨1, 1⟩)] 0
      hiddenAfterFailure
    ∃ exposure ∈ veil.exposures, ∃ posting, exposure.posting = some posting ∧
      posting.visible = false ∧ posting.lapsed = false ∧ exposure.told = false := by
  have hmem : ⟨⟨⟨3, ⟨#[], ⟨1, 1⟩, .rgba, 0⟩⟩, ⟨2, 0⟩⟩,
      some ⟨.frame ⟨3, ⟨#[], ⟨1, 1⟩, .rgba, 0⟩⟩ 2, false, false⟩, false⟩ ∈
      (Veil.keeper.onRun [.new ⟨"opengl", true, false, false, false, none⟩ (some ⟨1, 1⟩)] 0
        hiddenAfterFailure).exposures := by decide +kernel
  obtain ⟨posting, hposting, _, htold⟩ := (hidden_stays_hidden
    [.new ⟨"opengl", true, false, false, false, none⟩ (some ⟨1, 1⟩)] 0 hiddenAfterFailure).2.1 _ hmem
  cases hposting
  exact ⟨_, hmem, _, rfl, rfl, rfl, htold rfl rfl⟩

/-- The change of visibility itself comes back from the consumer that has failed, and the next frame starts a new
one. -/
def hidingLost : List Act :=
  let frame (mark : Nat) : SharedFrame := ⟨mark, ⟨#[], ⟨1, 1⟩, .rgba, 0⟩⟩
  [.setState .paused, .bind 0, .submit (frame 1), .arm (some ⟨0, .lend⟩), .advance, .advance,
    .advance, .advance, .setVisible false, .submit (frame 2), .advance, .advance, .advance, .advance]

/-- A frame that is submitted after a change of visibility was lost is given to a surface that was never told to
hide. -/
theorem hidden_content_shown :
    let veil := Veil.keeper.onRun [.new ⟨"opengl", true, false, false, false, none⟩ (some ⟨1, 1⟩)] 0
      hidingLost
    ∃ exposure ∈ veil.exposures,
      exposure.posting.map Posting.visible = some false ∧ exposure.told = true := by
  decide +kernel

end Desk

end FramePath

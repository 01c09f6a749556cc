import FramePath.Proofs.Desk.Run
import FramePath.Proofs.Mailbox.Steps
import FramePath.Proofs.Renderer.Giving

/-!
# What can happen at a desk

`Advanced` lists what a step of the consumer can be. `Stepped` says what it does to the binding, to the surfaces and
to the frames on their way, and `stepped` that every step does no more. A send, and a close without a call in
progress, leave the scene alone (`Mailed`). What remains are the acts on the scene: a bind, an unbind and a
destruction change the link as `link_attach`, `link_unbind` and `Scene.link_destroy` say, and give nothing to any
surface.
-/

namespace FramePath

open Renderer (Call Job)

namespace Desk

/-- The call in progress. -/
def call? (desk : Desk) : Option Call := desk.presenter.mailbox.transport.call?

/-- The link of the presenter's binding. -/
def link? (desk : Desk) : Option Link := desk.scene.link? desk.owner

/-- The epoch of the presenter's binding. -/
def epoch (desk : Desk) : Nat := (desk.link?.map Link.epoch).getD 0

/-- The binding, if a surface is bound. -/
def bond? (desk : Desk) : Option Bond :=
  desk.link?.bind fun link => link.surface.map (Bond.mk link.epoch)

/-- The frames that are still to be given to a surface, if they ever are: the one in hand, unless it was given
already, and those in the queue. -/
def pending (desk : Desk) : List Envelope :=
  (desk.call?.map Call.pending).getD [] ++
    desk.presenter.mailbox.transport.queue.filter Envelope.isFrame

/-- While a call is in progress, closing now and closing after one more step leave the same desk. -/
theorem close_advance {desk : Desk} (hcall : desk.call?.isSome = true) :
    desk.advance.close = desk.close := by
  obtain ⟨call, hcall⟩ := Option.isSome_iff_exists.1 hcall
  have hclosed := Mailbox.close_advance desk.backstage hcall
  unfold advance
  generalize desk.presenter.mailbox.advance desk.backstage = moved at hclosed ⊢
  obtain ⟨mailbox, stage⟩ := moved
  unfold close
  rw [← hclosed]
  rfl

/-- What a step of the consumer can be. -/
inductive Advanced (desk : Desk) : Desk → Prop where
  | resting :
      desk.presenter.mailbox.isIdle = true →
      Advanced desk desk
  | taken (envelope queue) :
      desk.presenter.mailbox.transport = .running none (envelope :: queue) →
      Advanced desk (desk.afterMail
        { desk.presenter.mailbox with transport := .running (some (.taken envelope)) queue }
        desk.backstage)
  | waiting (call next queue stage) :
      desk.presenter.mailbox.transport = .running (some call) queue →
      Backstage.Resumed call desk.backstage (.waiting next) stage →
      Advanced desk (desk.afterMail
        { desk.presenter.mailbox with transport := .running (some next) queue } stage)
  | returned (call queue stage) :
      desk.presenter.mailbox.transport = .running (some call) queue →
      Backstage.Resumed call desk.backstage .returned stage →
      Advanced desk (desk.afterMail
        { desk.presenter.mailbox with
          transport := .running none queue
          tally := desk.presenter.mailbox.tally.countHandled call.envelope } stage)
  | failed (call queue stage) :
      desk.presenter.mailbox.transport = .running (some call) queue →
      Backstage.Resumed call desk.backstage .failed stage →
      Advanced desk (desk.afterMail { desk.presenter.mailbox with transport := .crashed }
        (stage.release (queue.flatMap Envelope.frames)))

/-- Every step of the consumer is one of the five. -/
theorem advanced (desk : Desk) : Advanced desk desk.advance := by
  obtain ⟨scene, ⟨id, mailbox, renderer, leases, source, state, visible, tally⟩⟩ := desk
  have hstep := Mailbox.advanced mailbox (Backstage.mk scene renderer leases)
  unfold advance backstage
  dsimp only
  generalize mailbox.advance (Backstage.mk scene renderer leases) = moved at hstep ⊢
  obtain ⟨after, next⟩ := moved
  dsimp only at hstep ⊢
  generalize hstage : Backstage.mk scene renderer leases = stage at hstep
  cases hstep with
  | resting _ _ hrest =>
    subst hstage
    exact .resting hrest
  | taken envelope queue tally refusal stage =>
    subst hstage
    exact .taken envelope queue rfl
  | waiting call going queue tally refusal stage after hgoing =>
    subst hstage
    exact .waiting call going queue _ rfl (Backstage.resumed_of_going hgoing)
  | returned call queue tally refusal stage after hgoing =>
    subst hstage
    exact .returned call queue _ rfl (Backstage.resumed_of_going hgoing)
  | failed call queue tally refusal stage after hgoing =>
    subst hstage
    rw [Backstage.disposeAll_eq]
    exact .failed call queue _ rfl (Backstage.resumed_of_going hgoing)

/-- What no step of the renderer changes of the scene, no step of the consumer changes. -/
theorem scene_advance {desk : Desk} {α : Type} {look : Scene → α}
    (hstep : ∀ {call : Call} {progress : Progress Call} {stage : Backstage},
      Backstage.Resumed call desk.backstage progress stage → look stage.scene = look desk.scene) :
    look desk.advance.scene = look desk.scene := by
  have hkind := advanced desk
  generalize desk.advance = after at hkind ⊢
  cases hkind with
  | resting => rfl
  | taken => rfl
  | waiting call next queue stage htransport hresumed => exact hstep hresumed
  | returned call queue stage htransport hresumed => exact hstep hresumed
  | failed call queue stage htransport hresumed =>
    have hsame := hstep hresumed
    exact hsame

/-- What a step of the consumer has given to a surface. -/
def given (desk : Desk) : List Showing := (desk.call?.bind Call.given?).toList

/-- The showing to which the call in progress may still come. -/
def due (desk : Desk) : List Showing := (desk.call?.map Call.due).getD []

/-- Whether the binding of an epoch is over. -/
def HasEnded (epoch : Nat) (desk : Desk) : Prop :=
  ∃ link, desk.link? = some link ∧ link.HasEnded epoch

/-- The showings of one epoch. -/
def ofEpoch (epoch : Nat) (showings : List Showing) : List Showing :=
  showings.filter (·.bond.epoch == epoch)

/-- The showings of one epoch among some and more. -/
theorem ofEpoch_append (epoch : Nat) (showings more : List Showing) :
    ofEpoch epoch (showings ++ more) = ofEpoch epoch showings ++ ofEpoch epoch more :=
  List.filter_append ..

/-- The frames in the queue. -/
def queued (desk : Desk) : List Envelope :=
  desk.presenter.mailbox.transport.queue.filter Envelope.isFrame

/-- What a step of the consumer can do, as far as bindings, surfaces and frames on their way are
concerned. -/
structure Stepped (before after : Desk) : Prop where
  id : after.presenter.id = before.presenter.id
  owner : after.owner = before.owner
  link : after.link? = before.link?
  listeners : after.scene.view Surface.listeners = before.scene.view Surface.listeners
  given : ∀ surface, after.scene.given[surface]? =
    before.scene.given[surface]?.map (· ++ Showing.at surface after.given)
  pending : (after.given.map Showing.envelope ++ after.pending).Sublist before.pending
  due : (after.given ++ after.due).Sublist before.due ∨
    ∃ bond : Bond, (∀ showing ∈ after.given ++ after.due, showing.bond = bond) ∧
      before.link? = some ⟨bond.epoch, some bond.surface⟩

variable {before after : Desk}

/-- A step that leaves the scene and the renderer alone, and takes at most the next envelope up. -/
theorem Stepped.of_still (hid : after.presenter.id = before.presenter.id)
    (howner : after.owner = before.owner) (hscene : after.scene = before.scene)
    (hgiven : after.given = []) (hpending : after.pending = before.pending) (hdue : after.due = []) :
    Stepped before after where
  id := hid
  owner := howner
  link := by unfold link?; rw [howner, hscene]
  listeners := by rw [hscene]
  given surface := by rw [hgiven]; exact Scene.given_nothing (by rw [hscene]) surface
  pending := by rw [hgiven, hpending]; exact List.Sublist.refl _
  due := .inl (by rw [hgiven, hdue]; exact List.nil_sublist _)

/-- A step with which the call in progress goes on. -/
theorem Stepped.of_resumed {call : Call} {progress : Progress Call} {stage : Backstage}
    (hcall : before.call? = some call)
    (hresumed : Backstage.Resumed call before.backstage progress stage)
    (hid : after.presenter.id = before.presenter.id) (howner : after.owner = stage.renderer.owner)
    (hscene : after.scene = stage.scene) (hgiven : after.given = Backstage.givenBy progress)
    (hdue : after.due = Backstage.dueBy progress)
    (hpending : after.pending.Sublist (Backstage.pendingBy progress ++ before.queued)) :
    Stepped before after where
  id := hid
  owner := howner.trans hresumed.owner
  link := by
    unfold link?
    rw [howner, hresumed.owner, hscene, hresumed.link]
    rfl
  listeners := by rw [hscene, hresumed.listeners]; rfl
  given surface := by rw [hscene, hgiven]; exact hresumed.given surface
  pending := by
    have hbefore : before.pending = call.pending ++ before.queued := by
      show (before.call?.map Call.pending).getD [] ++ before.queued = _
      rw [hcall]
      rfl
    rw [hgiven, hbefore]
    have hqueued := hresumed.pending.append_right before.queued
    rw [List.append_assoc] at hqueued
    exact (hpending.append_left _).trans hqueued
  due := by
    have hbefore : before.due = call.due := by
      show (before.call?.map Call.due).getD [] = _
      rw [hcall]
      rfl
    rw [hgiven, hdue, hbefore]
    exact hresumed.due

/-- Every step of the consumer is of this kind. -/
theorem stepped (desk : Desk) : Stepped desk desk.advance := by
  obtain ⟨scene, ⟨id, mailbox, renderer, leases, source, state, visible, tally⟩⟩ := desk
  have hstep := Mailbox.advanced mailbox (Backstage.mk scene renderer leases)
  unfold advance backstage
  dsimp only
  generalize mailbox.advance (Backstage.mk scene renderer leases) = moved at hstep ⊢
  obtain ⟨after, next⟩ := moved
  dsimp only at hstep ⊢
  generalize hstage : Backstage.mk scene renderer leases = stage at hstep
  cases hstep with
  | resting _ _ hrest =>
    subst hstage
    have hnone : mailbox.transport.call? = none := by
      simp only [Mailbox.isIdle, Bool.and_eq_true, Option.isNone_iff_eq_none] at hrest
      exact hrest.1
    refine .of_still rfl rfl rfl ?_ rfl ?_
    · show (mailbox.transport.call?.bind Call.given?).toList = []
      rw [hnone]
      rfl
    · show (mailbox.transport.call?.map Call.due).getD [] = []
      rw [hnone]
      rfl
  | taken envelope queue tally refusal stage =>
    -- The envelope is on its way as before: it was the first in the queue and is now in hand.
    subst hstage
    refine .of_still rfl rfl rfl rfl ?_ rfl
    cases envelope <;> rfl
  | waiting call going queue tally refusal stage next hgoing =>
    subst hstage
    exact .of_resumed rfl (Backstage.resumed_of_going hgoing) rfl rfl rfl rfl rfl (List.Sublist.refl _)
  | returned call queue tally refusal stage next hgoing =>
    subst hstage
    exact .of_resumed rfl (Backstage.resumed_of_going hgoing) rfl rfl rfl rfl rfl (List.Sublist.refl _)
  | failed call queue tally refusal stage next hgoing =>
    subst hstage
    -- What waits is lost with the call, so nothing is on its way any more.
    rw [Backstage.disposeAll_eq]
    exact .of_resumed rfl (Backstage.resumed_of_going hgoing) rfl rfl rfl rfl rfl (List.nil_sublist _)

/-- No step comes to a showing for a binding that has ended, except the one that the call in progress had
ahead. -/
theorem Stepped.ofEpoch {epoch : Nat} (hstep : Stepped before after) (hended : before.HasEnded epoch) :
    (Desk.ofEpoch epoch (after.given ++ after.due)).Sublist (Desk.ofEpoch epoch before.due) := by
  rcases hstep.due with hsame | ⟨bond, hall, hlink⟩
  · exact hsame.filter _
  · -- A job that begins is for the epoch in force, which is another.
    obtain ⟨link, hsome, hover⟩ := hended
    cases hsome.symm.trans hlink
    have hother : bond.epoch ≠ epoch := by
      rintro rfl
      rcases hover with hless | ⟨_, hnone⟩
      · exact absurd hless (Nat.lt_irrefl _)
      · cases hnone
    have hnone : Desk.ofEpoch epoch (after.given ++ after.due) = [] := by
      refine List.filter_eq_nil_iff.2 ?_
      intro showing hshowing
      rw [hall showing hshowing]
      simpa using hother
    rw [hnone]
    exact List.nil_sublist _

/-- What leaves the scene alone, and whose binding the renderer goes by. -/
structure Mailed (before after : Desk) : Prop where
  id : after.presenter.id = before.presenter.id
  owner : after.owner = before.owner
  scene : after.scene = before.scene

/-- The link stays as it is where the scene does. -/
theorem Mailed.link (hmailed : Mailed before after) : after.link? = before.link? := by
  unfold link?
  rw [hmailed.owner, hmailed.scene]

/-- A close without a call in progress leaves the scene alone. -/
theorem mailed_close {desk : Desk} (hquiet : desk.call? = none) : Mailed desk desk.close := by
  obtain ⟨scene, ⟨id, ⟨transport, count, refusal⟩, renderer, leases, source, state, visible, tally⟩⟩ := desk
  have howner : ∀ stage : Backstage, stage.drain.renderer.owner = stage.renderer.owner := by
    intro stage
    show stage.renderer.letGo.owner = stage.renderer.owner
    unfold Renderer.letGo
    split <;> rfl
  cases transport with
  | absent => exact ⟨rfl, rfl, rfl⟩
  | crashed => exact ⟨rfl, howner _, rfl⟩
  | running call queue =>
    cases hquiet
    refine ⟨rfl, ?_, ?_⟩
    · show (Mailbox.disposeAll queue (Backstage.mk scene renderer leases)).drain.renderer.owner = _
      rw [howner, Backstage.disposeAll_eq]
      rfl
    · show (Mailbox.disposeAll queue (Backstage.mk scene renderer leases)).drain.scene = _
      rw [Backstage.disposeAll_eq]
      rfl

/-- After a close there is no call in progress. -/
theorem call_close (desk : Desk) : desk.close.call? = none := by
  have habsent : desk.close.presenter.mailbox.transport = .absent := Mailbox.transport_close _ _
  unfold call?
  rw [habsent]
  rfl

/-- After a close no frame is on its way. -/
theorem pending_close (desk : Desk) : desk.close.pending = [] := by
  have habsent : desk.close.presenter.mailbox.transport = .absent := Mailbox.transport_close _ _
  unfold pending
  rw [call_close, habsent]
  rfl

/-- A send leaves the scene alone. What is accepted waits behind the rest; after a refusal, by the consumer or by the
host, nothing is on its way. -/
theorem send_spec (envelope : Envelope) (desk : Desk) :
    Mailed desk (desk.send envelope).2 ∧
    ((desk.send envelope).1 = true ∧ (desk.send envelope).2.call? = desk.call? ∧
        (desk.send envelope).2.pending = desk.pending ++ [envelope].filter Envelope.isFrame ∨
      (desk.send envelope).1 = false ∧ (desk.send envelope).2.call? = none ∧
        (desk.send envelope).2.pending = []) := by
  obtain ⟨scene, ⟨id, ⟨transport, count, refusal⟩, renderer, leases, source, state, visible, tally⟩⟩ := desk
  cases transport with
  | absent =>
    cases refusal with
    | none => exact ⟨⟨rfl, rfl, rfl⟩, .inl ⟨rfl, rfl, rfl⟩⟩
    | some cause => exact ⟨⟨rfl, rfl, rfl⟩, .inr ⟨rfl, rfl, rfl⟩⟩
  | running call queue =>
    refine ⟨⟨rfl, rfl, rfl⟩, .inl ⟨rfl, rfl, ?_⟩⟩
    show (call.map Call.pending).getD [] ++ (queue ++ [envelope]).filter Envelope.isFrame =
      (call.map Call.pending).getD [] ++ queue.filter Envelope.isFrame ++ _
    rw [List.filter_append, List.append_assoc]
  | crashed =>
    refine ⟨⟨rfl, ?_, rfl⟩, .inr ⟨rfl, rfl, rfl⟩⟩
    show renderer.letGo.owner = renderer.owner
    unfold Renderer.letGo
    split <;> rfl

variable {desk : Desk} {link : Link}

/-- The link of the presenter's binding. -/
theorem link_of_binding {binding : Binding} (hbinding : desk.binding? = some binding) :
    desk.link? = some binding.link := congrArg (Option.map Binding.link) hbinding

/-- The link of a binding with a surface. -/
theorem link_of_bound {binding : Binding} {surface : Nat} (hbinding : desk.binding? = some binding)
    (hsurface : binding.surface = some surface) : desk.link? = some ⟨binding.epoch, some surface⟩ := by
  rw [link_of_binding hbinding, Binding.link, hsurface]

/-- A bond is a link with a surface. -/
theorem link_of_bond {bond : Bond} (hbond : desk.bond? = some bond) :
    desk.link? = some ⟨bond.epoch, some bond.surface⟩ := by
  obtain ⟨⟨epoch, surface⟩, hlink, hsome⟩ := Option.bind_eq_some_iff.1 hbond
  obtain ⟨bound, hbound, rfl⟩ := Option.map_eq_some_iff.1 hsome
  have hsame : surface = some bound := hbound
  rw [hlink, hsame]

/-- A link with a surface is a bond. -/
theorem bond_of_link {epoch surface : Nat} (hlink : desk.link? = some ⟨epoch, some surface⟩) :
    desk.bond? = some ⟨epoch, surface⟩ := by
  unfold bond?
  rw [hlink]
  rfl

/-- A link without a surface is none. -/
theorem bond_of_link_none {epoch : Nat} (hlink : desk.link? = some ⟨epoch, none⟩) : desk.bond? = none := by
  unfold bond?
  rw [hlink]
  rfl

/-- Where the link stays, the bond does. -/
theorem bond_congr {after : Desk} (hlink : after.link? = desk.link?) : after.bond? = desk.bond? := by
  unfold bond?
  rw [hlink]

/-- The end of a binding is an epoch without a surface. -/
theorem link_unbind (hlink : desk.link? = some link) :
    desk.unbind.link? = some ⟨link.epoch + 1, none⟩ := by
  have hcleared : (desk.changeBinding Binding.cleared).link? = some ⟨link.epoch + 1, none⟩ := by
    obtain ⟨binding, hbinding, rfl⟩ := Option.map_eq_some_iff.1 hlink
    show ((desk.scene.changeBinding desk.owner Binding.cleared).binding? desk.owner).map _ = _
    rw [Scene.binding_changeBinding, hbinding]
    rfl
  unfold unbind
  dsimp only
  split
  · exact hcleared
  · exact hcleared

/-- The end of a binding gives nothing to any surface. -/
theorem given_unbind (desk : Desk) : desk.unbind.scene.given = desk.scene.given := by
  have hsent : ∀ id (surface : Surface), (surface.disconnect id).given = surface.given := by
    intro id surface
    refine (Surface.given_record _ _).trans ?_
    exact List.append_nil _
  unfold unbind
  dsimp only
  split
  · exact Scene.view_changeSurface_same (hsent _) _ _
  · rfl

/-- Another surface is as much there after a change of one as before. -/
theorem isSome_changeSurface (place surface : Nat) (change : Surface → Surface) (scene : Scene) :
    (scene.changeSurface surface change).surfaces[place]?.isSome = scene.surfaces[place]?.isSome := by
  simp only [Scene.changeSurface, List.getElem?_modify]
  cases scene.surfaces[place]? <;> rfl

/-- The epoch for which a presenter listens is that of its link. -/
theorem epoch_listened (hlink : desk.link? = some link) :
    (desk.binding?.map Binding.epoch).getD 0 = link.epoch := by
  obtain ⟨binding, hbinding, rfl⟩ := Option.map_eq_some_iff.1 hlink
  rw [show desk.binding? = some binding from hbinding]
  rfl

/-- Listening to a bound surface is heard of unless the surface is destroyed at once. -/
theorem link_listen {epoch surface : Nat} (hlink : desk.link? = some ⟨epoch, some surface⟩)
    (hfound : desk.scene.surfaces[surface]?.isSome = true) :
    (desk.listen surface).scene.given = desk.scene.given ∧
      ∃ after, (desk.listen surface).link? = some after ∧
        Link.Loses ⟨epoch, some surface⟩ after ∧
        (after = ⟨epoch, some surface⟩ →
          (desk.listen surface).scene.Hears desk.owner epoch surface) := by
  obtain ⟨hgiven, after, hafter, hloses, hhears⟩ := Scene.connect_spec hfound hlink
  have hkept : ∀ listener (binding : Binding), { binding with listener }.link = binding.link :=
    fun _ _ => rfl
  unfold listen
  rw [epoch_listened hlink]
  refine ⟨hgiven, after, ?_, hloses, hhears⟩
  rw [← hafter]
  exact Scene.link_changeBinding_same (hkept _) desk.owner desk.owner _

/-- The end of a binding leaves every surface where it is. -/
theorem isSome_unbind (surface : Nat) (desk : Desk) :
    desk.unbind.scene.surfaces[surface]?.isSome = desk.scene.surfaces[surface]?.isSome := by
  unfold unbind
  dsimp only
  split
  · exact isSome_changeSurface _ _ _ _
  · rfl

/-- A hint changes no link, gives nothing and leaves every surface where it is. -/
theorem hint_spec (surface : Nat) (zeroCopy : Bool) (desk : Desk) :
    (desk.hint surface zeroCopy).link? = desk.link? ∧
      (desk.hint surface zeroCopy).scene.given = desk.scene.given ∧
      (desk.hint surface zeroCopy).scene.surfaces[surface]?.isSome =
        desk.scene.surfaces[surface]?.isSome := by
  cases zeroCopy with
  | false => exact ⟨rfl, rfl, rfl⟩
  | true => exact ⟨rfl, Scene.given_record_quiet rfl _ _, isSome_changeSurface _ _ _ _⟩

/-- Before anybody listens, a surface is bound under the next epoch. -/
theorem link_boundTo (surface : Nat) (zeroCopy : Bool) (hlink : desk.link? = some link) :
    ((desk.hint surface zeroCopy).changeBinding (.boundTo surface zeroCopy)).link? =
      some ⟨link.epoch + 1, some surface⟩ := by
  have hinted := (hint_spec surface zeroCopy desk).1
  rw [hlink] at hinted
  generalize desk.hint surface zeroCopy = ready at hinted
  obtain ⟨binding, hbinding, rfl⟩ := Option.map_eq_some_iff.1 hinted
  show ((ready.scene.changeBinding ready.owner _).binding? ready.owner).map _ = _
  rw [Scene.binding_changeBinding, hbinding]
  rfl

/-- Attaching a surface begins the next epoch. It lasts, with the surface bound and somebody listening, unless the
surface is destroyed at once. -/
theorem link_attach {surface : Nat} (zeroCopy : Bool) (hlink : desk.link? = some link)
    (hfound : desk.scene.surfaces[surface]?.isSome = true) :
    (desk.attach surface zeroCopy).scene.given = desk.scene.given ∧
      ∃ after, (desk.attach surface zeroCopy).link? = some after ∧
        Link.Loses ⟨link.epoch + 1, some surface⟩ after ∧
        (after = ⟨link.epoch + 1, some surface⟩ →
          (desk.attach surface zeroCopy).scene.Hears desk.owner (link.epoch + 1) surface) := by
  obtain ⟨_, hgiven, hthere⟩ := hint_spec surface zeroCopy desk
  have hbound := link_boundTo surface zeroCopy hlink
  rw [hfound] at hthere
  have howner : (desk.hint surface zeroCopy).owner = desk.owner := by
    simp [owner]
  unfold attach
  generalize desk.hint surface zeroCopy = ready at hgiven hthere howner hbound
  obtain ⟨hsame, after, hafter, hloses, hhears⟩ := link_listen hbound hthere
  refine ⟨hsame.trans hgiven, after, hafter, hloses, ?_⟩
  rw [← howner]
  exact hhears

/-- Nothing that happens binds a surface, but a binding may end. -/
theorem link_happen (incident : Incident) (hlink : desk.link? = some link) :
    ∃ after, (desk.happen incident).link? = some after ∧ link.Loses after := by
  cases incident with
  | advance => exact ⟨link, (stepped desk).link.trans hlink, .inl rfl⟩
  | resize surface size =>
    exact ⟨link, (Scene.link_congr (Scene.bindings_resize _ _ _) _).trans hlink, .inl rfl⟩
  | destroy surface =>
    obtain ⟨after, hafter, hloses, _⟩ := Scene.link_destroy surface hlink
    exact ⟨after, hafter, hloses⟩
  | arm fault => exact ⟨link, hlink, .inl rfl⟩
  | bar refusal => exact ⟨link, hlink, .inl rfl⟩

theorem link_elapse (incidents : List Incident) (hlink : desk.link? = some link) :
    ∃ after, (desk.elapse incidents).link? = some after ∧ link.Loses after := by
  induction incidents generalizing desk link with
  | nil => exact ⟨link, hlink, .inl rfl⟩
  | cons incident incidents ih =>
    obtain ⟨next, hnext, hfirst⟩ := link_happen incident hlink
    obtain ⟨after, hafter, hsecond⟩ := ih hnext
    exact ⟨after, hafter, hfirst.trans hsecond⟩

/-- A request for a visibility goes by mail, and the link stays. -/
theorem link_setVisible (visible : Bool) (desk : Desk) : (desk.setVisible visible).link? = desk.link? := by
  unfold setVisible
  dsimp only
  split
  · exact (send_spec _ _).1.link
  · rfl

/-- So does an announcement. -/
theorem link_announce (desk : Desk) : desk.announce.link? = desk.link? := by
  unfold announce
  split
  · rfl
  · exact (send_spec _ _).1.link

end Desk

end FramePath

import FramePath.Proofs.Desk.Steps

/-!
# After a teardown

A teardown lets the call in progress come to its end and throws the queue away, each frame counted as discarded
(`teardown_discards`). After it the presenter is `Silent`: nothing is bound and no consumer is there. Only a
bind ends the silence (`Silent.run`), and until then the consumer has no step to take. Whether such a presenter
ends its binding once more makes no difference to the surfaces (`Alike.elapse`).
-/

namespace FramePath

/-- The transport when the call in progress is over. -/
def Transport.resting {κ : Type} : Transport κ → Transport κ
  | running _ queue => running none queue
  | transport => transport

namespace Scene

/-- Two scenes that differ in nothing but the binding of one presenter, which is bound to no surface in either. -/
structure Alike (owner : Nat) (one other : Scene) : Prop where
  surfaces : one.surfaces = other.surfaces
  others : ∀ place, place ≠ owner → one.binding? place = other.binding? place
  unbound : one.boundSurface? owner = none
  unboundToo : other.boundSurface? owner = none

/-- Who is bound to no surface has nothing placed. -/
theorem tellResized_unbound {scene : Scene} {listener : Listener} (size : Size)
    (hnone : scene.boundSurface? listener.owner = none) : scene.tellResized size listener = scene := by
  unfold tellResized
  split
  · rfl
  · next binding hbinding =>
    have hsurface : binding.surface = none := by simpa [boundSurface?, hbinding] using hnone
    rw [hsurface]
    simp

/-- What was bound to no surface is not after a change that takes none. -/
theorem boundSurface_changeBinding_none {owner place : Nat} {scene : Scene} {change : Binding → Binding}
    (hchange : ∀ binding, binding.surface = none → (change binding).surface = none)
    (hnone : scene.boundSurface? owner = none) : (scene.changeBinding place change).boundSurface? owner = none := by
  unfold boundSurface? at hnone ⊢
  by_cases hplace : place = owner
  · rw [hplace, binding_changeBinding]
    cases hbinding : scene.binding? owner with
    | none => rfl
    | some binding =>
      rw [hbinding] at hnone
      exact hchange binding hnone
  · rw [binding_changeBinding_ne hplace]
    exact hnone

namespace Alike

variable {owner : Nat} {one other : Scene}

/-- A change of one binding that takes no surface. -/
theorem changeBinding (halike : Alike owner one other) (place : Nat) {change : Binding → Binding}
    (hchange : ∀ binding, binding.surface = none → (change binding).surface = none) :
    Alike owner (one.changeBinding place change) (other.changeBinding place change) where
  surfaces := halike.surfaces
  others asked hasked := by
    by_cases hplace : place = asked
    · rw [hplace, binding_changeBinding, binding_changeBinding, halike.others asked hasked]
    · rw [binding_changeBinding_ne hplace, binding_changeBinding_ne hplace, halike.others asked hasked]
  unbound := boundSurface_changeBinding_none hchange halike.unbound
  unboundToo := boundSurface_changeBinding_none hchange halike.unboundToo

/-- A change of one surface. -/
theorem changeSurface (halike : Alike owner one other) (surface : Nat) (change : Surface → Surface) :
    Alike owner (one.changeSurface surface change) (other.changeSurface surface change) where
  surfaces := congrArg (·.modify surface change) halike.surfaces
  others := halike.others
  unbound := halike.unbound
  unboundToo := halike.unboundToo

/-- Every listener is told the same of a new size. -/
theorem tellResized (halike : Alike owner one other) (size : Size) (listener : Listener) :
    Alike owner (one.tellResized size listener) (other.tellResized size listener) := by
  by_cases howner : listener.owner = owner
  · rw [tellResized_unbound size (howner ▸ halike.unbound), tellResized_unbound size (howner ▸ halike.unboundToo)]
    exact halike
  · have hbuffer : one.bufferSize? = other.bufferSize? := by
      funext surface
      unfold bufferSize?
      rw [halike.surfaces]
    unfold Scene.tellResized
    rw [halike.others _ howner, hbuffer]
    split
    · exact halike
    · split
      · exact halike
      · split
        · exact halike
        · exact halike.changeSurface _ _

/-- What is told to every listener in turn leaves the scenes alike. -/
theorem foldl {tell : Scene → Listener → Scene}
    (htell : ∀ one other listener, Alike owner one other → Alike owner (tell one listener) (tell other listener))
    (told : List Listener) (halike : Alike owner one other) :
    Alike owner (told.foldl tell one) (told.foldl tell other) := by
  induction told generalizing one other with
  | nil => exact halike
  | cons listener told ih => exact ih (htell one other listener halike)

/-- The same listeners are told. -/
theorem listeners (halike : Alike owner one other) (surface : Nat) :
    one.listeners surface = other.listeners surface := by
  unfold Scene.listeners
  rw [halike.surfaces]

/-- A change of size. -/
theorem resize (halike : Alike owner one other) (surface : Nat) (size : Size) :
    Alike owner (one.resize surface size) (other.resize surface size) := by
  unfold Scene.resize
  rw [halike.listeners]
  exact foldl (fun _ _ listener halike => halike.tellResized size listener) _ halike

/-- A destruction. -/
theorem destroy (halike : Alike owner one other) (surface : Nat) :
    Alike owner (one.destroy surface) (other.destroy surface) := by
  unfold Scene.destroy
  rw [halike.listeners]
  refine foldl (fun one other listener halike => ?_) _ (halike.changeSurface surface _)
  refine halike.changeBinding listener.owner fun binding hnone => ?_
  split
  · rfl
  · exact hnone

end Alike

end Scene

namespace Desk

variable {desk : Desk}

/-- What a desk comes to when the call in progress has taken its last step. -/
structure Settled (desk settled : Desk) : Prop where
  steps : ∃ steps, settled = desk.run (List.replicate steps .advance)
  quiet : settled.call? = none
  close : settled.close = desk.close
  link : settled.link? = desk.link?
  discarded : settled.presenter.mailbox.tally.discarded = desk.presenter.mailbox.tally.discarded
  transport : settled.presenter.mailbox.transport = desk.presenter.mailbox.transport.resting ∨
    settled.presenter.mailbox.transport = .crashed

/-- Every call in progress takes its last step. -/
theorem exists_settled (desk : Desk) : ∃ settled, Settled desk settled := by
  -- The induction is on the work ahead, which every step of the call makes less.
  generalize hwork : desk.presenter.mailbox.work Backstage = work
  induction work using Nat.strongRecOn generalizing desk with
  | _ work ih =>
    by_cases hcall : desk.call?.isSome = true
    · have hbusy : desk.presenter.mailbox.isIdle = false := by
        obtain ⟨call, hcall⟩ := Option.isSome_iff_exists.1 hcall
        simp [Mailbox.isIdle, show desk.presenter.mailbox.transport.call? = _ from hcall]
      have hless := Mailbox.work_advance_lt desk.backstage hbusy
      obtain ⟨settled, ⟨steps, hsteps⟩, hquiet, hclose, hlink, hdiscarded, htransport⟩ :=
        ih _ (hwork ▸ hless) desk.advance rfl
      obtain ⟨call, hsome⟩ := Option.isSome_iff_exists.1 hcall
      obtain ⟨hkept, hqueue⟩ := Mailbox.advance_queue desk.backstage hsome
      refine ⟨settled, ⟨steps + 1, hsteps⟩, hquiet, hclose.trans (close_advance hcall),
        hlink.trans (stepped desk).link, hdiscarded.trans hkept, ?_⟩
      rcases hqueue with ⟨next, hnext⟩ | hcrashed
      · have hsame : desk.advance.presenter.mailbox.transport.resting =
            desk.presenter.mailbox.transport.resting := by
          rw [show desk.advance.presenter.mailbox.transport = _ from hnext]
          unfold call? at hsome
          cases htransport : desk.presenter.mailbox.transport with
          | absent => rw [htransport] at hsome; cases hsome
          | running => rfl
          | crashed => rw [htransport] at hsome; cases hsome
        rwa [hsame] at htransport
      · rw [show desk.advance.presenter.mailbox.transport = _ from hcrashed] at htransport
        exact .inr (htransport.elim id id)
    · have hnone : desk.call? = none := by simpa using hcall
      refine ⟨desk, ⟨0, rfl⟩, hnone, rfl, rfl, rfl, .inl ?_⟩
      unfold call? at hnone
      cases htransport : desk.presenter.mailbox.transport with
      | absent => rfl
      | running call queue => rw [htransport] at hnone; cases hnone; rfl
      | crashed => rfl

/-- A teardown lets the call in progress come to its end. Then it makes no call on any surface; what waits in the
queue is counted as discarded, unless it is lost when the call fails. -/
theorem teardown_discards {amid : List Incident} {call : Option Renderer.Call} {queue : List Envelope}
    (hrunning : (desk.unbind.elapse amid).presenter.mailbox.transport = .running call queue) :
    ∃ steps, ∃ settled, settled = (desk.unbind.elapse amid).run (List.replicate steps .advance) ∧
      (desk.teardownAmid amid).scene = settled.scene ∧
      ((desk.teardownAmid amid).presenter.mailbox.tally.discarded =
          (desk.unbind.elapse amid).presenter.mailbox.tally.discarded + queue.countP Envelope.isFrame ∨
        settled.presenter.mailbox.transport = .crashed) := by
  unfold teardownAmid
  generalize desk.unbind.elapse amid = before at hrunning ⊢
  obtain ⟨settled, ⟨steps, hsteps⟩, hquiet, hclose, _, hdiscarded, htransport⟩ := exists_settled before
  refine ⟨steps, settled, hsteps, ?_, ?_⟩
  · rw [← hclose]
    exact (mailed_close hquiet).scene
  · -- The close of the settled desk finds no call in progress, and the whole queue.
    rcases htransport with hresting | hcrashed
    · refine .inl ?_
      rw [← hclose, ← hdiscarded]
      rw [hrunning] at hresting
      show (settled.presenter.mailbox.close settled.backstage).1.tally.discarded = _
      unfold Mailbox.close
      rw [hresting]
      rfl
    · exact .inr hcrashed

/-- Nothing is bound and no consumer is there. -/
structure Silent (desk : Desk) : Prop where
  unbound : ∃ epoch, desk.link? = some ⟨epoch, none⟩
  absent : desk.presenter.mailbox.transport = .absent

/-- After a teardown the presenter is silent. -/
theorem silent_teardown {link : Link} (amid : List Incident) (hlink : desk.link? = some link) :
    (desk.teardownAmid amid).Silent := by
  refine ⟨?_, transport_teardown amid desk⟩
  unfold teardownAmid
  obtain ⟨after, hafter, hloses⟩ := link_elapse amid (link_unbind hlink)
  obtain ⟨settled, _, hquiet, hclose, hsame, _⟩ := exists_settled (desk.unbind.elapse amid)
  refine ⟨after.epoch, ?_⟩
  rw [← hclose, (mailed_close hquiet).link, hsame, hafter, hloses.eq_of_none]

/-- A silent presenter's consumer has no step to take. -/
theorem Silent.advance_eq (hsilent : desk.Silent) : desk.advance = desk := by
  obtain ⟨scene, ⟨id, ⟨transport, count, refusal⟩, renderer, leases, source, state, visible, tally⟩⟩ := desk
  have habsent : transport = .absent := hsilent.absent
  subst habsent
  rfl

/-- A silent presenter is not bound. -/
theorem Silent.isBound_eq (hsilent : desk.Silent) : desk.isBound = false := by
  obtain ⟨epoch, hlink⟩ := hsilent.unbound
  obtain ⟨binding, hbinding, hsame⟩ := Option.map_eq_some_iff.1 hlink
  have hnone : binding.surface = none := congrArg Link.surface hsame
  unfold isBound Scene.boundSurface?
  rw [hbinding]
  simp [hnone]

/-- A silent presenter drops every frame, and only counts it. -/
theorem Silent.submit (hsilent : desk.Silent) (frame : SharedFrame) :
    (desk.submit frame).2.Silent := by
  rcases desk.submit_cases frame with
    ⟨_, hdropped⟩ | ⟨_, _, hdropped⟩ | ⟨_, _, _, hdropped⟩ |
    ⟨_, _, binding, surface, hbinding, hsurface, _⟩
  · rw [hdropped]
    exact ⟨hsilent.unbound, hsilent.absent⟩
  · rw [hdropped]
    exact ⟨hsilent.unbound, hsilent.absent⟩
  · rw [hdropped]
    exact ⟨hsilent.unbound, hsilent.absent⟩
  · have hnone := hsilent.isBound_eq
    unfold isBound Scene.boundSurface? at hnone
    rw [show desk.scene.binding? desk.owner = some binding from hbinding] at hnone
    simp [hsurface] at hnone

/-- Nothing that happens ends the silence. -/
theorem Silent.happen (hsilent : desk.Silent) (incident : Incident) : (desk.happen incident).Silent := by
  obtain ⟨epoch, hlink⟩ := hsilent.unbound
  obtain ⟨after, hafter, hloses⟩ := link_happen incident hlink
  refine ⟨⟨after.epoch, hafter.trans (congrArg some hloses.eq_of_none)⟩, ?_⟩
  cases incident with
  | advance =>
    show desk.advance.presenter.mailbox.transport = .absent
    rw [hsilent.advance_eq]
    exact hsilent.absent
  | _ => exact hsilent.absent

/-- Ending the binding of a silent presenter changes nothing but that binding. -/
theorem Silent.unbind_eq (hsilent : desk.Silent) : desk.unbind = desk.changeBinding Binding.cleared := by
  have hnone := hsilent.isBound_eq
  unfold unbind
  split
  · next surface listener hbinding =>
    unfold isBound Scene.boundSurface? at hnone
    rw [show desk.scene.binding? desk.owner = _ from hbinding] at hnone
    cases hnone
  · rfl

/-- Two silent presenters that differ in nothing but their binding. -/
structure Alike (one other : Desk) : Prop where
  silent : one.Silent
  silentToo : other.Silent
  presenter : one.presenter = other.presenter
  scene : Scene.Alike other.owner one.scene other.scene

/-- Whatever happens to the one happens to the other. -/
theorem Alike.happen {one other : Desk} (halike : Alike one other) (incident : Incident) :
    Alike (one.happen incident) (other.happen incident) := by
  have hsilent := halike.silent.happen incident
  have hsilentToo := halike.silentToo.happen incident
  cases incident with
  | advance =>
    have hone : one.happen .advance = one := halike.silent.advance_eq
    have hother : other.happen .advance = other := halike.silentToo.advance_eq
    rwa [hone, hother]
  | resize surface size => exact ⟨hsilent, hsilentToo, halike.presenter, halike.scene.resize surface size⟩
  | destroy surface => exact ⟨hsilent, hsilentToo, halike.presenter, halike.scene.destroy surface⟩
  | arm fault =>
    exact ⟨hsilent, hsilentToo, halike.presenter,
      halike.scene.surfaces, halike.scene.others, halike.scene.unbound, halike.scene.unboundToo⟩
  | bar refusal => exact ⟨hsilent, hsilentToo, congrArg (·.withRefusal refusal) halike.presenter, halike.scene⟩

/-- So it is with all that happens. -/
theorem Alike.elapse {one other : Desk} (halike : Alike one other) (incidents : List Incident) :
    Alike (one.elapse incidents) (other.elapse incidents) := by
  induction incidents generalizing one other with
  | nil => exact halike
  | cons incident incidents ih => exact ih (halike.happen incident)

/-- Only a bind ends the silence. -/
theorem Silent.act {act : Act} (hsilent : desk.Silent)
    (hbind : ∀ surface unbound bound, act ≠ .bind surface unbound bound) : (desk.act act).Silent := by
  obtain ⟨epoch, hlink⟩ := hsilent.unbound
  have habsent := hsilent.absent
  cases act with
  | bind surface unbound bound => exact absurd rfl (hbind surface unbound bound)
  | unbind =>
    refine ⟨⟨epoch + 1, link_unbind hlink⟩, ?_⟩
    show desk.unbind.presenter.mailbox.transport = .absent
    rw [presenter_unbind]
    exact habsent
  | setVisible visible =>
    show (desk.setVisible visible).Silent
    unfold setVisible
    dsimp only
    split
    · next hbound => cases hsilent.isBound_eq.symm.trans hbound
    · exact ⟨⟨epoch, hlink⟩, habsent⟩
  | setFit fit =>
    have hkept : ∀ binding : Binding, { binding with fit }.link = binding.link := fun _ => rfl
    exact ⟨⟨epoch, (Scene.link_changeBinding_same hkept _ _ _).trans hlink⟩, habsent⟩
  | setState state => exact ⟨⟨epoch, hlink⟩, habsent⟩
  | setActiveSource source => exact ⟨⟨epoch, hlink⟩, habsent⟩
  | submit frame => exact hsilent.submit frame
  | teardown amid => exact silent_teardown amid hlink
  | drop amid => exact silent_teardown amid hlink
  | advance => exact hsilent.happen .advance
  | resize surface size => exact hsilent.happen (.resize surface size)
  | destroy surface => exact hsilent.happen (.destroy surface)
  | arm fault => exact hsilent.happen (.arm fault)
  | bar refusal => exact hsilent.happen (.bar refusal)

/-- A run without a bind keeps the silence. -/
theorem Silent.run {acts : List Act} (hsilent : desk.Silent)
    (hbind : ∀ surface unbound bound, Act.bind surface unbound bound ∉ acts) : (desk.run acts).Silent := by
  induction acts generalizing desk with
  | nil => exact hsilent
  | cons act acts ih =>
    refine ih (hsilent.act fun surface unbound bound hact => ?_) fun surface unbound bound hmem => ?_
    · exact hbind surface unbound bound (hact ▸ List.mem_cons_self ..)
    · exact hbind surface unbound bound (List.mem_cons_of_mem _ hmem)

end Desk

end FramePath

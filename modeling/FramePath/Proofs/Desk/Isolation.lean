import FramePath.Proofs.Desk.Record
import FramePath.Proofs.Desk.Teardown

/-!
# Bindings are isolated from one another

Every frame that a surface is given was accepted for the very binding it is shown for. A binding that has
ended comes to no further showing, but for that of a frame which was already taken up; and a presenter is
silent after its teardown until it is bound again. `binding_isolation` puts this together for all runs.
-/

namespace FramePath

open Renderer (Call Job)

namespace Desk

variable {desk : Desk} {link : Link} {epoch surface : Nat}

/-- The end of a binding ends its epoch. -/
theorem hasEnded_unbind (hbound : desk.link? = some ⟨epoch, some surface⟩) :
    desk.unbind.HasEnded epoch :=
  ⟨_, link_unbind hbound, .inl (Nat.lt_succ_self _)⟩

/-- A new binding ends the epoch of the one before, whatever happens meanwhile. -/
theorem hasEnded_bind (hbound : desk.link? = some ⟨epoch, some surface⟩) {unbound bound : List Incident}
    {next : Nat} (haccepted : (desk.bindAmid unbound bound next).1 = .ok ()) :
    (desk.bindAmid unbound bound next).2.HasEnded epoch := by
  rcases desk.bind_cases unbound bound next with hrefused | ⟨zeroCopy, ⟨target, htarget, _⟩, hattached⟩
  · rw [hrefused] at haccepted
    cases haccepted
  · have hfound : (desk.unbind.elapse unbound).scene.surfaces[next]?.isSome = true := by
      rw [isSome_elapse, isSome_unbind, htarget]
      rfl
    obtain ⟨idle, hidle, hfirst⟩ := link_elapse unbound (link_unbind hbound)
    obtain ⟨_, begun, hbegun, hsecond, _⟩ := link_attach zeroCopy hidle hfound
    obtain ⟨after, hafter, hthird⟩ := link_elapse bound hbegun
    have hlater : epoch < after.epoch := by
      have hidle := hfirst.precedes.epoch_le
      have hbegun := (hsecond.trans hthird).precedes.epoch_le
      dsimp only at hidle hbegun
      omega
    rw [hattached]
    exact ⟨after, (link_announce _).trans hafter, .inl hlater⟩

/-- The destruction of a bound surface to which somebody listens ends the epoch of its binding. -/
theorem hasEnded_destroy (hbound : desk.link? = some ⟨epoch, some surface⟩)
    (hhears : desk.scene.Hears desk.owner epoch surface) :
    (desk.changeScene (.destroy surface)).HasEnded epoch := by
  obtain ⟨after, hafter, _, hends⟩ := Scene.link_destroy surface hbound
  exact ⟨after, hafter, hends hhears⟩

/-- A frame whose handling starts after its binding has ended touches no surface and counts as dropped
unbound. -/
theorem advance_stale {frame : SharedFrame} (hcall : desk.call? = some (.taken (.frame frame epoch)))
    (hended : desk.HasEnded epoch) :
    desk.advance.scene = desk.scene ∧ desk.advance.call? = none ∧
      desk.advance.presenter.report.droppedUnbound = desk.presenter.report.droppedUnbound + 1 := by
  -- The binding in force either is a later one or has no surface.
  have hstale : ¬ desk.backstage.IsCurrent epoch := by
    rintro ⟨binding, surface, hbinding, hsurface, rfl⟩
    obtain ⟨link, hlink, hover⟩ := hended
    cases hlink.symm.trans (link_of_binding hbinding)
    rcases hover with hless | ⟨_, hnone⟩
    · exact absurd hless (Nat.lt_irrefl _)
    · cases hsurface.symm.trans hnone
  obtain ⟨scene, ⟨id, ⟨transport, count, refusal⟩, renderer, leases, source, state, visible, tally⟩⟩ := desk
  cases transport with
  | absent => cases hcall
  | crashed => cases hcall
  | running call queue =>
    cases hcall
    have hgoing : Recipient.resume (Call.taken (.frame frame epoch)) (Backstage.mk scene renderer leases) =
        (.returned, _) := Backstage.resume_stale hstale frame
    unfold advance
    simp only [Mailbox.advance, backstage, hgoing]
    exact ⟨rfl, rfl, rfl⟩

end Desk

namespace Watch

variable {given : List (List SharedFrame)} {id : Nat} {watch : Watch}

/-- Showings whose bindings are told apart by their epochs are told apart by their envelopes. -/
theorem eq_of_envelopes {bonds : List Bond} {first second : List Showing}
    (hordered : bonds.Pairwise fun earlier later => earlier.epoch < later.epoch)
    (hfirst : ∀ showing ∈ first, showing.bond ∈ bonds)
    (hsecond : ∀ showing ∈ second, showing.bond ∈ bonds)
    (hsame : first.map Showing.envelope = second.map Showing.envelope) : first = second := by
  induction first generalizing second with
  | nil => exact (List.map_eq_nil_iff.1 hsame.symm).symm
  | cons showing first ih =>
    cases second with
    | nil => cases hsame
    | cons other second =>
      obtain ⟨hhead, htail⟩ := List.cons.inj hsame
      obtain ⟨hbond, hbonds⟩ := List.forall_mem_cons.1 hfirst
      obtain ⟨hbond', hbonds'⟩ := List.forall_mem_cons.1 hsecond
      obtain ⟨frame, bond⟩ := showing
      obtain ⟨frame', bond'⟩ := other
      obtain ⟨rfl, hepoch⟩ := Envelope.frame.inj hhead
      have hsameBond : bond = bond' := eq_of_epoch hordered hbond hbond' hepoch
      rw [ih hbonds hbonds' htail, hsameBond]

/-- Every showing is that of an accepted frame of its own, in order, with its binding. -/
theorem Isolated.showings (hisolated : Isolated given id watch) :
    watch.showings.Sublist (watch.accepted.map Accepted.showing) := by
  have horder : (watch.showings.map Showing.envelope).Sublist
      ((watch.accepted.map Accepted.showing).map Showing.envelope) := by
    rw [List.map_map]
    exact (List.sublist_append_left _ _).trans hisolated.traced.order
  -- The order is one of envelopes, which name an epoch; epochs tell the bindings apart.
  obtain ⟨chosen, hchosen, hsame⟩ := List.sublist_map_iff.1 horder
  have hbonds : ∀ showing ∈ chosen, showing.bond ∈ watch.bonds := by
    intro showing hshowing
    obtain ⟨accepted, haccepted, rfl⟩ := List.mem_map.1 (hchosen.subset hshowing)
    exact (hisolated.traced.accepted accepted haccepted).2.2
  rw [eq_of_envelopes hisolated.rooted.ordered hisolated.traced.shown hbonds hsame]
  exact hchosen

/-- An epoch is over, and since a watch it has come to no showing but the one that the call in progress then
had ahead. -/
structure Over (epoch : Nat) (since watch : Watch) : Prop where
  ended : watch.desk.HasEnded epoch
  shown : (Desk.ofEpoch epoch (watch.showings ++ watch.desk.due)).Sublist
    (Desk.ofEpoch epoch (since.showings ++ since.desk.due))

variable {epoch : Nat} {since : Watch} {desk : Desk}

/-- Where the call in progress stays or goes, and the link stays or a later epoch begins, an epoch that is over
stays over. -/
theorem Over.of_still (hover : Over epoch since watch) {bonds : List Bond} {accepted : List Accepted}
    (hlink : ∀ link, watch.desk.link? = some link →
      ∃ after, desk.link? = some after ∧ link.Precedes after)
    (hcall : desk.call? = watch.desk.call? ∨ desk.call? = none) :
    Over epoch since { watch with desk, bonds, accepted } := by
  obtain ⟨⟨link, hsome, hended⟩, hshown⟩ := hover
  obtain ⟨after, hafter, hprecedes⟩ := hlink link hsome
  refine ⟨⟨after, hafter, hended.later hprecedes⟩, ?_⟩
  have hfewer : (watch.showings ++ desk.due).Sublist (watch.showings ++ watch.desk.due) := by
    refine List.Sublist.append_left ?_ _
    rcases hcall with hsame | hnone
    · have hdue : desk.due = watch.desk.due := by
        unfold Desk.due
        rw [hsame]
      exact hdue ▸ List.Sublist.refl _
    · unfold Desk.due
      rw [hnone]
      exact List.nil_sublist _
  exact (hfewer.filter _).trans hshown

/-- An epoch that is over stays over with every move. -/
theorem Over.move {other : Watch} (hmoved : Moved watch other) (hover : Over epoch since watch) :
    Over epoch since other := by
  have hcall : ∀ {desk : Desk}, desk.presenter = watch.desk.presenter →
      desk.call? = watch.desk.call? := by
    intro desk hpresenter
    unfold Desk.call?
    rw [hpresenter]
  cases hmoved with
  | advanced =>
    obtain ⟨⟨link, hlink, hended⟩, hshown⟩ := hover
    have hstep := Desk.stepped watch.desk
    refine ⟨⟨link, hstep.link.trans hlink, hended⟩, ?_⟩
    -- What the step gives and has ahead was ahead before it.
    have hfewer := hstep.ofEpoch ⟨link, hlink, hended⟩
    show (Desk.ofEpoch epoch (watch.showings ++ watch.desk.advance.given ++
      watch.desk.advance.due)).Sublist _
    rw [List.append_assoc, Desk.ofEpoch_append]
    rw [Desk.ofEpoch_append] at hshown
    exact (hfewer.append_left _).trans hshown
  | mailed desk hmailed hcalls _ =>
    refine hover.of_still (fun link hlink => ?_) hcalls
    exact ⟨link, hmailed.link.trans hlink, .inl rfl⟩
  | accepted desk accepted hmailed hsame =>
    refine hover.of_still (fun link hlink => ?_) (.inl hsame)
    exact ⟨link, hmailed.link.trans hlink, .inl rfl⟩
  | staged desk hpresenter hsame =>
    refine hover.of_still (fun link hlink => ?_) (.inl (hcall hpresenter))
    exact ⟨link, hsame.trans hlink, .inl rfl⟩
  | unbound =>
    refine hover.of_still (fun link hlink => ?_) (.inl (hcall (Desk.presenter_unbind _)))
    exact ⟨_, Desk.link_unbind hlink, .inr (Nat.lt_succ_self _)⟩
  | destroyed surface =>
    refine hover.of_still (fun link hlink => ?_) (.inl (hcall rfl))
    obtain ⟨after, hafter, hloses, _⟩ := Scene.link_destroy surface hlink
    exact ⟨after, hafter, hloses.precedes⟩
  | attached surface zeroCopy hfound =>
    refine hover.of_still (fun link hlink => ?_) (.inl (hcall (Desk.presenter_attach _ _ _)))
    obtain ⟨_, after, hafter, hloses, _⟩ := Desk.link_attach zeroCopy hlink hfound
    have hbegun : link.Precedes ⟨link.epoch + 1, some surface⟩ :=
      .inr (Nat.lt_add_of_pos_right (by decide))
    exact ⟨after, hafter, hbegun.trans hloses.precedes⟩

/-- An epoch that has ended does not come back, and it comes to no other showing than the one that the call in
progress had ahead. -/
theorem over_run (hended : watch.desk.HasEnded epoch) (acts : List Desk.Act) :
    Over epoch watch (watch.run acts) :=
  run_keeps (fun _ _ hmoved hkept => hkept.move hmoved) acts ⟨hended, List.Sublist.refl _⟩

/-- The binding in force is the last of the record. -/
theorem Rooted.getLast {bonds : List Bond} {bond : Bond} (hrooted : Rooted bonds desk)
    (hbond : desk.bond? = some bond) :
    bonds.getLast? = some bond ∧ desk.scene.Hears desk.owner bond.epoch bond.surface := by
  obtain ⟨link, hlink, _, hbound⟩ := hrooted.link
  cases hlink.symm.trans (Desk.link_of_bond hbond)
  exact hbound bond.surface rfl

/-- Every frame on its way is for the binding in force or for one that has ended. -/
theorem Isolated.pending {frame : SharedFrame} (hisolated : Isolated given id watch)
    (hpending : .frame frame epoch ∈ watch.desk.pending) :
    watch.desk.HasEnded epoch ∨ ∃ surface, watch.desk.bond? = some ⟨epoch, surface⟩ := by
  have hmem := hisolated.traced.order.subset (List.mem_append_right _ hpending)
  obtain ⟨accepted, haccepted, hsame⟩ := List.mem_map.1 hmem
  have hepoch : accepted.bond.epoch = epoch := (Envelope.frame.inj hsame).2
  obtain ⟨link, hlink, hearlier, _⟩ := hisolated.rooted.link
  have hle := hearlier _ (hisolated.traced.accepted accepted haccepted).2.2
  rw [hepoch] at hle
  -- Under the epoch in force, the binding has ended if its surface is gone.
  rcases Nat.lt_or_eq_of_le hle with hless | hequal
  · exact .inl ⟨link, hlink, .inl hless⟩
  · cases hsurface : link.surface with
    | none => exact .inl ⟨link, hlink, .inr ⟨hequal, hsurface⟩⟩
    | some surface =>
      refine .inr ⟨surface, ?_⟩
      unfold Desk.bond?
      rw [hlink]
      simp [hsurface, hequal]

/-- Isolation of bindings for every run. What the surfaces were given is what the record has as showings, and each
showing is that of an accepted frame of its own, with the same binding, in order. A frame is accepted at least in
the paused state, with no other source active, for a binding of the record; the bindings have rising epochs, and
the one in force is the last. Every frame on its way is for the binding in force or for one that has ended. For a
binding that has ended no frame is shown again, but for the one that had been taken up before it ended; a frame
whose handling starts later touches no surface and counts as dropped unbound. A binding ends with an unbind,
with another bind and with the destruction of its surface. A teardown lets the call in progress at its close come to its
end, whatever has happened since its unbind; what waits then is discarded, and until the next bind the consumer has no
step to take. -/
theorem binding_isolation (surfaces : List Surface) (id : Nat) (acts : List Desk.Act) :
    let watch := (opened surfaces id).run acts
    let desk := watch.desk
    desk = (Desk.opened surfaces id).run acts ∧
    (∀ surface, desk.scene.given[surface]? = (surfaces.map Surface.given)[surface]?.map
      (· ++ Showing.at surface watch.showings)) ∧
    watch.showings.Sublist (watch.accepted.map Accepted.showing) ∧
    (∀ accepted ∈ watch.accepted, accepted.state.canRender = true ∧
      (accepted.source = none ∨ accepted.source = some id) ∧ accepted.bond ∈ watch.bonds) ∧
    (watch.bonds.Pairwise fun earlier later => earlier.epoch < later.epoch) ∧
    (∀ bond, desk.bond? = some bond → watch.bonds.getLast? = some bond) ∧
    (∀ frame epoch, .frame frame epoch ∈ desk.pending →
      desk.HasEnded epoch ∨ ∃ surface, desk.bond? = some ⟨epoch, surface⟩) ∧
    (∀ epoch, desk.HasEnded epoch →
      (∀ more, Over epoch watch (watch.run more)) ∧
      ∀ frame, desk.call? = some (.taken (.frame frame epoch)) →
        desk.advance.scene = desk.scene ∧ desk.advance.call? = none ∧
        desk.advance.presenter.report.droppedUnbound =
          desk.presenter.report.droppedUnbound + 1) ∧
    (∀ bond, desk.bond? = some bond →
      desk.unbind.HasEnded bond.epoch ∧
      (∀ unbound bound next, (desk.bindAmid unbound bound next).1 = .ok () →
        (desk.bindAmid unbound bound next).2.HasEnded bond.epoch) ∧
      (desk.changeScene (.destroy bond.surface)).HasEnded bond.epoch) ∧
    (∀ amid call queue, (desk.unbind.elapse amid).presenter.mailbox.transport = .running call queue →
      ∃ steps, ∃ settled, settled = (desk.unbind.elapse amid).run (List.replicate steps .advance) ∧
        (desk.teardownAmid amid).scene = settled.scene ∧
        ((desk.teardownAmid amid).presenter.mailbox.tally.discarded =
            (desk.unbind.elapse amid).presenter.mailbox.tally.discarded + queue.countP Envelope.isFrame ∨
          settled.presenter.mailbox.transport = .crashed)) ∧
    (∀ amid more, (∀ surface unbound bound, Desk.Act.bind surface unbound bound ∉ more) →
      ((desk.teardownAmid amid).run more).advance = (desk.teardownAmid amid).run more) := by
  have hisolated := isolated_run surfaces id acts
  have hdesk := desk_run acts (opened surfaces id)
  dsimp only
  generalize (opened surfaces id).run acts = watch at hisolated hdesk ⊢
  obtain ⟨link, hlink, _⟩ := hisolated.rooted.link
  refine ⟨hdesk, hisolated.given, hisolated.showings, hisolated.traced.accepted,
    hisolated.rooted.ordered, ?_, ?_, ?_, ?_, ?_, ?_⟩
  · intro bond hbond
    exact (hisolated.rooted.getLast hbond).1
  · intro frame epoch hpending
    exact hisolated.pending hpending
  · intro epoch hended
    exact ⟨fun more => over_run hended more, fun frame hcall => Desk.advance_stale hcall hended⟩
  · intro bond hbond
    have hbound := Desk.link_of_bond hbond
    refine ⟨Desk.hasEnded_unbind hbound, fun _ _ _ hnext => Desk.hasEnded_bind hbound hnext, ?_⟩
    exact Desk.hasEnded_destroy hbound (hisolated.rooted.getLast hbond).2
  · intro amid call queue hrunning
    exact Desk.teardown_discards hrunning
  · intro amid more hbind
    exact ((Desk.silent_teardown amid hlink).run hbind).advance_eq

/-- A surface whose pixel buffer has no size yet, and which reads the frames it is lent. -/
def bareSurface : Surface := .new ⟨"opengl", true, false, false, false, none⟩ none

/-- A frame is submitted for a binding and just taken, when the surface is bound anew. -/
def reboundEarly : List Desk.Act :=
  [.setState .paused, .bind 0, .submit ⟨7, ⟨#[1, 2, 3, 4], ⟨1, 1⟩, .rgba, 7⟩⟩, .advance, .bind 0]

theorem binding_isolation_rebound :
    let desk := ((opened [bareSurface] 1).run reboundEarly).desk
    desk.HasEnded 2 ∧
      desk.call? = some (.taken (.frame ⟨7, ⟨#[1, 2, 3, 4], ⟨1, 1⟩, .rgba, 7⟩⟩ 2)) ∧
      desk.advance.scene = desk.scene ∧
      desk.advance.presenter.report.droppedUnbound =
        desk.presenter.report.droppedUnbound + 1 := by
  have hlink : ((opened [bareSurface] 1).run reboundEarly).desk.link? = some ⟨4, some 0⟩ := by
    decide +kernel
  have hended : ((opened [bareSurface] 1).run reboundEarly).desk.HasEnded 2 :=
    ⟨_, hlink, .inl (by decide)⟩
  have hcall : ((opened [bareSurface] 1).run reboundEarly).desk.call? =
      some (.taken (.frame ⟨7, ⟨#[1, 2, 3, 4], ⟨1, 1⟩, .rgba, 7⟩⟩ 2)) := by
    decide +kernel
  obtain ⟨_, _, _, _, _, _, _, hover, _⟩ := binding_isolation [bareSurface] 1 reboundEarly
  obtain ⟨hscene, _, hdropped⟩ := (hover 2 hended).2 _ hcall
  exact ⟨hended, hcall, hscene, hdropped⟩

/-- A frame is submitted for a binding, and its call has come to give the surface a size, when the surface is
bound anew. -/
def reboundLate : List Desk.Act :=
  [.setState .paused, .bind 0, .submit ⟨7, ⟨#[1, 2, 3, 4], ⟨1, 1⟩, .rgba, 7⟩⟩, .advance, .advance,
    .advance, .bind 0, .advance]

/-- A frame that was taken up before its binding ended can come to the surface of a later binding, if that is the
same surface. -/
theorem not_shown_for_binding_in_force :
    ¬ ∀ (surfaces : List Surface) (id : Nat) (acts : List Desk.Act) (showing : Showing) (bond : Bond),
      let watch := (opened surfaces id).run acts
      watch.advance.showings = watch.showings ++ [showing] → watch.desk.bond? = some bond →
        bond.surface = showing.bond.surface → bond = showing.bond := by
  intro hclaim
  have hshown : ((opened [bareSurface] 1).run reboundLate).advance.showings =
      ((opened [bareSurface] 1).run reboundLate).showings ++
        [⟨⟨7, ⟨#[1, 2, 3, 4], ⟨1, 1⟩, .rgba, 7⟩⟩, ⟨2, 0⟩⟩] := by
    decide +kernel
  have hbond : ((opened [bareSurface] 1).run reboundLate).desk.bond? = some ⟨4, 0⟩ := by
    decide +kernel
  have hsame := hclaim [bareSurface] 1 reboundLate _ _ hshown hbond rfl
  cases hsame

end Watch

end FramePath

import FramePath.Proofs.Desk.Moves

/-!
# The record of a watch is true

The bindings of a presenter are told apart by their epochs (`Rooted`). The frames shown and those on their way are
accepted ones, in order, and what is shown is shown for the binding it was accepted for (`Traced`).
`Isolated` puts both together with what the surfaces were given; every move keeps it (`Isolated.move`), so it
holds after every run (`isolated_run`).
-/

namespace FramePath

open Renderer (Call Job)

namespace Watch

/-- The bindings come one after another, and the surface bound is that of the last. Somebody listens to it. -/
structure Rooted (bonds : List Bond) (desk : Desk) : Prop where
  ordered : bonds.Pairwise fun earlier later => earlier.epoch < later.epoch
  link : ∃ link, desk.link? = some link ∧ (∀ bond ∈ bonds, bond.epoch ≤ link.epoch) ∧
    ∀ surface, link.surface = some surface →
      bonds.getLast? = some ⟨link.epoch, surface⟩ ∧
        desk.scene.Hears desk.owner link.epoch surface

/-- The frames shown and those on their way are accepted ones, in order, and what is shown is shown for the
binding it was accepted for. -/
structure Traced (id : Nat) (watch : Watch) : Prop where
  id_eq : watch.desk.presenter.id = id
  accepted : ∀ accepted ∈ watch.accepted, accepted.state.canRender = true ∧
    (accepted.source = none ∨ accepted.source = some id) ∧ accepted.bond ∈ watch.bonds
  due : ∀ showing ∈ watch.desk.due, showing.bond ∈ watch.bonds
  shown : ∀ showing ∈ watch.showings, showing.bond ∈ watch.bonds
  order : (watch.showings.map Showing.envelope ++ watch.desk.pending).Sublist
    (watch.accepted.map fun accepted => accepted.showing.envelope)

/-- The record is true of the desk. `given` is what the surfaces were given before. -/
structure Isolated (given : List (List SharedFrame)) (id : Nat) (watch : Watch) : Prop where
  rooted : Rooted watch.bonds watch.desk
  traced : Traced id watch
  given : ∀ surface, watch.desk.scene.given[surface]? =
    given[surface]?.map (· ++ Showing.at surface watch.showings)

variable {given : List (List SharedFrame)} {id : Nat} {watch : Watch} {desk : Desk}
  {bonds : List Bond} {link after : Link}

/-- A binding is told by its epoch. -/
theorem eq_of_epoch {first second : Bond}
    (hordered : bonds.Pairwise fun earlier later => earlier.epoch < later.epoch)
    (hfirst : first ∈ bonds) (hsecond : second ∈ bonds) (hepoch : first.epoch = second.epoch) :
    first = second := by
  induction bonds with
  | nil => cases hfirst
  | cons bond bonds ih =>
    obtain ⟨hearlier, hrest⟩ := List.pairwise_cons.1 hordered
    rcases List.mem_cons.1 hfirst with rfl | hlater
    · rcases List.mem_cons.1 hsecond with rfl | hafter
      · rfl
      · exact absurd hepoch (Nat.ne_of_lt (hearlier second hafter))
    · rcases List.mem_cons.1 hsecond with rfl | hafter
      · exact absurd hepoch.symm (Nat.ne_of_lt (hearlier first hlater))
      · exact ih hrest hlater hafter

/-- The binding in force is one of the record. -/
theorem Rooted.mem {epoch surface : Nat} (hrooted : Rooted bonds desk)
    (hlink : desk.link? = some ⟨epoch, some surface⟩) : ⟨epoch, surface⟩ ∈ bonds := by
  obtain ⟨link, hsome, _, hbound⟩ := hrooted.link
  cases hsome.symm.trans hlink
  exact List.mem_of_getLast? (hbound surface rfl).1

/-- Where link, owner and listeners stay, so does the root. -/
theorem Rooted.same {other : Desk} (hrooted : Rooted bonds desk) (howner : other.owner = desk.owner)
    (hlink : other.link? = desk.link?)
    (hlisteners : other.scene.view Surface.listeners = desk.scene.view Surface.listeners) :
    Rooted bonds other := by
  obtain ⟨hordered, link, hsome, hearlier, hbound⟩ := hrooted
  refine ⟨hordered, link, hlink.trans hsome, hearlier, ?_⟩
  intro surface hsurface
  obtain ⟨hlast, hhears⟩ := hbound surface hsurface
  rw [howner]
  exact ⟨hlast, Scene.hears_congr hlisteners hhears⟩

/-- After a binding has ended nothing is bound, and all bindings are earlier. -/
theorem Rooted.lost {other : Desk} (hrooted : Rooted bonds desk) (hlink : desk.link? = some link)
    (hafter : other.link? = some after) (hgone : link.epoch < after.epoch)
    (hnone : after.surface = none) : Rooted bonds other := by
  obtain ⟨hordered, found, hsome, hearlier, _⟩ := hrooted
  cases hsome.symm.trans hlink
  refine ⟨hordered, after, hafter, ?_, ?_⟩
  · intro bond hbond
    exact Nat.le_of_lt (Nat.lt_of_le_of_lt (hearlier bond hbond) hgone)
  · intro surface hsurface
    rw [hnone] at hsurface
    cases hsurface

/-- Attaching a surface puts its binding at the end of the record. -/
theorem Rooted.attach {surface : Nat} (zeroCopy : Bool) (hrooted : Rooted bonds desk)
    (hfound : desk.scene.surfaces[surface]?.isSome = true) :
    Rooted (bonds ++ [⟨desk.epoch + 1, surface⟩]) (desk.attach surface zeroCopy) := by
  obtain ⟨hordered, link, hlink, hearlier, _⟩ := hrooted
  obtain ⟨_, after, hafter, hloses, hhears⟩ := Desk.link_attach zeroCopy hlink hfound
  have hepoch : desk.epoch = link.epoch := by
    unfold Desk.epoch
    rw [hlink]
    rfl
  rw [hepoch]
  -- A surface that is destroyed as soon as it is listened to has its binding ended at once.
  have hlater : link.epoch + 1 ≤ after.epoch := by
    rcases hloses with rfl | ⟨hless, _⟩
    · exact Nat.le_refl _
    · exact Nat.le_of_lt hless
  refine ⟨?_, after, hafter, ?_, ?_⟩
  · refine List.pairwise_append.2 ⟨hordered, List.pairwise_singleton _ _, ?_⟩
    intro earlier hmem later hlast
    cases List.mem_singleton.1 hlast
    have hle := hearlier earlier hmem
    show earlier.epoch < link.epoch + 1
    omega
  · intro bond hbond
    rcases List.mem_append.1 hbond with hmem | hlast
    · have hle := hearlier bond hmem
      omega
    · cases List.mem_singleton.1 hlast
      exact hlater
  · intro bound hbound
    rcases hloses with rfl | ⟨_, hnone⟩
    · cases hbound
      refine ⟨List.getLast?_concat .., ?_⟩
      have howner : (desk.attach surface zeroCopy).owner = desk.owner := by
        unfold Desk.owner
        rw [Desk.presenter_attach]
      rw [howner]
      exact hhears rfl
    · rw [hnone] at hbound
      cases hbound

/-- A destruction ends the binding of its surface, and leaves that of another alone or ends it too. -/
theorem Rooted.destroy (surface : Nat) (hrooted : Rooted bonds desk) :
    Rooted bonds (desk.changeScene (.destroy surface)) := by
  obtain ⟨link, hlink, hearlier, hbound⟩ := hrooted.link
  obtain ⟨after, hafter, hloses, hends⟩ := Scene.link_destroy surface hlink
  rcases hloses with rfl | ⟨hgone, hnone⟩
  · refine ⟨hrooted.ordered, after, hafter, hearlier, ?_⟩
    intro bound hsurface
    obtain ⟨hlast, hhears⟩ := hbound bound hsurface
    refine ⟨hlast, ?_⟩
    by_cases hsame : surface = bound
    · subst hsame
      -- The listener was told, so the binding has ended after all.
      rcases hends hhears with hless | ⟨_, hnone⟩
      · exact absurd hless (Nat.lt_irrefl _)
      · rw [hsurface] at hnone
        cases hnone
    · exact Scene.hears_destroy hsame hhears
  · exact hrooted.lost hlink hafter hgone hnone

/-- Where the presenter's mailbox stays, or loses frames and its call, the trace stays. -/
theorem Traced.of_fewer (htraced : Traced id watch) (hid : desk.presenter.id = watch.desk.presenter.id)
    (hcall : desk.call? = watch.desk.call? ∨ desk.call? = none)
    (hpending : desk.pending.Sublist watch.desk.pending) : Traced id { watch with desk } where
  id_eq := hid.trans htraced.id_eq
  accepted := htraced.accepted
  due showing hdue := by
    have hdue : showing ∈ (desk.call?.map Call.due).getD [] := hdue
    rcases hcall with hsame | hnone
    · rw [hsame] at hdue
      exact htraced.due showing hdue
    · rw [hnone] at hdue
      cases hdue
  shown := htraced.shown
  order := (hpending.append_left _).trans htraced.order

/-- What concerns the scene only changes nothing about the frames on their way. -/
theorem Traced.staged (htraced : Traced id watch) (hpresenter : desk.presenter = watch.desk.presenter) :
    Traced id { watch with desk } := by
  obtain ⟨scene, presenter⟩ := desk
  cases hpresenter
  exact htraced.of_fewer rfl (.inl rfl) (List.Sublist.refl _)

/-- One more binding leaves the trace. -/
theorem Traced.bound (htraced : Traced id watch) (bond : Bond) :
    Traced id { watch with bonds := watch.bonds ++ [bond] } where
  id_eq := htraced.id_eq
  accepted accepted hmem := by
    obtain ⟨hstate, hsource, hbond⟩ := htraced.accepted accepted hmem
    exact ⟨hstate, hsource, List.mem_append_left _ hbond⟩
  due showing hmem := List.mem_append_left _ (htraced.due showing hmem)
  shown showing hmem := List.mem_append_left _ (htraced.shown showing hmem)
  order := htraced.order

/-- An accepted frame is the last on its way, with the binding in force. -/
theorem Traced.accept (htraced : Traced id watch) (hrooted : Rooted watch.bonds watch.desk)
    {accepted : Accepted} (hid : desk.presenter.id = watch.desk.presenter.id)
    (hcall : desk.call? = watch.desk.call?)
    (hpending : desk.pending = watch.desk.pending ++ [accepted.showing.envelope])
    (hlink : watch.desk.link? = some ⟨accepted.bond.epoch, some accepted.bond.surface⟩)
    (hstate : accepted.state.canRender = true)
    (hsource : accepted.source = none ∨ accepted.source = some watch.desk.presenter.id) :
    Traced id { watch with desk, accepted := watch.accepted ++ [accepted] } where
  id_eq := hid.trans htraced.id_eq
  accepted other hmem := by
    rcases List.mem_append.1 hmem with hold | hnew
    · exact htraced.accepted other hold
    · cases List.mem_singleton.1 hnew
      exact ⟨hstate, htraced.id_eq ▸ hsource, hrooted.mem hlink⟩
  due showing hdue := by
    have hdue : showing ∈ (desk.call?.map Call.due).getD [] := hdue
    rw [hcall] at hdue
    exact htraced.due showing hdue
  shown := htraced.shown
  order := by
    show (watch.showings.map Showing.envelope ++ desk.pending).Sublist
      ((watch.accepted ++ [accepted]).map _)
    rw [hpending, ← List.append_assoc, List.map_append]
    exact htraced.order.append (List.Sublist.refl _)

/-- What a step of the consumer gives to a surface is a showing for the binding for which the frame was taken
up. -/
theorem Traced.advance (htraced : Traced id watch) (hrooted : Rooted watch.bonds watch.desk) :
    Traced id watch.advance := by
  have hstep := Desk.stepped watch.desk
  have hnew : ∀ showing ∈ watch.desk.advance.given ++ watch.desk.advance.due,
      showing.bond ∈ watch.bonds := by
    intro showing hshowing
    -- Either it was ahead already, or a frame is taken up for the binding in force.
    rcases hstep.due with hsame | ⟨bond, hall, hlink⟩
    · exact htraced.due showing (hsame.subset hshowing)
    · rw [hall showing hshowing]
      exact hrooted.mem hlink
  refine ⟨hstep.id.trans htraced.id_eq, htraced.accepted, ?_, ?_, ?_⟩
  · intro showing hdue
    exact hnew showing (List.mem_append_right _ hdue)
  · intro showing hshowing
    rcases List.mem_append.1 hshowing with hold | hrecent
    · exact htraced.shown showing hold
    · exact hnew showing (List.mem_append_left _ hrecent)
  · show ((watch.showings ++ watch.desk.advance.given).map Showing.envelope ++
      watch.desk.advance.pending).Sublist _
    rw [List.map_append, List.append_assoc]
    exact (hstep.pending.append_left _).trans htraced.order

/-- Every move leaves the record true. -/
theorem Isolated.move {other : Watch} (hmoved : Moved watch other)
    (hisolated : Isolated given id watch) : Isolated given id other := by
  obtain ⟨hrooted, htraced, hgiven⟩ := hisolated
  cases hmoved with
  | advanced =>
    have hstep := Desk.stepped watch.desk
    refine ⟨hrooted.same hstep.owner hstep.link hstep.listeners, htraced.advance hrooted, ?_⟩
    intro surface
    show watch.desk.advance.scene.given[surface]? =
      given[surface]?.map (· ++ Showing.at surface (watch.showings ++ watch.desk.advance.given))
    rw [hstep.given, hgiven, Option.map_map, Showing.at_append]
    exact congrArg (Option.map · _) (funext fun frames => List.append_assoc ..)
  | mailed desk hmailed hcall hpending =>
    refine ⟨hrooted.same hmailed.owner hmailed.link (by rw [hmailed.scene]),
      htraced.of_fewer hmailed.id hcall hpending, ?_⟩
    rw [hmailed.scene]
    exact hgiven
  | accepted desk accepted hmailed hcall hpending hlink hstate hsource =>
    refine ⟨hrooted.same hmailed.owner hmailed.link (by rw [hmailed.scene]),
      htraced.accept hrooted hmailed.id hcall hpending hlink hstate hsource, ?_⟩
    rw [hmailed.scene]
    exact hgiven
  | staged desk hpresenter hlink hlisteners hsame =>
    have howner : desk.owner = watch.desk.owner := by
      unfold Desk.owner
      rw [hpresenter]
    refine ⟨hrooted.same howner hlink hlisteners, htraced.staged hpresenter, ?_⟩
    rw [hsame]
    exact hgiven
  | unbound =>
    obtain ⟨link, hlink, _⟩ := hrooted.link
    refine ⟨hrooted.lost hlink (Desk.link_unbind hlink) (Nat.lt_succ_self _) rfl,
      htraced.staged (Desk.presenter_unbind _), ?_⟩
    rw [Desk.given_unbind]
    exact hgiven
  | destroyed surface =>
    refine ⟨hrooted.destroy surface, htraced.staged rfl, ?_⟩
    -- A destroyed surface forgets its pixels, not what it was given.
    have hforget : ∀ surface : Surface, surface.forget.given = surface.given := by
      intro surface
      unfold Surface.forget
      split <;> rfl
    have hsame : (watch.desk.scene.destroy surface).given = watch.desk.scene.given :=
      Scene.view_destroy hforget surface watch.desk.scene
    show ∀ place, (watch.desk.scene.destroy surface).given[place]? = _
    rw [hsame]
    exact hgiven
  | attached surface zeroCopy hfound =>
    obtain ⟨link, hlink, _⟩ := hrooted.link
    refine ⟨hrooted.attach zeroCopy hfound,
      (htraced.bound _).staged (Desk.presenter_attach _ _ _), ?_⟩
    rw [(Desk.link_attach zeroCopy hlink hfound).1]
    exact hgiven

/-- The record of a new presenter is true. -/
theorem isolated_opened (surfaces : List Surface) (id : Nat) :
    Isolated (surfaces.map Surface.given) id (opened surfaces id) where
  rooted := by
    refine ⟨List.Pairwise.nil, ⟨0, none⟩, rfl, ?_, ?_⟩
    · intro bond hbond
      cases hbond
    · intro surface hsurface
      cases hsurface
  traced := by
    refine ⟨rfl, ?_, ?_, ?_, List.nil_sublist _⟩
    · intro accepted hmem
      cases hmem
    · intro showing hmem
      cases hmem
    · intro showing hmem
      cases hmem
  given surface := Scene.given_nothing rfl surface

/-- After any run the record is true. -/
theorem isolated_run (surfaces : List Surface) (id : Nat) (acts : List Desk.Act) :
    Isolated (surfaces.map Surface.given) id ((opened surfaces id).run acts) :=
  run_keeps (fun _ _ hmoved hkept => hkept.move hmoved) acts (isolated_opened surfaces id)

end Watch

end FramePath

import FramePath.Proofs.Desk.Watch

/-!
# The moves of a watch

Every deed is one or two of a few moves of a watch. `Moved` lists them with what each leaves alone, and what every
move keeps, every run keeps (`Watch.run_keeps`); so a fact about all runs is proved by one case for each move.
-/

namespace FramePath

namespace Watch

/-- What a deed is made of. -/
inductive Moved : Watch → Watch → Prop where
  /-- The consumer goes one step on. -/
  | advanced (watch) : Moved watch watch.advance
  /-- Something by mail or about the presenter: the frames on their way stay, or some go. -/
  | mailed (watch desk) :
      Desk.Mailed watch.desk desk →
      desk.call? = watch.desk.call? ∨ desk.call? = none →
      desk.pending.Sublist watch.desk.pending →
      Moved watch { watch with desk }
  /-- A frame is accepted with the binding in force, by a presenter that may show it. -/
  | accepted (watch desk accepted) :
      Desk.Mailed watch.desk desk →
      desk.call? = watch.desk.call? →
      desk.pending = watch.desk.pending ++ [accepted.showing.envelope] →
      watch.desk.link? = some ⟨accepted.bond.epoch, some accepted.bond.surface⟩ →
      accepted.state.canRender = true →
      accepted.source = none ∨ accepted.source = some watch.desk.presenter.id →
      Moved watch { watch with desk, accepted := watch.accepted ++ [accepted] }
  /-- Something about the surfaces that ends no binding. -/
  | staged (watch desk) :
      desk.presenter = watch.desk.presenter →
      desk.link? = watch.desk.link? →
      desk.scene.view Surface.listeners = watch.desk.scene.view Surface.listeners →
      desk.scene.given = watch.desk.scene.given →
      Moved watch { watch with desk }
  | unbound (watch) : Moved watch { watch with desk := watch.desk.unbind }
  | destroyed (watch surface) :
      Moved watch { watch with desk := watch.desk.changeScene (.destroy surface) }
  | attached (watch surface zeroCopy) :
      watch.desk.scene.surfaces[surface]?.isSome = true →
      Moved watch { watch with
        desk := watch.desk.attach surface zeroCopy
        bonds := watch.bonds ++ [⟨watch.desk.epoch + 1, surface⟩] }

section Rules

variable {kept : Watch → Prop} {watch : Watch}

/-- A visibility is sent, or the send is refused. -/
theorem moved_visibility (visible : Bool) (watch : Watch) :
    Moved watch { watch with desk := (watch.desk.send (.visibility visible)).2 } := by
  obtain ⟨hmailed, hsent⟩ := Desk.send_spec (.visibility visible) watch.desk
  rcases hsent with ⟨_, hcall, hpending⟩ | ⟨_, hcall, hpending⟩
  · refine .mailed _ _ hmailed (.inl hcall) ?_
    rw [hpending]
    exact List.append_nil _ ▸ List.Sublist.refl _
  · refine .mailed _ _ hmailed (.inr hcall) ?_
    rw [hpending]
    exact List.nil_sublist _

/-- A mailbox without a call in progress is closed. -/
theorem moved_close {watch : Watch} (hquiet : watch.desk.call? = none) :
    Moved watch { watch with desk := watch.desk.close } := by
  refine .mailed _ _ (Desk.mailed_close hquiet) (.inr (Desk.call_close _)) ?_
  rw [Desk.pending_close]
  exact List.nil_sublist _

/-- A presenter that is not silenced has no active source above it, or is the active source. -/
theorem source_of_active {presenter : Presenter} (hactive : presenter.isSilenced = false) :
    presenter.activeSource = none ∨ presenter.activeSource = some presenter.id := by
  unfold Presenter.isSilenced at hactive
  split at hactive
  · next hnone => exact .inl hnone
  · next active hsome =>
    have hsame : active = presenter.id := by simpa using hactive
    exact .inr (hsame ▸ hsome)

/-- A submit is one move, whether the frame is dropped, refused or accepted. -/
theorem moved_submit (frame : SharedFrame) (watch : Watch) : Moved watch (watch.submit frame) := by
  unfold submit
  rcases watch.desk.submit_cases frame with
    ⟨_, hdropped⟩ | ⟨_, _, hdropped⟩ | ⟨_, _, _, hdropped⟩ |
    ⟨hstate, hactive, binding, surface, hbinding, hsurface, hsent⟩
  · rw [hdropped]
    exact .mailed _ _ ⟨rfl, rfl, rfl⟩ (.inl rfl) (List.Sublist.refl _)
  · rw [hdropped]
    exact .mailed _ _ ⟨rfl, rfl, rfl⟩ (.inl rfl) (List.Sublist.refl _)
  · rw [hdropped]
    exact .mailed _ _ ⟨rfl, rfl, rfl⟩ (.inl rfl) (List.Sublist.refl _)
  · rw [hsent]
    have hspec := Desk.send_spec (.frame frame binding.epoch) (watch.desk.lease frame)
    generalize (watch.desk.lease frame).send (.frame frame binding.epoch) = sent at hspec
    obtain ⟨accepted, after⟩ := sent
    obtain ⟨⟨hid, howner, hscene⟩, hcases⟩ := hspec
    rcases hcases with ⟨haccepted, hcall, hpending⟩ | ⟨hrefused, hcall, hpending⟩
    · cases haccepted
      have hlink := Desk.link_of_bound hbinding hsurface
      have hbond := Desk.bond_of_link hlink
      dsimp only
      rw [hbond]
      exact .accepted watch _ ⟨frame, ⟨binding.epoch, surface⟩, _, _⟩ ⟨hid, howner, hscene⟩ hcall
        hpending hlink hstate (source_of_active hactive)
    · cases hrefused
      refine .mailed _ _ ⟨hid, howner, hscene⟩ (.inr hcall) ?_
      show after.pending.Sublist _
      rw [hpending]
      exact List.nil_sublist _

/-- A change of size changes no link, no listeners and nothing that was given. -/
theorem moved_resize (surface : Nat) (size : Size) (watch : Watch) :
    Moved watch { watch with desk := watch.desk.changeScene (.resize surface size) } := by
  have hfill : ∀ rect (surface : Surface), (surface.record (.fill rect)).given = surface.given := by
    intro rect surface
    rw [Surface.given_record]
    exact List.append_nil _
  have hlisteners : (watch.desk.scene.resize surface size).view Surface.listeners =
      watch.desk.scene.view Surface.listeners :=
    Scene.view_resize (fun _ _ => rfl) surface size watch.desk.scene
  exact .staged _ _ rfl (Scene.link_congr (Scene.bindings_resize _ _ _) _) hlisteners
    (Scene.view_resize hfill surface size watch.desk.scene)

/-- A choice of placement changes no link. -/
theorem moved_setFit (fit : Fit) (watch : Watch) :
    Moved watch { watch with desk := watch.desk.setFit fit } := by
  have hkept : ∀ binding : Binding, { binding with fit }.link = binding.link := fun _ => rfl
  exact .staged _ _ rfl (Scene.link_changeBinding_same hkept _ _ _) rfl rfl

/-- A change of the presenter that leaves its mail and its renderer is one by mail. -/
theorem moved_changePresenter {change : Presenter → Presenter} {watch : Watch}
    (hid : (change watch.desk.presenter).id = watch.desk.presenter.id)
    (hrenderer : (change watch.desk.presenter).renderer = watch.desk.presenter.renderer)
    (htransport : (change watch.desk.presenter).mailbox.transport = watch.desk.presenter.mailbox.transport) :
    Moved watch { watch with desk := watch.desk.changePresenter change } := by
  have hcall : (watch.desk.changePresenter change).call? = watch.desk.call? :=
    congrArg Transport.call? htransport
  have hpending : (watch.desk.changePresenter change).pending = watch.desk.pending := by
    unfold Desk.pending
    rw [hcall, show (watch.desk.changePresenter change).presenter.mailbox.transport = _ from htransport]
  refine .mailed _ _ ⟨hid, congrArg Renderer.owner hrenderer, rfl⟩ (.inl hcall) ?_
  exact hpending ▸ List.Sublist.refl _

/-- An arrangement is one move. -/
theorem moved_arrange (arrangement : Desk.Arrangement) (watch : Watch) :
    Moved watch { watch with desk := watch.desk.arrange arrangement } := by
  cases arrangement with
  | fit fit => exact moved_setFit fit watch
  | state state => exact moved_changePresenter rfl rfl rfl
  | source source => exact moved_changePresenter rfl rfl rfl
  | resize surface size => exact moved_resize surface size watch
  | arm fault => exact .staged _ _ rfl rfl rfl rfl
  | bar refusal => exact moved_changePresenter rfl rfl rfl

/-- What every move keeps, every deed keeps. -/
theorem perform_keeps (hmove : ∀ before after, Moved before after → kept before → kept after)
    {deed : Desk.Deed} (hallows : watch.desk.Allows deed) (hkept : kept watch) :
    kept (watch.perform deed) := by
  cases deed with
  | unbind => exact hmove _ _ (.unbound watch) hkept
  | attach surface zeroCopy => exact hmove _ _ (.attached watch surface zeroCopy hallows.2.isSome) hkept
  | announce =>
    show kept { watch with desk := watch.desk.announce }
    unfold Desk.announce
    split
    · exact hkept
    · exact hmove _ _ (moved_visibility false watch) hkept
  | setVisible visible =>
    have hchanged : Moved watch { watch with
        desk := watch.desk.changePresenter fun presenter => { presenter with visible } } :=
      moved_changePresenter rfl rfl rfl
    have hasked := hmove _ _ hchanged hkept
    show kept { watch with desk := watch.desk.setVisible visible }
    unfold Desk.setVisible
    dsimp only
    split
    · have hsent := hmove _ _ (moved_visibility visible _) hasked
      exact hsent
    · exact hasked
  | submit frame => exact hmove _ _ (moved_submit frame watch) hkept
  | advance => exact hmove _ _ (.advanced watch) hkept
  | close => exact hmove _ _ (moved_close hallows.1) hkept
  | destroy surface => exact hmove _ _ (.destroyed watch surface) hkept
  | arrange arrangement => exact hmove _ _ (moved_arrange arrangement watch) hkept

/-- What every move keeps, every act keeps. -/
theorem act_keeps (hmove : ∀ before after, Moved before after → kept before → kept after)
    (act : Desk.Act) (hkept : kept watch) : kept (watch.act act) := by
  have hallows := Desk.allows_deeds act watch.desk
  unfold Watch.act
  generalize watch.desk.deeds act = deeds at hallows
  induction deeds generalizing watch with
  | nil => exact hkept
  | cons deed deeds ih =>
    refine ih (perform_keeps hmove hallows.1 hkept) ?_
    rw [desk_perform]
    exact hallows.2

/-- What every move keeps, every run keeps. -/
theorem run_keeps (hmove : ∀ before after, Moved before after → kept before → kept after)
    (acts : List Desk.Act) (hkept : kept watch) : kept (watch.run acts) := by
  induction acts generalizing watch with
  | nil => exact hkept
  | cons act acts ih => exact ih (act_keeps hmove act hkept)

end Rules

end Watch

end FramePath

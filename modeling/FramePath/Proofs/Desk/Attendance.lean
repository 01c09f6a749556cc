import FramePath.Proofs.Desk.Calm
import FramePath.Proofs.Scene.Attendance

/-!
# The presenter listens where it is bound

A desk is `Listening` if the presenter's listeners are where its binding says (`Attended`), and a bound surface has
one. Every deed keeps this so, and so it is after every run of a presenter to which nobody listened before.
-/

namespace FramePath

/-- A step of the renderer leaves all rolls as they are. -/
theorem Backstage.Resumed.rolls {call : Renderer.Call} {stage after : Backstage}
    {progress : Progress Renderer.Call} (hresumed : Resumed call stage progress after) :
    after.scene.rolls = stage.scene.rolls :=
  hresumed.view_still (fun _ _ => rfl) (fun _ _ => rfl) fun _ _ => rfl

namespace Desk

/-- The presenter listens where its binding says, and it listens if a surface is bound. -/
structure Listening (desk : Desk) (binding : Binding) : Prop where
  found : desk.binding? = some binding
  attended : Attended desk.owner desk.scene.rolls binding
  named : binding.surface.isSome = true → binding.listener.isSome = true

namespace Listening

variable {desk after : Desk} {binding : Binding}

/-- What leaves the rolls and the link of the binding leaves the presenter listening. -/
theorem stays (hlistening : desk.Listening binding) (howner : after.owner = desk.owner)
    (hrolls : after.scene.rolls = desk.scene.rolls) {change : Binding → Binding}
    (hbinding : after.binding? = desk.binding?.map change)
    (hepoch : (change binding).epoch = binding.epoch)
    (hsurface : (change binding).surface = binding.surface)
    (hlistener : (change binding).listener = binding.listener) :
    after.Listening (change binding) where
  found := by
    rw [hbinding, hlistening.found]
    rfl
  attended := by
    rw [howner, hrolls]
    exact hlistening.attended.congr hepoch hsurface fun _ => hlistener
  named hbound := by
    rw [hsurface] at hbound
    rw [hlistener]
    exact hlistening.named hbound

/-- What leaves the rolls and the binding leaves the presenter listening. -/
theorem same (hlistening : desk.Listening binding) (howner : after.owner = desk.owner)
    (hrolls : after.scene.rolls = desk.scene.rolls) (hbinding : after.binding? = desk.binding?) :
    after.Listening binding := by
  have hkept : after.binding? = desk.binding?.map id := hbinding.trans Option.map_id_apply.symm
  exact hlistening.stays howner hrolls hkept rfl rfl rfl

/-- At the end of a binding its listener is sent away. -/
theorem unbind (hlistening : desk.Listening binding) : desk.unbind.Listening binding.cleared where
  found := by
    rw [binding_unbind, hlistening.found]
    rfl
  attended := by
    have howner : desk.unbind.owner = desk.owner := congrArg (·.renderer.owner) (presenter_unbind desk)
    have hattended := hlistening.attended
    rw [howner]
    unfold Desk.unbind
    rw [hlistening.found]
    obtain ⟨surface, zeroCopy, sizeApplied, epoch, listener, fit, content⟩ := binding
    cases surface with
    | none => exact hattended.cleared (.inl rfl)
    | some surface =>
      cases listener with
      | none => cases hlistening.named rfl
      | some id =>
        show Attended _ (Scene.disconnect surface id _).rolls _
        rw [Scene.rolls_disconnect]
        exact hattended.dismissed rfl rfl
  named := nofun

/-- A surface that is bound where none was is listened to, unless it is destroyed at once. -/
theorem attach (hlistening : desk.Listening binding) {surface : Nat} (zeroCopy : Bool)
    (hfound : desk.scene.surfaces[surface]?.isSome = true) (hnone : desk.bond? = none) :
    ∃ after, (desk.attach surface zeroCopy).Listening after := by
  have hvacant : binding.surface = none := by
    have hlink := link_of_binding hlistening.found
    unfold bond? at hnone
    rw [hlink] at hnone
    exact Option.map_eq_none_iff.1 hnone
  have hthere := (hint_spec surface zeroCopy desk).2.2
  rw [hfound] at hthere
  have hready : (desk.hint surface zeroCopy).Listening binding := by
    cases zeroCopy with
    | false => exact hlistening
    | true => exact hlistening.same rfl (Scene.rolls_record _ _ _) rfl
  unfold Desk.attach
  generalize desk.hint surface zeroCopy = ready at hready hthere
  -- The surface is bound, and nobody listens to it yet.
  generalize hbound : ready.changeBinding (.boundTo surface zeroCopy) = bound
  have hbinding : bound.binding? = some (binding.boundTo surface zeroCopy) := by
    rw [← hbound]
    refine (Scene.binding_changeBinding _ _ _).trans ?_
    rw [show ready.scene.binding? ready.owner = _ from hready.found]
    rfl
  have hattended : Attended bound.owner bound.scene.rolls
      { binding.boundTo surface zeroCopy with listener := none } := by
    rw [← hbound]
    have hvacated : Attended ready.owner ready.scene.rolls { binding with listener := none } :=
      hready.attended.congr rfl rfl (by simp [hvacant])
    exact hvacated.bound hvacant rfl surface zeroCopy
  have hstill : bound.scene.surfaces[surface]?.isSome = true := by
    rw [← hbound]
    exact hthere
  obtain ⟨id, after, hid, hafter, hjoined⟩ := Scene.attended_connect hbinding hattended rfl hstill
  refine ⟨{ after with listener := some id }, ?_, ?_, fun _ => rfl⟩
  · unfold Desk.listen
    rw [hbinding]
    dsimp only [Option.map_some, Option.getD_some]
    refine (Scene.binding_changeBinding _ _ _).trans ?_
    rw [hid]
    exact congrArg (Option.map _) hafter
  · unfold Desk.listen
    rw [hbinding]
    exact hjoined

/-- A destruction leaves the presenter listening where its binding says. -/
theorem destroy (hlistening : desk.Listening binding) (surface : Nat) :
    ∃ after, (desk.changeScene (.destroy surface)).Listening after := by
  obtain ⟨after, hafter, hattended, hcases⟩ :=
    Scene.attended_destroy hlistening.found hlistening.attended surface
  refine ⟨after, hafter, hattended, fun hbound => ?_⟩
  rcases hcases with rfl | rfl
  · exact hlistening.named hbound
  · cases hbound

/-- A step of the consumer leaves it listening. -/
theorem advance (hlistening : desk.Listening binding) : ∃ after, desk.advance.Listening after := by
  have howner := (stepped desk).owner
  have hkind := advanced desk
  have hresumes : ∀ {call : Renderer.Call} {progress : Progress Renderer.Call} {stage : Backstage}
      {after : Desk}, Backstage.Resumed call desk.backstage progress stage →
      after.owner = desk.owner → after.scene = stage.scene → ∃ binding, after.Listening binding := by
    intro call progress stage after hresumed howner hscene
    have hkept : ∀ binding, Backstage.noted call progress binding = binding ∨
        ∃ content, Backstage.noted call progress binding =
          { binding with sizeApplied := true, content } := by
      intro binding
      unfold Backstage.noted
      split
      · exact .inr ⟨_, rfl⟩
      · exact .inl rfl
    refine ⟨Backstage.noted call progress binding, hlistening.stays howner ?_ ?_ ?_ ?_ ?_⟩
    · rw [hscene]
      exact hresumed.rolls
    · unfold binding?
      rw [howner, hscene]
      exact hresumed.binding
    all_goals
      rcases hkept binding with hsame | ⟨content, hnoted⟩
      · rw [hsame]
      · rw [hnoted]
  generalize desk.advance = after at howner hkind ⊢
  cases hkind with
  | resting => exact ⟨binding, hlistening⟩
  | taken => exact ⟨binding, hlistening.same rfl rfl rfl⟩
  | waiting call next queue stage htransport hresumed => exact hresumes hresumed howner rfl
  | returned call queue stage htransport hresumed => exact hresumes hresumed howner rfl
  | failed call queue stage htransport hresumed => exact hresumes hresumed howner rfl

/-- Every deed leaves the presenter listening where its binding says. -/
theorem perform {deed : Deed} (hlistening : desk.Listening binding) (hallows : desk.Allows deed) :
    ∃ after, (desk.perform deed).Listening after := by
  -- What is done by mail leaves the scene.
  have hmail : ∀ {after : Desk}, Calm desk after → after.scene = desk.scene →
      after.Listening binding := fun hcalm hscene =>
    hlistening.same hcalm.owner (by rw [hscene]) (binding_of_scene hcalm hscene)
  cases deed with
  | attach surface zeroCopy => exact hlistening.attach zeroCopy hallows.2.isSome hallows.1
  | announce => exact ⟨binding, hmail (calm hallows nofun) (scene_announce desk)⟩
  | unbind => exact ⟨_, hlistening.unbind⟩
  | setVisible visible => exact ⟨binding, hmail (calm hallows nofun) (scene_setVisible visible desk)⟩
  | submit frame => exact ⟨binding, hmail (calm hallows nofun) (scene_submit frame desk)⟩
  | advance => exact hlistening.advance
  | close => exact ⟨binding, hmail (calm hallows nofun) (mailed_close hallows.1).scene⟩
  | destroy surface => exact hlistening.destroy surface
  | arrange arrangement =>
    cases arrangement with
    | fit fit =>
      have hplaced : (desk.setFit fit).binding? = desk.binding?.map fun binding => { binding with fit } :=
        Scene.binding_changeBinding _ _ _
      have howner : (desk.setFit fit).owner = desk.owner := rfl
      exact ⟨_, hlistening.stays howner rfl hplaced rfl rfl rfl⟩
    | state state => exact ⟨binding, hlistening.same rfl rfl rfl⟩
    | source source => exact ⟨binding, hlistening.same rfl rfl rfl⟩
    | resize surface size =>
      refine ⟨binding, hlistening.same rfl (Scene.rolls_resize surface size desk.scene) ?_⟩
      show (desk.scene.resize surface size).binding? desk.owner = desk.scene.binding? desk.owner
      unfold Scene.binding?
      rw [Scene.bindings_resize]
    | arm fault => exact ⟨binding, hlistening.same rfl rfl rfl⟩
    | bar refusal => exact ⟨binding, hlistening.same rfl rfl rfl⟩

end Listening

/-- A new presenter listens nowhere, if nobody has listened in its place before. -/
theorem listening_opened {surfaces : List Surface} (id : Nat)
    (hunknown : ∀ surface ∈ surfaces, ∀ listener ∈ surface.listeners, listener.owner ≠ 0) :
    (opened surfaces id).Listening .initial where
  found := rfl
  attended := by
    have hnone : ∀ {place : Nat} {roll : Roll}, (opened surfaces id).scene.rolls[place]? = some roll →
        ∀ listener ∈ roll.listeners, listener.owner ≠ 0 := by
      intro place roll hroll listener hmem
      obtain ⟨surface, hsurface, rfl⟩ := List.mem_map.1 (List.mem_of_getElem? hroll)
      exact hunknown surface hsurface listener hmem
    refine ⟨fun hroll hmem howner => absurd howner (hnone hroll _ hmem),
      fun hroll hmem howner => absurd howner (hnone hroll _ hmem), fun {place roll} hroll => ?_⟩
    refine List.filter_eq_nil_iff.2 fun listener hmem => ?_
    simp [opened, owner, Presenter.initial, Renderer.initial, hnone hroll listener hmem]
  named := nofun

/-- After every run of a new presenter it listens where its binding says. -/
theorem listening_run {surfaces : List Surface} (id : Nat)
    (hunknown : ∀ surface ∈ surfaces, ∀ listener ∈ surface.listeners, listener.owner ≠ 0)
    (acts : List Act) : ∃ binding, ((opened surfaces id).run acts).Listening binding := by
  let kept (desk : Desk) : Prop := ∃ binding, desk.Listening binding
  show kept ((opened surfaces id).run acts)
  refine run_of_deeds (fun desk deed hallows hkept => ?_) acts ⟨_, listening_opened id hunknown⟩
  obtain ⟨binding, hlistening⟩ := hkept
  exact hlistening.perform hallows

end Desk

end FramePath

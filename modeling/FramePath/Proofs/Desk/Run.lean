import FramePath.Presenter

/-!
# Runs of a desk

`Desk.Act` is what can happen at a presenter's desk: what its producer does, one step of its consumer, and what
others do to the surfaces. `Desk.run` does any acts in any order. The consumer's steps stand between the
producer's acts wherever the run puts them, and in the middle of a bind or a teardown, so a call may stand where it is
for any time. A fault may be armed at any call point before any step, so a call may fail wherever it calls a surface,
and the host may refuse any start of a consumer.
-/

namespace FramePath

namespace Desk

/-- What can happen at a desk. -/
inductive Act where
  /-- A surface is bound. Some incidents come in while nothing is, and others before a hidden presenter has told the
  surface. -/
  | bind (surface : Nat) (unbound bound : List Incident := [])
  | unbind
  | setVisible (visible : Bool)
  | setFit (fit : Fit)
  | setState (state : RunState)
  | setActiveSource (source : Option Nat)
  | submit (frame : SharedFrame)
  /-- The presenter is torn down. Some incidents come in before the consumer is stopped. -/
  | teardown (amid : List Incident := [])
  /-- The presenter is dropped, which tears it down. -/
  | drop (amid : List Incident := [])
  /-- The consumer goes one step on. -/
  | advance
  /-- A surface changes its size. -/
  | resize (surface : Nat) (size : Size)
  /-- A surface is destroyed by its owner. -/
  | destroy (surface : Nat)
  /-- The next caller at a call point is to fail, or no caller any more. -/
  | arm (fault : Option CallPoint)
  /-- The host is to refuse the next start of a consumer, or none any more. -/
  | bar (refusal : Option String)
  deriving DecidableEq

/-- Do one act. -/
def act (desk : Desk) : Act → Desk
  | .bind surface unbound bound => (desk.bindAmid unbound bound surface).2
  | .unbind => desk.unbind
  | .setVisible visible => desk.setVisible visible
  | .setFit fit => desk.setFit fit
  | .setState state => desk.changePresenter (.withState state)
  | .setActiveSource source => desk.changePresenter (.withActiveSource source)
  | .submit frame => (desk.submit frame).2
  | .teardown amid | .drop amid => desk.teardownAmid amid
  | .advance => desk.happen .advance
  | .resize surface size => desk.happen (.resize surface size)
  | .destroy surface => desk.happen (.destroy surface)
  | .arm fault => desk.happen (.arm fault)
  | .bar refusal => desk.happen (.bar refusal)

/-- Do several acts in order. -/
def run (acts : List Act) (desk : Desk) : Desk := acts.foldl act desk

/-- A new presenter at a scene with these surfaces, where nobody else is. -/
def opened (surfaces : List Surface) (id : Nat) : Desk :=
  ⟨{ Scene.ofSurfaces surfaces with bindings := [some .initial] }, .initial id 0⟩

/-- A run in two parts. -/
theorem run_append (first second : List Act) (desk : Desk) :
    desk.run (first ++ second) = (desk.run first).run second :=
  List.foldl_append

@[simp] theorem presenter_changeScene (change : Scene → Scene) (desk : Desk) :
    (desk.changeScene change).presenter = desk.presenter := rfl

@[simp] theorem presenter_changeBinding (change : Binding → Binding) (desk : Desk) :
    (desk.changeBinding change).presenter = desk.presenter := rfl

/-- Ending a binding concerns the scene only. -/
@[simp] theorem presenter_unbind (desk : Desk) : desk.unbind.presenter = desk.presenter := by
  unfold unbind
  split <;> rfl

/-- After a teardown there is no transport. -/
theorem transport_teardown (amid : List Incident) (desk : Desk) :
    (desk.teardownAmid amid).presenter.mailbox.transport = .absent :=
  Mailbox.transport_close _ _

/-- Listening concerns the scene only. -/
@[simp] theorem presenter_listen (surface : Nat) (desk : Desk) :
    (desk.listen surface).presenter = desk.presenter := rfl

/-- A hint concerns the scene only. -/
@[simp] theorem presenter_hint (surface : Nat) (zeroCopy : Bool) (desk : Desk) :
    (desk.hint surface zeroCopy).presenter = desk.presenter := by
  cases zeroCopy <;> rfl

/-- Attaching concerns the scene only. -/
@[simp] theorem presenter_attach (surface : Nat) (zeroCopy : Bool) (desk : Desk) :
    (desk.attach surface zeroCopy).presenter = desk.presenter := by
  simp [attach]

/-- An object that is bound shows pictures, and frames are copied to it if its backend says so. -/
def IsTarget (desk : Desk) (surface : Nat) (zeroCopy : Bool) : Prop :=
  ∃ target, desk.scene.surfaces[surface]? = some target ∧ target.profile.isImage = true ∧
    Backend.supportsZeroCopy target.profile.backend = zeroCopy

/-- An object that is bound is there. -/
theorem IsTarget.isSome {desk : Desk} {surface : Nat} {zeroCopy : Bool} (htarget : desk.IsTarget surface zeroCopy) :
    desk.scene.surfaces[surface]?.isSome = true := by
  obtain ⟨target, hfound, _⟩ := htarget
  rw [hfound]
  rfl

/-- Binding is refused without a change, or the surface is bound after the binding before has ended, and told if it is
to be hidden. -/
theorem bind_cases (unbound bound : List Incident) (surface : Nat) (desk : Desk) :
    (desk.bindAmid unbound bound surface = (.error .incompatibleSurface, desk)) ∨
    ∃ zeroCopy, desk.IsTarget surface zeroCopy ∧
      desk.bindAmid unbound bound surface =
        (.ok (), (((desk.unbind.elapse unbound).attach surface zeroCopy).elapse bound).announce) := by
  unfold bindAmid
  split
  · exact .inl rfl
  · next target htarget =>
    split
    · exact .inl rfl
    · next himage => exact .inr ⟨_, ⟨target, htarget, by simpa using himage, rfl⟩, rfl⟩

/-- A frame is dropped for the first of three reasons that applies, and then only a count changes; else it is sent
under the epoch of the bound surface. -/
theorem submit_cases (frame : SharedFrame) (desk : Desk) :
    (desk.presenter.state.canRender = false ∧
      desk.submit frame = (.dropped, desk.count fun tally =>
        { tally with droppedByState := tally.droppedByState + 1 })) ∨
    (desk.presenter.state.canRender = true ∧ desk.presenter.isSilenced = true ∧
      desk.submit frame = (.dropped, desk.count fun tally =>
        { tally with droppedBySource := tally.droppedBySource + 1 })) ∨
    (desk.presenter.state.canRender = true ∧ desk.presenter.isSilenced = false ∧
      desk.isBound = false ∧
      desk.submit frame = (.dropped, desk.count fun tally =>
        { tally with droppedUnbound := tally.droppedUnbound + 1 })) ∨
    (desk.presenter.state.canRender = true ∧ desk.presenter.isSilenced = false ∧
      ∃ binding surface, desk.binding? = some binding ∧ binding.surface = some surface ∧
        let sent := (desk.lease frame).send (.frame frame binding.epoch)
        desk.submit frame =
          if sent.1 then (.queued, sent.2.count fun tally => { tally with sent := tally.sent + 1 })
          else (.dropped, sent.2)) := by
  have hrefuse : ∀ reason, (desk.lease frame).refuse frame reason = (.dropped, desk.count reason) := by
    intro reason
    simp only [refuse, lease, count, Leases.release_take]
  unfold submit
  dsimp only
  rw [hrefuse, hrefuse, hrefuse]
  split
  · next hstate => exact .inl ⟨by simpa [lease] using hstate, rfl⟩
  · next hstate =>
    have hrender : desk.presenter.state.canRender = true := by simpa [lease] using hstate
    refine .inr ?_
    split
    · next hsource => exact .inl ⟨hrender, hsource, rfl⟩
    · next hsource =>
      have hactive : desk.presenter.isSilenced = false := Bool.not_eq_true _ ▸ hsource
      refine .inr ?_
      split
      · next hbinding =>
        refine .inr ⟨hrender, hactive, _, _, hbinding, rfl, ?_⟩
        dsimp only
        generalize (desk.lease frame).send _ = sent
        obtain ⟨accepted, after⟩ := sent
        cases accepted <;> rfl
      · next hunbound =>
        refine .inl ⟨hrender, hactive, ?_, rfl⟩
        cases hbinding : desk.scene.binding? desk.owner with
        | none => simp [isBound, Scene.boundSurface?, hbinding]
        | some binding =>
          obtain ⟨surface, _, _, epoch, _, _, _⟩ := binding
          cases surface with
          | none => simp [isBound, Scene.boundSurface?, hbinding]
          | some surface => exact (hunbound _ _ _ _ _ _ _ hbinding).elim

end Desk

end FramePath

import FramePath.Proofs.Desk.Sites

/-!
# What stays under one binding

The terms of a binding are its link and whether frames are copied to its surface. They are set by a bind and stay
until the binding ends: no other deed leaves a surface bound on other terms than before.
-/

namespace FramePath

open Renderer (Call Job)

/-- The link of a binding, and whether frames are copied to its surface. -/
structure Terms where
  link : Link
  zeroCopy : Bool
  deriving DecidableEq, Repr

/-- The terms of a binding. -/
def Binding.terms (binding : Binding) : Terms := ⟨binding.link, binding.zeroCopy⟩

namespace Scene

variable {owner : Nat} {scene : Scene} {binding : Binding}

/-- A surface that is bound after its listener heard of a destruction was bound before, on the same binding. -/
theorem binding_of_tellDestroyed {listener : Listener}
    (hbinding : (scene.tellDestroyed listener).binding? owner = some binding)
    (hbound : binding.surface.isSome = true) : scene.binding? owner = some binding := by
  unfold tellDestroyed at hbinding
  by_cases howner : listener.owner = owner
  · subst howner
    rw [binding_changeBinding] at hbinding
    obtain ⟨before, hbefore, hsame⟩ := Option.map_eq_some_iff.1 hbinding
    split at hsame
    · rw [← hsame] at hbound
      cases hbound
    · rw [hbefore, hsame]
  · rwa [binding_changeBinding_ne howner] at hbinding

/-- So it is after the whole destruction. -/
theorem binding_of_destroy {surface : Nat}
    (hbinding : (scene.destroy surface).binding? owner = some binding)
    (hbound : binding.surface.isSome = true) : scene.binding? owner = some binding := by
  unfold destroy at hbinding
  have hforgotten : (scene.changeSurface surface Surface.forget).binding? owner =
      scene.binding? owner := rfl
  rw [← hforgotten]
  generalize scene.listeners surface = told at hbinding
  generalize scene.changeSurface surface Surface.forget = forgotten at hbinding
  clear hforgotten
  induction told generalizing forgotten with
  | nil => exact hbinding
  | cons listener told ih => exact binding_of_tellDestroyed (ih _ hbinding) hbound

end Scene

namespace Backstage

/-- The binding when a call has gone on: a frame that is taken up leaves a note of its size. -/
def noted (call : Call) (progress : Progress Call) (binding : Binding) : Binding :=
  match call, progress with
  | .taken (.frame frame _), .waiting _ =>
      { binding with sizeApplied := true, content := some frame.frame.size }
  | _, _ => binding

/-- A step of the renderer changes its binding no more than that. -/
theorem Resumed.binding {call : Call} {stage after : Backstage} {progress : Progress Call}
    (hresumed : Resumed call stage progress after) :
    after.scene.binding? stage.renderer.owner =
      (stage.scene.binding? stage.renderer.owner).map (noted call progress) := by
  cases hresumed with
  | accepted frame epoch stage => exact Scene.binding_changeBinding _ _ _
  | sized job stage =>
    have hsame : (stage.scene.allocate job.surface job.frame.frame.size).binding? stage.renderer.owner =
        stage.scene.binding? stage.renderer.owner := by
      unfold Scene.binding?
      rw [Scene.bindings_allocate]
    exact hsame.trans Option.map_id_apply.symm
  | failed call stage =>
    have hnoted : noted call .failed = id := by
      funext binding
      unfold noted
      cases call with
      | taken envelope => cases envelope <;> rfl
      | _ => rfl
    rw [hnoted]
    exact Option.map_id_apply.symm
  | _ => exact Option.map_id_apply.symm

/-- Nor does it change the binding where no frame is taken up. -/
theorem Resumed.binding_same {call : Call} {stage after : Backstage} {progress : Progress Call}
    (hresumed : Resumed call stage progress after)
    (hother : ∀ frame epoch, call ≠ .taken (.frame frame epoch)) :
    after.scene.binding? stage.renderer.owner = stage.scene.binding? stage.renderer.owner := by
  have hnoted : noted call progress = id := by
    funext binding
    unfold noted
    split
    · next frame epoch _ => exact absurd rfl (hother frame epoch)
    · rfl
  rw [hresumed.binding, hnoted]
  exact Option.map_id_apply

/-- It leaves the terms in any case. -/
theorem Resumed.terms {call : Call} {stage after : Backstage} {progress : Progress Call}
    (hresumed : Resumed call stage progress after) :
    (after.scene.binding? stage.renderer.owner).map Binding.terms =
      (stage.scene.binding? stage.renderer.owner).map Binding.terms := by
  have hterms : ∀ binding, (noted call progress binding).terms = binding.terms := by
    intro binding
    unfold noted
    split <;> rfl
  rw [hresumed.binding, Option.map_map]
  exact congrArg (Option.map · _) (funext hterms)

end Backstage

namespace Desk

/-- The terms of the presenter's binding. -/
def terms? (desk : Desk) : Option Terms := desk.binding?.map Binding.terms

variable {desk : Desk} {link : Link} {zeroCopy : Bool}

/-- The terms are for the link. -/
theorem link_of_terms (hterms : desk.terms? = some ⟨link, zeroCopy⟩) : desk.link? = some link := by
  obtain ⟨binding, hbinding, hsame⟩ := Option.map_eq_some_iff.1 hterms
  exact (link_of_binding hbinding).trans (congrArg some (congrArg Terms.link hsame))

/-- A link has terms. -/
theorem terms_of_link (hlink : desk.link? = some link) :
    ∃ zeroCopy, desk.terms? = some ⟨link, zeroCopy⟩ := by
  obtain ⟨binding, hbinding, rfl⟩ := Option.map_eq_some_iff.1 hlink
  refine ⟨binding.zeroCopy, ?_⟩
  unfold terms?
  rw [show desk.binding? = some binding from hbinding]
  rfl

/-- Terms are those of a binding. -/
theorem binding_of_terms (hterms : desk.terms? = some ⟨link, zeroCopy⟩) :
    ∃ binding, desk.binding? = some binding ∧ binding.link = link ∧ binding.zeroCopy = zeroCopy := by
  obtain ⟨binding, hbinding, hsame⟩ := Option.map_eq_some_iff.1 hterms
  exact ⟨binding, hbinding, congrArg Terms.link hsame, congrArg Terms.zeroCopy hsame⟩

/-- A surface that is bound under an epoch makes the epoch current. -/
theorem isCurrent_of_terms {epoch surface : Nat}
    (hterms : desk.terms? = some ⟨⟨epoch, some surface⟩, zeroCopy⟩) : desk.backstage.IsCurrent epoch := by
  obtain ⟨binding, hbinding, hlink, _⟩ := binding_of_terms hterms
  exact ⟨binding, surface, hbinding, congrArg Link.surface hlink, congrArg Link.epoch hlink⟩

/-- Arrangements leave the terms. -/
theorem terms_arrange (arrangement : Arrangement) (desk : Desk) :
    (desk.arrange arrangement).terms? = desk.terms? :=
  arrange_binding (fun _ _ => rfl) arrangement desk

/-- A surface that is bound after a destruction was bound on the same terms. -/
theorem terms_of_destroy {gone epoch surface : Nat}
    (hterms : (desk.changeScene (.destroy gone)).terms? = some ⟨⟨epoch, some surface⟩, zeroCopy⟩) :
    desk.terms? = some ⟨⟨epoch, some surface⟩, zeroCopy⟩ := by
  obtain ⟨binding, hbinding, hsame⟩ := Option.map_eq_some_iff.1 hterms
  have hsurface : binding.surface = some surface := congrArg (fun terms => terms.link.surface) hsame
  have hbefore : desk.binding? = some binding :=
    Scene.binding_of_destroy hbinding (by rw [hsurface]; rfl)
  unfold terms?
  rw [hbefore]
  exact congrArg some hsame

/-- A step of the consumer leaves the terms. -/
theorem terms_advance (desk : Desk) : desk.advance.terms? = desk.terms? := by
  unfold terms? binding?
  rw [(stepped desk).owner]
  exact @scene_advance desk _ (fun scene => (scene.binding? desk.owner).map Binding.terms)
    fun hresumed => hresumed.terms

/-- A closed mailbox leaves the terms. -/
theorem terms_drained (leases : Leases) (tally : MailTally) (desk : Desk) :
    (desk.drained leases tally).terms? = desk.terms? := by
  unfold terms? binding?
  rw [owner_drained]
  rfl

end Desk

end FramePath

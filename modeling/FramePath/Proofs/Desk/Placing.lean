import FramePath.Proofs.Desk.Notices
import FramePath.Proofs.Desk.Tenure

/-!
# Where the picture is placed when a surface changes its size

The rectangle that a surface gets when its size changes is made from the size of the last frame that came to it under
the binding in force, else from that of its pixel buffer, else from its own. The consumer writes the size of a frame
down when it takes the frame up, before it calls any surface, and a notice may come at any time after that. `Placing`
keeps the frames taken up, each with its binding, and the fit last chosen; `Placed` is what every deed keeps of it,
and `resized_as_placed` what it comes to. The binding is the only one of its scene, so that of all who listen to a
surface one at most has it placed anew (`Scene.resize_current`).
-/

namespace FramePath

open Renderer (Call Job)

/-- What a new size of a surface finds: the frames taken up so far, each with the binding for which it was, and the fit
last chosen. -/
structure Placing where
  accepted : List Showing
  fit : Fit

namespace Desk

/-- The frame that the next step of the consumer takes up, with its binding, if it takes one up. -/
def takes (desk : Desk) : List Showing :=
  match desk.call?, desk.advance.call? with
  | some (.taken _), some (.approaching job _) => [⟨job.frame, job.bond⟩]
  | _, _ => []

end Desk

namespace Placing

/-- No frame was taken up, and the picture fills its surface. -/
def blank : Placing := ⟨[], .fill⟩

/-- The size of the last frame taken up under a binding. -/
def last? (bond : Bond) (placing : Placing) : Option Size :=
  ((placing.accepted.filter (·.bond == bond)).getLast?).map (·.frame.frame.size)

/-- The rectangle for a surface of this size. -/
def rect (bond : Bond) (scene : Scene) (size : Size) (placing : Placing) : FillRect :=
  placing.fit.place (((placing.last? bond).or (scene.bufferSize? bond.surface)).getD size) size

/-- The frames taken up are kept step by step, and the fit whenever one is chosen. -/
def keeper : Observer Placing where
  blank := blank
  note desk deed placing :=
    match deed with
    | .advance => { placing with accepted := placing.accepted ++ desk.takes }
    | .arrange (.fit fit) => { placing with fit }
    | _ => placing

/-- The last frame taken up is the one just taken up. -/
theorem last_concat (placing : Placing) (showing : Showing) :
    ({ placing with accepted := placing.accepted ++ [showing] } : Placing).last? showing.bond =
      some showing.frame.frame.size := by
  simp [last?]

/-- Under a binding for which no frame was taken up there is no last one. -/
theorem last_eq_none {placing : Placing} {bond : Bond}
    (hother : ∀ showing ∈ placing.accepted, showing.bond ≠ bond) : placing.last? bond = none := by
  have hnone : placing.accepted.filter (·.bond == bond) = [] := by
    refine List.filter_eq_nil_iff.2 fun showing hmem => ?_
    simpa using hother showing hmem
  unfold last?
  rw [hnone]
  rfl

end Placing

namespace Scene

variable {scene : Scene} {owner surface : Nat} {size : Size} {binding : Binding} {listener : Listener}

/-- How each presenter has its pictures placed. -/
def fits (scene : Scene) : List (Option Fit) := scene.bindings.map (Option.map Binding.fit)

/-- What is done to the fit of a binding is done to the one of its presenter. -/
theorem fits_changeBinding {change : Binding → Binding} {seen : Fit → Fit}
    (hchange : ∀ binding, (change binding).fit = seen binding.fit) (owner : Nat) (scene : Scene) :
    (scene.changeBinding owner change).fits = scene.fits.modify owner (Option.map seen) := by
  refine List.ext_getElem? fun place => ?_
  simp only [fits, changeBinding, List.getElem?_map, List.getElem?_modify]
  by_cases hplace : owner = place
  · cases scene.bindings[place]? with
    | none => simp [hplace]
    | some found => cases found <;> simp [hplace, hchange]
  · cases scene.bindings[place]? with
    | none => simp
    | some found => simp [hplace]

/-- A change that leaves the fit of a binding leaves them all. -/
theorem fits_changeBinding_same {change : Binding → Binding}
    (hchange : ∀ binding, (change binding).fit = binding.fit) (owner : Nat) (scene : Scene) :
    (scene.changeBinding owner change).fits = scene.fits := by
  have hsame : ∀ binding, (change binding).fit = id binding.fit := hchange
  rw [fits_changeBinding hsame, Option.map_id, List.modify_id]

/-- A destruction leaves the fits: they outlast a binding. -/
theorem fits_destroy (surface : Nat) (scene : Scene) : (scene.destroy surface).fits = scene.fits := by
  unfold destroy
  generalize scene.listeners surface = told
  have hforgotten : (scene.changeSurface surface Surface.forget).fits = scene.fits := rfl
  rw [← hforgotten]
  generalize scene.changeSurface surface Surface.forget = forgotten
  clear hforgotten
  induction told generalizing forgotten with
  | nil => rfl
  | cons listener told ih =>
    rw [List.foldl_cons, ih]
    refine fits_changeBinding_same (fun binding => ?_) listener.owner forgotten
    split
    · rfl
    · rfl

/-- So does a listener that joins. -/
theorem fits_connect (surface owner epoch : Nat) (scene : Scene) :
    (scene.connect surface owner epoch).2.fits = scene.fits := by
  unfold connect
  split
  · rfl
  · dsimp only
    split
    · exact fits_destroy _ _
    · rfl

/-- A notice of a new size for the epoch in force places the picture anew. -/
theorem tellResized_current (hbinding : scene.binding? listener.owner = some binding)
    (hepoch : binding.epoch = listener.epoch) (hsurface : binding.surface = some surface) :
    scene.tellResized size listener = scene.record surface
      (.fill (binding.fit.place ((binding.content.or (scene.bufferSize? surface)).getD size) size)) := by
  unfold tellResized
  rw [hbinding]
  dsimp only
  rw [if_neg (not_not_intro hepoch), hsurface]

/-- Whether a listener is one of an epoch in force. -/
def inForce (scene : Scene) (listener : Listener) : Bool :=
  (scene.binding? listener.owner).any (·.epoch == listener.epoch)

/-- Of all who are told of a new size, only those of an epoch in force have anything placed. -/
theorem foldl_tellResized (size : Size) (told : List Listener) (scene : Scene) :
    told.foldl (tellResized size) scene = (told.filter scene.inForce).foldl (tellResized size) scene := by
  induction told generalizing scene with
  | nil => rfl
  | cons listener told ih =>
    rw [List.foldl_cons, ih]
    have hsame : (scene.tellResized size listener).inForce = scene.inForce := by
      rcases tellResized_cases size scene listener with hquiet | ⟨placed, rect, hrecord⟩
      · rw [hquiet]
      · rw [hrecord]
        rfl
    rw [hsame]
    cases hforce : scene.inForce listener with
    | true => rw [List.filter_cons_of_pos hforce, List.foldl_cons]
    | false =>
      have hstale : scene.tellResized size listener = scene := by
        refine tell_stale (.resized size) fun binding hbinding hepoch => ?_
        simp [inForce, hbinding, hepoch] at hforce
      rw [List.filter_cons_of_neg (by simp [hforce]), hstale]

/-- Where the presenter's binding is the only one and one listener is there for it, a new size of the surface places
the picture once. -/
theorem resize_current (hbindings : scene.bindings = [some binding]) (hsurface : binding.surface = some surface)
    {id : Nat} (hlisteners : (scene.listeners surface).filter
      (fun listener => listener.owner == 0 && listener.epoch == binding.epoch) = [⟨id, 0, binding.epoch⟩]) :
    scene.resize surface size = scene.record surface
      (.fill (binding.fit.place ((binding.content.or (scene.bufferSize? surface)).getD size) size)) := by
  have hown : scene.binding? 0 = some binding := by
    unfold binding?
    rw [hbindings]
    rfl
  have hforce : scene.inForce = fun listener => listener.owner == 0 && listener.epoch == binding.epoch := by
    funext listener
    unfold inForce
    by_cases howner : listener.owner = 0
    · rw [howner, hown]
      exact Bool.beq_comm
    · have hnone : scene.binding? listener.owner = none := by
        unfold binding?
        rw [hbindings]
        simp [howner]
      rw [hnone]
      simp [howner]
  unfold resize
  rw [foldl_tellResized, hforce, hlisteners, List.foldl_cons, List.foldl_nil]
  exact tellResized_current hown rfl hsurface

/-- A surface that changes its size when its pixel buffer gets one says so once the pixel buffer has it. -/
theorem allocate_resized {scene : Scene} {surface : Nat} {size newSize : Size}
    (hprofile : scene.surfaces[surface]?.bind (·.profile.resizedOnSize) = some newSize) :
    scene.allocate surface size = (scene.changeSurface surface (.allocate size)).resize surface newSize := by
  obtain ⟨target, htarget, hresized⟩ := Option.bind_eq_some_iff.1 hprofile
  have hallocated : (scene.changeSurface surface (.allocate size)).surfaces[surface]? =
      some (target.allocate size) := by
    unfold changeSurface
    rw [List.getElem?_modify_eq, htarget]
    rfl
  unfold allocate
  dsimp only
  rw [hallocated, Option.bind_some, show (target.allocate size).profile.resizedOnSize = some newSize from hresized]

end Scene

/-- A step of the renderer leaves the fits. -/
theorem Backstage.Resumed.fits {call : Call} {stage after : Backstage} {progress : Progress Call}
    (hresumed : Resumed call stage progress after) : after.scene.fits = stage.scene.fits := by
  cases hresumed with
  | accepted =>
    refine Scene.fits_changeBinding_same ?_ _ _
    exact fun _ => rfl
  | sized job =>
    show (stage.scene.allocate job.surface job.frame.frame.size).fits = stage.scene.fits
    unfold Scene.fits
    rw [Scene.bindings_allocate]
  | _ => rfl

namespace Desk

variable {desk : Desk} {placing : Placing} {binding : Binding} {deed : Deed}

/-- The end of a binding leaves the fits. -/
theorem fits_unbind (desk : Desk) : desk.unbind.scene.fits = desk.scene.fits := by
  have hcleared : (desk.changeBinding Binding.cleared).scene.fits = desk.scene.fits := by
    refine Scene.fits_changeBinding_same ?_ _ _
    exact fun _ => rfl
  unfold unbind
  dsimp only
  split
  · exact hcleared
  · exact hcleared

/-- So does a surface that is attached. -/
theorem fits_attach (surface : Nat) (zeroCopy : Bool) (desk : Desk) :
    (desk.attach surface zeroCopy).scene.fits = desk.scene.fits := by
  have hlistened (desk : Desk) : (desk.listen surface).scene.fits = desk.scene.fits := by
    refine (Scene.fits_changeBinding_same ?_ _ _).trans (Scene.fits_connect _ _ _ _)
    exact fun _ => rfl
  have hbound (desk : Desk) : (desk.changeBinding (.boundTo surface zeroCopy)).scene.fits = desk.scene.fits := by
    refine Scene.fits_changeBinding_same ?_ _ _
    exact fun _ => rfl
  have hhinted : (desk.hint surface zeroCopy).scene.fits = desk.scene.fits := by
    cases zeroCopy <;> rfl
  unfold attach
  rw [hlistened, hbound, hhinted]

/-- So does a step of the consumer. -/
theorem fits_advance (desk : Desk) : desk.advance.scene.fits = desk.scene.fits :=
  scene_advance fun hresumed => hresumed.fits

/-- A deed leaves the fits, unless it is the choice of one. -/
theorem fits_perform (hallows : desk.Allows deed) (hother : ∀ fit, deed ≠ .arrange (.fit fit)) :
    (desk.perform deed).scene.fits = desk.scene.fits := by
  by_cases hadvance : deed = .advance
  · rw [hadvance]
    exact fits_advance desk
  refine scene_perform Scene.fits hallows hadvance (fun surface zeroCopy => fits_attach surface zeroCopy desk)
    (fits_unbind desk) (fun surface => Scene.fits_destroy surface desk.scene) fun arrangement hdeed => ?_
  cases arrangement with
  | fit fit => exact absurd hdeed (hother fit)
  | resize surface size =>
    show (desk.scene.resize surface size).fits = desk.scene.fits
    unfold Scene.fits
    rw [Scene.bindings_resize]
  | _ => rfl

/-- A step of the consumer takes no frame up and leaves the binding, or it takes one up for the binding in force, which
takes note of its size. -/
theorem takes_cases (desk : Desk) :
    (desk.takes = [] ∧ desk.advance.binding? = desk.binding?) ∨
      ∃ frame binding surface, desk.binding? = some binding ∧ binding.surface = some surface ∧
        desk.takes = [⟨frame, ⟨binding.epoch, surface⟩⟩] ∧
        desk.advance.binding? =
          some { binding with sizeApplied := true, content := some frame.frame.size } := by
  have hkind := advanced desk
  have howner := (stepped desk).owner
  unfold takes binding?
  rw [howner]
  generalize desk.advance = after at hkind ⊢
  cases hkind with
  | resting hidle =>
    rw [(quiet_of_idle hidle).1]
    exact .inl ⟨rfl, rfl⟩
  | taken envelope queue htransport =>
    rw [call_running htransport]
    exact .inl ⟨rfl, rfl⟩
  | waiting call next queue stage htransport hresumed =>
    have hbinding := hresumed.binding
    rw [call_running htransport]
    cases hresumed with
    | accepted frame epoch _ binding surface hfound hsurface hepoch =>
      subst hepoch
      refine .inr ⟨frame, binding, surface, hfound, hsurface, rfl, hbinding.trans ?_⟩
      rw [hfound]
      rfl
    | revealing => exact .inl ⟨rfl, rfl⟩
    | _ => exact .inl ⟨rfl, hbinding.trans Option.map_id_apply⟩
  | returned call queue stage htransport hresumed =>
    have hbinding := hresumed.binding
    rw [call_running htransport]
    cases hresumed <;> exact .inl ⟨rfl, hbinding.trans Option.map_id_apply⟩
  | failed call queue stage htransport hresumed =>
    have hbinding := hresumed.binding
    rw [call_running htransport]
    cases hresumed
    exact .inl ⟨by cases call <;> rfl, rfl⟩

/-- The fit of the only binding is the one last chosen, and its content the size of the last frame taken up for it. No
frame was taken up under an epoch that has not begun. -/
structure Placed (desk : Desk) (placing : Placing) : Prop where
  owner : desk.owner = 0
  fits : desk.scene.fits = [some placing.fit]
  content : ∀ {binding surface}, desk.binding? = some binding → binding.surface = some surface →
    binding.content = placing.last? ⟨binding.epoch, surface⟩
  begun : ∀ showing ∈ placing.accepted, showing.bond.epoch ≤ desk.epoch

namespace Placed

/-- The presenter's binding is the only one. -/
theorem found (hplaced : desk.Placed placing) :
    ∃ binding, desk.scene.bindings = [some binding] ∧ desk.binding? = some binding ∧
      binding.fit = placing.fit := by
  obtain ⟨bound, hbindings, hfit⟩ := List.map_eq_singleton_iff.1 hplaced.fits
  obtain ⟨binding, rfl, hsame⟩ := Option.map_eq_some_iff.1 hfit
  refine ⟨binding, hbindings, ?_, hsame⟩
  unfold binding? Scene.binding?
  rw [hplaced.owner, hbindings]
  rfl

/-- Nothing was taken up yet under the epochs that are to come. -/
theorem last_later (hplaced : desk.Placed placing) {bond : Bond} (hlater : desk.epoch < bond.epoch) :
    placing.last? bond = none := by
  refine Placing.last_eq_none fun showing hmem hsame => ?_
  have hbegun := hplaced.begun showing hmem
  rw [hsame] at hbegun
  omega

/-- A step of the consumer keeps the notes in order. -/
theorem advance (hplaced : desk.Placed placing) :
    desk.advance.Placed { placing with accepted := placing.accepted ++ desk.takes } := by
  have hstep := stepped desk
  have hepoch : desk.advance.epoch = desk.epoch := by
    unfold Desk.epoch
    rw [hstep.link]
  refine ⟨hstep.owner.trans hplaced.owner, (fits_advance desk).trans hplaced.fits, ?_, ?_⟩
  · intro binding surface hbinding hsurface
    rcases takes_cases desk with ⟨hnone, hsame⟩ | ⟨frame, before, bound, hbefore, hbound, htakes, hafter⟩
    · rw [hnone, List.append_nil]
      exact hplaced.content (hsame.symm.trans hbinding) hsurface
    · cases hafter.symm.trans hbinding
      cases hbound.symm.trans hsurface
      rw [htakes]
      exact (Placing.last_concat placing ⟨frame, ⟨before.epoch, surface⟩⟩).symm
  · intro showing hmem
    rw [hepoch]
    rcases List.mem_append.1 hmem with hold | hnew
    · exact hplaced.begun showing hold
    · rcases takes_cases desk with ⟨hnone, _⟩ | ⟨frame, before, bound, hbefore, _, htakes, _⟩
      · rw [hnone] at hnew
        cases hnew
      · rw [htakes] at hnew
        cases List.mem_singleton.1 hnew
        have hlink := link_of_binding hbefore
        exact Nat.le_of_eq (epoch_of_link hlink).symm

/-- A calm deed keeps the notes in order: a binding that it begins has no content, and no frame of it was taken up. -/
theorem calm (hplaced : desk.Placed placing) (hallows : desk.Allows deed) (hother : deed ≠ .advance)
    {fit : Fit} (hfits : (desk.perform deed).scene.fits = [some fit]) :
    (desk.perform deed).Placed { placing with fit } := by
  obtain ⟨current, _, hcurrent, _⟩ := hplaced.found
  have hlink := link_of_binding hcurrent
  obtain ⟨next, hnext, hprecedes⟩ := link_perform hlink hallows
  refine ⟨(Desk.calm hallows hother).owner.trans hplaced.owner, hfits, ?_, fun showing hmem => ?_⟩
  · intro binding surface hbinding hsurface
    rcases bound_perform hallows hother hbinding hsurface with
      ⟨fit, hkept⟩ | ⟨before, zeroCopy, listener, _, hbefore, rfl⟩
    · have hcontent := hplaced.content hkept hsurface
      exact hcontent
    · have hepoch : desk.epoch = before.epoch :=
        epoch_of_link (link_of_binding hbefore)
      refine (hplaced.last_later ?_).symm
      rw [hepoch]
      exact Nat.lt_succ_self before.epoch
  · rw [epoch_of_link hnext]
    have hbegun := hplaced.begun showing hmem
    rw [epoch_of_link hlink] at hbegun
    exact Nat.le_trans hbegun hprecedes.epoch_le

/-- Every deed keeps the notes in order. -/
theorem perform (hplaced : desk.Placed placing) (hallows : desk.Allows deed) :
    (desk.perform deed).Placed (Placing.keeper.note desk deed placing) := by
  by_cases hadvance : deed = .advance
  · subst hadvance
    exact hplaced.advance
  · by_cases hfit : ∃ fit, deed = .arrange (.fit fit)
    · obtain ⟨fit, rfl⟩ := hfit
      refine hplaced.calm hallows hadvance ?_
      have hchosen : (desk.setFit fit).scene.fits = desk.scene.fits.modify desk.owner (Option.map fun _ => fit) :=
        Scene.fits_changeBinding (fun _ => rfl) _ _
      refine hchosen.trans ?_
      rw [hplaced.fits, hplaced.owner]
      rfl
    · have hother : ∀ fit, deed ≠ .arrange (.fit fit) := fun fit hsame => hfit ⟨fit, hsame⟩
      have hnote : Placing.keeper.note desk deed placing = { placing with fit := placing.fit } := by
        cases deed with
        | advance => exact absurd rfl hadvance
        | arrange arrangement =>
          cases arrangement with
          | fit fit => exact absurd rfl (hother fit)
          | _ => rfl
        | _ => rfl
      rw [hnote]
      exact hplaced.calm hallows hadvance ((fits_perform hallows hother).trans hplaced.fits)

end Placed

/-- After every run of a new presenter the notes are in order. -/
theorem placed_run (surfaces : List Surface) (id : Nat) (acts : List Act) :
    ((opened surfaces id).run acts).Placed (Placing.keeper.onRun surfaces id acts) := by
  refine Observer.run_keeps (fun _ _ _ hallows hplaced => hplaced.perform hallows) surfaces id acts
    ⟨rfl, rfl, ?_, nofun⟩
  intro binding surface hbinding hsurface
  cases hbinding
  cases hsurface

namespace Placed

variable {bond : Bond} {scene : Scene} {size : Size}

/-- The binding in force, with the fit last chosen and the size of the last frame taken up for it. -/
theorem inForce (hplaced : desk.Placed placing) (hbond : desk.bond? = some bond) :
    ∃ binding, desk.scene.bindings = [some binding] ∧ desk.binding? = some binding ∧
      binding.surface = some bond.surface ∧ binding.epoch = bond.epoch ∧ binding.fit = placing.fit ∧
      binding.content = placing.last? bond := by
  obtain ⟨binding, hbindings, hbinding, hfit⟩ := hplaced.found
  have hlink := (link_of_binding hbinding).symm.trans (link_of_bond hbond)
  have hepoch : binding.epoch = bond.epoch := congrArg Link.epoch (Option.some.inj hlink)
  have hsurface : binding.surface = some bond.surface := congrArg Link.surface (Option.some.inj hlink)
  have hcontent := hplaced.content hbinding hsurface
  rw [hepoch] at hcontent
  exact ⟨binding, hbindings, hbinding, hsurface, hepoch, hfit, hcontent⟩

/-- A notice of a new size for the binding in force has the picture placed by the notes. -/
theorem tells (hplaced : desk.Placed placing) (hbond : desk.bond? = some bond) (id : Nat) :
    desk.scene.tell (.resized size) ⟨id, desk.owner, bond.epoch⟩ =
      desk.scene.record bond.surface (.fill (placing.rect bond desk.scene size)) := by
  obtain ⟨binding, _, hbinding, hsurface, hepoch, hfit, hcontent⟩ := hplaced.inForce hbond
  have htold := @Scene.tellResized_current desk.scene bond.surface size binding
    ⟨id, desk.owner, bond.epoch⟩ hbinding hepoch hsurface
  rw [hfit, hcontent] at htold
  exact htold

/-- A new size of the bound surface has the picture placed once by the notes, in every scene with the bindings and the
listeners of the desk. -/
theorem resizes (hplaced : desk.Placed placing) (hlistening : desk.Listening binding) (hsited : desk.Sited)
    (hbond : desk.bond? = some bond) (hbindings : scene.bindings = desk.scene.bindings)
    (hrolls : scene.rolls = desk.scene.rolls) :
    scene.resize bond.surface size =
      scene.record bond.surface (.fill (placing.rect bond scene size)) := by
  obtain ⟨current, halone, hcurrent, hsurface, _, hfit, hcontent⟩ := hplaced.inForce hbond
  cases hlistening.found.symm.trans hcurrent
  obtain ⟨id, hid⟩ := Option.isSome_iff_exists.1 (hlistening.named (by rw [hsurface]; rfl))
  have hthere : bond.surface < desk.scene.rolls.length := by
    rw [Scene.rolls, Scene.length_view]
    exact hsited.bound (link_of_bond hbond)
  have hroll := List.getElem?_eq_getElem hthere
  have hheard := hlistening.attended.current hroll
  rw [if_pos hsurface, hid, hplaced.owner] at hheard
  have honce : (scene.listeners bond.surface).filter
      (fun listener => listener.owner == 0 && listener.epoch == binding.epoch) = [⟨id, 0, binding.epoch⟩] := by
    rw [Scene.listeners_rolls, hrolls, hroll]
    exact hheard
  have hresized := @Scene.resize_current scene bond.surface size binding (hbindings.trans halone) hsurface id honce
  rw [hfit, hcontent] at hresized
  exact hresized

end Placed

/-- A call that is to give a pixel buffer its size and does not fail gives it. -/
theorem scene_sizing {job : Job} (hcall : desk.call? = some (.sizing job)) (halive : desk.advance.isDead = false) :
    desk.advance.scene = desk.scene.allocate job.surface job.frame.frame.size := by
  have hkind := advanced desk
  generalize desk.advance = after at hkind halive ⊢
  cases hkind with
  | resting hidle =>
    rw [(quiet_of_idle hidle).1] at hcall
    cases hcall
  | taken envelope queue htransport =>
    rw [call_running htransport] at hcall
    cases hcall
  | waiting call next queue stage htransport hresumed =>
    cases (call_running htransport).symm.trans hcall
    cases hresumed
    rfl
  | returned call queue stage htransport hresumed =>
    cases (call_running htransport).symm.trans hcall
    cases hresumed
  | failed => cases halive

/-- A frame is taken up exactly if a surface is bound under the epoch that it was sent in. -/
theorem takes_taken {frame : SharedFrame} {epoch : Nat} (hcall : desk.call? = some (.taken (.frame frame epoch))) :
    desk.takes = ((desk.bond?.filter (·.epoch == epoch)).map (Showing.mk frame)).toList := by
  have hkind := advanced desk
  unfold takes
  rw [hcall]
  generalize desk.advance = after at hkind ⊢
  cases hkind with
  | resting hidle =>
    rw [(quiet_of_idle hidle).1] at hcall
    cases hcall
  | taken envelope queue htransport =>
    rw [call_running htransport] at hcall
    cases hcall
  | waiting call next queue stage htransport hresumed =>
    cases (call_running htransport).symm.trans hcall
    cases hresumed with
    | accepted _ _ _ binding surface hbinding hsurface hepoch =>
      have hbond : desk.bond? = some ⟨epoch, surface⟩ := by
        rw [bond_of_link (link_of_bound hbinding hsurface), hepoch]
      rw [hbond, Option.filter_some, if_pos (beq_self_eq_true epoch)]
      rfl
  | returned call queue stage htransport hresumed =>
    cases (call_running htransport).symm.trans hcall
    cases hresumed with
    | stale _ _ _ hstale =>
      have hnone : desk.bond?.filter (·.epoch == epoch) = none := by
        refine Option.filter_eq_none_iff.2 fun bond hbond hepoch => hstale ?_
        obtain ⟨binding, hbinding, hlink⟩ := Option.map_eq_some_iff.1 (link_of_bond hbond)
        refine ⟨binding, bond.surface, hbinding, congrArg Link.surface hlink, ?_⟩
        exact (congrArg Link.epoch hlink).trans (by simpa using hepoch)
      rw [hnone]
      rfl
  | failed call queue stage htransport hresumed =>
    cases (call_running htransport).symm.trans hcall
    cases hresumed with
    | failed _ _ point hpoint => cases hpoint

/-- Whatever the consumer is at, a notice of a new size for the binding in force has the picture placed once on the
bound surface, and does nothing else at the desk. The rectangle is made by the fit last chosen for the size of the
last frame taken up under this binding, else for that of the pixel buffer, else for the new size itself. So it is when
the bound surface changes its size, and when it does so because the consumer gives its pixel buffer a size, for this
binding or for one before it. A frame counts from the moment it is taken up, which it is exactly if a surface is bound
under its epoch; under a binding that has just begun none was. -/
theorem resized_as_placed {surfaces : List Surface} (id : Nat)
    (hunknown : ∀ surface ∈ surfaces, ∀ listener ∈ surface.listeners, listener.owner ≠ 0) (acts : List Act) :
    let desk := (opened surfaces id).run acts
    let placing := Placing.keeper.onRun surfaces id acts
    (∀ bond, desk.bond? = some bond → ∀ size,
      let filled (scene : Scene) := scene.record bond.surface (.fill (placing.rect bond scene size))
      (∀ listener, desk.changeScene (.tell (.resized size) ⟨listener, desk.owner, bond.epoch⟩) =
        desk.changeScene filled) ∧
      desk.act (.resize bond.surface size) = desk.changeScene filled ∧
      ∀ job, desk.call? = some (.sizing job) → job.surface = bond.surface → desk.advance.isDead = false →
        desk.scene.surfaces[bond.surface]?.bind (·.profile.resizedOnSize) = some size →
        desk.advance.scene =
          filled (desk.scene.changeSurface bond.surface (.allocate job.frame.frame.size))) ∧
    (∀ frame epoch, desk.call? = some (.taken (.frame frame epoch)) →
      (Placing.keeper.onRun surfaces id (acts ++ [.advance])).accepted = placing.accepted ++
        ((desk.bond?.filter (·.epoch == epoch)).map (Showing.mk frame)).toList) ∧
    ∀ surface unbound bound bond, desk.binds surface = true →
      (desk.bindAmid unbound bound surface).2.bond? = some bond → placing.last? bond = none := by
  have hplaced := placed_run surfaces id acts
  have hsited := sited_run surfaces id acts
  obtain ⟨binding, hlistening⟩ := listening_run id hunknown acts
  dsimp only
  refine ⟨fun bond hbond size => ⟨fun listener => ?_, ?_, fun job hcall hsurface halive hprofile => ?_⟩,
    fun frame epoch hcall => ?_, fun surface unbound bound bond hbinds hbond => ?_⟩
  · unfold changeScene
    rw [hplaced.tells hbond]
  · show changeScene (.resize bond.surface size) _ = _
    unfold changeScene
    rw [hplaced.resizes hlistening hsited hbond rfl rfl]
  · have hrolls := @Scene.view_changeSurface_same _ Surface.roll (.allocate job.frame.frame.size) (fun _ => rfl)
      bond.surface ((opened surfaces id).run acts).scene
    rw [scene_sizing hcall halive, hsurface, Scene.allocate_resized hprofile]
    exact hplaced.resizes hlistening hsited hbond rfl hrolls
  · unfold Observer.onRun
    rw [course_append, Observer.notes_append, performAll_course]
    exact congrArg (_ ++ ·) (takes_taken hcall)
  · refine hplaced.last_later ?_
    obtain ⟨link, hlink⟩ := hsited.link
    rcases link_bind unbound bound surface hlink with hrefused | ⟨first, after, hlater, hafter, hloses⟩
    · rw [binds_eq unbound bound, hrefused] at hbinds
      cases hbinds
    · cases hafter.symm.trans (link_of_bond hbond)
      rw [epoch_of_link hlink]
      exact Nat.lt_of_lt_of_le hlater hloses.precedes.epoch_le

/-- A surface that changes its size when its pixel buffer gets one. -/
def growingSurface : Surface := .new ⟨"opengl", true, false, false, false, some ⟨8, 8⟩⟩ none

/-- A frame has been taken up and is about to give the pixel buffer its size. -/
def sizingFirst : List Act :=
  [.setState .paused, .bind 0, .setFit .keepAspect, .submit ⟨7, ⟨#[], ⟨1, 2⟩, .rgba, 7⟩⟩, .advance, .advance,
    .advance]

theorem resized_as_placed_sizing :
    let desk := (opened [growingSurface] 1).run sizingFirst
    let placing := Placing.keeper.onRun [growingSurface] 1 sizingFirst
    let filled (size : Size) (scene : Scene) := scene.record 0 (.fill (Fit.keepAspect.place ⟨1, 2⟩ size))
    desk.changeScene (.tell (.resized ⟨9, 9⟩) ⟨1, desk.owner, 2⟩) = desk.changeScene (filled ⟨9, 9⟩) ∧
      desk.act (.resize 0 ⟨4, 4⟩) = desk.changeScene (filled ⟨4, 4⟩) ∧
      desk.advance.scene = filled ⟨8, 8⟩ (desk.scene.changeSurface 0 (.allocate ⟨1, 2⟩)) ∧
      placing.last? ⟨4, 0⟩ = none := by
  have hunknown : ∀ surface ∈ [growingSurface], ∀ listener ∈ surface.listeners, listener.owner ≠ 0 := by
    intro surface hsurface listener hlistener
    cases List.mem_singleton.1 hsurface
    cases hlistener
  obtain ⟨hfilled, _, hfresh⟩ := resized_as_placed 1 hunknown sizingFirst
  have hbond : ((opened [growingSurface] 1).run sizingFirst).bond? = some ⟨2, 0⟩ := by decide +kernel
  have hlast : (Placing.keeper.onRun [growingSurface] 1 sizingFirst).last? ⟨2, 0⟩ = some ⟨1, 2⟩ := by
    decide +kernel
  have hfit : (Placing.keeper.onRun [growingSurface] 1 sizingFirst).fit = .keepAspect := by decide +kernel
  have hrect (scene : Scene) (size : Size) :
      (Placing.keeper.onRun [growingSurface] 1 sizingFirst).rect ⟨2, 0⟩ scene size =
        Fit.keepAspect.place ⟨1, 2⟩ size := by
    unfold Placing.rect
    rw [hlast, hfit]
    rfl
  have htold := (hfilled _ hbond ⟨9, 9⟩).1 1
  have hresized := (hfilled _ hbond ⟨4, 4⟩).2.1
  have hsized := (hfilled _ hbond ⟨8, 8⟩).2.2
    ⟨⟨7, ⟨#[], ⟨1, 2⟩, .rgba, 7⟩⟩, 2, 0, false, none⟩ (by decide +kernel) rfl (by decide +kernel)
    (by decide +kernel)
  simp only [hrect] at htold hresized hsized
  exact ⟨htold, hresized, hsized, hfresh 0 [] [] ⟨4, 0⟩ (by decide +kernel) (by decide +kernel)⟩

end Desk

end FramePath

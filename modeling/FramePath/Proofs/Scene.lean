import FramePath.Scene

/-!
# What changes in a scene

Two things in a scene matter to whoever watches a presenter: which frames each surface was given, and which
surface is bound under which epoch. The first is a view of the surfaces, and each change of a surface that
leaves a view alone leaves it alone in the scene. The second is the link of a binding; only a bind, the
end of a binding and the destruction of a surface change it.
-/

namespace FramePath

/-- What is read off a log, the oldest first, when one more call is written down. -/
theorem Surface.read_record {α : Type} (read : SurfaceCall → Option α) (call : SurfaceCall)
    (surface : Surface) : (surface.record call).log.reverse.filterMap read =
      surface.log.reverse.filterMap read ++ (read call).toList := by
  simp only [record, List.reverse_cons, List.filterMap_append]
  cases hread : read call with
  | none => simp [hread]
  | some seen => simp [hread]

/-- The frame whose pixels a call gives to a surface. -/
def SurfaceCall.given? : SurfaceCall → Option SharedFrame
  | .lend frame | .write frame _ => some frame
  | _ => none

/-- The frames that a surface was given, the oldest first. -/
def Surface.given (surface : Surface) : List SharedFrame :=
  surface.log.reverse.filterMap SurfaceCall.given?

/-- A call that is written down gives its frame, if it has one. -/
theorem Surface.given_record (call : SurfaceCall) (surface : Surface) :
    (surface.record call).given = surface.given ++ call.given?.toList :=
  surface.read_record SurfaceCall.given? call

/-- Under which epoch a presenter stands, and which surface is bound, if one is. -/
structure Link where
  epoch : Nat
  surface : Option Nat
  deriving DecidableEq, Repr

namespace Link

/-- The binding of an epoch is over: a later one began, or the surface is gone. -/
def HasEnded (epoch : Nat) (link : Link) : Prop :=
  epoch < link.epoch ∨ epoch = link.epoch ∧ link.surface = none

/-- Nothing happened, or a later epoch began. -/
def Precedes (before after : Link) : Prop := after = before ∨ before.epoch < after.epoch

/-- Nothing happened, or the surface is gone and a later epoch began. -/
def Loses (before after : Link) : Prop :=
  after = before ∨ before.epoch < after.epoch ∧ after.surface = none

variable {first second third : Link} {epoch : Nat}

/-- Time goes on. -/
theorem Precedes.trans (hfirst : first.Precedes second) (hsecond : second.Precedes third) :
    first.Precedes third := by
  unfold Precedes at *
  rcases hsecond with rfl | hlater
  · exact hfirst
  · rcases hfirst with rfl | hearlier
    · exact .inr hlater
    · exact .inr (Nat.lt_trans hearlier hlater)

/-- Epochs do not fall. -/
theorem Precedes.epoch_le (hprecedes : first.Precedes second) : first.epoch ≤ second.epoch := by
  rcases hprecedes with rfl | hless
  · exact Nat.le_refl _
  · exact Nat.le_of_lt hless

/-- What is lost stays lost. -/
theorem Loses.trans (hfirst : first.Loses second) (hsecond : second.Loses third) :
    first.Loses third := by
  unfold Loses at *
  rcases hsecond with rfl | ⟨hlater, hnone⟩
  · exact hfirst
  · rcases hfirst with rfl | ⟨hearlier, _⟩
    · exact .inr ⟨hlater, hnone⟩
    · exact .inr ⟨Nat.lt_trans hearlier hlater, hnone⟩

/-- A loss is something that happened. -/
theorem Loses.precedes (hloses : first.Loses second) : first.Precedes second := by
  rcases hloses with hsame | ⟨hlater, _⟩
  · exact .inl hsame
  · exact .inr hlater

/-- Where nothing is bound, nothing is bound after a loss. -/
theorem Loses.eq_of_none {after : Link} (hloses : Link.Loses ⟨epoch, none⟩ after) :
    after = ⟨after.epoch, none⟩ := by
  rcases hloses with rfl | ⟨_, hnone⟩
  · rfl
  · exact congrArg (Link.mk after.epoch) hnone

/-- An epoch that has ended does not come back. -/
theorem HasEnded.later (hended : first.HasEnded epoch) (hprecedes : first.Precedes second) :
    second.HasEnded epoch := by
  unfold HasEnded at *
  rcases hprecedes with rfl | hlater
  · exact hended
  · exact .inl (by omega)

end Link

/-- The link of a binding. -/
def Binding.link (binding : Binding) : Link := ⟨binding.epoch, binding.surface⟩

namespace Scene

/-- The link of a presenter's binding. -/
def link? (owner : Nat) (scene : Scene) : Option Link := (scene.binding? owner).map Binding.link

/-- Somebody listens to a surface for an epoch of a presenter. -/
def Hears (owner epoch surface : Nat) (scene : Scene) : Prop :=
  ∃ listener ∈ scene.listeners surface, listener.owner = owner ∧ listener.epoch = epoch

/-- The view of each surface. -/
def view {α : Type} (look : Surface → α) (scene : Scene) : List α := scene.surfaces.map look

/-- The frames that each surface was given. -/
def given (scene : Scene) : List (List SharedFrame) := scene.view Surface.given

variable {α : Type} {look : Surface → α}

/-- What a change of a surface does to a view of it, it does to the view of the scene. -/
theorem view_changeSurface {change : Surface → Surface} {seen : α → α}
    (hchange : ∀ surface, look (change surface) = seen (look surface)) (surface : Nat)
    (scene : Scene) :
    (scene.changeSurface surface change).view look = (scene.view look).modify surface seen := by
  refine List.ext_getElem? fun place => ?_
  simp only [view, changeSurface, List.getElem?_map, List.getElem?_modify]
  by_cases hplace : surface = place
  · cases scene.surfaces[place]? with
    | none => simp [hplace]
    | some found => simp [hplace, hchange]
  · cases scene.surfaces[place]? with
    | none => simp
    | some found => simp [hplace]

/-- A change that leaves the view of a surface alone leaves that of the scene alone. -/
theorem view_changeSurface_same {change : Surface → Surface}
    (hchange : ∀ surface, look (change surface) = look surface) (surface : Nat) (scene : Scene) :
    (scene.changeSurface surface change).view look = scene.view look := by
  have hsame : ∀ surface, look (change surface) = id (look surface) := hchange
  rw [view_changeSurface hsame, List.modify_id]

/-- A call that is written down gives its frame to its surface, if it has one. -/
theorem given_record (surface : Nat) (call : SurfaceCall) (scene : Scene) :
    (scene.record surface call).given = scene.given.modify surface (· ++ call.given?.toList) :=
  view_changeSurface (Surface.given_record call) surface scene

/-- A call without a frame gives none. -/
theorem given_record_quiet {call : SurfaceCall} (hquiet : call.given? = none) (surface : Nat)
    (scene : Scene) : (scene.record surface call).given = scene.given := by
  refine view_changeSurface_same (fun surface => ?_) surface scene
  rw [Surface.given_record, hquiet]
  exact List.append_nil _

/-- Telling of a new size may place the picture anew, and does nothing else. -/
theorem tellResized_cases (size : Size) (scene : Scene) (listener : Listener) :
    scene.tellResized size listener = scene ∨
      ∃ surface rect, scene.tellResized size listener = scene.record surface (.fill rect) := by
  unfold tellResized
  split
  · exact .inl rfl
  · split
    · exact .inl rfl
    · split
      · exact .inl rfl
      · exact .inr ⟨_, _, rfl⟩

/-- A view that does not see where the picture is placed does not see a change of size. -/
theorem view_resize (hfill : ∀ rect surface, look (surface.record (.fill rect)) = look surface)
    (surface : Nat) (size : Size) (scene : Scene) :
    (scene.resize surface size).view look = scene.view look := by
  unfold resize
  generalize scene.listeners surface = told
  induction told generalizing scene with
  | nil => rfl
  | cons listener told ih =>
    rw [List.foldl_cons, ih]
    rcases tellResized_cases size scene listener with hquiet | ⟨placed, rect, hrecord⟩
    · rw [hquiet]
    · rw [hrecord]
      exact view_changeSurface_same (hfill rect) placed scene

/-- What a size for a pixel buffer does to a view of its surface, it does to the view of the scene, if the view does not
see where the picture is placed. -/
theorem view_allocate_seen {seen : α → α} {size : Size}
    (hfill : ∀ rect surface, look (surface.record (.fill rect)) = look surface)
    (hbuffer : ∀ surface, look (surface.allocate size) = seen (look surface))
    (surface : Nat) (scene : Scene) :
    (scene.allocate surface size).view look = (scene.view look).modify surface seen := by
  have hallocated := view_changeSurface hbuffer surface scene
  unfold allocate
  dsimp only
  split
  · exact hallocated
  · rw [view_resize hfill, hallocated]

/-- A view that sees neither the pixel buffer nor where the picture is placed does not see a pixel buffer
get a size. -/
theorem view_allocate (hfill : ∀ rect surface, look (surface.record (.fill rect)) = look surface)
    (hbuffer : ∀ size surface, look (surface.allocate size) = look surface)
    (surface : Nat) (size : Size) (scene : Scene) :
    (scene.allocate surface size).view look = scene.view look := by
  have hsame : ∀ surface, look (surface.allocate size) = id (look surface) := hbuffer size
  rw [view_allocate_seen hfill hsame, List.modify_id]

/-- Those who listen to a destroyed surface are told, which changes no surface. -/
theorem surfaces_destroy (surface : Nat) (scene : Scene) :
    (scene.destroy surface).surfaces = (scene.changeSurface surface Surface.forget).surfaces := by
  unfold destroy
  generalize scene.listeners surface = told
  generalize scene.changeSurface surface Surface.forget = forgotten
  induction told generalizing forgotten with
  | nil => rfl
  | cons listener told ih => exact ih (forgotten.tellDestroyed listener)

/-- What a destruction does to a view is what the destroyed surface forgets. -/
theorem view_destroy_forget (look : Surface → α) (surface : Nat) (scene : Scene) :
    (scene.destroy surface).view look = (scene.changeSurface surface Surface.forget).view look :=
  congrArg (List.map look) (surfaces_destroy surface scene)

/-- A view that does not see who listens does not see a destruction. -/
theorem view_destroy (hforget : ∀ surface, look surface.forget = look surface) (surface : Nat)
    (scene : Scene) : (scene.destroy surface).view look = scene.view look :=
  (view_destroy_forget look surface scene).trans (view_changeSurface_same hforget surface scene)

/-- A view that sees neither who listens nor who joins does not see a new listener, even if the surface is
destroyed at once. -/
theorem view_connect (hforget : ∀ surface, look surface.forget = look surface)
    (hconnect : ∀ owner epoch surface, look (Surface.connect owner epoch surface).2 = look surface)
    (surface owner epoch : Nat) (scene : Scene) :
    (scene.connect surface owner epoch).2.view look = scene.view look := by
  unfold connect
  split
  · rfl
  · next target htarget =>
    dsimp only
    have hjoined : (scene.changeSurface surface fun _ => (target.connect owner epoch).2).view look =
        scene.view look := by
      refine List.ext_getElem? fun place => ?_
      simp only [view, changeSurface, List.getElem?_map, List.getElem?_modify]
      by_cases hplace : surface = place
      · subst hplace
        simp [htarget, hconnect]
      · simp [hplace]
    split
    · rw [view_destroy hforget, hjoined]
    · exact hjoined

variable {owner other : Nat} {link : Link} {scene : Scene}

/-- A changed binding is found changed. -/
theorem binding_changeBinding (owner : Nat) (change : Binding → Binding) (scene : Scene) :
    (scene.changeBinding owner change).binding? owner = (scene.binding? owner).map change := by
  simp only [binding?, changeBinding, List.getElem?_modify_eq]
  cases scene.bindings[owner]? with
  | none => rfl
  | some found => rfl

/-- The bindings of others stay as they are. -/
theorem binding_changeBinding_ne (hother : other ≠ owner) (change : Binding → Binding)
    (scene : Scene) : (scene.changeBinding other change).binding? owner = scene.binding? owner := by
  simp only [binding?, changeBinding, List.getElem?_modify_ne _ _ hother]

/-- A change that leaves the link of a binding alone leaves all links alone. -/
theorem link_changeBinding_same {change : Binding → Binding}
    (hchange : ∀ binding, (change binding).link = binding.link) (other owner : Nat) (scene : Scene) :
    (scene.changeBinding other change).link? owner = scene.link? owner := by
  by_cases hother : other = owner
  · subst hother
    unfold link?
    rw [binding_changeBinding]
    cases scene.binding? other with
    | none => rfl
    | some binding => exact congrArg some (hchange binding)
  · exact congrArg (Option.map Binding.link) (binding_changeBinding_ne hother change scene)

/-- A change of size leaves all bindings alone. -/
theorem bindings_resize (surface : Nat) (size : Size) (scene : Scene) :
    (scene.resize surface size).bindings = scene.bindings := by
  unfold resize
  generalize scene.listeners surface = told
  induction told generalizing scene with
  | nil => rfl
  | cons listener told ih =>
    rw [List.foldl_cons, ih]
    rcases tellResized_cases size scene listener with hquiet | ⟨placed, rect, hrecord⟩
    · rw [hquiet]
    · rw [hrecord]
      rfl

/-- A size for a pixel buffer leaves all bindings alone. -/
theorem bindings_allocate (surface : Nat) (size : Size) (scene : Scene) :
    (scene.allocate surface size).bindings = scene.bindings := by
  unfold allocate
  dsimp only
  split
  · rfl
  · rw [bindings_resize]
    rfl

/-- The link depends on the bindings only. -/
theorem link_congr {scene other : Scene} (hsame : other.bindings = scene.bindings) (owner : Nat) :
    other.link? owner = scene.link? owner := by
  unfold link? binding?
  rw [hsame]

/-- Telling of a destruction ends the binding of the listener's owner and epoch, and no other. -/
theorem link_tellDestroyed (listener : Listener) (hlink : scene.link? owner = some link) :
    ∃ after, (scene.tellDestroyed listener).link? owner = some after ∧ link.Loses after ∧
      (listener.owner = owner → listener.epoch = link.epoch → after.HasEnded link.epoch) := by
  unfold link? tellDestroyed at *
  by_cases howner : listener.owner = owner
  · subst howner
    obtain ⟨binding, hbinding, rfl⟩ := Option.map_eq_some_iff.1 hlink
    rw [binding_changeBinding, hbinding]
    by_cases hepoch : binding.epoch = listener.epoch
    · refine ⟨binding.cleared.link, by simp [hepoch], .inr ⟨?_, rfl⟩, fun _ _ => .inl ?_⟩
      · exact Nat.lt_succ_self _
      · exact Nat.lt_succ_self _
    · refine ⟨binding.link, by simp [hepoch], .inl rfl, ?_⟩
      intro _ hsame
      exact absurd hsame.symm hepoch
  · rw [binding_changeBinding_ne howner]
    exact ⟨link, hlink, .inl rfl, fun hsame => absurd hsame howner⟩

/-- A destruction leaves a link alone or ends it, and it ends that of every epoch for which somebody listens to
the surface. -/
theorem link_destroy (surface : Nat) (hlink : scene.link? owner = some link) :
    ∃ after, (scene.destroy surface).link? owner = some after ∧ link.Loses after ∧
      (scene.Hears owner link.epoch surface → after.HasEnded link.epoch) := by
  have hforgotten : (scene.changeSurface surface Surface.forget).link? owner = some link := hlink
  unfold destroy Hears
  generalize scene.listeners surface = told
  generalize scene.changeSurface surface Surface.forget = forgotten at hforgotten
  clear hlink
  induction told generalizing forgotten link with
  | nil => exact ⟨link, hforgotten, .inl rfl, by simp⟩
  | cons listener told ih =>
    obtain ⟨next, hnext, hloses, hends⟩ := link_tellDestroyed listener hforgotten
    obtain ⟨after, hafter, hloses', hends'⟩ := ih _ hnext
    refine ⟨after, hafter, hloses.trans hloses', ?_⟩
    rintro ⟨heard, hheard, howner, hepoch⟩
    rcases List.mem_cons.1 hheard with rfl | hlater
    · exact (hends howner hepoch).later hloses'.precedes
    · rcases hloses with rfl | ⟨hgone, hnone⟩
      · exact hends' ⟨heard, hlater, howner, hepoch⟩
      · have hover : next.HasEnded link.epoch := .inl hgone
        exact hover.later hloses'.precedes

/-- A destruction gives nobody a binding. -/
theorem link_destroy_none (surface : Nat) (hnone : scene.link? owner = none) :
    (scene.destroy surface).link? owner = none := by
  have hforgotten : (scene.changeSurface surface Surface.forget).link? owner = none := hnone
  unfold destroy
  generalize scene.listeners surface = told
  generalize scene.changeSurface surface Surface.forget = forgotten at hforgotten
  clear hnone
  induction told generalizing forgotten with
  | nil => exact hforgotten
  | cons listener told ih =>
    refine ih (forgotten.tellDestroyed listener) ?_
    unfold link? tellDestroyed at *
    by_cases howner : listener.owner = owner
    · subst howner
      rw [binding_changeBinding, Option.map_eq_none_iff.1 hforgotten]
      rfl
    · rw [binding_changeBinding_ne howner]
      exact hforgotten

/-- A surface is there where any view of it is. -/
theorem isSome_congr {scene other : Scene} (hsame : other.view look = scene.view look) (place : Nat) :
    other.surfaces[place]?.isSome = scene.surfaces[place]?.isSome := by
  have hseen := congrArg (fun seen => seen[place]?.isSome) hsame
  simpa [view] using hseen

/-- Who listens depends on the view of the listeners only. -/
theorem listeners_congr {scene other : Scene}
    (hsame : other.view Surface.listeners = scene.view Surface.listeners) (surface : Nat) :
    other.listeners surface = scene.listeners surface := by
  unfold listeners
  rw [← List.getElem?_map, ← List.getElem?_map]
  exact congrArg (fun seen => (seen[surface]?).getD []) hsame

/-- So does for which epochs they listen. -/
theorem hears_congr {scene other : Scene} {owner epoch surface : Nat}
    (hsame : other.view Surface.listeners = scene.view Surface.listeners)
    (hhears : scene.Hears owner epoch surface) : other.Hears owner epoch surface := by
  unfold Hears
  rw [listeners_congr hsame]
  exact hhears

/-- A destruction of another surface leaves the listeners of this one alone. -/
theorem hears_destroy {owner epoch surface destroyed : Nat} (hother : destroyed ≠ surface)
    (hhears : scene.Hears owner epoch surface) :
    (scene.destroy destroyed).Hears owner epoch surface := by
  have hlisteners : (scene.destroy destroyed).listeners surface = scene.listeners surface := by
    unfold listeners
    rw [surfaces_destroy]
    unfold changeSurface
    rw [List.getElem?_modify_ne _ _ hother]
  unfold Hears
  rw [hlisteners]
  exact hhears

/-- A new listener hears for its epoch, unless the surface is destroyed at once and the binding ends. No frame is
given by it. -/
theorem connect_spec {epoch surface : Nat} (hfound : scene.surfaces[surface]?.isSome = true)
    (hlink : scene.link? owner = some ⟨epoch, some surface⟩) :
    (scene.connect surface owner epoch).2.given = scene.given ∧
      ∃ after, (scene.connect surface owner epoch).2.link? owner = some after ∧
        Link.Loses ⟨epoch, some surface⟩ after ∧
        (after = ⟨epoch, some surface⟩ →
          (scene.connect surface owner epoch).2.Hears owner epoch surface) := by
  obtain ⟨target, htarget⟩ := Option.isSome_iff_exists.1 hfound
  refine ⟨?_, ?_⟩
  · refine view_connect (fun surface => ?_) (fun owner epoch surface => ?_) surface owner epoch scene
    · unfold Surface.forget
      split <;> rfl
    · refine (Surface.given_record _ _).trans ?_
      exact List.append_nil _
  unfold connect
  rw [htarget]
  dsimp only
  generalize hjoined : scene.changeSurface surface (fun _ => (target.connect owner epoch).2) = joined
  have hjoinedLink : joined.link? owner = some ⟨epoch, some surface⟩ := by
    rw [← hjoined]
    exact hlink
  -- The new listener is on the list, with the owner and the epoch of the binding.
  have hhears : joined.Hears owner epoch surface := by
    subst hjoined
    refine ⟨⟨target.nextListener, owner, epoch⟩, ?_, rfl, rfl⟩
    simp [listeners, changeSurface, htarget, Surface.connect, Surface.record]
  split
  · obtain ⟨after, hafter, hloses, hends⟩ := link_destroy surface hjoinedLink
    refine ⟨after, hafter, hloses, ?_⟩
    rintro rfl
    rcases hends hhears with hless | ⟨_, hnone⟩
    · exact absurd hless (Nat.lt_irrefl _)
    · cases hnone
  · exact ⟨_, hjoinedLink, .inl rfl, fun _ => hhears⟩

end Scene

end FramePath

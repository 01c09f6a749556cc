import FramePath.Proofs.Desk.Outlook
import FramePath.Proofs.Desk.Standing

/-!
# Which surfaces are as visible as asked for

A bound surface hears of every request, but a bind tells its surface only that it is to be hidden. A surface that was
hidden before, or hears of an older change that is still on its way, stays hidden until the next request. A
`Bulletin` keeps what was last sent under the binding in force, what was asked for and could not be sent, and what the
surface was found with when it was bound; `visibility_settles` says that nothing else decides what the surface has been
told in the end.
-/

namespace FramePath

/-- What was said about visibility under the binding in force. -/
structure Bulletin where
  /-- The last change that was sent under it. -/
  announced : Option Bool
  /-- The change asked for after that one, if it is not sent: the surface was only just bound, or there was no
  consumer to be had. -/
  unsaid : Option Bool
  /-- What the surface would have been told in the end by what was on its way when it was bound. -/
  found : Bool
  deriving DecidableEq, Repr

namespace Bulletin

/-- Nothing is bound yet. -/
def blank : Bulletin := ⟨none, none, true⟩

/-- A change is sent, or comes back. -/
def tell (visible deaf : Bool) (bulletin : Bulletin) : Bulletin :=
  if deaf then { bulletin with unsaid := some visible }
  else { bulletin with announced := some visible, unsaid := none }

/-- A surface that is bound begins a new bulletin. An announcement adds to it, and so does a request while a surface is
bound. -/
def keeper : Observer Bulletin where
  blank := blank
  note desk deed bulletin :=
    match deed with
    | .attach surface _ =>
        ⟨none, if desk.presenter.visible then none else some false, desk.prospect surface⟩
    | .announce => if desk.presenter.visible then bulletin else bulletin.tell false desk.isDeaf
    | .setVisible visible => if desk.isBound then bulletin.tell visible desk.isDeaf else bulletin
    | _ => bulletin

end Bulletin

namespace Desk

/-- While the consumer lives, the prospect of the surface bound is what was last sent under its binding, or what it
was found with. What was asked for is what was not sent, or what was sent last, or to be visible. -/
structure Informed (desk : Desk) (bulletin : Bulletin) : Prop where
  sited : desk.Sited
  alive : desk.isDead = false
  bound : ∀ {epoch surface}, desk.link? = some ⟨epoch, some surface⟩ →
    desk.prospect surface = bulletin.announced.getD bulletin.found ∧
      desk.presenter.visible = (bulletin.unsaid.or bulletin.announced).getD true

variable {desk : Desk} {bulletin : Bulletin}

/-- A change that is sent decides what a surface will have been told; one that comes back is noted. -/
theorem prospect_told {surface : Nat} {visible : Bool} (halive : desk.isDead = false)
    (hprospect : desk.prospect surface = bulletin.announced.getD bulletin.found)
    (hvisible : desk.presenter.visible = visible) :
    (desk.send (.visibility visible)).2.prospect surface =
        (bulletin.tell visible desk.isDeaf).announced.getD (bulletin.tell visible desk.isDeaf).found ∧
      (desk.send (.visibility visible)).2.presenter.visible =
        ((bulletin.tell visible desk.isDeaf).unsaid.or (bulletin.tell visible desk.isDeaf).announced).getD
          true := by
  cases hdeaf : desk.isDeaf with
  | false =>
    rw [send_of_hearing _ hdeaf]
    exact ⟨prospect_posting _ _ halive, hvisible⟩
  | true =>
    rw [send_of_deaf _ hdeaf]
    refine ⟨(prospect_bouncing _ _ halive).trans hprospect, ?_⟩
    have hstanding := congrArg Standing.visible (standing_bouncing (.visibility visible) desk)
    exact hstanding.trans hvisible

/-- Every deed with which the consumer does not fail keeps the bulletin true. -/
theorem Informed.perform {deed : Deed} (hinformed : desk.Informed bulletin)
    (hallows : desk.Allows deed) (halive : (desk.perform deed).isDead = false) :
    (desk.perform deed).Informed (Bulletin.keeper.note desk deed bulletin) := by
  refine ⟨hinformed.sited.perform hallows, halive, fun {epoch surface} hlink => ?_⟩
  obtain ⟨before, hbefore⟩ := hinformed.sited.link
  -- What is done aside from the mail tells the surface nothing; it is bound as before, if it is bound.
  have haside : ∀ {after : Desk}, Aside desk after → desk.link? = some ⟨epoch, some surface⟩ →
      after.prospect surface = bulletin.announced.getD bulletin.found ∧
        after.presenter.visible = (bulletin.unsaid.or bulletin.announced).getD true := by
    intro after haside hsame
    rw [haside.prospect, haside.visible]
    exact hinformed.bound hsame
  cases deed with
  | attach next zeroCopy =>
    obtain ⟨_, rfl⟩ := hinformed.sited.attached hallows.2.isSome hlink
    have hattached := aside_attach surface zeroCopy desk
    refine ⟨hattached.prospect surface, hattached.visible.trans ?_⟩
    show desk.presenter.visible = ((if desk.presenter.visible then none else some false).or none).getD true
    cases desk.presenter.visible <;> rfl
  | announce =>
    have hsame := (link_announce desk).symm.trans hlink
    obtain ⟨hprospect, hvisible⟩ := hinformed.bound hsame
    show desk.announce.prospect surface = _ ∧ desk.announce.presenter.visible = _
    simp only [Bulletin.keeper, announce]
    cases hasked : desk.presenter.visible with
    | true => exact ⟨hprospect, hvisible⟩
    | false => exact prospect_told hinformed.alive hprospect hasked
  | unbind =>
    rw [show (desk.perform .unbind).link? = _ from link_unbind hbefore] at hlink
    cases hlink
  | setVisible visible =>
    have hsame := (link_setVisible visible desk).symm.trans hlink
    have hbound : desk.isBound = true := by
      rw [isBound_eq, bond_of_link hsame]
      rfl
    show (desk.setVisible visible).prospect surface = _ ∧
      (desk.setVisible visible).presenter.visible = _
    simp only [Bulletin.keeper]
    rw [if_pos hbound, setVisible_of_bound visible hbound]
    have hprospect : (desk.asking visible).prospect surface = bulletin.announced.getD bulletin.found :=
      (hinformed.bound hsame).1
    exact @prospect_told (desk.asking visible) bulletin surface visible hinformed.alive hprospect rfl
  | submit frame =>
    have hsubmitted := desk.submitted frame
    replace hlink : (desk.submit frame).2.link? = some ⟨epoch, some surface⟩ := hlink
    show (desk.submit frame).2.prospect surface = _ ∧ (desk.submit frame).2.presenter.visible = _
    generalize desk.submit frame = result at hsubmitted hlink ⊢
    cases hsubmitted with
    | dropped => exact hinformed.bound hlink
    | queued sent =>
      have hsame := hinformed.bound (show desk.link? = _ from hlink)
      have halive : (desk.lease frame).isDead = false := hinformed.alive
      refine ⟨?_, hsame.2⟩
      exact (prospect_posting (.frame frame sent) _ halive).trans hsame.1
    | bounced sent =>
      have hsame := hinformed.bound ((link_bouncing _ (desk.lease frame)).symm.trans hlink)
      have halive : (desk.lease frame).isDead = false := hinformed.alive
      refine ⟨(prospect_bouncing (.frame frame sent) _ halive).trans hsame.1, ?_⟩
      have hstanding := congrArg Standing.visible
        (standing_bouncing (.frame frame sent) (desk.lease frame))
      exact hstanding.trans hsame.2
  | advance =>
    have hsame : desk.link? = some ⟨epoch, some surface⟩ := (stepped desk).link.symm.trans hlink
    obtain ⟨hprospect, hvisible⟩ := hinformed.bound hsame
    exact ⟨(prospect_advance hinformed.sited hsame halive).trans hprospect, hvisible⟩
  | close =>
    -- A mailbox is closed when no surface is bound.
    have hsame : desk.link? = some ⟨epoch, some surface⟩ :=
      (mailed_close hallows.1).link.symm.trans hlink
    exact absurd hsame (link_of_no_bond hallows.2)
  | destroy gone =>
    obtain ⟨after, hafter, hloses, _⟩ := Scene.link_destroy gone hbefore
    exact haside (aside_destroy gone desk) (link_of_loses hbefore
      (show (desk.changeScene (.destroy gone)).link? = some after from hafter) hloses hlink)
  | arrange arrangement =>
    exact haside (aside_arrange arrangement desk) ((link_arrange arrangement desk).symm.trans hlink)

/-- A bulletin is true of a new presenter. -/
theorem informed_opened (surfaces : List Surface) (id : Nat) :
    (opened surfaces id).Informed Bulletin.blank where
  sited := sited_opened surfaces id
  alive := rfl
  bound hlink := by cases hlink

/-- Nothing that happens by itself is said about visibility. -/
theorem notes_incidents (incidents : List Incident) (desk : Desk) (bulletin : Bulletin) :
    Bulletin.keeper.notes (incidents.map Incident.deed) desk bulletin = bulletin := by
  refine Observer.notes_unnoted (List.forall_mem_map.2 fun incident _ _ _ => ?_) desk bulletin
  cases incident <;> rfl

/-- Nor is a teardown. -/
theorem notes_teardown (amid : List Incident) (desk : Desk) (bulletin : Bulletin) :
    Bulletin.keeper.notes (desk.teardownDeeds amid) desk bulletin = bulletin := by
  show Bulletin.keeper.notes (amid.map Incident.deed ++ _) desk.unbind bulletin = bulletin
  rw [Observer.notes_append, notes_incidents]
  refine Observer.notes_unnoted (List.forall_mem_append.2 ⟨fun deed hmem _ _ => ?_, ?_⟩) _ _
  · rw [List.eq_of_mem_replicate hmem]
    rfl
  · intro deed hmem _ _
    cases List.mem_singleton.1 hmem
    rfl

/-- A bind of a presenter whose envelopes do not come back leaves nothing unsaid. -/
theorem said_bind {surface : Nat} {zeroCopy : Bool} {unbound bound : List Incident}
    (hserved : Throughout (fun desk _ => desk.isDeaf = false)
      (bindDeeds surface zeroCopy unbound bound) desk) :
    (Bulletin.keeper.notes (bindDeeds surface zeroCopy unbound bound) desk bulletin).unsaid = none := by
  have hdeeds : bindDeeds surface zeroCopy unbound bound = (.unbind :: unbound.map Incident.deed) ++
      (.attach surface zeroCopy :: (bound.map Incident.deed ++ [.announce])) := rfl
  rw [hdeeds] at hserved ⊢
  obtain ⟨_, _, hserved⟩ := throughout_append.1 hserved
  obtain ⟨_, hhearing, _⟩ := throughout_append.1 hserved
  rw [Observer.notes_append]
  generalize desk.performAll (.unbind :: unbound.map Incident.deed) = idle at hhearing ⊢
  simp only [Observer.notes]
  rw [Observer.notes_append, notes_incidents, performAll_incidents]
  rw [performAll_incidents] at hhearing
  have hvisible : ((idle.perform (.attach surface zeroCopy)).elapse bound).presenter.visible =
      idle.presenter.visible := by
    refine (congrArg Standing.visible (standing_elapse bound _)).trans ?_
    show (idle.attach surface zeroCopy).presenter.visible = _
    rw [presenter_attach]
  simp only [Observer.notes, Bulletin.keeper]
  rw [hvisible, hhearing]
  cases idle.presenter.visible <;> rfl

/-- Whatever a presenter does whose envelopes do not come back, nothing is left unsaid. -/
theorem said_act {act : Act} (hsaid : bulletin.unsaid = none)
    (hserved : Throughout (fun desk _ => desk.isDeaf = false) (desk.deeds act) desk) :
    (Bulletin.keeper.notes (desk.deeds act) desk bulletin).unsaid = none := by
  cases act with
  | bind surface unbound bound =>
    simp only [deeds] at hserved ⊢
    cases htarget : desk.scene.surfaces[surface]? with
    | none => exact hsaid
    | some target =>
      rw [htarget] at hserved
      dsimp only at hserved ⊢
      split
      · next himage => exact said_bind (by rwa [if_pos himage] at hserved)
      · exact hsaid
  | setVisible visible =>
    show (if desk.isBound then bulletin.tell visible desk.isDeaf else bulletin).unsaid = none
    rw [show desk.isDeaf = false from hserved.1]
    split
    · rfl
    · exact hsaid
  | teardown amid => exact (congrArg Bulletin.unsaid (notes_teardown amid desk bulletin)).trans hsaid
  | drop amid => exact (congrArg Bulletin.unsaid (notes_teardown amid desk bulletin)).trans hsaid
  | _ => exact hsaid

/-- So it is in every run. -/
theorem said_course {acts : List Act} (hsaid : bulletin.unsaid = none) (hserved : desk.Served acts) :
    (Bulletin.keeper.notes (desk.course acts) desk bulletin).unsaid = none := by
  induction acts generalizing desk bulletin with
  | nil => exact hsaid
  | cons act acts ih =>
    obtain ⟨hact, hrest⟩ := throughout_append.1 hserved
    rw [performAll_deeds] at hrest
    show (Bulletin.keeper.notes (desk.deeds act ++ (desk.act act).course acts) desk bulletin).unsaid = none
    rw [Observer.notes_append, performAll_deeds]
    exact ih (said_act hsaid hact) hrest

/-- The visibility that is asked for after an act, if this one was before it. -/
def Act.asks (visible : Bool) : Act → Bool
  | .setVisible asked => asked
  | _ => visible

/-- The visibility last asked for in a run. A new presenter is visible. -/
def requested (acts : List Act) : Bool := acts.foldl Act.asks true

/-- A presenter knows the visibility it was last asked for, and no other act changes it. -/
theorem visible_act (desk : Desk) (act : Act) :
    (desk.act act).presenter.visible = act.asks desk.presenter.visible := by
  have hstanding := congrArg Standing.visible (standing_act desk act)
  cases act <;> exact hstanding

/-- So it is in every run. -/
theorem visible_run (surfaces : List Surface) (id : Nat) (acts : List Act) :
    ((opened surfaces id).run acts).presenter.visible = requested acts := by
  have hrun : ∀ (acts : List Act) (desk : Desk),
      (desk.run acts).presenter.visible = acts.foldl Act.asks desk.presenter.visible := by
    intro acts
    induction acts with
    | nil => exact fun _ => rfl
    | cons act acts ih =>
      intro desk
      show ((desk.act act).run acts).presenter.visible = acts.foldl Act.asks (act.asks _)
      rw [ih, visible_act]
  exact hrun acts (opened surfaces id)

/-- In a run without a failure, once the consumer has nothing to do, the surface bound has been told the last change
of visibility that was sent under its binding, or what it was found with if none was. What was asked for is that
change, or to be visible, unless a later request could not be sent. So, if nothing is left unsaid, surface and
presenter agree if anything was sent under the binding, or if the surface was found visible, and then only. Nothing is
left unsaid where there was always a consumer to be had. -/
theorem visibility_settles {surfaces : List Surface} {id : Nat} {acts : List Act}
    (hunfailing : (opened surfaces id).Unfailing acts) {surface : Nat} :
    let desk := (opened surfaces id).run acts
    let bulletin := Bulletin.keeper.onRun surfaces id acts
    desk.presenter.mailbox.isIdle = true → desk.scene.boundSurface? desk.owner = some surface →
      desk.presenter.visible = requested acts ∧
      desk.scene.told surface = bulletin.announced.getD bulletin.found ∧
      requested acts = (bulletin.unsaid.or bulletin.announced).getD true ∧
      (bulletin.unsaid = none → (desk.scene.told surface = requested acts ↔
        bulletin.announced ≠ none ∨ bulletin.found = true)) ∧
      ((opened surfaces id).Served acts → bulletin.unsaid = none) := by
  have hinformed : ((opened surfaces id).run acts).Informed
      (Bulletin.keeper.onRun surfaces id acts) :=
    Observer.unfailing_keeps
      (fun _ _ _ hallows halive hinformed => hinformed.perform hallows halive) hunfailing
      (informed_opened surfaces id)
  have hvisible := visible_run surfaces id acts
  have hsaid : (opened surfaces id).Served acts →
      (Bulletin.keeper.onRun surfaces id acts).unsaid = none :=
    said_course rfl
  dsimp only
  intro hidle hbound
  generalize Bulletin.keeper.onRun surfaces id acts = bulletin at hinformed hsaid ⊢
  obtain ⟨epoch, hlink⟩ := link_of_boundSurface hbound
  obtain ⟨hprospect, hasked⟩ := hinformed.bound hlink
  rw [prospect_of_idle hidle] at hprospect
  rw [hvisible] at hasked
  refine ⟨hvisible, hprospect, hasked, fun hnone => ?_, hsaid⟩
  rw [hprospect, hasked, hnone]
  obtain ⟨announced, unsaid, found⟩ := bulletin
  cases announced with
  | none => simp
  | some visible => simp

/-- A presenter is hidden, bound to a surface, and asked to be visible again. -/
def hiddenThenShown : List Act :=
  [.setVisible false, .bind 0, .setVisible true, .advance, .advance, .advance, .advance, .advance,
    .advance, .advance, .advance]

theorem visibility_settles_shown :
    let desk := (opened [.new ⟨"opengl", true, false, false, false, none⟩ none] 0).run hiddenThenShown
    desk.presenter.mailbox.isIdle = true ∧ desk.scene.boundSurface? desk.owner = some 0 ∧
      desk.scene.told 0 = requested hiddenThenShown := by
  have hidle : ((opened [.new ⟨"opengl", true, false, false, false, none⟩ none] 0).run
      hiddenThenShown).presenter.mailbox.isIdle = true := by decide +kernel
  have hbound : ((opened [.new ⟨"opengl", true, false, false, false, none⟩ none] 0).run
      hiddenThenShown).scene.boundSurface? 0 = some 0 := by decide +kernel
  have hunfailing : (opened [.new ⟨"opengl", true, false, false, false, none⟩ none] 0).Unfailing
      hiddenThenShown := by decide +kernel
  have hsettled := visibility_settles hunfailing hidle hbound
  obtain ⟨-, -, -, hagree, hsaid⟩ := hsettled
  exact ⟨hidle, hbound, (hagree (hsaid (by decide +kernel))).2 (.inl (by decide +kernel))⟩

/-- A surface is hidden and let go of; the presenter is asked to be visible and bound to it again. -/
def shownWhileUnbound : List Act :=
  [.bind 0, .setVisible false, .advance, .advance, .advance, .advance, .unbind, .setVisible true,
    .bind 0]

/-- A request that is made while nothing is bound does not come to the surface that is bound next. -/
theorem visibility_missed :
    let desk := (opened [.new ⟨"opengl", true, false, false, false, none⟩ none] 0).run shownWhileUnbound
    (opened [.new ⟨"opengl", true, false, false, false, none⟩ none] 0).Unfailing shownWhileUnbound ∧
      desk.presenter.mailbox.isIdle = true ∧ desk.scene.boundSurface? desk.owner = some 0 ∧
      requested shownWhileUnbound = true ∧ desk.scene.told 0 = false := by
  decide +kernel

end Desk

end FramePath

import FramePath.Proofs.Desk.Loans

/-!
# How long a lent frame is kept

Nothing that comes after a lent frame may lose it while its binding lasts: no frame that is stale, and none that is
copied. The epochs of what was lent and of what is on its way never fall (`Lending.ordered`), and a binding keeps its
terms, so that neither can follow a frame lent under the binding in force (`Lending.fresh_of_unlent`).
`lent_frames_kept` is what this comes to in runs without a failure.
-/

namespace FramePath

open Renderer (Call Job)

namespace Desk

/-- While the consumer lives, the last loan under the binding in force, and under that of the job in progress, is in
reserve. -/
structure Lending (before : List (List SharedFrame)) (desk : Desk) (loans : Loans) : Prop where
  sited : desk.Sited
  /-- What was lent and what is on its way is in the order of the epochs. -/
  ordered : (loans.settled.map (·.bond.epoch) ++ desk.mail.filterMap Envelope.epoch?).Pairwise
    fun earlier later => earlier ≤ later
  begun : ∀ showing ∈ loans.settled, showing.bond.epoch ≤ desk.epoch
  shelved : desk.reserve = loans.last.bind Handled.kept?
  mannerly : ∀ {call}, desk.call? = some call → call.Mannerly
  guarded : ∀ {epoch surface zeroCopy}, desk.terms? = some ⟨⟨epoch, some surface⟩, zeroCopy⟩ →
    Guards desk.reserve loans.settled ⟨epoch, surface⟩
  /-- Where a frame was lent frames are not copied. -/
  unmixed : ∀ {epoch surface zeroCopy}, desk.terms? = some ⟨⟨epoch, some surface⟩, zeroCopy⟩ →
    ∀ showing ∈ loans.settled, showing.bond.epoch = epoch → zeroCopy = false
  /-- A job of the epoch in force goes by the terms in force. -/
  job : ∀ {epoch surface zeroCopy}, desk.terms? = some ⟨⟨epoch, some surface⟩, zeroCopy⟩ →
    ∀ {job}, desk.job? = some job → job.epoch = epoch →
      job.surface = surface ∧ job.zeroCopy = zeroCopy
  /-- A job guards its own binding even when that has ended. -/
  going : ∀ {job}, desk.job? = some job → Guards desk.reserve loans.settled job.bond
  shown : ∀ surface, desk.scene.loans[surface]? =
    before[surface]?.map (· ++ Showing.at surface (desk.lent loans))

namespace Lending

variable {before : List (List SharedFrame)} {desk after : Desk} {loans : Loans}

/-- The loans are left by what leaves the call in progress, the renderer and the surfaces, where what is bound after it
was bound on the same terms or has a new epoch. -/
theorem stays (hlending : desk.Lending before loans) (hsited : after.Sited)
    (hcall : after.call? = desk.call?)
    (hrenderer : after.presenter.renderer = desk.presenter.renderer)
    (hloans : after.scene.loans = desk.scene.loans)
    (hordered : (loans.settled.map (·.bond.epoch) ++ after.mail.filterMap Envelope.epoch?).Pairwise
      fun earlier later => earlier ≤ later)
    (hlater : desk.epoch ≤ after.epoch)
    (hterms : ∀ {epoch surface zeroCopy}, after.terms? = some ⟨⟨epoch, some surface⟩, zeroCopy⟩ →
      desk.terms? = some ⟨⟨epoch, some surface⟩, zeroCopy⟩ ∨ desk.epoch < epoch) :
    after.Lending before loans := by
  have hreserve : after.reserve = desk.reserve := by
    unfold Desk.reserve
    rw [hcall, hrenderer]
  have hjob : after.job? = desk.job? := by
    unfold job?
    rw [hcall]
  have hlent : after.lent loans = desk.lent loans := by
    unfold lent
    rw [hcall]
  -- Under a new epoch nothing was lent, and no job is on its way.
  have hfresh : ∀ {epoch}, desk.epoch < epoch → ∀ showing ∈ loans.settled, showing.bond.epoch ≠ epoch := by
    rintro epoch hless showing hmem rfl
    exact absurd hless (Nat.not_lt.2 (hlending.begun showing hmem))
  refine ⟨hsited, hordered, ?_, ?_, ?_, ?_, ?_, ?_, ?_, ?_⟩
  · intro showing hmem
    exact Nat.le_trans (hlending.begun showing hmem) hlater
  · rw [hreserve]
    exact hlending.shelved
  · intro call hsome
    exact hlending.mannerly (hcall.symm.trans hsome)
  · intro epoch surface zeroCopy hbound
    rw [hreserve]
    rcases hterms hbound with hsame | hless
    · exact hlending.guarded hsame
    · exact guards_of_fresh _ (hfresh hless)
  · intro epoch surface zeroCopy hbound showing hmem hepoch
    rcases hterms hbound with hsame | hless
    · exact hlending.unmixed hsame showing hmem hepoch
    · exact absurd hepoch (hfresh hless showing hmem)
  · intro epoch surface zeroCopy hbound job hsome hepoch
    rw [hjob] at hsome
    rcases hterms hbound with hsame | hless
    · exact hlending.job hsame hsome hepoch
    · have hdated := hlending.sited.dated (job_mem_mail hsome)
      omega
  · intro job hsome
    rw [hreserve]
    exact hlending.going (hjob.symm.trans hsome)
  · intro surface
    rw [hloans, hlent]
    exact hlending.shown surface

/-- What is done aside from the mail leaves the loans. -/
theorem aside (hlending : desk.Lending before loans) (haside : Aside desk after)
    (hsited : after.Sited) (hlater : desk.epoch ≤ after.epoch)
    (hterms : ∀ {epoch surface zeroCopy}, after.terms? = some ⟨⟨epoch, some surface⟩, zeroCopy⟩ →
      desk.terms? = some ⟨⟨epoch, some surface⟩, zeroCopy⟩ ∨ desk.epoch < epoch) :
    after.Lending before loans := by
  refine hlending.stays hsited haside.call haside.renderer (haside.view Surface.aloof_loans) ?_ hlater
    hterms
  rw [haside.mail]
  exact hlending.ordered

/-- Leases, counts and what is asked for are no matter to the loans. -/
theorem papers (hlending : desk.Lending before loans) {leases : Leases} {visible : Bool}
    {tally : AdmissionTally} :
    Lending before { desk with presenter := { desk.presenter with leases, visible, tally } } loans :=
  { hlending with
    sited := hlending.sited.papers
    begun := hlending.begun, mannerly := hlending.mannerly, guarded := hlending.guarded
    unmixed := hlending.unmixed, job := hlending.job, going := hlending.going
    shown := hlending.shown }

/-- A consumer that the host has not started is no matter to them either. -/
theorem turnedAway (hlending : desk.Lending before loans) (leases : Leases) :
    (desk.turnedAway leases).Lending before loans :=
  { hlending with
    sited := hlending.sited.turnedAway leases
    begun := hlending.begun, mannerly := hlending.mannerly, guarded := hlending.guarded
    unmixed := hlending.unmixed, job := hlending.job, going := hlending.going
    shown := hlending.shown }

/-- Nor is an envelope that comes back, while the consumer lives. -/
theorem bouncing (hlending : desk.Lending before loans) (halive : desk.isDead = false)
    (envelope : Envelope) : (desk.bouncing envelope).Lending before loans := by
  rw [bouncing_of_alive envelope halive]
  exact (hlending.turnedAway _).papers

/-- An envelope may be sent under the epoch in force. -/
theorem posting (hlending : desk.Lending before loans) {envelope : Envelope}
    (halive : desk.isDead = false)
    (hdate : ∀ frame epoch, envelope = .frame frame epoch → epoch = desk.epoch) :
    (desk.posting envelope).Lending before loans := by
  have hsited : (desk.posting envelope).Sited :=
    hlending.sited.posting fun frame epoch hsame => Nat.le_of_eq (hdate frame epoch hsame)
  refine hlending.stays hsited (call_posting envelope desk) rfl rfl ?_ (Nat.le_refl _) .inl
  rw [mail_posting envelope halive, List.filterMap_append, ← List.append_assoc]
  refine List.pairwise_append.2 ⟨hlending.ordered, ?_, ?_⟩
  · cases envelope with
    | frame => exact List.pairwise_singleton _ _
    | visibility => exact List.Pairwise.nil
  · intro earlier hearlier later hlater
    cases envelope with
    | visibility => cases hlater
    | frame frame epoch =>
      have hlast : later = epoch := List.mem_singleton.1 hlater
      rw [hlast, hdate frame epoch rfl]
      rcases List.mem_append.1 hearlier with hsettled | hmail
      · obtain ⟨showing, hmem, rfl⟩ := List.mem_map.1 hsettled
        exact hlending.begun showing hmem
      · obtain ⟨sent, hmem, hepoch⟩ := List.mem_filterMap.1 hmail
        cases sent with
        | visibility => cases hepoch
        | frame other early =>
          cases hepoch
          exact hlending.sited.dated hmem

/-- No loan is of a later epoch than a frame on its way. -/
theorem before_mail (hlending : desk.Lending before loans) {frame : SharedFrame} {epoch : Nat}
    (hsent : .frame frame epoch ∈ desk.mail) :
    ∀ showing ∈ loans.settled, showing.bond.epoch ≤ epoch := by
  intro showing hmem
  refine (List.pairwise_append.1 hlending.ordered).2.2 _ (List.mem_map_of_mem hmem) _ ?_
  exact List.mem_filterMap.2 ⟨_, hsent, rfl⟩

/-- A call that goes on leaves the loans: it has the job that it had, or takes one up on the terms of the binding. -/
theorem goesOn (hlending : desk.Lending before loans) {call next : Call} {queue : List Envelope}
    {stage : Backstage} {tally : MailTally} {refusal : Option String}
    (htransport : desk.presenter.mailbox.transport = .running (some call) queue)
    (hresumed : Backstage.Resumed call desk.backstage (.waiting next) stage)
    (hsited : (desk.afterMail ⟨.running (some next) queue, tally, refusal⟩ stage).Sited)
    (hterms : (desk.afterMail ⟨.running (some next) queue, tally, refusal⟩ stage).terms? = desk.terms?)
    (hepoch : (desk.afterMail ⟨.running (some next) queue, tally, refusal⟩ stage).epoch = desk.epoch) :
    (desk.afterMail ⟨.running (some next) queue, tally, refusal⟩ stage).Lending before loans := by
  have hcall := call_running htransport
  have hmail : (desk.afterMail ⟨.running (some next) queue, tally, refusal⟩ stage).mail = desk.mail := by
    rw [mail_running htransport]
    show next.envelope :: queue = call.envelope :: queue
    rw [hresumed.envelope]
  have hreserve : (desk.afterMail ⟨.running (some next) queue, tally, refusal⟩ stage).reserve = desk.reserve := by
    unfold Desk.reserve
    rw [hcall]
    exact hresumed.reserve
  have hjob : ∀ {job}, next.job? = some job →
      desk.job? = some job ∨ desk.terms? = some ⟨⟨job.epoch, some job.surface⟩, job.zeroCopy⟩ := by
    intro job hsome
    rw [job_of_call hcall]
    rcases hresumed.job hsome with hsame | ⟨_, hbound⟩
    · exact .inl hsame
    · exact .inr hbound
  refine ⟨hsited, ?_, ?_, ?_, ?_, ?_, ?_, ?_, ?_, ?_⟩
  · rw [hmail]
    exact hlending.ordered
  · rw [hepoch]
    exact hlending.begun
  · rw [hreserve]
    exact hlending.shelved
  · intro going hsome
    cases hsome
    exact hresumed.mannerly (hlending.mannerly hcall)
  · intro epoch surface zeroCopy hbound
    rw [hreserve]
    exact hlending.guarded (hterms.symm.trans hbound)
  · intro epoch surface zeroCopy hbound
    exact hlending.unmixed (hterms.symm.trans hbound)
  · intro epoch surface zeroCopy hbound job hsome hsame
    rcases hjob hsome with hbefore | htaken
    · exact hlending.job (hterms.symm.trans hbound) hbefore hsame
    · cases htaken.symm.trans (hterms.symm.trans hbound)
      exact ⟨rfl, rfl⟩
  · intro job hsome
    rw [hreserve]
    rcases hjob hsome with hbefore | htaken
    · exact hlending.going hbefore
    · exact hlending.guarded htaken
  · intro surface
    have hquiet : call.lent? = none := hresumed.lent_before
    show stage.scene.loans[surface]? = before[surface]?.map
      (· ++ Showing.at surface (loans.settled ++ next.lent?.toList))
    have hshown := hlending.shown surface
    unfold lent at hshown
    rw [hcall, Option.bind_some, hquiet] at hshown
    rw [hresumed.loans, show desk.backstage.scene.loans[surface]? = _ from hshown, Option.map_map,
      Showing.at_append, Showing.at_append]
    refine congrArg (Option.map · _) (funext fun frames => ?_)
    show frames ++ (Showing.at surface loans.settled ++ Showing.at surface []) ++ _ = _
    rw [List.append_assoc, List.append_assoc]
    rfl

/-- A loan whose call returns is the last one under its binding, and its frame is in reserve. -/
theorem guards_lent (hlending : desk.Lending before loans) {job : Job} {epoch surface : Nat}
    {zeroCopy : Bool} (hjob : desk.job? = some job)
    (hterms : desk.terms? = some ⟨⟨epoch, some surface⟩, zeroCopy⟩) :
    Guards (some job.frame) (loans.settled ++ [⟨job.frame, job.bond⟩]) ⟨epoch, surface⟩ := by
  have hbond : job.epoch = epoch → job.bond = ⟨epoch, surface⟩ := by
    intro hepoch
    have hsurface := (hlending.job hterms hjob hepoch).1
    unfold Job.bond
    rw [hepoch, hsurface]
  refine ⟨?_, ?_⟩
  · intro showing hmem hepoch
    rcases List.mem_append.1 hmem with hold | hnew
    · exact (hlending.guarded hterms).unique showing hold hepoch
    · cases List.mem_singleton.1 hnew
      exact hbond hepoch
  · intro old hlast
    rw [List.filter_append] at hlast
    by_cases hepoch : job.epoch = epoch
    · rw [List.filter_cons_of_pos (by simp [hbond hepoch]), List.filter_nil, List.getLast?_concat]
        at hlast
      cases hlast
      rfl
    · -- What was lent before is of no later epoch than the job, so nothing was lent under the binding.
      have hother : job.bond ≠ ⟨epoch, surface⟩ := fun hsame => hepoch (congrArg Bond.epoch hsame)
      rw [List.filter_cons_of_neg (by simp [hother]), List.filter_nil, List.append_nil] at hlast
      obtain ⟨hmem, hsame⟩ := List.mem_filter.1 (List.mem_of_getLast? hlast)
      have hearlier : old.bond.epoch ≤ job.epoch := hlending.before_mail (job_mem_mail hjob) old hmem
      have hdated := hlending.sited.dated (job_mem_mail hjob)
      have hnow : desk.epoch = epoch := epoch_of_link (link_of_terms hterms)
      have hold : old.bond.epoch = epoch := congrArg Bond.epoch (eq_of_beq hsame)
      omega

/-- A frame that is dealt with and was not lent follows no loan under the binding in force: it is of an earlier
epoch, or frames are copied under this binding. -/
theorem fresh_of_unlent (hlending : desk.Lending before loans) {call : Call} {queue : List Envelope}
    {stage : Backstage} {frame : SharedFrame} {epoch sent surface : Nat} {zeroCopy : Bool}
    (htransport : desk.presenter.mailbox.transport = .running (some call) queue)
    (hresumed : Backstage.Resumed call desk.backstage .returned stage)
    (henvelope : call.envelope = .frame frame sent) (hnone : call.lent? = none)
    (hterms : desk.terms? = some ⟨⟨epoch, some surface⟩, zeroCopy⟩) :
    ∀ showing ∈ loans.settled, showing.bond.epoch ≠ epoch := by
  intro showing hmem hepoch
  have hcall := call_running htransport
  have hmail : .frame frame sent ∈ desk.mail := by
    rw [mail_running htransport, ← henvelope]
    exact List.mem_append_left _ (List.mem_singleton.2 rfl)
  have hearlier := hlending.before_mail hmail showing hmem
  have hdated := hlending.sited.dated hmail
  have hnow : desk.epoch = epoch := epoch_of_link (link_of_terms hterms)
  obtain rfl : sent = epoch := by omega
  rcases hresumed.unlent (hlending.mannerly hcall) henvelope hnone with
    hstale | ⟨job, hjob, hsame, hcopy⟩
  · exact hstale (isCurrent_of_terms hterms)
  · have hsome : desk.job? = some job := by
      unfold job?
      rw [hcall]
      exact hjob
    have hzero := (hlending.job hterms hsome hsame).2
    rw [hlending.unmixed hterms showing hmem hepoch, hcopy] at hzero
    cases hzero

/-- A call that returns leaves the last loan under the binding in force in reserve. -/
theorem guards_settle (hlending : desk.Lending before loans) {call : Call} {queue : List Envelope}
    {stage : Backstage} {epoch surface : Nat} {zeroCopy : Bool}
    (htransport : desk.presenter.mailbox.transport = .running (some call) queue)
    (hresumed : Backstage.Resumed call desk.backstage .returned stage)
    (hheld : stage.renderer.held = (call.handled?.map Handled.kept?).getD desk.presenter.renderer.held)
    (hterms : desk.terms? = some ⟨⟨epoch, some surface⟩, zeroCopy⟩) :
    Guards stage.renderer.held (loans.settle call).settled ⟨epoch, surface⟩ := by
  have hcall := call_running htransport
  cases hlent : call.lent? with
  | some showing =>
    cases call with
    | lending job =>
      cases hlent
      rw [hheld]
      exact hlending.guards_lent (job_of_call hcall) hterms
    | _ => cases hlent
  | none =>
    have hsettled : (loans.settle call).settled = loans.settled := by
      unfold Loans.settle
      rw [hlent]
      exact List.append_nil _
    rw [hsettled]
    cases henvelope : call.envelope with
    | frame frame sent =>
      exact guards_of_fresh _ (hlending.fresh_of_unlent htransport hresumed henvelope hlent hterms)
    | visibility visible =>
      -- A change of visibility leaves the reserve where it is.
      have hhandled : call.handled? = none := by
        unfold Call.handled?
        rw [henvelope]
        rfl
      rw [hheld, hhandled]
      have hguarded := hlending.guarded hterms
      rwa [reserve_of_visibility hcall henvelope] at hguarded

/-- A call that returns leaves the loans, its own settled. -/
theorem returns (hlending : desk.Lending before loans) {call : Call} {queue : List Envelope}
    {stage : Backstage} {tally : MailTally} {refusal : Option String}
    (htransport : desk.presenter.mailbox.transport = .running (some call) queue)
    (hresumed : Backstage.Resumed call desk.backstage .returned stage)
    (htaken : ∀ job, call.job? = some job → desk.presenter.renderer.held = none)
    (hsited : (desk.afterMail ⟨.running none queue, tally, refusal⟩ stage).Sited)
    (hterms : (desk.afterMail ⟨.running none queue, tally, refusal⟩ stage).terms? = desk.terms?)
    (hepoch : (desk.afterMail ⟨.running none queue, tally, refusal⟩ stage).epoch = desk.epoch) :
    (desk.afterMail ⟨.running none queue, tally, refusal⟩ stage).Lending before (loans.settle call) := by
  have hcall := call_running htransport
  have hheld : stage.renderer.held =
      (call.handled?.map Handled.kept?).getD desk.presenter.renderer.held := hresumed.held htaken
  have hloan : ∀ {showing}, call.lent? = some showing →
      ∃ job, desk.job? = some job ∧ showing = ⟨job.frame, job.bond⟩ ∧ job.zeroCopy = false := by
    intro showing hlent
    have hmannerly := hlending.mannerly hcall
    cases call with
    | lending job =>
      exact ⟨job, job_of_call hcall, (Option.some.inj hlent).symm, hmannerly⟩
    | _ => cases hlent
  -- No call is in progress after it, so nothing is to be said of one.
  refine ⟨hsited, ?_, ?_, ?_, fun hcall => (by cases hcall), ?_, ?_, fun _ _ hjob => (by cases hjob),
    fun hjob => (by cases hjob), ?_⟩
  · have hsettled : (loans.settle call).settled.map (·.bond.epoch) =
        loans.settled.map (·.bond.epoch) ++ call.lent?.toList.map (·.bond.epoch) := List.map_append
    have hloaned : (call.lent?.toList.map (·.bond.epoch)).Sublist
        ([call.envelope].filterMap Envelope.epoch?) := by
      cases call with
      | lending job => exact List.Sublist.refl _
      | _ => exact List.nil_sublist _
    have hordered := hlending.ordered
    rw [mail_running htransport] at hordered
    rw [hsettled, List.append_assoc]
    refine hordered.sublist (List.Sublist.append_left ?_ _)
    show (_ ++ queue.filterMap Envelope.epoch?).Sublist (([call.envelope] ++ queue).filterMap _)
    rw [List.filterMap_append]
    exact hloaned.append (List.Sublist.refl _)
  · intro showing hmem
    rw [hepoch]
    rcases List.mem_append.1 hmem with hold | hnew
    · exact hlending.begun showing hold
    · obtain ⟨job, hjob, rfl, _⟩ := hloan (Option.mem_toList.1 hnew)
      exact hlending.sited.dated (job_mem_mail hjob)
  · show stage.renderer.held = (call.handled?.or loans.last).bind Handled.kept?
    rw [hheld]
    cases henvelope : call.envelope with
    | frame frame epoch =>
      unfold Call.handled?
      rw [henvelope]
      rfl
    | visibility visible =>
      have hshelved := hlending.shelved
      rw [reserve_of_visibility hcall henvelope] at hshelved
      unfold Call.handled?
      rw [henvelope]
      exact hshelved
  · intro epoch surface zeroCopy hbound
    exact hlending.guards_settle htransport hresumed hheld (hterms.symm.trans hbound)
  · intro epoch surface zeroCopy hbound showing hmem hsame
    rcases List.mem_append.1 hmem with hold | hnew
    · exact hlending.unmixed (hterms.symm.trans hbound) showing hold hsame
    · obtain ⟨job, hjob, rfl, hlend⟩ := hloan (Option.mem_toList.1 hnew)
      exact (hlending.job (hterms.symm.trans hbound) hjob hsame).2.symm.trans hlend
  · intro surface
    have hshown := hlending.shown surface
    unfold lent at hshown ⊢
    rw [hcall] at hshown
    have hsame := hresumed.loans surface
    show stage.scene.loans[surface]? = before[surface]?.map
      (· ++ Showing.at surface (loans.settled ++ call.lent?.toList ++ []))
    rw [hsame, show desk.backstage.scene.loans[surface]? = _ from hshown, Option.map_map, List.append_nil]
    refine congrArg (Option.map · _) (funext fun frames => ?_)
    exact List.append_nil _

/-- A step of the consumer with which it does not fail leaves the loans. -/
theorem advance (hlending : desk.Lending before loans) (haccounted : desk.Accounted)
    (halive : desk.advance.isDead = false) :
    desk.advance.Lending before (Loans.keeper.note desk .advance loans) := by
  have hsited := hlending.sited.advance
  have hterms := terms_advance desk
  have hepoch : desk.advance.epoch = desk.epoch := by
    unfold Desk.epoch
    rw [(stepped desk).link]
  have hkind := advanced desk
  simp only [Loans.keeper]
  generalize desk.advance = after at halive hsited hterms hepoch hkind ⊢
  cases hkind with
  | resting hidle =>
    rw [(quiet_of_idle hidle).1]
    exact hlending
  | taken envelope queue htransport =>
    have hcall := call_running htransport
    have hreserve : desk.reserve = desk.presenter.renderer.held := by
      unfold Desk.reserve
      rw [hcall]
      rfl
    have hordered := hlending.ordered
    have hshown := hlending.shown
    unfold lent at hshown
    rw [mail_running htransport] at hordered
    rw [hcall] at hshown
    rw [hcall]
    refine ⟨hsited, hordered, hlending.begun, hreserve.symm.trans hlending.shelved, ?_, ?_,
      hlending.unmixed, fun _ _ hjob => (by cases hjob), fun hjob => (by cases hjob), hshown⟩
    · intro call hsome
      cases hsome
      exact trivial
    · intro epoch surface zeroCopy hbound
      show Guards desk.presenter.renderer.held loans.settled ⟨epoch, surface⟩
      rw [← hreserve]
      exact hlending.guarded hbound
  | waiting call next queue stage htransport hresumed =>
    rw [call_running htransport]
    exact hlending.goesOn htransport hresumed hsited hterms hepoch
  | returned call queue stage htransport hresumed =>
    rw [call_running htransport]
    refine hlending.returns htransport hresumed ?_ hsited hterms hepoch
    intro job hjob
    exact haccounted.taken_over call job (call_running htransport) hjob
  | failed => cases halive

/-- Where nothing is bound and no call is in progress, the renderer may be drained. -/
theorem drained (hlending : desk.Lending before loans) (hallows : desk.Allows .close)
    (leases : Leases) (tally : MailTally) :
    (desk.drained leases tally).Lending before { loans with last := none } := by
  have hunbound : ∀ {epoch surface zeroCopy},
      (desk.drained leases tally).terms? ≠ some ⟨⟨epoch, some surface⟩, zeroCopy⟩ := by
    intro epoch surface zeroCopy hbound
    rw [terms_drained] at hbound
    exact link_of_no_bond hallows.2 (link_of_terms hbound)
  have hsettled := (List.pairwise_append.1 hlending.ordered).1
  have hshown := hlending.shown
  unfold lent at hshown
  rw [hallows.1] at hshown
  refine ⟨hlending.sited.drained _ _, ?_, ?_, (letGo_spec desk.presenter.renderer).2.1,
    fun hcall => (by cases hcall), fun hbound => absurd hbound hunbound,
    fun hbound => absurd hbound hunbound, fun hbound => absurd hbound hunbound,
    fun hjob => (by cases hjob), hshown⟩
  · show (loans.settled.map (fun showing : Showing => showing.bond.epoch) ++ []).Pairwise _
    rw [List.append_nil]
    exact hsettled
  · unfold Desk.epoch
    rw [link_drained]
    exact hlending.begun

/-- A close without a call in progress drains the renderer, and leaves what was lent. -/
theorem close (hlending : desk.Lending before loans) (hallows : desk.Allows .close) :
    desk.close.Lending before (Loans.keeper.note desk .close loans) := by
  simp only [Loans.keeper]
  rcases close_of_quiet hallows.1 with ⟨habsent, hsame⟩ | ⟨hopen, leases, hclosed⟩
  · rw [hsame, habsent]
    exact hlending
  · rw [hclosed, hopen]
    exact hlending.drained hallows _ _

/-- Every deed with which the consumer does not fail leaves the loans. -/
theorem perform (hlending : desk.Lending before loans) (haccounted : desk.Accounted)
    (hliving : desk.isDead = false) {deed : Deed} (hallows : desk.Allows deed)
    (halive : (desk.perform deed).isDead = false) :
    (desk.perform deed).Lending before (Loans.keeper.note desk deed loans) := by
  have hsited := hlending.sited.perform hallows
  obtain ⟨link, hlink⟩ := hlending.sited.link
  have hepoch := epoch_of_link hlink
  cases deed with
  | attach surface zeroCopy =>
    obtain ⟨_, after, hafter, hloses, _⟩ := link_attach zeroCopy hlink hallows.2.isSome
    refine hlending.aside (aside_attach surface zeroCopy desk) hsited ?_ fun hterms => .inr ?_
    · show desk.epoch ≤ (desk.attach surface zeroCopy).epoch
      rw [epoch_of_link hafter, hepoch]
      exact Nat.le_trans (Nat.le_succ _) hloses.precedes.epoch_le
    · rw [(hlending.sited.attached hallows.2.isSome (link_of_terms hterms)).1]
      exact Nat.lt_succ_self _
  | announce =>
    have hannounced := desk.announced
    show desk.announce.Lending before loans
    generalize desk.announce = after at hannounced ⊢
    cases hannounced with
    | shown => exact hlending
    | told => exact hlending.posting hliving nofun
    | bounced => exact hlending.bouncing hliving _
  | unbind =>
    have hended := link_unbind hlink
    refine hlending.aside (aside_unbind desk) hsited ?_ fun hterms => ?_
    · show desk.epoch ≤ desk.unbind.epoch
      rw [epoch_of_link hended, hepoch]
      exact Nat.le_succ _
    · cases hended.symm.trans (link_of_terms hterms)
  | setVisible visible =>
    have hasked := desk.asked visible
    show (desk.setVisible visible).Lending before loans
    generalize desk.setVisible visible = after at hasked ⊢
    cases hasked with
    | kept => exact hlending.papers
    | told =>
      have hasking : (desk.asking visible).Lending before loans := hlending.papers
      exact hasking.posting hliving nofun
    | bounced =>
      have hasking : (desk.asking visible).Lending before loans := hlending.papers
      exact hasking.bouncing hliving _
  | submit frame =>
    have hsubmitted := desk.submitted frame
    show (desk.submit frame).2.Lending before loans
    generalize desk.submit frame = result at hsubmitted ⊢
    cases hsubmitted with
    | dropped => exact hlending.papers
    | queued epoch surface hadmits hbound =>
      have hposted : ((desk.lease frame).posting (.frame frame epoch)).Lending before loans := by
        have hleased : (desk.lease frame).Lending before loans := hlending.papers
        refine hleased.posting hliving ?_
        intro other later hsame
        cases hsame
        exact (epoch_of_link (show (desk.lease frame).link? = _ from hbound)).symm
      exact hposted.papers
    | bounced =>
      have hleased : (desk.lease frame).Lending before loans := hlending.papers
      exact hleased.bouncing hliving _
  | advance => exact hlending.advance haccounted halive
  | close => exact hlending.close hallows
  | destroy surface =>
    obtain ⟨after, hafter, hloses, _⟩ := Scene.link_destroy surface hlink
    refine hlending.aside (aside_destroy surface desk) hsited ?_ fun hterms => .inl (terms_of_destroy hterms)
    show desk.epoch ≤ (desk.changeScene (.destroy surface)).epoch
    rw [hepoch, show (desk.changeScene (.destroy surface)).epoch = after.epoch from epoch_of_link hafter]
    exact hloses.precedes.epoch_le
  | arrange arrangement =>
    have hsame : (desk.arrange arrangement).epoch = desk.epoch := by
      unfold Desk.epoch
      rw [link_arrange]
    exact hlending.aside (aside_arrange arrangement desk) hsited (Nat.le_of_eq hsame.symm)
      fun hterms => .inl ((terms_arrange arrangement desk).symm.trans hterms)

/-- The last frame lent under the binding in force is kept. -/
theorem kept (hlending : desk.Lending before loans) {bond : Bond} {last : Showing}
    (hbond : desk.bond? = some bond)
    (hlast : ((desk.lent loans).filter (·.bond == bond)).getLast? = some last) :
    last.frame ∈ desk.kept := by
  obtain ⟨link, hlink, hbound⟩ := Option.bind_eq_some_iff.1 hbond
  obtain ⟨surface, hsurface, rfl⟩ := Option.map_eq_some_iff.1 hbound
  obtain ⟨epoch, _⟩ := link
  cases hsurface
  obtain ⟨zeroCopy, hterms⟩ := terms_of_link hlink
  unfold lent at hlast
  unfold Desk.kept
  cases hloan : desk.call?.bind Call.lent? with
  | none =>
    rw [hloan, Option.toList_none, List.append_nil] at hlast
    rw [(hlending.guarded hterms).last hlast]
    exact List.mem_singleton.2 rfl
  | some showing =>
    obtain ⟨call, hcall, hlent⟩ := Option.bind_eq_some_iff.1 hloan
    cases call with
    | lending job =>
      cases hlent
      have hjob : desk.job? = some job := job_of_call hcall
      rw [hloan] at hlast
      have hsame : some job.frame = some last.frame := (hlending.guards_lent hjob hterms).last hlast
      refine List.mem_append_right _ (List.mem_singleton.2 ?_)
      exact (Option.some.inj hsame).symm
    | _ => cases hlent

end Lending

/-- A new presenter has lent nothing. -/
theorem lending_opened (surfaces : List Surface) (id : Nat) :
    (opened surfaces id).Lending (Scene.ofSurfaces surfaces).loans Loans.blank where
  sited := sited_opened surfaces id
  ordered := List.Pairwise.nil
  begun _ hmem := by cases hmem
  shelved := rfl
  mannerly hcall := by cases hcall
  guarded hterms := by cases hterms
  unmixed hterms := by cases hterms
  job hterms := by cases hterms
  going hjob := by cases hjob
  shown surface := by
    show (Scene.ofSurfaces surfaces).loans[surface]? = _
    cases (Scene.ofSurfaces surfaces).loans[surface]? with
    | none => rfl
    | some frames => exact congrArg some (List.append_nil frames).symm

/-- The consumer lives, the references are accounted for, and so are the loans. -/
structure Solvent (before : List (List SharedFrame)) (desk : Desk) (loans : Loans) : Prop where
  alive : desk.isDead = false
  accounted : desk.Accounted
  lending : desk.Lending before loans

/-- Every deed with which the consumer does not fail keeps this so. -/
theorem Solvent.perform {before : List (List SharedFrame)} {desk : Desk} {loans : Loans}
    (hsolvent : desk.Solvent before loans) {deed : Deed} (hallows : desk.Allows deed)
    (halive : (desk.perform deed).isDead = false) :
    (desk.perform deed).Solvent before (Loans.keeper.note desk deed loans) where
  alive := halive
  accounted := hsolvent.accounted.perform deed
  lending := hsolvent.lending.perform hsolvent.accounted hsolvent.alive hallows halive

/-- So it is after every run without a failure. -/
theorem solvent_run {surfaces : List Surface} {id : Nat} {acts : List Act}
    (hunfailing : (opened surfaces id).Unfailing acts) :
    ((opened surfaces id).run acts).Solvent (Scene.ofSurfaces surfaces).loans
      (Loans.keeper.onRun surfaces id acts) :=
  Observer.unfailing_keeps
    (fun _ _ _ hallows halive hsolvent => hsolvent.perform hallows halive) hunfailing
    ⟨rfl, accounted_opened surfaces id, lending_opened surfaces id⟩

/-- In a run without a failure, the surfaces were lent the frames of the loans. The last frame lent under the binding
in force is kept and referenced, and so is the one lent before it until the call that lends the next one returns.
Between two calls the renderer holds a frame if and only if it is the last one dealt with since the mailbox was
closed, and it was lent. And at any time a frame is referenced once for each time that it is on its way, and
once more if it was dealt with last and lent. -/
theorem lent_frames_kept {surfaces : List Surface} {id : Nat} {acts : List Act}
    (hunfailing : (opened surfaces id).Unfailing acts) :
    let desk := (opened surfaces id).run acts
    let presenter := desk.presenter
    let loans := Loans.keeper.onRun surfaces id acts
    (∀ surface, desk.scene.loans[surface]? = (Scene.ofSurfaces surfaces).loans[surface]?.map
      (· ++ Showing.at surface (desk.lent loans))) ∧
    (∀ bond last, desk.bond? = some bond →
      ((desk.lent loans).filter (·.bond == bond)).getLast? = some last →
      last.frame ∈ desk.kept ∧ 0 < presenter.references last.frame.mark) ∧
    (∀ job old, desk.call? = some (.lending job) →
      (loans.settled.filter (·.bond == job.bond)).getLast? = some old →
      old.frame ∈ desk.kept ∧ 0 < presenter.references old.frame.mark) ∧
    (desk.call? = none → ∀ frame,
      presenter.renderer.held = some frame ↔ loans.last = some ⟨frame, true⟩) ∧
    ∀ mark, presenter.references mark =
      copies mark (desk.mail.flatMap Envelope.frames) +
        copies mark (loans.last.bind Handled.kept?).toList := by
  have hsolvent := solvent_run hunfailing
  dsimp only
  generalize (opened surfaces id).run acts = desk, Loans.keeper.onRun surfaces id acts = loans
    at hsolvent ⊢
  obtain ⟨_, haccounted, hlending⟩ := hsolvent
  refine ⟨hlending.shown, ?_, ?_, ?_, ?_⟩
  · intro bond last hbond hlast
    have hkept := hlending.kept hbond hlast
    exact ⟨hkept, haccounted.references_kept hkept⟩
  · intro job old hcall hlast
    have hreserve := (hlending.going ((job_of_call hcall).trans rfl)).last hlast
    have hkept : old.frame ∈ desk.kept :=
      List.mem_append_left _ (Option.mem_toList.2 hreserve)
    exact ⟨hkept, haccounted.references_kept hkept⟩
  · intro hcall frame
    have hheld : desk.presenter.renderer.held = loans.last.bind Handled.kept? := by
      rw [← hlending.shelved]
      unfold reserve
      rw [hcall]
      rfl
    rw [hheld]
    exact Handled.bind_kept
  · intro mark
    rw [← hlending.shelved]
    exact haccounted.references_mail mark

/-- A frame was lent, and the call that lends the next one is at the surface. -/
def lentAnew : List Act :=
  let frame (mark : Nat) : SharedFrame := ⟨mark, ⟨#[], ⟨1, 1⟩, .rgba, 0⟩⟩
  [.setState .paused, .bind 0, .submit (frame 1), .advance, .advance, .advance, .advance,
    .submit (frame 2), .advance, .advance, .advance]

theorem lent_frames_kept_anew :
    let desk := (opened [.new ⟨"legacy", true, false, false, false, none⟩ (some ⟨1, 1⟩)] 0).run lentAnew
    (opened [.new ⟨"legacy", true, false, false, false, none⟩ (some ⟨1, 1⟩)] 0).Unfailing lentAnew ∧
      desk.bond? = some ⟨2, 0⟩ ∧ desk.scene.loans.map (·.map SharedFrame.mark) = [[1, 2]] ∧
      0 < desk.presenter.references 1 ∧ 0 < desk.presenter.references 2 := by
  have hunfailing : (opened [.new ⟨"legacy", true, false, false, false, none⟩ (some ⟨1, 1⟩)] 0).Unfailing
      lentAnew := by decide +kernel
  have hbond : ((opened [.new ⟨"legacy", true, false, false, false, none⟩ (some ⟨1, 1⟩)] 0).run
      lentAnew).bond? = some ⟨2, 0⟩ := by decide +kernel
  have hcall : ((opened [.new ⟨"legacy", true, false, false, false, none⟩ (some ⟨1, 1⟩)] 0).run
      lentAnew).call? = some (.lending ⟨⟨2, ⟨#[], ⟨1, 1⟩, .rgba, 0⟩⟩, 2, 0, false,
        some ⟨1, ⟨#[], ⟨1, 1⟩, .rgba, 0⟩⟩⟩) := by decide +kernel
  obtain ⟨_, hcurrent, hbefore, _⟩ := lent_frames_kept hunfailing
  -- The second frame is the last one lent under the binding, and the first was lent before it.
  have hsecond := hcurrent ⟨2, 0⟩ ⟨⟨2, ⟨#[], ⟨1, 1⟩, .rgba, 0⟩⟩, ⟨2, 0⟩⟩ hbond (by decide +kernel)
  have hfirst := hbefore _ ⟨⟨1, ⟨#[], ⟨1, 1⟩, .rgba, 0⟩⟩, ⟨2, 0⟩⟩ hcall (by decide +kernel)
  exact ⟨hunfailing, hbond, by decide +kernel, hfirst.2, hsecond.2⟩

end Desk

end FramePath

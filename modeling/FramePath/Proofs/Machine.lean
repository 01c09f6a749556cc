import Mathlib.Data.List.Forall2

/-!
# Machines that act and reply

A `Machine` is what acts and replies when it is asked to, such as a pipeline, a memory sink or a handle.
`Machine.steps` are the steps of a run, each with the states around it. If each act keeps two states alike and gives
replies alike (`Machine.Parallel`), so do all runs, step by step (`Parallel.steps`). A number that goes up by one in
the steps of a kind counts them (`Counted.run`). Steps of a kind that leave the state as it is can be left out of a
run, which is otherwise the same (`Idle.heeded`).
-/

namespace FramePath

/-- What can be asked to act, and replies. -/
structure Machine (State Act Reply : Type) where
  act : State → Act → State
  reply : State → Act → Reply

namespace Machine

variable {State Act Reply : Type} {machine : Machine State Act Reply}

/-- An act, the state that it found, the reply to it and the state that it left. -/
structure Step (State Act Reply : Type) where
  before : State
  act : Act
  reply : Reply
  after : State

/-- One step of a machine. -/
def step (machine : Machine State Act Reply) (state : State) (act : Act) : Step State Act Reply :=
  ⟨state, act, machine.reply state act, machine.act state act⟩

/-- Do several acts in order. -/
def run (machine : Machine State Act Reply) (acts : List Act) (state : State) : State :=
  acts.foldl machine.act state

/-- The steps of several acts. -/
def steps (machine : Machine State Act Reply) : List Act → State → List (Step State Act Reply)
  | [], _ => []
  | act :: acts, state => machine.step state act :: machine.steps acts (machine.act state act)

/-- The steps of several acts and of others after them. -/
theorem steps_append (acts others : List Act) (state : State) :
    machine.steps (acts ++ others) state =
      machine.steps acts state ++ machine.steps others (machine.run acts state) := by
  induction acts generalizing state with
  | nil => rfl
  | cons act acts ih => exact congrArg (machine.step state act :: ·) (ih (machine.act state act))

/-- A step of a run is one of its acts, done in the state to which those before it led. -/
theorem exists_of_mem_steps {acts : List Act} {state : State} {step : Step State Act Reply}
    (hmem : step ∈ machine.steps acts state) :
    ∃ before rest, acts = before ++ step.act :: rest ∧
      step = machine.step (machine.run before state) step.act := by
  induction acts generalizing state with
  | nil => exact absurd hmem List.not_mem_nil
  | cons act acts ih =>
    rcases List.mem_cons.1 hmem with rfl | hmem
    · exact ⟨[], acts, rfl, rfl⟩
    · obtain ⟨before, rest, hacts, hstep⟩ := ih hmem
      exact ⟨act :: before, rest, congrArg (act :: ·) hacts, hstep⟩

/-- Two steps that start alike, reply alike and end alike. -/
structure Step.Alike (replies : Reply → Reply → Prop) (states : State → State → Prop)
    (one other : Step State Act Reply) : Prop where
  before : states one.before other.before
  reply : replies one.reply other.reply
  after : states one.after other.after

/-- Acts alike in states alike are steps alike. -/
def Parallel (machine : Machine State Act Reply) (acts : Act → Act → Prop) (replies : Reply → Reply → Prop)
    (states : State → State → Prop) : Prop :=
  ∀ {one other : State} {act counterpart : Act}, states one other → acts act counterpart →
    replies (machine.reply one act) (machine.reply other counterpart) ∧
      states (machine.act one act) (machine.act other counterpart)

/-- Runs of acts alike are alike step by step. -/
theorem Parallel.steps {alike : Act → Act → Prop} {replies : Reply → Reply → Prop}
    {states : State → State → Prop} (hparallel : machine.Parallel alike replies states)
    {acts counterparts : List Act} (hacts : List.Forall₂ alike acts counterparts) {one other : State}
    (hstates : states one other) :
    List.Forall₂ (Step.Alike replies states) (machine.steps acts one) (machine.steps counterparts other) := by
  induction hacts generalizing one other with
  | nil => exact .nil
  | cons hact _ ih =>
    obtain ⟨hreply, hafter⟩ := hparallel hstates hact
    exact .cons ⟨hstates, hreply, hafter⟩ (ih hafter)

/-- A number goes up by one in the steps of a kind and stays in all others. -/
def Counted (machine : Machine State Act Reply) (number : State → Nat) (kind : Step State Act Reply → Bool) :
    Prop :=
  ∀ state act, number (machine.act state act) = number state + (kind (machine.step state act)).toNat

/-- Such a number says how many steps of the kind there were. -/
theorem Counted.run {number : State → Nat} {kind : Step State Act Reply → Bool}
    (hcounted : machine.Counted number kind) (acts : List Act) (state : State) :
    number (machine.run acts state) = number state + (machine.steps acts state).countP kind := by
  induction acts generalizing state with
  | nil => rfl
  | cons act acts ih =>
    refine (ih (machine.act state act)).trans ?_
    rw [hcounted, Machine.steps, List.countP_cons]
    cases kind (machine.step state act) with
    | false => rfl
    | true =>
      show _ + 1 + _ = _ + (_ + 1)
      omega

/-- Where a state has been reached, steps of a kind leave it. -/
def Idle (machine : Machine State Act Reply) (reached : State → Prop) (kind : Step State Act Reply → Bool) :
    Prop :=
  ∀ state act, reached state → kind (machine.step state act) = true → machine.act state act = state

/-- The acts of a run whose steps are not of a kind. -/
def heeded (machine : Machine State Act Reply) (kind : Step State Act Reply → Bool) :
    List Act → State → List Act
  | [], _ => []
  | act :: acts, state =>
      let later := machine.heeded kind acts (machine.act state act)
      if kind (machine.step state act) then later else act :: later

/-- Without its idle steps a run comes to the same state, and its other steps are the same. -/
theorem Idle.heeded {reached : State → Prop} {kind : Step State Act Reply → Bool}
    (hidle : machine.Idle reached kind)
    (hreached : ∀ state act, reached state → reached (machine.act state act)) (acts : List Act) {state : State}
    (hstate : reached state) :
    machine.run (machine.heeded kind acts state) state = machine.run acts state ∧
      machine.steps (machine.heeded kind acts state) state =
        (machine.steps acts state).filter fun step => !kind step := by
  induction acts generalizing state with
  | nil => exact ⟨rfl, rfl⟩
  | cons act acts ih =>
    obtain ⟨hrun, hsteps⟩ := ih (hreached state act hstate)
    simp only [Machine.heeded, Machine.steps]
    cases hkind : kind (machine.step state act) with
    | true =>
      -- The step is left out, and the rest starts from the state that it left as it was.
      have hsame := hidle state act hstate hkind
      rw [if_pos rfl, List.filter_cons_of_neg (by simp [hkind])]
      rw [hsame] at hrun hsteps ⊢
      exact ⟨hrun.trans (congrArg (machine.run acts) hsame).symm, hsteps⟩
    | false =>
      rw [if_neg (by decide), List.filter_cons_of_pos (by simp [hkind])]
      exact ⟨hrun, congrArg (machine.step state act :: ·) hsteps⟩

end Machine

end FramePath

import Mathlib

/-!
Contract: finite runs of a labelled machine.

A machine is a partial step function `σ → ι → Option σ`: the label carries
every choice of the environment (which agent moves, what it is answered), and
`none` means that the label is not enabled in that state.

Owns:
- runs, the states they reach and the steps they take;
- the invariant rule, with and without the labels taken so far, and the rule for
  a preorder kept by every step;
- the exactness rule: when each step keeps a property exactly if it meets a
  condition, a whole run keeps the property exactly if all its steps meet it;
- what the move of one agent changes in a list of agents.
-/

namespace TaxGateway.Transitions

universe u v

variable {σ : Type u} {ι : Type v} (step : σ → ι → Option σ)

/-- Take the labels in order. -/
def run : σ → List ι → Option σ
  | state, [] => some state
  | state, label :: rest => (step state label).bind fun next => run next rest

@[simp] theorem run_nil (state : σ) : run step state [] = some state := rfl

theorem run_cons (state : σ) (label : ι) (rest : List ι) :
    run step state (label :: rest) =
      (step state label).bind fun next => run step next rest := rfl

theorem run_append (state : σ) (first second : List ι) :
    run step state (first ++ second) =
      (run step state first).bind fun middle => run step middle second := by
  induction first generalizing state with
  | nil => rfl
  | cons label rest inductionHypothesis =>
      simp only [List.cons_append, run_cons]
      cases step state label with
      | none => rfl
      | some next => exact inductionHypothesis next

theorem run_singleton (state : σ) (label : ι) :
    run step state [label] = step state label := by
  rw [run_cons]
  cases step state label <;> rfl

theorem run_concat (state : σ) (labels : List ι) (label : ι) :
    run step state (labels ++ [label]) =
      (run step state labels).bind fun middle => step middle label := by
  rw [run_append]
  simp only [run_singleton]

variable {step}

/-- The state `reached` occurs in the run of `labels` from `start`. -/
def Reaches (step : σ → ι → Option σ) (start : σ) (labels : List ι)
    (reached : σ) : Prop :=
  ∃ before, before <+: labels ∧ run step start before = some reached

/-- The run of `labels` from `start` takes `label` in the state `source` and
ends that step in `target`. -/
def Takes (step : σ → ι → Option σ) (start : σ) (labels : List ι)
    (source : σ) (label : ι) (target : σ) : Prop :=
  ∃ before, before ++ [label] <+: labels ∧
    run step start before = some source ∧ step source label = some target

theorem Takes.reaches_source {start source target : σ} {labels : List ι}
    {label : ι} (takes : Takes step start labels source label target) :
    Reaches step start labels source := by
  obtain ⟨before, within, ran, -⟩ := takes
  exact ⟨before, (List.prefix_append before [label]).trans within, ran⟩

theorem Takes.reaches_target {start source target : σ} {labels : List ι}
    {label : ι} (takes : Takes step start labels source label target) :
    Reaches step start labels target := by
  obtain ⟨before, within, ran, stepped⟩ := takes
  refine ⟨before ++ [label], within, ?_⟩
  rw [run_concat, ran]
  exact stepped

/-- Induction over the states of a run: the start has the property, and every
step the run takes carries it on. -/
theorem reaches_induction {start : σ} {labels : List ι} {Property : σ → Prop}
    (atStart : Property start)
    (carried : ∀ source label target, Takes step start labels source label target →
      Property source → Property target) :
    ∀ reached, Reaches step start labels reached → Property reached := by
  rintro reached ⟨before, within, ran⟩
  induction before using List.reverseRecOn generalizing reached with
  | nil =>
      rw [run_nil] at ran
      exact Option.some.inj ran ▸ atStart
  | append_singleton before label inductionHypothesis =>
      rw [run_concat] at ran
      obtain ⟨source, ranBefore, stepped⟩ := Option.bind_eq_some_iff.mp ran
      have earlier := inductionHypothesis source
        ((List.prefix_append before [label]).trans within) ranBefore
      exact carried source label reached ⟨before, within, ranBefore, stepped⟩ earlier

/-- The invariant rule. -/
theorem run_invariant {Invariant : σ → Prop}
    (preserved : ∀ source label target, Invariant source →
      step source label = some target → Invariant target)
    {start final : σ} {labels : List ι} (atStart : Invariant start)
    (ran : run step start labels = some final) : Invariant final := by
  have carried : ∀ source label target, Takes step start labels source label target →
      Invariant source → Invariant target := by
    rintro source label target ⟨_, _, _, stepped⟩ held
    exact preserved source label target held stepped
  exact reaches_induction atStart carried final ⟨labels, List.prefix_refl labels, ran⟩

/-- The invariant rule for a property of the labels taken and the state reached. -/
theorem run_history {Property : List ι → σ → Prop}
    (carried : ∀ before source label target, Property before source →
      step source label = some target → Property (before ++ [label]) target)
    {start final : σ} {labels : List ι} (atStart : Property [] start)
    (ran : run step start labels = some final) : Property labels final := by
  induction labels using List.reverseRecOn generalizing final with
  | nil =>
      rw [run_nil] at ran
      exact Option.some.inj ran ▸ atStart
  | append_singleton before label inductionHypothesis =>
      rw [run_concat] at ran
      obtain ⟨source, ranBefore, stepped⟩ := Option.bind_eq_some_iff.mp ran
      exact carried before source label final (inductionHypothesis ranBefore) stepped

/-- A preorder kept by every step holds between the ends of a run. -/
theorem run_relates {R : σ → σ → Prop} [IsPreorder σ R]
    (kept : ∀ source label target, step source label = some target → R source target)
    {start final : σ} {labels : List ι} (ran : run step start labels = some final) :
    R start final := by
  have preserved : ∀ source label target, R start source →
      step source label = some target → R start target :=
    fun source label target held stepped =>
      IsTrans.trans start source target held (kept source label target stepped)
  exact run_invariant preserved (Std.Refl.refl start) ran

/-- The exactness rule for a property of states: if a step from a state with
the property keeps it exactly when it meets `Condition`, the property holds in
every state of a run exactly when every step of the run meets `Condition`. -/
theorem forall_reaches_iff_forall_takes {start : σ} {labels : List ι}
    {Property : σ → Prop} {Condition : σ → ι → Prop} (atStart : Property start)
    (exact : ∀ source label target, Property source →
      step source label = some target → (Property target ↔ Condition source label)) :
    (∀ reached, Reaches step start labels reached → Property reached) ↔
      ∀ source label target, Takes step start labels source label target →
        Condition source label := by
  constructor
  · intro held source label target takes
    obtain ⟨_, _, _, stepped⟩ := id takes
    exact (exact source label target (held source takes.reaches_source) stepped).mp
      (held target takes.reaches_target)
  · intro met
    apply reaches_induction atStart
    intro source label target takes held
    obtain ⟨_, _, _, stepped⟩ := id takes
    exact (exact source label target held stepped).mpr (met source label target takes)

/-- A property never given up in a run: once a state has it, so has every later
state. -/
def Absorbing (step : σ → ι → Option σ) (start : σ) (labels : List ι)
    (Property : σ → Prop) : Prop :=
  ∀ early late reached later, early <+: late → late <+: labels →
    run step start early = some reached → run step start late = some later →
    Property reached → Property later

/-- The exactness rule for an absorbing property: it is absorbing in a run
exactly when every step taken from a state with it meets `Condition`. -/
theorem absorbing_iff_forall_takes {start : σ} {labels : List ι}
    {Property : σ → Prop} {Condition : σ → ι → Prop}
    (exact : ∀ source label target, Property source →
      step source label = some target → (Property target ↔ Condition source label)) :
    Absorbing step start labels Property ↔
      ∀ source label target, Takes step start labels source label target →
        Property source → Condition source label := by
  constructor
  · rintro absorbing source label target ⟨before, within, ran, stepped⟩ held
    refine (exact source label target held stepped).mp ?_
    refine absorbing before (before ++ [label]) source target
      (List.prefix_append before [label]) within ran ?_ held
    rw [run_concat, ran]
    exact stepped
  · rintro met early late reached later ⟨extra, rfl⟩ within ranEarly ranLate held
    induction extra using List.reverseRecOn generalizing later with
    | nil =>
        rw [List.append_nil, ranEarly] at ranLate
        exact Option.some.inj ranLate ▸ held
    | append_singleton extra label inductionHypothesis =>
        rw [← List.append_assoc] at ranLate within
        rw [run_concat] at ranLate
        obtain ⟨source, ranBefore, stepped⟩ := Option.bind_eq_some_iff.mp ranLate
        have shorter : early ++ extra <+: labels :=
          (List.prefix_append (early ++ extra) [label]).trans within
        have sourceHeld := inductionHypothesis source shorter ranBefore
        exact (exact source label later sourceHeld stepped).mpr
          (met source label later ⟨early ++ extra, within, ranBefore, stepped⟩ sourceHeld)

/-! ## Agents

A machine that keeps its agents in a list moves one of them at a time. -/

section Agents

variable {α : Type u} {agents : List α} {index : Nat} {old new : α}

/-- What an agent was found to have it still has, if the agent that moved
carries it on. -/
theorem exists_getElem?_set (atIndex : agents[index]? = some old) {Has : α → Prop}
    (carried : Has old → Has new) {other : Nat}
    (has : ∃ agent, agents[other]? = some agent ∧ Has agent) :
    ∃ agent, (agents.set index new)[other]? = some agent ∧ Has agent := by
  obtain ⟨agent, atOther, held⟩ := has
  by_cases same : index = other
  · subst same
    obtain rfl := Option.some.inj (atIndex.symm.trans atOther)
    obtain ⟨below, -⟩ := List.getElem?_eq_some_iff.mp atIndex
    exact ⟨new, List.getElem?_set_self below, carried held⟩
  · exact ⟨agent, (List.getElem?_set_ne same).trans atOther, held⟩

/-- An agent after a move was there before it, or is the one that moved. -/
theorem getElem?_set_cases (atIndex : agents[index]? = some old) {other : Nat}
    {agent : α} (atOther : (agents.set index new)[other]? = some agent) :
    other = index ∧ agent = new ∨ other ≠ index ∧ agents[other]? = some agent := by
  by_cases same : index = other
  · subst same
    obtain ⟨below, -⟩ := List.getElem?_eq_some_iff.mp atIndex
    rw [List.getElem?_set_self below] at atOther
    exact .inl ⟨rfl, (Option.some.inj atOther).symm⟩
  · rw [List.getElem?_set_ne same] at atOther
    exact .inr ⟨Ne.symm same, atOther⟩

/-- An agent in a longer list was there before, or is the new one. -/
theorem getElem?_append_singleton_cases {other : Nat} {agent : α}
    (atOther : (agents ++ [new])[other]? = some agent) :
    agents[other]? = some agent ∨ other = agents.length ∧ agent = new := by
  by_cases below : other < agents.length
  · exact .inl ((List.getElem?_append_left below).symm.trans atOther)
  · rw [List.getElem?_append_right (by omega)] at atOther
    rw [List.getElem?_singleton] at atOther
    split at atOther
    next first => exact .inr ⟨by omega, (Option.some.inj atOther).symm⟩
    next => contradiction

/-- What a move does not change of an agent, it changes of no agent. -/
theorem map_set_eq {β : Type v} {f : α → β} (atIndex : agents[index]? = some old)
    (same : f new = f old) : (agents.set index new).map f = agents.map f := by
  rw [List.map_set, same]
  obtain ⟨below, rfl⟩ := List.getElem?_eq_some_iff.mp atIndex
  rw [← List.getElem_map f (h := by simpa using below)]
  exact List.set_getElem_self _

/-- An agent that moves to where `f` finds something adds that to what is found. -/
theorem filterMap_set_perm {β : Type v} {f : α → Option β} {value : β}
    (atIndex : agents[index]? = some old) (foundNothing : f old = none)
    (finds : f new = some value) :
    ((agents.set index new).filterMap f).Perm (agents.filterMap f ++ [value]) := by
  induction agents generalizing index with
  | nil => simp at atIndex
  | cons head tail inductionHypothesis =>
      cases index with
      | zero =>
          obtain rfl : head = old := by simpa using atIndex
          simp only [List.set_cons_zero, List.filterMap_cons, finds, foundNothing]
          exact (List.perm_append_singleton value (tail.filterMap f)).symm
      | succ place =>
          have atPlace : tail[place]? = some old := by simpa using atIndex
          have rest := inductionHypothesis atPlace
          simp only [List.set_cons_succ, List.filterMap_cons]
          cases f head with
          | none => exact rest
          | some other => exact rest.cons other

/-- A move that `f` does not see changes nothing of what it finds. -/
theorem filterMap_set_eq {β : Type v} {f : α → Option β} (atIndex : agents[index]? = some old)
    (same : f new = f old) : (agents.set index new).filterMap f = agents.filterMap f := by
  have mapped := map_set_eq atIndex same
  have found : ∀ members : List α, members.filterMap f = (members.map f).filterMap id := by
    intro members
    simp [List.filterMap_map]
  rw [found, mapped, ← found]

end Agents

end TaxGateway.Transitions

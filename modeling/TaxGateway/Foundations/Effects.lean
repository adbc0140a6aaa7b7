import Mathlib

/-!
Contract: actions on a state that may throw.

Owns:
- what an action ends with and the state it leaves, for each way actions are put
  together; a throw undoes nothing;
- whether an action returns, as an equivalence for each way actions are put together,
  and a property of whatever it returns;
- relations kept by an action: if a preorder holds across each part, it holds
  across the whole, however the whole ends;
- cells of the state that are switched for the time of one action and put back.

Does not own: any particular state.
-/

namespace TaxGateway.Effects

universe u

variable {ε σ τ α β : Type u}

/-- An action on a state `σ` that may throw an `ε`. -/
abbrev Action (ε σ α : Type u) : Type u := ExceptT ε (StateM σ) α

/-- What an action ends with, and the state it leaves. -/
def exec (action : Action ε σ α) (state : σ) : Except ε α × σ := action.run.run state

@[simp] theorem exec_pure (value : α) (state : σ) :
    exec (pure value : Action ε σ α) state = (.ok value, state) := rfl

@[simp] theorem exec_ofExcept (outcome : Except ε α) (state : σ) :
    exec (ofExcept outcome : Action ε σ α) state = (outcome, state) := by
  cases outcome <;> rfl

@[simp] theorem exec_get (state : σ) :
    exec (get : Action ε σ σ) state = (.ok state, state) := rfl

@[simp] theorem exec_modify (change : σ → σ) (state : σ) :
    exec (modify change : Action ε σ PUnit) state = (.ok ⟨⟩, change state) := rfl

theorem exec_bind (action : Action ε σ α) (next : α → Action ε σ β) (state : σ) :
    exec (action >>= next) state =
      match exec action state with
      | (.ok value, between) => exec (next value) between
      | (.error thrown, between) => (.error thrown, between) := by
  simp only [exec, ExceptT.run_bind, StateT.run_bind]
  rcases action.run.run state with ⟨_ | _, _⟩ <;> rfl

theorem exec_bind_ok {action : Action ε σ α} {next : α → Action ε σ β} {state between : σ}
    {value : α} (returned : exec action state = (.ok value, between)) :
    exec (action >>= next) state = exec (next value) between := by
  rw [exec_bind, returned]

theorem exec_bind_error {action : Action ε σ α} {next : α → Action ε σ β}
    {state between : σ} {thrown : ε} (threw : exec action state = (.error thrown, between)) :
    exec (action >>= next) state = (.error thrown, between) := by
  rw [exec_bind, threw]

/-- What is made of the result changes neither whether there is one nor the state. -/
theorem exec_bind_pure (action : Action ε σ α) (f : α → β) (state : σ) :
    exec (action >>= fun value => pure (f value)) state =
      ((exec action state).1.map f, (exec action state).2) := by
  rw [exec_bind]
  rcases exec action state with ⟨_ | _, _⟩ <;> rfl

theorem exec_tryCatch (action : Action ε σ α) (handler : ε → Action ε σ α) (state : σ) :
    exec (tryCatch action handler) state =
      match exec action state with
      | (.ok value, between) => (.ok value, between)
      | (.error thrown, between) => exec (handler thrown) between := by
  cases ended : exec action state with
  | mk outcome between =>
      have ended' : action state = (outcome, between) := ended
      cases outcome <;>
        simp [exec, tryCatch, tryCatchThe, MonadExceptOf.tryCatch, ExceptT.tryCatch, ExceptT.run,
          ExceptT.mk, StateT.run, bind, StateT.bind, pure, StateT.pure, ended']

theorem exec_tryFinally (action : Action ε σ α) (cleanup : Action ε σ PUnit) (state : σ) :
    exec (tryFinally action cleanup) state =
      match exec cleanup (exec action state).2 with
      | (.ok _, final) => ((exec action state).1, final)
      | (.error thrown, final) => (.error thrown, final) := by
  cases ended : exec action state with
  | mk outcome between =>
      have ended' : action state = (outcome, between) := ended
      cases cleaned : exec cleanup between with
      | mk result final =>
          have cleaned' : cleanup between = (result, final) := cleaned
          cases outcome <;> cases result <;>
            simp [exec, tryFinally, tryFinally', ExceptT.run, ExceptT.mk, StateT.run, bind,
              StateT.bind, pure, StateT.pure, Functor.map, ExceptT.map, ended', cleaned']

/-! ## Returning -/

/-- The action ends with a value. -/
def Returns (action : Action ε σ α) (state : σ) : Prop :=
  ∃ value, (exec action state).1 = .ok value

theorem returns_pure (value : α) (state : σ) : Returns (pure value : Action ε σ α) state :=
  ⟨value, rfl⟩

theorem not_returns_throw (thrown : ε) (state : σ) :
    ¬ Returns (throw thrown : Action ε σ α) state := by
  rintro ⟨value, returned⟩
  cases returned

section Returning

variable {action : Action ε σ α} {next : α → Action ε σ β} {state between : σ}

/-- Behind a part that returns, the rest decides. -/
theorem returns_bind_iff_of_ok {value : α} (returned : exec action state = (.ok value, between)) :
    Returns (action >>= next) state ↔ Returns (next value) between := by
  rw [Returns, exec_bind_ok returned, Returns]

/-- A part that throws ends the whole. -/
theorem not_returns_bind_of_error {thrown : ε}
    (threw : exec action state = (.error thrown, between)) : ¬ Returns (action >>= next) state := by
  rintro ⟨value, returned⟩
  rw [exec_bind_error threw] at returned
  cases returned

/-- What ends in a throw does not return. -/
theorem not_returns_bind_of_next (fails : ∀ value state, ¬ Returns (next value) state) :
    ¬ Returns (action >>= next) state := by
  cases ended : exec action state with
  | mk outcome between =>
      cases outcome with
      | error thrown => exact not_returns_bind_of_error ended
      | ok value => exact (returns_bind_iff_of_ok ended).not.mpr (fails value between)

/-- A handler that only throws leaves the decision to the body. -/
theorem returns_tryCatch_iff {handler : ε → Action ε σ α}
    (rethrows : ∀ thrown state, ¬ Returns (handler thrown) state) :
    Returns (tryCatch action handler) state ↔ Returns action state := by
  unfold Returns
  rw [exec_tryCatch]
  cases ended : exec action state with
  | mk outcome between =>
      cases outcome with
      | ok value => rfl
      | error thrown =>
          simp only [reduceCtorEq, exists_false, iff_false]
          exact rethrows thrown between

/-- A loop returns if each round does and keeps what the rounds rely on. -/
theorem exec_forM_ok {Invariant : σ → Prop} {members : List β} {body : β → Action ε σ PUnit}
    (round : ∀ member ∈ members, ∀ state, Invariant state →
      ∃ after, exec (body member) state = (.ok ⟨⟩, after) ∧ Invariant after)
    (initially : Invariant state) :
    ∃ after, exec (members.forM body) state = (.ok ⟨⟩, after) ∧ Invariant after := by
  induction members generalizing state with
  | nil => exact ⟨state, rfl, initially⟩
  | cons head tail inductionHypothesis =>
      obtain ⟨between, ran, keeps⟩ := round head (by simp) state initially
      obtain ⟨after, others, keepsOn⟩ := inductionHypothesis
        (fun member isMember => round member (List.mem_cons_of_mem head isMember)) keeps
      exact ⟨after, (exec_bind_ok ran).trans others, keepsOn⟩

end Returning

/-! ## What is returned -/

/-- Whatever the action returns, in any state, is a `Q`. -/
def Ensures (Q : α → Prop) (action : Action ε σ α) : Prop :=
  ∀ state value, (exec action state).1 = .ok value → Q value

theorem ensures_true (action : Action ε σ α) : Ensures (fun _ => True) action :=
  fun _ _ _ => trivial

theorem ensures_pure {Q : α → Prop} {value : α} (holds : Q value) :
    Ensures Q (pure value : Action ε σ α) := by
  intro state other returned
  obtain rfl := Except.ok.inj returned
  exact holds

theorem Ensures.bind {P : α → Prop} {Q : β → Prop} {action : Action ε σ α}
    {next : α → Action ε σ β} (first : Ensures P action)
    (others : ∀ value, P value → Ensures Q (next value)) : Ensures Q (action >>= next) := by
  intro state value returned
  rw [exec_bind] at returned
  split at returned
  next middle between ended =>
    exact others middle (first state middle (by rw [ended])) between value returned
  next => cases returned

/-! ## Relations an action keeps -/

/-- `R` holds between the state an action finds and the state it leaves. -/
def Follows (R : σ → σ → Prop) (action : Action ε σ α) : Prop :=
  ∀ state, R state (exec action state).2

section Follows

variable {R : σ → σ → Prop}

theorem Follows.mono {R' : σ → σ → Prop} (weaker : ∀ state state', R state state' → R' state state')
    {action : Action ε σ α} (follows : Follows R action) : Follows R' action :=
  fun state => weaker _ _ (follows state)

/-- What follows a look at the state starts from the state it looked at. -/
theorem Follows.get_bind {next : σ → Action ε σ β} {state : σ} (follows : Follows R (next state)) :
    R state (exec (get >>= next) state).2 := by
  rw [exec_bind_ok (exec_get state)]
  exact follows state

theorem follows_modify {change : σ → σ} (changes : ∀ state, R state (change state)) :
    Follows R (modify change : Action ε σ PUnit) :=
  changes

section Sequence

variable [IsTrans σ R]

theorem Follows.bind {action : Action ε σ α} {next : α → Action ε σ β}
    (first : Follows R action) (others : ∀ value, Follows R (next value)) :
    Follows R (action >>= next) := by
  intro state
  have start := first state
  rw [exec_bind]
  cases ended : exec action state with
  | mk outcome between =>
      rw [ended] at start
      cases outcome with
      | error thrown => exact start
      | ok value => exact IsTrans.trans _ _ _ start (others value between)

theorem Follows.tryCatch {action : Action ε σ α} {handler : ε → Action ε σ α}
    (body : Follows R action) (handles : ∀ thrown, Follows R (handler thrown)) :
    Follows R (tryCatch action handler) := by
  intro state
  have start := body state
  rw [exec_tryCatch]
  cases ended : exec action state with
  | mk outcome between =>
      rw [ended] at start
      cases outcome with
      | ok value => exact start
      | error thrown => exact IsTrans.trans _ _ _ start (handles thrown between)

theorem Follows.tryFinally {action : Action ε σ α} {cleanup : Action ε σ PUnit}
    (body : Follows R action) (cleans : Follows R cleanup) :
    Follows R (tryFinally action cleanup) := by
  intro state
  have start := body state
  have rest := cleans (exec action state).2
  rw [exec_tryFinally]
  cases cleaned : exec cleanup (exec action state).2 with
  | mk outcome final =>
      rw [cleaned] at rest
      cases outcome <;> exact IsTrans.trans _ _ _ start rest

/-- What a part is known to return, the rest may rely on. -/
theorem Follows.bind_of_ensures {P : α → Prop} {action : Action ε σ α}
    {next : α → Action ε σ β} (ensured : Ensures P action) (first : Follows R action)
    (others : ∀ value, P value → Follows R (next value)) : Follows R (action >>= next) := by
  intro state
  have start := first state
  rw [exec_bind]
  cases ended : exec action state with
  | mk outcome between =>
      rw [ended] at start
      cases outcome with
      | error thrown => exact start
      | ok value =>
          have known : P value := ensured state value (by rw [ended])
          exact IsTrans.trans _ _ _ start (others value known between)

end Sequence

variable [Std.Refl R]

theorem follows_pure (value : α) : Follows R (pure value : Action ε σ α) :=
  fun state => Std.Refl.refl state

theorem follows_throw (thrown : ε) : Follows R (throw thrown : Action ε σ α) :=
  fun state => Std.Refl.refl state

theorem follows_ofExcept (outcome : Except ε α) :
    Follows R (ofExcept outcome : Action ε σ α) := by
  intro state
  rw [exec_ofExcept]
  exact Std.Refl.refl state

/-- A loop over a list. -/
theorem Follows.forM [IsTrans σ R] {members : List β} {body : β → Action ε σ PUnit}
    (round : ∀ member ∈ members, Follows R (body member)) : Follows R (members.forM body) := by
  induction members with
  | nil => exact follows_pure PUnit.unit
  | cons head tail inductionHypothesis =>
      have others := inductionHypothesis fun member isMember =>
        round member (List.mem_cons_of_mem head isMember)
      exact (round head (by simp)).bind fun _ => others

end Follows

/-! ## Cells -/

/-- A part of the state that can be read and overwritten. -/
structure Cell (σ τ : Type u) where
  get : σ → τ
  put : τ → σ → σ
  get_put : ∀ value state, get (put value state) = value

namespace Cell

variable (cell : Cell σ τ)

def read : Action ε σ τ := do return cell.get (← MonadState.get)

def write (value : τ) : Action ε σ PUnit := modify (cell.put value)

@[simp] theorem exec_read (state : σ) :
    exec (cell.read : Action ε σ τ) state = (.ok (cell.get state), state) := rfl

@[simp] theorem exec_write (value : τ) (state : σ) :
    exec (cell.write value : Action ε σ PUnit) state = (.ok ⟨⟩, cell.put value state) := rfl

/-- Note the cell, switch it, and put it back once the body has ended, however it
ended. -/
def restoring (switch : Action ε σ PUnit) (body : Action ε σ α) : Action ε σ α := do
  let original ← cell.read
  switch
  tryFinally body (cell.write original : Action ε σ PUnit)

variable {cell} {switch : Action ε σ PUnit} {body : Action ε σ α} {state between : σ}

theorem exec_restoring_ok (switched : exec switch state = (.ok ⟨⟩, between)) :
    exec (cell.restoring switch body) state =
      ((exec body between).1, cell.put (cell.get state) (exec body between).2) := by
  rw [restoring, exec_bind_ok (cell.exec_read state), exec_bind_ok switched, exec_tryFinally]
  rfl

theorem exec_restoring_error {thrown : ε}
    (threw : exec switch state = (.error thrown, between)) :
    exec (cell.restoring switch body) state = (.error thrown, between) := by
  rw [restoring, exec_bind_ok (cell.exec_read state), exec_bind_error threw]

/-- Once the cell is switched, the body decides whether the whole returns. -/
theorem returns_restoring_iff_of_ok (switched : exec switch state = (.ok ⟨⟩, between)) :
    Returns (cell.restoring switch body) state ↔ Returns body between := by
  rw [Returns, exec_restoring_ok switched, Returns]

theorem not_returns_restoring_of_error {thrown : ε}
    (threw : exec switch state = (.error thrown, between)) :
    ¬ Returns (cell.restoring switch body) state := by
  rintro ⟨value, returned⟩
  rw [exec_restoring_error threw] at returned
  cases returned

/-- What a method returns is what its body returns. -/
theorem ensures_restoring {Q : α → Prop} (inside : Ensures Q body) :
    Ensures Q (cell.restoring switch body) := by
  intro state value returned
  cases switched : exec switch state with
  | mk outcome between =>
      cases outcome with
      | error thrown =>
          rw [exec_restoring_error switched] at returned
          cases returned
      | ok done =>
          rw [exec_restoring_ok switched] at returned
          exact inside between value returned

/-- The cell is back whatever the body does, if a switch that throws leaves it
alone. -/
theorem get_exec_restoring
    (switchFails : ∀ thrown between, exec switch state = (.error thrown, between) →
      cell.get between = cell.get state) :
    cell.get (exec (cell.restoring switch body) state).2 = cell.get state := by
  cases switched : exec switch state with
  | mk outcome between =>
      cases outcome with
      | error thrown =>
          rw [exec_restoring_error switched]
          exact switchFails thrown between switched
      | ok value =>
          rw [exec_restoring_ok switched]
          exact cell.get_put _ _

/-- A relation that no write to the cell can break is kept, whatever the cell holds in
between. -/
theorem follows_restoring {R : σ → σ → Prop} [IsPreorder σ R]
    (puts : ∀ value state, R state (cell.put value state)) (switches : Follows R switch)
    (inside : Follows R body) : Follows R (cell.restoring switch body) := by
  have reads : Follows R (cell.read : Action ε σ τ) := by
    intro state
    rw [exec_read]
    exact Std.Refl.refl state
  refine reads.bind fun original => switches.bind fun _ => ?_
  exact inside.tryFinally (follows_modify (puts original))

end Cell

end TaxGateway.Effects

/-! # Actions with a state and exceptions

An action on a state may raise an exception, and keeps what it has done to the state before. What
an action does to the state is described by a relation, which a sequence of actions respects if
each of them does.
-/

namespace EventPipeline.Effects

variable {Error State Value Next : Type}

/-- The state afterwards, also if an exception has been raised. -/
def after (action : EStateM Error State Value) (state : State) : State :=
  match action state with
  | .ok _ next => next
  | .error _ next => next

def outcome (action : EStateM Error State Value) (state : State) : Except Error Value :=
  match action state with
  | .ok value _ => .ok value
  | .error error _ => .error error

/-- A value, or an exception that is raised. -/
def lift : Except Error Value → EStateM Error State Value
  | .ok value => pure value
  | .error error => throw error

/-- The states before and after the action are related. -/
def Respects (relation : State → State → Prop) (action : EStateM Error State Value) : Prop :=
  ∀ state, relation state (after action state)

theorem after_bind_ok {action : EStateM Error State Value} {state next : State} {value : Value}
    (ran : action state = .ok value next) (continuation : Value → EStateM Error State Next) :
    after (action >>= continuation) state = after (continuation value) next := by
  simp only [after, bind, EStateM.bind, ran]

theorem after_bind_error {action : EStateM Error State Value} {state next : State}
    {error : Error} (raised : action state = .error error next)
    (continuation : Value → EStateM Error State Next) :
    after (action >>= continuation) state = next := by
  simp only [after, bind, EStateM.bind, raised]

theorem run_bind_ok {action : EStateM Error State Value} {state next : State} {value : Value}
    (ran : action state = .ok value next) (continuation : Value → EStateM Error State Next) :
    (action >>= continuation) state = continuation value next := by
  simp only [bind, EStateM.bind, ran]

theorem run_bind_error {action : EStateM Error State Value} {state next : State}
    {error : Error} (raised : action state = .error error next)
    (continuation : Value → EStateM Error State Next) :
    (action >>= continuation) state = .error error next := by
  simp only [bind, EStateM.bind, raised]

theorem run_get_bind (continuation : State → EStateM Error State Next) (state : State) :
    (get >>= continuation : EStateM Error State Next) state = continuation state state := rfl

theorem after_get_bind (continuation : State → EStateM Error State Next) (state : State) :
    after (get >>= continuation) state = after (continuation state) state := rfl

theorem after_set_bind (state other : State)
    (continuation : PUnit → EStateM Error State Next) :
    after (set other >>= continuation) state = after (continuation ⟨⟩) other := rfl

theorem after_map (transform : Value → Next) (action : EStateM Error State Value)
    (state : State) : after (transform <$> action) state = after action state := by
  simp only [after, Functor.map, EStateM.map]
  cases action state with
  | ok value next => rfl
  | error error next => rfl

section Rules

variable {relation : State → State → Prop}

theorem respects_pure (refl : ∀ state, relation state state) (value : Value) :
    Respects relation (pure value : EStateM Error State Value) :=
  fun state => refl state

theorem respects_lift (refl : ∀ state, relation state state) (result : Except Error Value) :
    Respects relation (lift result) := by
  intro state
  cases result with
  | ok value => exact refl state
  | error error => exact refl state

theorem respects_bind
    (trans : ∀ first second third, relation first second → relation second third →
      relation first third)
    {action : EStateM Error State Value} {continuation : Value → EStateM Error State Next}
    (first : Respects relation action) (rest : ∀ value, Respects relation (continuation value)) :
    Respects relation (action >>= continuation) := by
  intro state
  have step := first state
  unfold after at step
  cases ran : action state with
  | ok value next =>
      rw [ran] at step
      rw [after_bind_ok ran]
      exact trans _ _ _ step (rest value next)
  | error error next =>
      rw [ran] at step
      rw [after_bind_error ran]
      exact step

theorem respects_mapM {Argument : Type} (refl : ∀ state, relation state state)
    (trans : ∀ first second third, relation first second → relation second third →
      relation first third)
    {action : Argument → EStateM Error State Value}
    (each : ∀ argument, Respects relation (action argument)) (arguments : List Argument) :
    Respects relation (arguments.mapM action) := by
  induction arguments with
  | nil => exact respects_pure refl []
  | cons argument arguments induction =>
      rw [List.mapM_cons]
      refine respects_bind trans (each argument) fun value => ?_
      exact respects_bind trans induction fun values => respects_pure refl _

theorem respects_finally
    (trans : ∀ first second third, relation first second → relation second third →
      relation first third)
    {block : EStateM Error State Value} {finalizer : EStateM Error State Next}
    (first : Respects relation block) (last : Respects relation finalizer) :
    Respects relation (tryFinally block finalizer) := by
  intro state
  have step := first state
  unfold after at step
  cases ran : block state with
  | ok value next =>
      rw [ran] at step
      have final := last next
      unfold after at final
      cases finished : finalizer next <;> rw [finished] at final <;>
        simpa only [after, tryFinally, tryFinally', Functor.map, EStateM.map, ran, finished]
          using trans _ _ _ step final
  | error error next =>
      rw [ran] at step
      have final := last next
      unfold after at final
      cases finished : finalizer next <;> rw [finished] at final <;>
        simpa only [after, tryFinally, tryFinally', Functor.map, EStateM.map, ran, finished]
          using trans _ _ _ step final

theorem respects_get_bind {continuation : State → EStateM Error State Next}
    (rest : ∀ state, relation state (after (continuation state) state)) :
    Respects relation (get >>= continuation) :=
  fun state => rest state

end Rules

end EventPipeline.Effects

import Mathlib.Logic.Function.Basic
import VpnHub.Library.Transition
import VpnHub.Program.Daemon.State

/-! The state manager with any number of tasks that hold clones of it: `core/state.rs`. A call of
`transition_to` is two steps, and other tasks can take theirs in between. -/

namespace VpnHub.Daemon

/-- `DaemonEvent::StateChanged`. -/
structure StateChanged where
  previous : SessionState
  current : SessionState
  reason : Option Text
  deriving DecidableEq, Repr

/-- An event that `is_valid_transition` allows. -/
def StateChanged.IsValid (event : StateChanged) : Prop :=
  event.previous.isValidTransition event.current = true

/-- The state and start of the session, and the events published so far. -/
structure StateManager where
  state : SessionState
  sessionStartEpochSecs : UInt64
  events : List StateChanged
  deriving DecidableEq, Repr

namespace StateManager

def new : StateManager where
  state := .disconnected
  sessionStartEpochSecs := 0
  events := []

/-- The first half of `transition_to`: reads the state and validates. There is nothing more to do
when the state is the wanted one. -/
def validate (m : StateManager) (next : SessionState) (reason : Option Text) :
    Except DaemonError (Option StateChanged) :=
  if m.state = next then .ok none
  else if !SessionState.isValidTransition m.state next then
    .error (.invalidState ("Cannot transition from ".toList ++ m.state.debug ++ " to ".toList ++
      next.debug))
  else .ok (some { previous := m.state, current := next, reason })

/-- The second half, `epochSecs` after the epoch: publishes the state and the event. -/
def publish (m : StateManager) (event : StateChanged) (epochSecs : UInt64) : StateManager where
  state := event.current
  sessionStartEpochSecs :=
    if event.current = .connected then epochSecs
    else if event.current = .disconnected then 0
    else m.sessionStartEpochSecs
  events := m.events ++ [event]

/-- Both halves without a task in between. -/
theorem validate_state (m : StateManager) (next : SessionState) (reason : Option Text) :
    (m.validate next reason).map (fun event => event.elim m.state (·.current)) =
      m.state.transitionTo next := by
  unfold validate SessionState.transitionTo
  by_cases hsame : m.state = next
  · rw [if_pos hsame, if_pos hsame]
    rfl
  · rw [if_neg hsame, if_neg hsame]
    split <;> rfl

end StateManager

/-! ## Tasks -/

/-- The manager, and what each task has validated and not yet published. -/
structure SharedManager (Task : Type) where
  manager : StateManager
  validated : Task → Option StateChanged

inductive StateAction (Task : Type) where
  | validate (task : Task) (next : SessionState) (reason : Option Text)
  | publish (task : Task) (epochSecs : UInt64)
  deriving DecidableEq, Repr

namespace SharedManager

variable {Task : Type}

def new : SharedManager Task where
  manager := .new
  validated _ := none

variable [DecidableEq Task]

/-- A task that has validated publishes before it calls again. -/
def step (s : SharedManager Task) : StateAction Task → Option (SharedManager Task)
  | .validate task next reason =>
    match s.validated task with
    | some _ => none
    | none =>
      match s.manager.validate next reason with
      | .ok event => some { s with validated := Function.update s.validated task event }
      | .error _ => some s
  | .publish task epochSecs =>
    (s.validated task).map fun event =>
      { manager := s.manager.publish event epochSecs
        validated := Function.update s.validated task none }

/-- Every event starts where the one before it ended. -/
def Connects (events : List StateChanged) : Prop :=
  events.IsChain fun e₁ e₂ => e₂.previous = e₁.current

instance (events : List StateChanged) : Decidable (Connects events) :=
  inferInstanceAs (Decidable (events.IsChain fun e₁ e₂ => e₂.previous = e₁.current))

def ValidPath (events : List StateChanged) : Prop :=
  Connects events ∧ ∀ event ∈ events, event.IsValid

/-- A task publishes while the state is still the one it has read. -/
def Undisturbed (s : SharedManager Task) : StateAction Task → Prop
  | .validate _ _ _ => True
  | .publish task _ => ∀ event ∈ s.validated task, event.previous = s.manager.state

end SharedManager

end VpnHub.Daemon

import Mathlib.Data.List.Chain
import VpnHub.Model.StateLog

/-! # The log of the session state

A task that publishes what it has validated against an older state breaks the path of the events;
nothing else does. -/

namespace VpnHub.Daemon.SharedManager

variable {Task : Type} [DecidableEq Task] {s t : SharedManager Task} {a : StateAction Task}

/-! ## One step -/

theorem validate_eq_some {m : StateManager} {next : SessionState} {reason : Option Text}
    {event : StateChanged} (h : m.validate next reason = .ok (some event)) :
    event.previous = m.state ∧ event.IsValid := by
  unfold StateManager.validate at h
  split_ifs at h with hsame hvalid
  · cases h
  · obtain rfl := Option.some.inj (Except.ok.inj h)
    have hvalid : m.state.isValidTransition next = true := by simpa using hvalid
    exact ⟨rfl, hvalid⟩

/-- What a step can do: a task asks for nothing that has to be done or is refused, or validates,
or publishes what it has validated. -/
inductive StepShape (s : SharedManager Task) : StateAction Task → SharedManager Task → Prop where
  | idle {task : Task} {next : SessionState} {reason : Option Text} :
      StepShape s (.validate task next reason) s
  | validated {task : Task} {next : SessionState} {reason : Option Text} {event : StateChanged}
      (hprevious : event.previous = s.manager.state) (hvalid : event.IsValid) :
      StepShape s (.validate task next reason)
        { s with validated := Function.update s.validated task (some event) }
  | published {task : Task} {epochSecs : UInt64} {event : StateChanged}
      (h : s.validated task = some event) :
      StepShape s (.publish task epochSecs)
        { manager := s.manager.publish event epochSecs
          validated := Function.update s.validated task none }

theorem step_cases (h : s.step a = some t) : StepShape s a t := by
  cases a with
  | validate task next reason =>
      simp only [step] at h
      cases hpending : s.validated task with
      | some event => simp [hpending] at h
      | none =>
          rw [hpending] at h
          cases hvalidate : s.manager.validate next reason with
          | error err =>
              rw [hvalidate] at h
              obtain rfl := Option.some.inj h
              exact .idle
          | ok event =>
              rw [hvalidate] at h
              obtain rfl := Option.some.inj h
              cases event with
              | some event =>
                  obtain ⟨hprevious, hvalid⟩ := validate_eq_some hvalidate
                  exact .validated hprevious hvalid
              | none =>
                  rw [← hpending, Function.update_eq_self]
                  exact .idle
  | publish task epochSecs =>
      obtain ⟨event, hpending, rfl⟩ := Option.map_eq_some_iff.mp h
      exact .published hpending

/-! ## Every run -/

/-- The state is where the log ends, and every event, published or not, is valid. Before the first
one is published they all start from the initial state. -/
structure Logged (s : SharedManager Task) : Prop where
  state : s.manager.state = (s.manager.events.getLast?.map (·.current)).getD .disconnected
  first : s.manager.events = [] → ∀ task, ∀ event ∈ s.validated task, event.previous = .disconnected
  validated : ∀ task, ∀ event ∈ s.validated task, event.IsValid
  published : ∀ event ∈ s.manager.events, event.IsValid

omit [DecidableEq Task] in
theorem Logged.new : Logged (SharedManager.new : SharedManager Task) where
  state := rfl
  first _ _ event h := by cases h
  validated _ event h := by cases h
  published event h := by cases h

theorem Logged.step (h : Logged s) (hstep : s.step a = some t) : Logged t := by
  cases step_cases hstep with
  | idle => exact h
  | @validated task next reason event hprevious hvalid =>
      refine ⟨h.state, fun hempty other event' hevent => ?_, fun other event' hevent => ?_, h.published⟩
      · by_cases hother : other = task
        · subst hother
          obtain rfl : event = event' := by simpa using hevent
          have hstate := h.state
          rw [show s.manager.events = [] from hempty] at hstate
          exact hprevious.trans hstate
        · exact h.first hempty other event' (by simpa [Function.update_of_ne hother] using hevent)
      · by_cases hother : other = task
        · subst hother
          obtain rfl : event = event' := by simpa using hevent
          exact hvalid
        · exact h.validated other event' (by simpa [Function.update_of_ne hother] using hevent)
  | @published task epochSecs event hpending =>
      refine ⟨?_, fun hempty => ?_, fun other event' hevent => ?_, fun event' hevent => ?_⟩
      · simp [StateManager.publish]
      · simp [StateManager.publish] at hempty
      · by_cases hother : other = task
        · subst hother
          simp at hevent
        · exact h.validated other event' (by simpa [Function.update_of_ne hother] using hevent)
      · rcases List.mem_append.mp hevent with hevent | hevent
        · exact h.published event' hevent
        · rw [List.mem_singleton.mp hevent]
          exact h.validated task event hpending

/-- A step keeps the path exactly if it publishes from the state that is there. -/
theorem connects_step (h : Logged s) (hstep : s.step a = some t) :
    Connects t.manager.events ↔ Connects s.manager.events ∧ s.Undisturbed a := by
  cases step_cases hstep with
  | idle => exact (and_iff_left trivial).symm
  | validated hprevious hvalid => exact (and_iff_left trivial).symm
  | @published task epochSecs event hpending =>
      have hundisturbed : s.Undisturbed (.publish task epochSecs) ↔
          event.previous = s.manager.state := by
        simp [Undisturbed, hpending]
      rw [hundisturbed]
      change Connects (s.manager.events ++ [event]) ↔ _
      rw [Connects, List.isChain_append]
      refine and_congr_right fun _ => ?_
      simp only [List.isChain_singleton, List.head?_cons, Option.mem_def, Option.some.injEq,
        forall_eq', true_and]
      cases hlast : s.manager.events.getLast? with
      | none =>
          have hempty : s.manager.events = [] := List.getLast?_eq_none_iff.mp hlast
          have hstate : s.manager.state = .disconnected := by rw [h.state, hlast]; rfl
          rw [hstate]
          exact iff_of_true (by simp) (h.first hempty task event hpending)
      | some last =>
          have hstate : s.manager.state = last.current := by rw [h.state, hlast]; rfl
          simp [hstate]

/-- The log of a run is a path of valid transitions exactly if, in every step of it, a task
publishes from the state it has validated against. -/
theorem validPath_iff {as : List (StateAction Task)}
    (run : Transition.Run step (fun _ _ => True) new as s) :
    ValidPath s.manager.events ↔ Transition.Run step Undisturbed new as s := by
  have hlogged : Logged s :=
    run.invariant (fun _ _ _ _ hstep h => h.step hstep) Logged.new
  have hkeeps : Connects s.manager.events ↔ Connects ([] : List StateChanged) ∧
      Transition.Run step Undisturbed new as s :=
    run.keeps_iff (I := Logged) (P := fun s => Connects s.manager.events)
      (fun _ _ _ hstep h => h.step hstep) (fun _ _ _ hstep h => connects_step h hstep) .new
  rw [ValidPath, and_iff_left hlogged.published]
  exact hkeeps.trans (and_iff_right .nil)

/-- Three tasks connect, report the connection and end it, one after the other. -/
def inTurn : List (StateAction ℕ) :=
  [.validate 0 .connecting (some "User initiated connection".toList), .publish 0 100,
    .validate 1 .connected none, .publish 1 107,
    .validate 2 .disconnecting (some "Disconnect initiated".toList), .publish 2 112]

/-- The driver reports the connection while the user already ends it. -/
def overlapping : List (StateAction ℕ) :=
  [.validate 0 .connecting (some "User initiated connection".toList), .publish 0 100,
    .validate 1 .connected none,
    .validate 2 .disconnecting (some "Disconnect initiated".toList), .publish 2 107,
    .publish 1 107]

theorem validPath_inTurn : ∃ s : SharedManager ℕ,
    Transition.Run step (fun _ _ => True) new inTurn s ∧
      (ValidPath s.manager.events ↔ Transition.Run step Undisturbed new inTurn s) := by
  have hcheck : (Transition.runList step (fun _ _ => True) new inTurn).any
      (fun s => s.manager.state = .disconnecting) = true := by decide
  obtain ⟨s, run, -⟩ := Transition.exists_run_of_any hcheck
  exact ⟨s, run, validPath_iff run⟩

theorem not_validPath_overlapping : ¬ ∀ (Task : Type) [DecidableEq Task]
    (as : List (StateAction Task)) (s : SharedManager Task),
    Transition.Run step (fun _ _ => True) new as s → ValidPath s.manager.events := by
  intro hclaim
  have hcheck : (Transition.runList step (fun _ _ => True) new overlapping).any
      (fun s => ¬ Connects s.manager.events) = true := by decide
  obtain ⟨s, run, hbroken⟩ := Transition.exists_run_of_any hcheck
  exact of_decide_eq_true hbroken (hclaim ℕ overlapping s run).1

end VpnHub.Daemon.SharedManager

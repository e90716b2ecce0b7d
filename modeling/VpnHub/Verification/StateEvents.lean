import VpnHub.Verification.Announcements
import VpnHub.Verification.Engine.StateTrail

/-! # The state changes that a session broadcasts

While the loop goes on, every call of the engine has returned `Ok`, so its announcements form one
way through the states, and the last of them is the state of the engine. -/

namespace VpnHub.Core.Pipeline

open Config Protocol ProtocolEngine

variable {Conn : Type} {env : SessionEnv Conn} {p p' : Pipeline Conn}

/-- The states of the `StateChanged` events. -/
def stateEvents (effects : List Effect) : List EngineState :=
  effects.filterMap fun
    | .event (.stateChanged state) => some state
    | _ => none

theorem stateEvents_append (effects : List Effect) (effect : Effect) :
    stateEvents (effects ++ [effect]) = stateEvents effects ++ stateEvents [effect] := by
  simp [stateEvents]

/-! ## A drain -/

/-- The engine keeps its state, and the change that heads the outbox becomes an event. -/
def Dispatched (actions : List OutputAction) (p p' : Pipeline Conn) : Prop :=
  stateEvents p'.effects = stateEvents p.effects ++ changes actions ∧
    p'.engine = p.engine

theorem dispatched_write (effect : Effect) (heffect : stateEvents [effect] = []) :
    Prog.OkKeeps (Dispatched []) (write env effect) := by
  intro p a p' hrun
  rw [run_write] at hrun
  split at hrun
  · cases hrun
  · obtain rfl : _ = p' := by simpa using hrun
    exact ⟨by rw [stateEvents_append, heffect]; rfl, rfl⟩

theorem dispatched_dispatch (action : OutputAction) :
    Prog.OkKeeps (Dispatched [action]) (dispatch env action) := by
  have hemit (effect : Effect) : Prog.OkKeeps (fun p p' : Pipeline Conn =>
      stateEvents p'.effects = stateEvents p.effects ++ stateEvents [effect] ∧
        p'.engine = p.engine) (emit effect) :=
    (Prog.Keeps.modify fun p => ⟨stateEvents_append p.effects effect, rfl⟩).okKeeps
  cases action with
  | sendToNetwork packet => exact dispatched_write _ rfl
  | sendToTun packet => exact dispatched_write _ rfl
  | configureNetwork config => exact hemit _
  | requestAuthChallenge challenge => exact hemit _
  | stateChange state => exact hemit _
  | closeSession reason => exact Prog.OkKeeps.bind_throw _ _

/-- What a drain that ends with `Ok` makes of the pipeline. -/
structure Drained (p p' : Pipeline Conn) : Prop where
  events : stateEvents p'.effects = stateEvents p.effects ++ changes p.engine.outbox
  state : p'.engine.state = p.engine.state
  outbox : p'.engine.outbox = []

theorem drained_drainActions {actions : List OutputAction} (h : p.engine.outbox = actions)
    {a : Unit}
    (hrun : (drainActions env actions).run p = some (.ok a, p')) : Drained p p' := by
  induction actions generalizing p with
  | nil =>
      obtain rfl : p = p' := by simpa [drainActions] using hrun
      exact ⟨by rw [h]; exact (List.append_nil _).symm, rfl, h⟩
  | cons action rest ih =>
      rw [drainActions, Prog.run_modify_bind] at hrun
      obtain ⟨_, p₁, hdispatch, hrun⟩ := Prog.run_bind_eq_ok.mp hrun
      obtain ⟨hevents, hengine⟩ := dispatched_dispatch action _ _ _ hdispatch
      have hpoll : p.engine.pollOutputAction.2 = { p.engine with outbox := rest } := by
        rw [pollOutputAction, h]
      obtain ⟨hrest, hstate, houtbox⟩ := ih (by rw [hengine, hpoll]) hrun
      refine ⟨?_, ?_, houtbox⟩
      · rw [hrest, hevents, hengine, hpoll, h, List.append_assoc, ← changes_append]
        rfl
      · rw [hstate, hengine, hpoll]

theorem drained_drainEngineActions : Prog.OkKeeps Drained (drainEngineActions env) := by
  intro p a p' hrun
  rw [drainEngineActions, Prog.run_get_bind] at hrun
  exact drained_drainActions rfl hrun

/-! ## A turn -/

/-- From an empty outbox to an empty outbox, the new events lead from the one state of the engine
to the other. -/
def Broadcasts (p p' : Pipeline Conn) : Prop :=
  p.engine.outbox = [] → p'.engine.outbox = [] ∧
    ∃ l, stateEvents p'.effects = stateEvents p.effects ++ l ∧
      Trail p.engine.state l p'.engine.state

/-- The engine stays, and no change of its state is broadcast. -/
def Silent (p p' : Pipeline Conn) : Prop :=
  p'.engine = p.engine ∧ stateEvents p'.effects = stateEvents p.effects

theorem Silent.refl (p : Pipeline Conn) : Silent p p := ⟨rfl, rfl⟩

theorem Silent.broadcasts (h : Silent p p') : Broadcasts p p' := by
  intro hempty
  rw [h.1, h.2]
  exact ⟨hempty, [], (List.append_nil _).symm, rfl⟩

theorem run_onEngine_ok {call : EngineM Conn Unit} {a : Unit}
    (h : (onEngine call).run p = some (.ok a, p')) :
    ∃ engine, call.run p.engine = some (.ok (), engine) ∧ p' = { p with engine } := by
  rw [run_onEngine] at h
  obtain ⟨⟨r, engine⟩, hrun, hout⟩ := Option.map_eq_some_iff.mp h
  obtain ⟨hr, rfl⟩ : r.mapError CoreError.protocol = .ok _ ∧ _ = p' := by simpa using hout
  cases r with
  | ok u => exact ⟨engine, hrun, rfl⟩
  | error e => cases hr

/-- A call of the engine is followed by a drain, whatever is counted in between and done after. -/
theorem broadcasts_call {α : Type} {call : EngineM Conn Unit} (hcall : ProceedsOnOk call)
    {count : PipelineM Conn Unit} (hcount : Prog.Keeps Silent count) {rest : PipelineM Conn α}
    (hrest : Prog.OkKeeps Silent rest) : Prog.OkKeeps Broadcasts (do
      onEngine call
      count
      drainEngineActions env
      rest) := by
  intro p a p' hrun hempty
  obtain ⟨_, p₁, hengine, hcounts⟩ := Prog.run_bind_eq_ok.mp hrun
  obtain ⟨_, p₂, hcounted, hdrains⟩ := Prog.run_bind_eq_ok.mp hcounts
  obtain ⟨_, p₃, hdrain, hends⟩ := Prog.run_bind_eq_ok.mp hdrains
  obtain ⟨engine, hcalled, rfl⟩ := run_onEngine_ok hengine
  obtain ⟨l, hchanges, htrail⟩ := hcall _ _ _ hcalled
  have hsilent : Silent { p with engine } p₂ := hcount.of_run hcounted
  have hdrained := drained_drainEngineActions _ _ _ hdrain
  have hlast : Silent p₃ p' := hrest _ _ _ hends
  refine ⟨by rw [hlast.1, hdrained.outbox], l, ?_, ?_⟩
  · rw [hlast.2, hdrained.events, hsilent.1, hsilent.2, hchanges, hempty]
    rfl
  · rw [hlast.1, hdrained.state, hsilent.1]
    exact htrail

theorem silent_countIn (n : ℕ) (now : Instant) :
    Prog.Keeps Silent (countIn n now : PipelineM Conn Unit) :=
  Prog.Keeps.modify fun _ => ⟨rfl, rfl⟩

theorem silent_countOut (n : ℕ) (now : Instant) :
    Prog.Keeps Silent (countOut n now : PipelineM Conn Unit) :=
  Prog.Keeps.modify fun _ => ⟨rfl, rfl⟩

theorem silent_emit {effect : Effect} (h : stateEvents [effect] = []) :
    Prog.Keeps Silent (emit effect : PipelineM Conn Unit) :=
  Prog.Keeps.modify fun p => ⟨rfl, by rw [stateEvents_append, h, List.append_nil]⟩

theorem silent_pure {α : Type} (a : α) : Prog.OkKeeps Silent (pure a : PipelineM Conn α) :=
  (Prog.Keeps.pure Silent.refl a).okKeeps

theorem Silent.trans (p₁ p₂ p₃ : Pipeline Conn) (h : Silent p₁ p₂) (h' : Silent p₂ p₃) :
    Silent p₁ p₃ :=
  ⟨h'.1.trans h.1, h'.2.trans h.2⟩

/-- After a tick the statistics are broadcast. -/
theorem silent_tick : Prog.OkKeeps Silent (do
    let p ← get
    emit (.event (.statsUpdated p.stats))
    if p.engine.state = .error then
      throw (.sessionClosed "Protocol engine entered Error state".toList)
    return true : PipelineM Conn Bool) := by
  intro p a p' hrun
  rw [Prog.run_get_bind] at hrun
  obtain ⟨_, p₁, hemit, hrun⟩ := Prog.run_bind_eq_ok.mp hrun
  have hsilent : Silent p p₁ := (silent_emit rfl).of_run hemit
  split at hrun
  · cases hrun
  · exact Silent.trans _ _ _ hsilent (silent_pure _ _ _ _ hrun)

theorem broadcasts_of_silent {α : Type} {program : PipelineM Conn α}
    (h : Prog.OkKeeps Silent program) : Prog.OkKeeps Broadcasts program :=
  fun _ _ _ hrun => (h _ _ _ hrun).broadcasts

/-- A result from outside ends the turn or is handled. -/
theorem broadcasts_ofExcept {α β : Type} {f : α → PipelineM Conn β} (result : Except CoreError α)
    (h : ∀ a, Prog.OkKeeps Broadcasts (f a)) :
    Prog.OkKeeps Broadcasts (Prog.ofExcept result >>= f) := by
  cases result with
  | ok a => exact h a
  | error e => exact fun _ _ _ hrun => by cases hrun

/-- The same without a count. -/
theorem broadcasts_call_only {α : Type} {call : EngineM Conn Unit} (hcall : ProceedsOnOk call)
    {rest : PipelineM Conn α} (hrest : Prog.OkKeeps Silent rest) : Prog.OkKeeps Broadcasts (do
      onEngine call
      drainEngineActions env
      rest) :=
  broadcasts_call hcall (Prog.Keeps.pure Silent.refl ()) hrest

theorem broadcasts_turn (input : Input) : Prog.OkKeeps Broadcasts (turn env input) := by
  have hpure : ProceedsOnOk (pure () : EngineM Conn Unit) :=
    proceedsOnOk_of_still (Prog.Keeps.pure Stays.refl ())
  cases input with
  | network result now =>
      exact broadcasts_ofExcept result fun packet =>
        broadcasts_call (proceedsOnOk_processNetworkPacket now packet)
          (silent_countIn packet.length now) (silent_pure true)
  | tun result now =>
      refine broadcasts_ofExcept result fun packet => ?_
      by_cases hpacket : packet ≠ []
      · simp only [if_pos hpacket]
        exact broadcasts_call (proceedsOnOk_processTunPacket now packet)
          (silent_countOut packet.length now) (silent_pure true)
      · simp only [if_neg hpacket]
        exact broadcasts_of_silent (silent_pure true)
  | command command now =>
      obtain _ | ⟨username, password⟩ | ⟨stateId, response⟩ | reason := command
      · exact broadcasts_of_silent (silent_pure false)
      · exact broadcasts_call_only hpure (silent_pure true)
      · exact broadcasts_call_only (proceedsOnOk_submitChallengeResponse now stateId response)
          (silent_pure true)
      · exact broadcasts_of_silent (Prog.OkKeeps.bind Silent.trans (silent_emit rfl).okKeeps
          fun _ => silent_pure false)
  | tick now => exact broadcasts_call_only (proceedsOnOk_handleTimeout now) silent_tick

/-! ## A session -/

/-- The events so far go from `Connecting` to the state of the engine. -/
def OnTrail (p : Pipeline Conn) : Prop :=
  p.engine.outbox = [] ∧
    ∃ l, stateEvents p.effects = .connecting :: l ∧ Trail .connecting l p.engine.state

theorem onTrail_start {config : OpenVpnConfig} {now : Instant} {sessionId : UInt64}
    {stats : SessionStats} {startTime : Instant}
    (h : start env config now sessionId stats startTime = some (.ok p)) : OnTrail p := by
  rw [start_eq] at h
  obtain ⟨⟨r, p₁⟩, hrun, hout⟩ := Option.map_eq_some_iff.mp h
  cases r with
  | error e => cases hout
  | ok _ =>
      obtain rfl := Except.ok.inj hout
      obtain ⟨_, p₂, hengine, hdrain⟩ := Prog.run_bind_eq_ok.mp hrun
      obtain ⟨engine, hcalled, rfl⟩ := run_onEngine_ok hengine
      obtain ⟨hchanges, hstate⟩ := changes_startConnect (by rintro ⟨⟩) hcalled
      have hdrained := drained_drainEngineActions _ _ _ hdrain
      refine ⟨hdrained.outbox, [], ?_, ?_⟩
      · rw [hdrained.events, hchanges]
        rfl
      · rw [hdrained.state]
        exact hstate.symm

theorem onTrail_of_reachable {config : OpenVpnConfig} (h : Reachable env config p) : OnTrail p := by
  obtain ⟨now, sessionId, stats, startTime, p₀, inputs, hstart, run⟩ := h
  refine run.invariant (fun p input p' _ hnext ⟨hempty, l, hevents, htrail⟩ => ?_)
    (onTrail_start hstart)
  have hturn : ∃ b, (turn env input).run p = some (.ok b, p') := by
    rw [next] at hnext
    split at hnext
    · rename_i p₁ hrun
      exact ⟨true, (Option.some.inj hnext) ▸ hrun⟩
    · cases hnext
  obtain ⟨b, hrun⟩ := hturn
  obtain ⟨hempty', l', hevents', htrail'⟩ := broadcasts_turn input _ _ _ hrun hempty
  exact ⟨hempty', l ++ l', by rw [hevents', hevents, List.cons_append], htrail.append htrail'⟩

/-- While the loop goes on, the state changes broadcast so far begin with `Connecting`; the
handshake and the pulling of the configuration follow at most once and at once; the others are of
the server's messages. No state is announced twice in a row, and the last one is the state of the engine. -/
theorem stateEvents_of_reachable {config : OpenVpnConfig} (h : Reachable env config p) :
    ∃ opening rest, stateEvents p.effects = .connecting :: (opening ++ rest) ∧ Opening opening ∧
      (∀ x ∈ rest, x = .authenticating ∨ x = .connected) ∧
      (stateEvents p.effects).IsChain (· ≠ ·) ∧
      (stateEvents p.effects).getLast? = some p.engine.state := by
  obtain ⟨-, l, hevents, htrail⟩ := onTrail_of_reachable h
  obtain ⟨opening, rest, rfl, hopening, hrest⟩ := htrail.shape
  obtain ⟨hchain, hlast⟩ := htrail.isChain
  refine ⟨opening, rest, hevents, hopening, hrest, by rwa [hevents], ?_⟩
  rw [hevents, List.getLast?_eq_some_getLast (List.cons_ne_nil _ _), hlast]

/-- The session on the loopback. -/
theorem stateEvents_loopback : ∃ p, Reachable Loopback.sessionEnv {} p ∧
    p.engine.state = .connected ∧
    ∃ opening rest, stateEvents p.effects = .connecting :: (opening ++ rest) ∧ Opening opening ∧
      (∀ x ∈ rest, x = .authenticating ∨ x = .connected) ∧
      (stateEvents p.effects).IsChain (· ≠ ·) ∧
      (stateEvents p.effects).getLast? = some p.engine.state := by
  obtain ⟨p, hreach, hcheck⟩ :=
    exists_reachable_loopback (fun p => p.engine.state = .connected) (by decide +kernel)
  exact ⟨p, hreach, of_decide_eq_true hcheck, stateEvents_of_reachable hreach⟩

end VpnHub.Core.Pipeline

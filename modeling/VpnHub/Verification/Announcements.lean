import VpnHub.Verification.Engine.Closing
import VpnHub.Verification.Session

/-! # Announcing the end of a session

A turn of the pipeline calls the engine and then drains its actions. This is about when the
state changes and closings that the engine queues become events. -/

namespace VpnHub.Core.Pipeline

open Config Protocol ProtocolEngine

variable {Conn : Type} {env : SessionEnv Conn} {p p' : Pipeline Conn}

/-! ## What is to be announced -/

/-- The announcements that a drain of the actions has to make: of all actions that are not
behind a `CloseSession` or behind a write that fails. `writes` numbers the next write. -/
def due (env : SessionEnv Conn) : ℕ → List OutputAction → List SessionEvent
  | _, [] => []
  | _, .closeSession reason :: _ => [.disconnected reason]
  | writes, .stateChange state :: rest => .stateChanged state :: due env writes rest
  | writes, .sendToNetwork _ :: rest =>
    if (env.writeError writes).isSome then [] else due env (writes + 1) rest
  | writes, .sendToTun _ :: rest =>
    if (env.writeError writes).isSome then [] else due env (writes + 1) rest
  | writes, .configureNetwork _ :: rest => due env writes rest
  | writes, .requestAuthChallenge _ :: rest => due env writes rest

/-- The announcements that were broadcast. -/
def announcements (effects : List Effect) : List SessionEvent :=
  effects.filterMap fun
    | .event (.stateChanged state) => some (.stateChanged state)
    | .event (.disconnected reason) => some (.disconnected reason)
    | _ => none

/-- The part of `run_pipeline_loop` before the loop. -/
def opening (env : SessionEnv Conn) (now : Instant) : PipelineM Conn Unit := do
  onEngine (startConnect env.toEnv now)
  drainEngineActions env

/-- The pipeline that `run_pipeline_loop` begins with. -/
def fresh (env : SessionEnv Conn) (config : OpenVpnConfig) (now : Instant) (sessionId : UInt64)
    (stats : SessionStats) (startTime : Instant) : Pipeline Conn :=
  { engine := initial env.toEnv config now sessionId, stats, startTime, effects := [], writes := 0 }

theorem start_eq (env : SessionEnv Conn) (config : OpenVpnConfig) (now : Instant)
    (sessionId : UInt64) (stats : SessionStats) (startTime : Instant) :
    start env config now sessionId stats startTime =
      ((opening env now).run (fresh env config now sessionId stats startTime)).map fun
        | (.ok (), p) => .ok p
        | (.error e, _) => .error e := rfl

/-- The call of the engine in a turn. -/
def engineCall (env : SessionEnv Conn) : Input → Option (EngineM Conn Unit)
  | .network (.ok packet) now => some (processNetworkPacket env.toEnv now packet)
  | .tun (.ok packet) now =>
    if packet ≠ [] then some (processTunPacket env.toEnv now packet) else none
  | .command (some (.submitChallengeResponse stateId response)) now =>
    some (submitChallengeResponse env.toEnv now stateId response)
  | .tick now => some (handleTimeout env.toEnv now)
  | _ => none

/-- The program announces what is queued after its call of the engine. -/
def Announces (env : SessionEnv Conn) {α : Type} (call : EngineM Conn Unit)
    (program : PipelineM Conn α) (p : Pipeline Conn) : Prop :=
  ∀ r engine, call.run p.engine = some (r, engine) → ∀ r' p', program.run p = some (r', p') →
    announcements p'.effects = announcements p.effects ++ due env p.writes engine.outbox

/-- The call returns `Ok`, or an error that leaves nothing to announce. -/
def heard (env : SessionEnv Conn) (call : EngineM Conn Unit) (p : Pipeline Conn) : Bool :=
  match call.run p.engine with
  | some (.error _, engine) => (due env p.writes engine.outbox).isEmpty
  | _ => true

/-- A property of every turn that the loop takes on the given inputs, until it returns. -/
def AlongLoop (env : SessionEnv Conn) (P : Pipeline Conn → Input → Prop) :
    Pipeline Conn → List Input → Prop
  | _, [] => True
  | p, input :: rest => P p input ∧ ∀ p', next env p input = some p' → AlongLoop env P p' rest

/-- A property of the opening and of every turn of a run of `run_pipeline_loop`. -/
def AlongRun (env : SessionEnv Conn) (config : OpenVpnConfig) (now : Instant)
    (sessionId : UInt64) (stats : SessionStats) (startTime : Instant) (inputs : List Input)
    (P : ∀ {α : Type}, EngineM Conn Unit → PipelineM Conn α → Pipeline Conn → Prop) : Prop :=
  P (startConnect env.toEnv now) (opening env now)
      (fresh env config now sessionId stats startTime) ∧
    ∀ p₀, start env config now sessionId stats startTime = some (.ok p₀) →
      AlongLoop env (fun p input => ∀ call, engineCall env input = some call →
        P call (turn env input) p) p₀ inputs

/-! ## A drain -/

theorem announcements_append (effects : List Effect) (effect : Effect) :
    announcements (effects ++ [effect]) = announcements effects ++ announcements [effect] := by
  simp [announcements]

/-- A write fails, or is one more effect; neither is announced. -/
theorem run_write (env : SessionEnv Conn) (effect : Effect) (p : Pipeline Conn) :
    (write env effect).run p =
      match env.writeError p.writes with
      | some e => some (.error e, { p with writes := p.writes + 1 })
      | none => some (.ok (),
          { p with writes := p.writes + 1, effects := p.effects ++ [effect] }) := by
  cases h : env.writeError p.writes with
  | some e =>
      rw [write, Prog.run_get_bind, Prog.run_bind_of_ok (Prog.run_set _ _)]
      simp only [h]
      rfl
  | none =>
      rw [write, Prog.run_get_bind, Prog.run_bind_of_ok (Prog.run_set _ _)]
      simp only [h]
      rfl

/-- A drain whose first action is a write. -/
theorem wp_write_drain {effect : Effect} {rest : List OutputAction}
    (heffect : announcements [effect] = [])
    (ih : ∀ p, (drainActions env rest).wp (fun _ p' =>
      announcements p'.effects = announcements p.effects ++ due env p.writes rest) p)
    (p : Pipeline Conn) :
    (do
      write env effect
      drainActions env rest : PipelineM Conn Unit).wp (fun _ p' =>
      announcements p'.effects = announcements p.effects ++
        if (env.writeError p.writes).isSome then [] else due env (p.writes + 1) rest) p := by
  have hwrite := run_write env effect p
  cases herror : env.writeError p.writes with
  | some e =>
      rw [herror] at hwrite
      intro r p' hrun
      rw [Prog.run_bind_of_error hwrite] at hrun
      obtain ⟨-, rfl⟩ : _ ∧ _ = p' := by simpa using hrun
      exact (List.append_nil _).symm
  | none =>
      rw [herror] at hwrite
      intro r p' hrun
      rw [Prog.run_bind_of_ok hwrite] at hrun
      have hrest := (ih _).of_run hrun
      simp only [announcements_append, heffect, List.append_nil] at hrest
      exact hrest

/-- A drain makes the announcements that are due, and no others. -/
theorem wp_drainActions (env : SessionEnv Conn) (actions : List OutputAction)
    (p : Pipeline Conn) :
    (drainActions env actions).wp (fun _ p' =>
      announcements p'.effects = announcements p.effects ++ due env p.writes actions) p := by
  induction actions generalizing p with
  | nil => exact Prog.wp_pure.mpr (List.append_nil _).symm
  | cons action rest ih =>
      refine Prog.wp_bind.mpr (Prog.wp_modify.mpr ?_)
      cases action with
      | sendToNetwork packet => exact wp_write_drain rfl ih _
      | sendToTun packet => exact wp_write_drain rfl ih _
      | configureNetwork config =>
          refine Prog.wp_bind.mpr (Prog.wp_modify.mpr ((ih _).mono fun _ p' h => ?_))
          rw [announcements_append, List.append_assoc] at h
          exact h
      | requestAuthChallenge challenge =>
          refine Prog.wp_bind.mpr (Prog.wp_modify.mpr ((ih _).mono fun _ p' h => ?_))
          rw [announcements_append, List.append_assoc] at h
          exact h
      | stateChange state =>
          refine Prog.wp_bind.mpr (Prog.wp_modify.mpr ((ih _).mono fun _ p' h => ?_))
          rw [announcements_append, List.append_assoc] at h
          exact h
      | closeSession reason =>
          refine Prog.wp_bind.mpr (Prog.wp_bind.mpr (Prog.wp_modify.mpr ?_))
          exact Prog.wp_throw.mpr (announcements_append _ _)

/-- An action leaves the others in the outbox. -/
def SameOutbox (p p' : Pipeline Conn) : Prop := p'.engine.outbox = p.engine.outbox

theorem SameOutbox.refl (p : Pipeline Conn) : SameOutbox p p := rfl

theorem SameOutbox.trans (p₁ p₂ p₃ : Pipeline Conn) (h : SameOutbox p₁ p₂)
    (h' : SameOutbox p₂ p₃) : SameOutbox p₁ p₃ :=
  Eq.trans h' h

theorem sameOutbox_write (env : SessionEnv Conn) (effect : Effect) :
    Prog.Keeps SameOutbox (write env effect) := by
  intro p r p' hrun
  rw [run_write] at hrun
  split at hrun
  · obtain ⟨-, rfl⟩ : _ ∧ _ = p' := by simpa using hrun
    rfl
  · obtain ⟨-, rfl⟩ : _ ∧ _ = p' := by simpa using hrun
    rfl

theorem sameOutbox_dispatch (env : SessionEnv Conn) (action : OutputAction) :
    Prog.Keeps SameOutbox (dispatch env action) := by
  have hemit (effect : Effect) : Prog.Keeps SameOutbox (emit effect : PipelineM Conn Unit) :=
    Prog.Keeps.modify fun _ => rfl
  cases action with
  | sendToNetwork packet => exact sameOutbox_write env _
  | sendToTun packet => exact sameOutbox_write env _
  | configureNetwork config => exact hemit _
  | requestAuthChallenge challenge => exact hemit _
  | stateChange state => exact hemit _
  | closeSession reason =>
      exact Prog.Keeps.bind SameOutbox.trans (hemit _) fun _ => Prog.Keeps.throw SameOutbox.refl _

/-- A drain that ends with `Ok` leaves no action behind. -/
theorem wp_drainActions_outbox (env : SessionEnv Conn) {actions : List OutputAction}
    (h : p.engine.outbox = actions) :
    (drainActions env actions).wp (fun r p' => ∀ a, r = .ok a → p'.engine.outbox = []) p := by
  induction actions generalizing p with
  | nil => exact Prog.wp_pure.mpr fun _ _ => h
  | cons action rest ih =>
      refine Prog.wp_bind.mpr (Prog.wp_modify.mpr ?_)
      have hpoll : p.engine.pollOutputAction.2.outbox = rest := by
        rw [pollOutputAction, h]
      refine (sameOutbox_dispatch env action).bind_wp (fun _ _ _ _ hr => ?_) fun _ p₁ h₁ => ?_
      · cases hr
      · exact ih (Eq.trans h₁ hpoll)

/-! ## A turn -/

/-- What a turn does after its call of the engine: it makes the announcements that are due, and
leaves an empty outbox if it ends with `Ok`. -/
def Drains (env : SessionEnv Conn) {α : Type} (tail : PipelineM Conn α) : Prop :=
  ∀ p, tail.wp (fun r p' =>
    announcements p'.effects = announcements p.effects ++ due env p.writes p.engine.outbox ∧
      ∀ a, r = .ok a → p'.engine.outbox = []) p

theorem drains_drainEngineActions (env : SessionEnv Conn) :
    Drains env (drainEngineActions env) := by
  intro p
  refine Prog.wp_bind.mpr (Prog.wp_get.mpr ?_)
  exact (wp_drainActions env p.engine.outbox p).and (wp_drainActions_outbox env rfl)

theorem drains_then {α : Type} {rest : PipelineM Conn α}
    (h : Prog.Keeps (fun p p' : Pipeline Conn =>
      announcements p'.effects = announcements p.effects ∧ SameOutbox p p') rest) :
    Drains env (do
      drainEngineActions env
      rest) := by
  intro p
  refine Prog.wp_bind.mpr ((drains_drainEngineActions env p).mono ?_)
  rintro r p₁ ⟨hdrained, hempty⟩
  cases r with
  | error e => exact ⟨hdrained, fun _ hr => by cases hr⟩
  | ok =>
      intro r' p' hrun
      obtain ⟨hsame, hbox⟩ := h.of_run hrun
      exact ⟨hsame.trans hdrained, fun _ _ => Eq.trans hbox (hempty _ rfl)⟩

theorem drains_return (env : SessionEnv Conn) :
    Drains env (do
      drainEngineActions env
      return true) :=
  drains_then fun _ => Prog.wp_pure.mpr ⟨rfl, rfl⟩

theorem drains_countIn (env : SessionEnv Conn) (n : ℕ) (now : Instant) :
    Drains env (do
      countIn n now
      drainEngineActions env
      return true) :=
  fun _ => Prog.wp_bind.mpr (Prog.wp_modify.mpr (drains_return env _))

theorem drains_countOut (env : SessionEnv Conn) (n : ℕ) (now : Instant) :
    Drains env (do
      countOut n now
      drainEngineActions env
      return true) :=
  fun _ => Prog.wp_bind.mpr (Prog.wp_modify.mpr (drains_return env _))

/-- After a tick the statistics are broadcast, which are no announcement. -/
theorem drains_tick (env : SessionEnv Conn) :
    Drains env (do
      drainEngineActions env
      let p ← get
      emit (.event (.statsUpdated p.stats))
      if p.engine.state = .error then
        throw (.sessionClosed "Protocol engine entered Error state".toList)
      return true) := by
  refine drains_then fun p => ?_
  refine Prog.wp_bind.mpr (Prog.wp_get.mpr (Prog.wp_bind.mpr (Prog.wp_modify.mpr ?_)))
  have hstats : announcements (p.effects ++ [.event (.statsUpdated p.stats)]) =
      announcements p.effects := by
    rw [announcements_append]
    exact List.append_nil _
  dsimp only
  split
  · exact Prog.wp_bind.mpr (Prog.wp_throw.mpr ⟨hstats, rfl⟩)
  · exact Prog.wp_pure.mpr ⟨hstats, rfl⟩

/-- A turn calls the engine and then drains it. -/
theorem turn_shape {input : Input} {call : EngineM Conn Unit}
    (h : engineCall env input = some call) :
    ∃ tail, Drains env tail ∧
      ∀ p, (turn env input).run p = (onEngine call >>= fun _ => tail).run p := by
  unfold engineCall at h
  split at h
  · rename_i packet now
    obtain rfl := Option.some.inj h
    refine ⟨_, drains_countIn env packet.length now, fun p => ?_⟩
    simp only [turn, Prog.run_ofExcept_ok_bind]
  · rename_i packet now
    split at h
    · rename_i hne
      obtain rfl := Option.some.inj h
      refine ⟨_, drains_countOut env packet.length now, fun p => ?_⟩
      simp only [turn, Prog.run_ofExcept_ok_bind, if_pos hne]
    · cases h
  · obtain rfl := Option.some.inj h
    exact ⟨_, drains_return env, fun p => rfl⟩
  · obtain rfl := Option.some.inj h
    exact ⟨_, drains_tick env, fun p => rfl⟩
  · cases h

theorem run_onEngine (call : EngineM Conn Unit) (p : Pipeline Conn) :
    (onEngine call).run p = (call.run p.engine).map fun (result, engine) =>
      (result.mapError CoreError.protocol, { p with engine }) := rfl

/-- A call of the engine with a drain after it announces what is queued iff the call is heard. -/
theorem announces_iff_heard {α : Type} {call : EngineM Conn Unit} {program tail : PipelineM Conn α}
    (hshape : program.run p = (onEngine call >>= fun _ => tail).run p) (htail : Drains env tail) :
    Announces env call program p ↔ heard env call p = true := by
  unfold Announces heard
  cases hcall : call.run p.engine with
  | none => simp
  | some outcome =>
      obtain ⟨r, engine⟩ := outcome
      cases r with
      | ok =>
          have hengine : (onEngine call).run p = some (.ok (), { p with engine }) := by
            rw [run_onEngine, hcall]
            rfl
          refine ⟨fun _ => rfl, fun _ r engine' hsame r' p' hrun => ?_⟩
          obtain ⟨-, rfl⟩ : _ ∧ engine = engine' := by simpa using hsame
          rw [hshape, Prog.run_bind_of_ok hengine] at hrun
          exact ((htail _).of_run hrun).1
      | error err =>
          have hengine : (onEngine call).run p =
              some (.error (.protocol err), { p with engine }) := by
            rw [run_onEngine, hcall]
            rfl
          have hrun := hshape.trans (Prog.run_bind_of_error hengine)
          simp only [List.isEmpty_iff]
          constructor
          · intro h
            have hlost := h _ engine rfl _ _ hrun
            simpa using hlost
          · intro hnone r engine' hsame r' p' hrun'
            obtain ⟨-, rfl⟩ : _ ∧ engine = engine' := by simpa using hsame
            obtain ⟨-, rfl⟩ : _ ∧ _ = p' := by simpa using hrun.symm.trans hrun'
            rw [hnone, List.append_nil]

/-! ## Runs -/

/-- A program that ends with `Ok` after a call and a drain leaves an empty outbox. -/
theorem outbox_of_shape {α : Type} {call : EngineM Conn Unit} {program tail : PipelineM Conn α}
    {a : α} (hshape : program.run p = (onEngine call >>= fun _ => tail).run p)
    (htail : Drains env tail) (hrun : program.run p = some (.ok a, p')) :
    p'.engine.outbox = [] := by
  rw [hshape] at hrun
  rcases Prog.exists_of_run_bind hrun with ⟨_, p₁, -, hrun⟩ | ⟨err, -, hr⟩
  · exact ((htail _).of_run hrun).2 a rfl
  · cases hr

/-- A turn after which the loop goes on has drained the outbox, or has not touched it. -/
theorem outbox_next {input : Input} (h : p.engine.outbox = []) (hnext : next env p input = some p') :
    p'.engine.outbox = [] := by
  have hrun : (turn env input).run p = some (.ok true, p') := by
    unfold next at hnext
    split at hnext
    · rename_i hrun
      obtain rfl := Option.some.inj hnext
      exact hrun
    · cases hnext
  cases hcall : engineCall env input with
  | some call =>
      obtain ⟨tail, htail, hshape⟩ := turn_shape hcall
      exact outbox_of_shape (hshape p) htail hrun
  | none =>
      -- inputs that end the loop, an empty read, and credentials
      cases input with
      | network result now =>
          cases result with
          | ok packet => cases hcall
          | error e => cases (Prog.run_bind_of_error rfl).symm.trans hrun
      | tun result now =>
          cases result with
          | error e => cases (Prog.run_bind_of_error rfl).symm.trans hrun
          | ok packet =>
              simp only [engineCall, ite_eq_right_iff, reduceCtorEq, imp_false, not_not] at hcall
              simp only [turn, Prog.run_ofExcept_ok_bind, hcall] at hrun
              obtain rfl : p = p' := by simpa using hrun
              exact h
      | tick now => cases hcall
      | command command now =>
          cases command with
          | none => cases hrun
          | some command =>
              cases command with
              | submitCredentials username password =>
                  exact ((drains_return env p).of_run hrun).2 true rfl
              | submitChallengeResponse stateId response => cases hcall
              | disconnect reason => cases hrun

/-- Between turns the outbox is empty: what is queued after a call was queued by the call. -/
theorem outbox_of_reachable {config : OpenVpnConfig} (h : Reachable env config p) :
    p.engine.outbox = [] := by
  obtain ⟨now, sessionId, stats, startTime, p₀, inputs, hstart, run⟩ := h
  have hopen : p₀.engine.outbox = [] := by
    rw [start_eq] at hstart
    obtain ⟨⟨r, p₁⟩, hrun, hr⟩ := Option.map_eq_some_iff.mp hstart
    cases r with
    | error e => cases hr
    | ok =>
        obtain rfl := Except.ok.inj hr
        exact outbox_of_shape rfl (drains_drainEngineActions env) hrun
  exact run.invariant (fun _ _ _ _ hnext h => outbox_next h hnext) hopen

theorem AlongLoop.congr {P Q : Pipeline Conn → Input → Prop} (h : ∀ p input, P p input ↔ Q p input)
    (p : Pipeline Conn) (inputs : List Input) :
    AlongLoop env P p inputs ↔ AlongLoop env Q p inputs := by
  induction inputs generalizing p with
  | nil => exact Iff.rfl
  | cons input rest ih =>
      simp only [AlongLoop, h p input]
      exact and_congr_right fun _ => forall_congr' fun p' => imp_congr_right fun _ => ih p'

/-- A call that queues `CloseSession` returns an error. -/
theorem closeSession_fails {input : Input} {call : EngineM Conn Unit}
    (hcall : engineCall env input = some call) {e engine : ProtocolEngine Conn}
    {r : Except ProtocolError Unit} (hrun : call.run e = some (r, engine)) (hempty : e.outbox = [])
    {reason : Text} (hmem : .closeSession reason ∈ engine.outbox) : ∃ err, r = .error err := by
  have hopen : OpenOnOk call := by
    unfold engineCall at hcall
    split at hcall
    · obtain rfl := Option.some.inj hcall
      exact openOnOk_processNetworkPacket _ _
    · split at hcall
      · obtain rfl := Option.some.inj hcall
        exact openOnOk_processTunPacket _ _
      · cases hcall
    · obtain rfl := Option.some.inj hcall
      exact openOnOk_submitChallengeResponse _ _ _
    · obtain rfl := Option.some.inj hcall
      exact openOnOk_handleTimeout _
    · cases hcall
  cases r with
  | error err => exact ⟨err, rfl⟩
  | ok a =>
      have hsame := hopen e a engine hrun
      rw [SameClosings, hempty] at hsame
      have hclosing : reason ∈ closings engine.outbox :=
        List.mem_filterMap.mpr ⟨_, hmem, rfl⟩
      rw [hsame] at hclosing
      cases hclosing

/-- A run of the loop announces every state change and closing that the engine queues, save
those behind a closing or a failing write, iff its calls of the engine return `Ok` or leave
nothing to announce. The outbox is empty between turns, so nothing is queued besides; and a
call that queues a closing never returns `Ok`. -/
theorem run_announces_iff (env : SessionEnv Conn) (config : OpenVpnConfig) :
    (∀ now sessionId stats startTime inputs,
      AlongRun env config now sessionId stats startTime inputs (Announces env) ↔
        AlongRun env config now sessionId stats startTime inputs
          fun call _ p => heard env call p = true) ∧
    ∀ p, Reachable env config p → p.engine.outbox = [] ∧
      ∀ input call r engine reason, engineCall env input = some call →
        call.run p.engine = some (r, engine) → .closeSession reason ∈ engine.outbox →
        ∃ err, r = .error err := by
  constructor
  · intro now sessionId stats startTime inputs
    refine and_congr (announces_iff_heard rfl (drains_drainEngineActions env)) ?_
    refine forall_congr' fun p₀ => imp_congr_right fun _ => AlongLoop.congr (fun p input => ?_) _ _
    refine forall_congr' fun call => imp_congr_right fun hcall => ?_
    obtain ⟨tail, htail, hshape⟩ := turn_shape hcall
    exact announces_iff_heard (hshape p) htail
  · intro p hreach
    have hempty := outbox_of_reachable hreach
    refine ⟨hempty, ?_⟩
    intro input call r engine reason hcall hrun hmem
    exact closeSession_fails hcall hrun hempty hmem

/-! ## Runs on the loopback -/

/-- A run whose turns all have the property. -/
theorem AlongLoop.of_run {P : Pipeline Conn → Input → Prop} {inputs : List Input}
    (run : Transition.Run (next env) P p inputs p') : AlongLoop env P p inputs := by
  induction run with
  | nil => trivial
  | cons allowed taken _ ih =>
      refine ⟨allowed, fun p₁ hnext => ?_⟩
      obtain rfl := Option.some.inj (taken.symm.trans hnext)
      exact ih

/-- The turn after a run. -/
theorem AlongLoop.last {P : Pipeline Conn → Input → Prop} {guard : Pipeline Conn → Input → Prop}
    {inputs : List Input} {input : Input} (run : Transition.Run (next env) guard p inputs p')
    (h : AlongLoop env P p (inputs ++ [input])) : P p' input := by
  induction run with
  | nil => exact h.1
  | cons _ taken _ ih => exact ih (h.2 _ taken)

/-- The inputs that connect a session on the loopback. -/
def connectInputs : List Input := Loopback.serverFlight.map fun packet => .network (.ok packet) 0

/-- A session that connects announces every state that it goes through. -/
theorem run_announces_connect :
    AlongRun Loopback.sessionEnv {} 0 42 {} 0 connectInputs (Announces Loopback.sessionEnv) := by
  have hopening : heard Loopback.sessionEnv (startConnect Loopback.env 0)
      (fresh Loopback.sessionEnv {} 0 42 {} 0) = true := by decide +kernel
  have hturns : ((start Loopback.sessionEnv {} 0 42 {} 0).all fun result =>
      result.toOption.all fun p₀ => (Transition.runList (next Loopback.sessionEnv)
        (fun p input => (engineCall Loopback.sessionEnv input).all
          (heard Loopback.sessionEnv · p) = true) p₀ connectInputs).any fun _ => true) = true := by
    decide +kernel
  refine ((run_announces_iff Loopback.sessionEnv {}).1 0 42 {} 0 connectInputs).mpr
    ⟨hopening, fun p₀ hstart => ?_⟩
  rw [hstart] at hturns
  obtain ⟨p, run, -⟩ := Transition.exists_run_of_any hturns
  refine (AlongLoop.congr (fun p input => ?_) p₀ connectInputs).mp (AlongLoop.of_run run)
  simp [Option.all_eq_true]

/-- After two minutes of silence the engine closes the session, and nobody is told. -/
theorem ping_restart_not_announced :
    ¬ ∀ (Conn : Type) (env : SessionEnv Conn) (config : OpenVpnConfig) (now : Instant)
      (sessionId : UInt64) (stats : SessionStats) (startTime : Instant) (inputs : List Input),
      AlongRun env config now sessionId stats startTime inputs (Announces env) := by
  intro hclaim
  have hsilent : ((start Loopback.sessionEnv {} 0 42 {} 0).any fun result =>
      result.toOption.any fun p₀ => (Transition.runList (next Loopback.sessionEnv)
        (fun _ _ => True) p₀ connectInputs).any fun p =>
          !heard Loopback.sessionEnv (handleTimeout Loopback.env 120000000000) p) = true := by
    decide +kernel
  rw [Option.any_eq_true] at hsilent
  obtain ⟨result, hstart, hcheck⟩ := hsilent
  cases result with
  | error err => cases hcheck
  | ok p₀ =>
      obtain ⟨p, run, hunheard⟩ := Transition.exists_run_of_any hcheck
      have hannounced := hclaim _ Loopback.sessionEnv {} 0 42 {} 0
        (connectInputs ++ [.tick 120000000000])
      have hcall : engineCall Loopback.sessionEnv (.tick 120000000000)
          = some (handleTimeout Loopback.env 120000000000) := rfl
      have hturn := AlongLoop.last run (hannounced.2 p₀ hstart) _ hcall
      obtain ⟨tail, htail, hshape⟩ := turn_shape hcall
      have hheard := (announces_iff_heard (hshape p) htail).mp hturn
      rw [Bool.not_eq_true'] at hunheard
      exact Bool.false_ne_true (hunheard.symm.trans hheard)

end VpnHub.Core.Pipeline

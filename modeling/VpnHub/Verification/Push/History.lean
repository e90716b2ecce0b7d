import VpnHub.Model.Loopback
import VpnHub.Verification.Push.Messages

/-! Several `PUSH_REPLY` exchanges with one engine: what an earlier one leaves behind. -/

namespace VpnHub.Protocol

open Config Crypto

namespace ProtocolEngine

variable {Conn : Type} {env : Env Conn} {e e' : ProtocolEngine Conn}

/-! ## What happens to an engine -/

/-- A server message is read, or something else happens, with a given engine as its result. -/
inductive Happening (Conn : Type) where
  | read (message : Text)
  | other (result : ProtocolEngine Conn)

/-- Nothing but a message touches the accumulator and the profile. -/
def happen (e : ProtocolEngine Conn) : Happening Conn → ProtocolEngine Conn
  | .read message => e.receive message
  | .other result => { result with
      pushedOptionsAccumulator := e.pushedOptionsAccumulator, config := e.config }

/-- The second engine comes from the first by messages and other happenings. -/
def Hears (e e' : ProtocolEngine Conn) : Prop :=
  ∃ happenings : List (Happening Conn), happenings.foldl happen e = e'

theorem Hears.refl (e : ProtocolEngine Conn) : Hears e e := ⟨[], rfl⟩

theorem Hears.trans (e₁ e₂ e₃ : ProtocolEngine Conn) (h : Hears e₁ e₂) (h' : Hears e₂ e₃) :
    Hears e₁ e₃ := by
  obtain ⟨first, rfl⟩ := h
  obtain ⟨second, rfl⟩ := h'
  exact ⟨first ++ second, List.foldl_append⟩

theorem hears_of_same (hacc : e'.pushedOptionsAccumulator = e.pushedOptionsAccumulator)
    (hconfig : e'.config = e.config) : Hears e e' := by
  refine ⟨[.other e'], ?_⟩
  simp only [List.foldl_cons, List.foldl_nil, happen, ← hacc, ← hconfig]

/-! ## Every operation is made of happenings -/

section Operations

variable {α : Type}

theorem hears_bind {β : Type} {p : EngineM Conn α} {f : α → EngineM Conn β}
    (hp : Prog.Keeps Hears p) (hf : ∀ a, Prog.Keeps Hears (f a)) : Prog.Keeps Hears (p >>= f) :=
  Prog.Keeps.bind Hears.trans hp hf

theorem hears_pure (a : α) : Prog.Keeps Hears (pure a : EngineM Conn α) :=
  Prog.Keeps.pure Hears.refl a

theorem hears_get : Prog.Keeps Hears (get : EngineM Conn (ProtocolEngine Conn)) :=
  Prog.Keeps.get Hears.refl

theorem hears_when {c : Prop} [Decidable c] {p : EngineM Conn Unit} (hp : Prog.Keeps Hears p) :
    Prog.Keeps Hears (Prog.when c p) :=
  Prog.Keeps.when Hears.refl hp

theorem hears_transitionState (state : EngineState) :
    Prog.Keeps Hears (transitionState state : EngineM Conn Unit) := by
  intro e r e' hrun
  rw [run_transitionState] at hrun
  obtain ⟨-, rfl⟩ : _ ∧ e.become state = e' := by simpa using hrun
  unfold become
  split
  · exact hears_of_same rfl rfl
  · exact .refl e

theorem hears_of_quiet {p : EngineM Conn α} (h : Prog.Keeps Quiet p) : Prog.Keeps Hears p :=
  h.mono fun _ _ hq => by
    rw [hq]
    exact hears_of_same rfl rfl

theorem hears_enqueue (opcode : Opcode) (payload : Bytes) (now : Instant) :
    Prog.Keeps Hears (enqueue opcode payload now : EngineM Conn UInt32) :=
  hears_of_quiet (quiet_enqueue _ _ _)

theorem hears_withTls (default : α) (method : TlsStreamAdapter.Method Conn α) :
    Prog.Keeps Hears (withTls default method) := by
  refine hears_bind hears_get fun e => ?_
  cases e.tlsAdapter with
  | some tls => exact Prog.Keeps.within fun _ _ => hears_of_same rfl rfl
  | none => exact hears_pure default

theorem hears_sendControl (outgoing : Bytes) (now : Instant) :
    Prog.Keeps Hears (sendControl env outgoing now) :=
  hears_bind (hears_enqueue _ _ _) fun _ => hears_bind (hears_of_quiet quiet_drainAcks) fun _ =>
    hears_bind hears_get fun _ => hears_of_quiet (quiet_emitControlPacket _)

theorem hears_sendStandaloneAck : Prog.Keeps Hears (sendStandaloneAck env) :=
  hears_bind (hears_of_quiet quiet_drainAcks) fun _ => hears_bind hears_get fun _ =>
    hears_when (hears_of_quiet (quiet_emitControlPacket _))

theorem hears_handleAppMessage (message : Text) :
    Prog.Keeps Hears (handleAppMessage message : EngineM Conn Unit) := by
  intro e r e' hrun
  exact ⟨[.read message], receive_of_run hrun⟩

theorem hears_exportKeys (now : Instant) : Prog.Keeps Hears (exportKeys env now) := by
  refine hears_bind (hears_bind hears_get fun e => ?_) fun _ =>
    Prog.Keeps.ofFun fun _ => hears_of_same rfl rfl
  cases e.tlsAdapter with
  | some tls => exact Prog.Keeps.ofExcept Hears.refl _
  | none => exact hears_pure _

theorem hears_flushWith {onHandshake : EngineM Conn Unit} (h : Prog.Keeps Hears onHandshake)
    (now : Instant) : Prog.Keeps Hears (flushWith env onHandshake now) := by
  refine hears_bind (Prog.Keeps.ofFun fun _ => hears_of_same rfl rfl) fun _ =>
    hears_bind hears_get fun _ => hears_bind (hears_withTls _ _) fun _ => ?_
  refine hears_bind (hears_when (hears_sendControl _ _)) fun _ => ?_
  refine hears_bind (hears_when (hears_bind (hears_transitionState _) fun _ => h)) fun _ => ?_
  exact hears_bind (hears_when (hears_handleAppMessage _)) fun _ => hears_sendStandaloneAck

theorem hears_flushControlChannel (now : Instant) :
    Prog.Keeps Hears (flushControlChannel env now) := by
  refine hears_flushWith ?_ now
  have hflush : Prog.Keeps Hears (flushWith env Prog.stuck now) :=
    hears_flushWith Prog.Keeps.stuck now
  refine hears_bind (hears_exportKeys now) fun _ => hears_bind hears_get fun e => ?_
  cases e.authCredentials with
  | some creds =>
      refine hears_bind (hears_transitionState _) fun _ =>
        hears_bind (Prog.Keeps.modify fun _ => hears_of_same rfl rfl) fun _ => ?_
      exact hears_bind (hears_withTls _ _) fun _ => hflush
  | none =>
      exact hears_bind (hears_transitionState _) fun _ =>
        hears_bind (hears_withTls _ _) fun _ => hflush

theorem hears_processIncomingControlPacket (now : Instant) (packet : Bytes) :
    Prog.Keeps Hears (processIncomingControlPacket env now packet) := by
  refine hears_bind hears_get fun _ => hears_bind (Prog.Keeps.ofExcept Hears.refl _) fun cp => ?_
  refine hears_bind (Prog.Keeps.modify fun e => ?_) fun _ =>
    hears_bind (Prog.Keeps.modify fun _ => hears_of_same rfl rfl) fun _ =>
      hears_bind ?_ fun _ => hears_flushControlChannel now
  · unfold learnRemoteSession
    cases e.remoteSessionId with
    | some _ => exact .refl e
    | none => exact hears_of_same rfl rfl
  · unfold receiveReliable
    cases cp.packetId with
    | some packetId => exact Prog.Keeps.ofFun fun _ => hears_of_same rfl rfl
    | none => exact hears_pure ()

theorem hears_of_sends (h : Sends env e e') : Hears e e' := by
  cases h with
  | failed => exact hears_of_same rfl rfl
  | sealed => exact hears_of_same rfl rfl

theorem hears_sendKeepalivePing (now : Instant) : Prog.Keeps Hears (sendKeepalivePing env now) := by
  intro e r e' hrun
  rcases sendKeepalivePing_cases hrun with rfl | ⟨-, e₁, hsends, rfl | rfl⟩
  · exact .refl _
  · exact hears_of_sends hsends
  · exact Hears.trans _ _ _ (hears_of_sends hsends) (hears_of_same rfl rfl)

theorem hears_checkKeepalive (e : ProtocolEngine Conn) (now : Instant) :
    Prog.Keeps Hears (checkKeepalive env e now) :=
  hears_bind (hears_when (hears_sendKeepalivePing now)) fun _ =>
    hears_when (hears_bind (hears_transitionState _) fun _ =>
      hears_bind (Prog.Keeps.modify fun _ => hears_of_same rfl rfl) fun _ =>
        Prog.Keeps.throw Hears.refl _)

theorem hears_handleTimeout (now : Instant) : Prog.Keeps Hears (handleTimeout env now) :=
  hears_bind (Prog.Keeps.ofFun fun _ => hears_of_same rfl rfl) fun resends =>
    hears_bind (Prog.Keeps.forM Hears.refl Hears.trans
      (fun cp => hears_of_quiet (quiet_resend cp)) resends) fun _ =>
      hears_bind hears_get fun e => hears_when (hears_checkKeepalive e now)

theorem hears_startConnect (now : Instant) : Prog.Keeps Hears (startConnect env now) := by
  refine hears_bind (hears_transitionState _) fun _ => hears_bind (hears_enqueue _ _ _) fun _ =>
    hears_bind hears_get fun _ => hears_bind (hears_of_quiet (quiet_emitControlPacket _)) fun _ => ?_
  intro e r e' hrun
  rw [Prog.run_get_bind] at hrun
  split at hrun
  · cases hrun
  · obtain ⟨-, rfl⟩ : _ ∧ e = e' := by simpa using hrun
    exact .refl e
  · obtain ⟨-, rfl⟩ : _ ∧ _ = e' := by simpa using hrun
    exact hears_of_same rfl rfl

end Operations

/-- Every operation of the engine is made of messages read and other happenings. -/
theorem step_hears {op : Op} (h : step env e op = some e') : Hears e e' := by
  obtain ⟨r, hrun⟩ := step_eq_some.mp h
  cases op with
  | startConnect now => exact (hears_startConnect now).of_run hrun
  | processNetworkPacket now packet =>
      have hnow : Hears e { e with lastPacketRecv := now } := hears_of_same rfl rfl
      rcases processNetworkPacket_cases hrun with ⟨keyId, hout⟩ | ⟨-, hcontrol⟩ | rfl
      · have hframe := (DataFrame.of_outcome hout).rest
        exact hears_of_same (by rw [hframe]) (by rw [hframe])
      · exact Hears.trans _ _ _ hnow
          ((hears_processIncomingControlPacket now packet).of_run hcontrol)
      · exact hnow
  | processTunPacket now packet =>
      rcases processTunPacket_cases now hrun with rfl | ⟨-, hsends⟩
      · exact .refl _
      · exact hears_of_sends hsends
  | sendKeepalivePing now => exact (hears_sendKeepalivePing now).of_run hrun
  | submitChallengeResponse now stateId response =>
      exact (hears_bind (hears_withTls _ _) fun _ => hears_flushControlChannel now).of_run hrun
  | handleTimeout now => exact (hears_handleTimeout now).of_run hrun
  | pollOutputAction =>
      obtain ⟨-, rfl⟩ : _ ∧ _ = e' := by simpa [exec] using hrun
      unfold pollOutputAction
      split
      · exact .refl e
      · exact hears_of_same rfl rfl

/-- Every run of an engine is one of messages read and other happenings. -/
theorem hears_of_run {config : OpenVpnConfig} {ops : List Op} (h : RunFrom env config ops e) :
    ∃ now sessionId, Hears (initial env config now sessionId) e := by
  obtain ⟨now, sessionId, run⟩ := h
  refine ⟨now, sessionId, run.invariant ?_ (.refl _)⟩
  intro e₁ op e₂ _ hstep h₁
  exact Hears.trans _ _ _ h₁ (step_hears hstep)

/-! ## Exchanges -/

/-- A completed `PUSH_REPLY` sequence: the profile it was merged with, its messages, and the
network configurations emitted for the last of them. -/
structure Exchange where
  profile : OpenVpnConfig
  messages : List Text
  emitted : List NetworkProvisioningConfig

/-- What a fresh engine with the same profile emits for these messages alone. -/
def Exchange.Independent (env : Env Conn) (x : Exchange) : Prop :=
  ∀ now sessionId, x.emitted = emittedBy (initial env x.profile now sessionId)
    (x.messages.foldl receive (initial env x.profile now sessionId))

/-- An engine, the messages of the sequence that has been begun, and the completed ones. -/
structure Watch (Conn : Type) where
  engine : ProtocolEngine Conn
  pending : List Text
  exchanges : List Exchange

namespace Watch

def next (w : Watch Conn) : Happening Conn → Watch Conn
  | .other result => { w with engine := w.engine.happen (.other result) }
  | .read message =>
    let engine := w.engine.receive message
    if ¬ IsPushReply message then { w with engine }
    else if IsContinued message then { w with engine, pending := w.pending ++ [message] }
    else
      { engine
        pending := []
        exchanges := w.exchanges ++ [{
          profile := w.engine.config
          messages := w.pending ++ [message]
          emitted := emittedBy w.engine engine }] }

theorem engine_next (w : Watch Conn) (h : Happening Conn) :
    (w.next h).engine = w.engine.happen h := by
  cases h with
  | other result => rfl
  | read message =>
      simp only [next]
      split
      · rfl
      · split <;> rfl

theorem next_continued {w : Watch Conn} {message : Text} (hpush : IsPushReply message)
    (hcont : IsContinued message) : w.next (.read message) =
      { w with engine := w.engine.receive message, pending := w.pending ++ [message] } := by
  simp only [next, hpush, hcont, not_true_eq_false, if_false, if_true]

theorem next_final {w : Watch Conn} {message : Text} (hpush : IsPushReply message)
    (hcont : ¬ IsContinued message) : w.next (.read message) =
      { engine := w.engine.receive message
        pending := []
        exchanges := w.exchanges ++ [{
          profile := w.engine.config
          messages := w.pending ++ [message]
          emitted := emittedBy w.engine (w.engine.receive message) }] } := by
  simp only [next, hpush, hcont, not_true_eq_false, if_false]

theorem next_other {w : Watch Conn} {message : Text} (hpush : ¬ IsPushReply message) :
    w.next (.read message) = { w with engine := w.engine.receive message } := by
  simp only [next, hpush, not_false_eq_true, if_true]

/-- A sequence begins with an empty accumulator. -/
def Clean (w : Watch Conn) : Happening Conn → Prop
  | .read message =>
    IsPushReply message → w.pending = [] → w.engine.pushedOptionsAccumulator = []
  | .other _ => True

instance (w : Watch Conn) (h : Happening Conn) : Decidable (w.Clean h) :=
  match h with
  | .read message => inferInstanceAs (Decidable (IsPushReply message → _ → _))
  | .other _ => inferInstanceAs (Decidable True)

/-- The completed exchanges are independent of each other, and the accumulator holds the
pending messages and nothing else. -/
structure Inv (env : Env Conn) (w : Watch Conn) : Prop where
  independent : ∀ x ∈ w.exchanges, x.Independent env
  waiting : ∀ message ∈ w.pending, IsPushReply message ∧ IsContinued message
  accumulated : w.pending ≠ [] →
    w.engine.pushedOptionsAccumulator = w.pending.foldl accumulate []

end Watch

namespace Watch

variable {w w' : Watch Conn}

theorem Inv.next (h : w.Inv env) {happening : Happening Conn} (hclean : w.Clean happening) :
    (w.next happening).Inv env := by
  cases happening with
  | other result => exact ⟨h.independent, h.waiting, h.accumulated⟩
  | read message =>
      by_cases hpush : IsPushReply message
      · -- what the accumulator holds before this message is what the pending ones have left
        have hacc : w.engine.pushedOptionsAccumulator = w.pending.foldl accumulate [] := by
          by_cases hpending : w.pending = []
          · rw [hclean hpush hpending, hpending]
            rfl
          · exact h.accumulated hpending
        by_cases hcont : IsContinued message
        · rw [next_continued hpush hcont]
          refine ⟨h.independent, ?_, ?_⟩
          · intro m hm
            rcases List.mem_append.mp hm with hm | hm
            · exact h.waiting m hm
            · rw [List.mem_singleton.mp hm]
              exact ⟨hpush, hcont⟩
          · intro _
            rw [List.foldl_append, ← hacc, receive_continued _ hpush hcont]
            rfl
        · rw [next_final hpush hcont]
          refine ⟨?_, by simp, by simp⟩
          intro x hx
          rcases List.mem_append.mp hx with hx | hx
          · exact h.independent x hx
          · rw [List.mem_singleton.mp hx]
            intro now sessionId
            rw [List.foldl_append, foldl_receive_waiting h.waiting]
            rw [List.foldl_cons, List.foldl_nil, receive_final _ hpush hcont,
              receive_final _ hpush hcont, emittedBy_provision, hacc]
            exact (emittedBy_provision (initial env w.engine.config now sessionId) _).symm
      · rw [next_other hpush]
        refine ⟨h.independent, h.waiting, fun hpending => ?_⟩
        rw [pushedOptionsAccumulator_receive hpush]
        exact h.accumulated hpending

/-- Whatever happens to an engine can be watched. -/
theorem exists_run_of_hears {e e' : ProtocolEngine Conn} (h : Hears e e') :
    ∃ happenings w, Transition.Run (fun w h => some (next w h)) (fun _ _ => True) ⟨e, [], []⟩
      happenings w ∧ w.engine = e' := by
  obtain ⟨happenings, rfl⟩ := h
  have hrun (w : Watch Conn) : ∃ w', Transition.Run (fun w h => some (next w h)) (fun _ _ => True)
      w happenings w' ∧ w'.engine = happenings.foldl happen w.engine := by
    induction happenings generalizing w with
    | nil => exact ⟨w, .nil w, rfl⟩
    | cons happening happenings ih =>
        obtain ⟨w', run, hengine⟩ := ih (w.next happening)
        rw [engine_next] at hengine
        exact ⟨w', .cons trivial rfl run, hengine⟩
  exact ⟨happenings, hrun _⟩

theorem Inv.start (env : Env Conn) (e : ProtocolEngine Conn) : Inv env ⟨e, [], []⟩ :=
  ⟨by simp, by simp, by simp⟩

end Watch

/-- In a run in which every `PUSH_REPLY` sequence begins with an empty accumulator, every
configuration emitted is that of a fresh engine with the profile of the time. -/
theorem exchanges_independent {config : OpenVpnConfig} {now : Instant} {sessionId : UInt64}
    {happenings : List (Happening Conn)} {w : Watch Conn}
    (run : Transition.Run (fun w h => some (Watch.next w h)) Watch.Clean
      ⟨initial env config now sessionId, [], []⟩ happenings w) :
    ∀ x ∈ w.exchanges, x.Independent env := by
  refine (run.invariant (I := Watch.Inv env) ?_ (.start env _)).independent
  intro w happening w' hclean hnext h
  obtain rfl := Option.some.inj hnext
  exact h.next hclean

/-- A reply in two parts, as the first of an engine. -/
theorem exchanges_independent_first :
    ∃ w : Watch Loopback.Conn, w.exchanges.length = 1 ∧
      ∀ x ∈ w.exchanges, x.Independent Loopback.env := by
  have hrun : (Transition.runList (fun w h => some (Watch.next w h)) Watch.Clean
      ⟨initial Loopback.env {} 0 42, [], []⟩
      [.read "PUSH_REPLY,route 10.8.0.0 255.255.0.0,push-continuation 2".toList,
        .read "PUSH_REPLY,peer-id 3,push-continuation 1".toList]).any
      (fun w => decide (w.exchanges.length = 1)) = true := by decide +kernel
  obtain ⟨w, run, hlength⟩ := Transition.exists_run_of_any hrun
  exact ⟨w, of_decide_eq_true hlength, exchanges_independent run⟩

/-- The route of a first reply is configured again with a second one that does not have it. -/
theorem earlier_route_comes_back :
    ∃ (happenings : List (Happening Loopback.Conn)) (w : Watch Loopback.Conn),
      Transition.Run (fun w h => some (Watch.next w h)) (fun _ _ => True)
        ⟨initial Loopback.env {} 0 42, [], []⟩ happenings w ∧
      ∃ x ∈ w.exchanges, x.messages = ["PUSH_REPLY,peer-id 3".toList] ∧
        ¬ x.Independent Loopback.env := by
  have hrun : (Transition.runList (fun w h => some (Watch.next w h)) (fun _ _ => True)
      ⟨initial Loopback.env {} 0 42, [], []⟩
      [.read "PUSH_REPLY,route 10.8.0.0 255.255.0.0".toList,
        .read "PUSH_REPLY,peer-id 3".toList]).any (fun w => w.exchanges.any fun x =>
        decide (x.messages = ["PUSH_REPLY,peer-id 3".toList]) &&
        decide (x.emitted ≠ emittedBy (initial Loopback.env x.profile 0 42)
          (x.messages.foldl receive (initial Loopback.env x.profile 0 42)))) = true := by
    decide +kernel
  obtain ⟨w, run, hexchange⟩ := Transition.exists_run_of_any hrun
  obtain ⟨x, hx, hcheck⟩ := List.any_eq_true.mp hexchange
  obtain ⟨hmessages, hemitted⟩ := (Bool.and_eq_true _ _).mp hcheck
  refine ⟨_, w, run, x, hx, of_decide_eq_true hmessages, fun h => ?_⟩
  exact of_decide_eq_true hemitted (h 0 42)

end ProtocolEngine

end VpnHub.Protocol

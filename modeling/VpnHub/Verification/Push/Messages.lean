import VpnHub.Library.Substring
import VpnHub.Verification.Engine.Steps

/-! Server messages as the engine takes them: what each kind of message does, and that nothing
but messages touches the accumulated `PUSH_REPLY` and the profile. -/

namespace VpnHub.Protocol

open Config Crypto

/-! ## Kinds of messages -/

/-- The message is taken for a part of a `PUSH_REPLY`. -/
def IsPushReply (message : Text) : Prop := Text.contains message "PUSH_REPLY".toList = true

/-- More parts are to follow. -/
def IsContinued (message : Text) : Prop :=
  Text.contains message "push-continuation 2".toList = true

instance (message : Text) : Decidable (IsPushReply message) :=
  inferInstanceAs (Decidable (_ = true))

instance (message : Text) : Decidable (IsContinued message) :=
  inferInstanceAs (Decidable (_ = true))

namespace ProtocolEngine

variable {Conn : Type} {env : Env Conn} {e e' : ProtocolEngine Conn} {message : Text}

/-- The accumulator after the parts of a message. -/
def accumulate (acc message : Text) : Text :=
  (Text.split message "PUSH_REPLY".toList).foldl accumulatePushed acc

theorem unbordered_pushReply : Text.Unbordered "PUSH_REPLY".toList := by decide

theorem pushReply_ne_nil : "PUSH_REPLY".toList ≠ [] := by decide

/-- What stands before the first `PUSH_REPLY` of a message that begins with it is empty. -/
theorem accumulate_pushReply (acc body : Text) :
    accumulate acc ("PUSH_REPLY".toList ++ body) =
      (Text.split body "PUSH_REPLY".toList).foldl accumulatePushed acc := by
  have hsplit := Text.split_append_pattern unbordered_pushReply pushReply_ne_nil [] body
  rw [List.nil_append, Text.split_nil, List.singleton_append] at hsplit
  rw [accumulate, hsplit]
  rfl

/-- The options in an accumulated reply. -/
def pushedOptions (acc : Text) : PushOptions :=
  (splitPushReplyItems ("PUSH_REPLY,".toList ++ acc)).foldl PushOptions.applyItem {}

/-- The engine after a transition. -/
def become (e : ProtocolEngine Conn) (state : EngineState) : ProtocolEngine Conn :=
  if e.state ≠ state then { e with state, outbox := e.outbox ++ [.stateChange state] } else e

def queue (e : ProtocolEngine Conn) (action : OutputAction) : ProtocolEngine Conn :=
  { e with outbox := e.outbox ++ [action] }

/-- The engine with one more event on record. -/
def noted (e : ProtocolEngine Conn) (event : TraceEvent) : ProtocolEngine Conn :=
  { e with trace := e.trace ++ [event] }

theorem run_transitionState (e : ProtocolEngine Conn) (state : EngineState) :
    (transitionState state : EngineM Conn Unit).run e = some (.ok (), e.become state) := by
  simp only [transitionState, Prog.run_get_bind, become]
  split <;> rfl

theorem run_pushAction (e : ProtocolEngine Conn) (action : OutputAction) :
    (pushAction action : EngineM Conn Unit).run e = some (.ok (), e.queue action) := rfl

/-! ## What a message does -/

/-- The engine after a plaintext read; see `exists_run_handleAppMessage`. -/
def receive (e : ProtocolEngine Conn) (message : Text) : ProtocolEngine Conn :=
  match (handleAppMessage message).run e with
  | some (_, e') => e'
  | none => e

theorem receive_of_run {r : Except ProtocolError Unit}
    (h : (handleAppMessage message).run e = some (r, e')) : e.receive message = e' := by
  simp only [receive, h]

/-- The engine after a reply is complete: `acc` is the whole of it. -/
def provision (e : ProtocolEngine Conn) (acc : Text) : ProtocolEngine Conn :=
  let accumulated := { e with pushedOptionsAccumulator := acc }
  let applied := accumulated.applyPushed (pushedOptions acc)
  let config := (pushedOptions acc).buildProvisioningConfig applied.config
  ((applied.become .connected).queue (.configureNetwork config)).noted
    (.configured (pushedOptions acc) config)

/-- What a complete reply leaves alone, and what it adds to the record. -/
structure Provisioned (e e' : ProtocolEngine Conn) (opts : PushOptions) : Prop where
  mssFix : e'.mssFix = e.mssFix
  keyManager : e'.keyManager = e.keyManager
  tlsAuth : e'.tlsAuth = e.tlsAuth
  tlsAdapter : e'.tlsAdapter = e.tlsAdapter
  sendQueue : e'.sendQueue = e.sendQueue
  recvQueue : e'.recvQueue = e.recvQueue
  trace : e'.trace = e.trace ++
    [.configured opts (opts.buildProvisioningConfig (e.applyPushed opts).config)]

theorem provisioned_provision (e : ProtocolEngine Conn) (acc : Text) :
    Provisioned e (e.provision acc) (pushedOptions acc) := by
  unfold provision become
  generalize pushedOptions acc = opts
  dsimp only
  split <;> exact ⟨rfl, rfl, rfl, rfl, rfl, rfl, rfl⟩

/-- What a complete reply leaves in the engine. -/
theorem settings_provision (e : ProtocolEngine Conn) (acc : Text) :
    (e.provision acc).peerId = (e.applyPushed (pushedOptions acc)).peerId ∧
      (e.provision acc).config = (e.applyPushed (pushedOptions acc)).config ∧
      (e.provision acc).authToken = (e.applyPushed (pushedOptions acc)).authToken := by
  have hbecome (t : ProtocolEngine Conn) (state : EngineState) (action : OutputAction)
      (event : TraceEvent) :
      (((t.become state).queue action).noted event).peerId = t.peerId ∧
        (((t.become state).queue action).noted event).config = t.config ∧
        (((t.become state).queue action).noted event).authToken = t.authToken := by
    unfold become
    split <;> exact ⟨rfl, rfl, rfl⟩
  unfold provision
  generalize pushedOptions acc = opts
  exact hbecome _ _ _ _

theorem run_handleAppMessage_continued (hpush : IsPushReply message)
    (hcont : IsContinued message) :
    (handleAppMessage message).run e = some (.ok (),
      { e with pushedOptionsAccumulator := accumulate e.pushedOptionsAccumulator message }) := by
  rw [IsPushReply] at hpush
  rw [IsContinued] at hcont
  simp only [handleAppMessage]
  rw [if_pos hpush, Prog.run_modify_bind, if_pos hcont]
  rfl

theorem run_handleAppMessage_final (hpush : IsPushReply message)
    (hcont : ¬ IsContinued message) :
    (handleAppMessage message).run e =
      some (.ok (), e.provision (accumulate e.pushedOptionsAccumulator message)) := by
  rw [IsPushReply] at hpush
  rw [IsContinued] at hcont
  simp only [handleAppMessage]
  rw [if_pos hpush, Prog.run_modify_bind, if_neg hcont]
  simp only [Prog.run_get_bind, parsePushReply, Except.mapError, Prog.run_ofExcept_ok_bind,
    Prog.run_modify_bind]
  rw [Prog.run_bind_of_ok (run_transitionState _ _)]
  rfl

theorem run_handleAppMessage_challenge (hpush : ¬ IsPushReply message)
    {challenge : AuthChallenge} (hch : AuthHandler.parseChallenge message = some challenge) :
    (handleAppMessage message).run e =
      some (.ok (), (e.become .authenticating).queue (.requestAuthChallenge challenge)) := by
  rw [IsPushReply] at hpush
  simp only [handleAppMessage]
  rw [if_neg hpush]
  simp only [hch]
  rw [Prog.run_bind_of_ok (run_transitionState _ _), run_pushAction]

theorem run_handleAppMessage_failed (hpush : ¬ IsPushReply message)
    (hch : AuthHandler.parseChallenge message = none)
    (hfailed : Text.contains message "AUTH_FAILED".toList = true) :
    (handleAppMessage message).run e = some (.error (.authenticationFailed message),
      (e.become .error).queue (.closeSession message)) := by
  rw [IsPushReply] at hpush
  simp only [handleAppMessage]
  rw [if_neg hpush]
  simp only [hch]
  rw [if_pos hfailed, Prog.run_bind_of_ok (run_transitionState _ _),
    Prog.run_bind_of_ok (run_pushAction _ _)]
  rfl

theorem run_handleAppMessage_ignored (hpush : ¬ IsPushReply message)
    (hch : AuthHandler.parseChallenge message = none)
    (hfailed : ¬ Text.contains message "AUTH_FAILED".toList = true) :
    (handleAppMessage message).run e = some (.ok (), e) := by
  rw [IsPushReply] at hpush
  simp only [handleAppMessage]
  rw [if_neg hpush]
  simp only [hch]
  rw [if_neg hfailed]
  rfl

theorem receive_continued (e : ProtocolEngine Conn) {message : Text} (hpush : IsPushReply message)
    (hcont : IsContinued message) : e.receive message =
      { e with pushedOptionsAccumulator := accumulate e.pushedOptionsAccumulator message } :=
  receive_of_run (run_handleAppMessage_continued hpush hcont)

theorem receive_final (e : ProtocolEngine Conn) {message : Text} (hpush : IsPushReply message)
    (hcont : ¬ IsContinued message) :
    e.receive message = e.provision (accumulate e.pushedOptionsAccumulator message) :=
  receive_of_run (run_handleAppMessage_final hpush hcont)

/-- The five things a message can be. -/
theorem receive_cases (e : ProtocolEngine Conn) (message : Text) :
    (IsPushReply message ∧ IsContinued message ∧ e.receive message =
      { e with pushedOptionsAccumulator := accumulate e.pushedOptionsAccumulator message }) ∨
    (IsPushReply message ∧ ¬ IsContinued message ∧
      e.receive message = e.provision (accumulate e.pushedOptionsAccumulator message)) ∨
    (¬ IsPushReply message ∧ ∃ challenge, AuthHandler.parseChallenge message = some challenge ∧
      e.receive message = (e.become .authenticating).queue (.requestAuthChallenge challenge)) ∨
    (¬ IsPushReply message ∧ AuthHandler.parseChallenge message = none ∧
      Text.contains message "AUTH_FAILED".toList = true ∧
      e.receive message = (e.become .error).queue (.closeSession message)) ∨
    (¬ IsPushReply message ∧ AuthHandler.parseChallenge message = none ∧
      ¬ Text.contains message "AUTH_FAILED".toList = true ∧ e.receive message = e) := by
  by_cases hpush : IsPushReply message
  · by_cases hcont : IsContinued message
    · exact .inl ⟨hpush, hcont, receive_continued e hpush hcont⟩
    · exact .inr (.inl ⟨hpush, hcont, receive_final e hpush hcont⟩)
  · refine .inr (.inr ?_)
    cases hch : AuthHandler.parseChallenge message with
    | some challenge =>
        exact .inl ⟨hpush, challenge, rfl,
          receive_of_run (run_handleAppMessage_challenge hpush hch)⟩
    | none =>
        by_cases hfailed : Text.contains message "AUTH_FAILED".toList = true
        · exact .inr (.inl ⟨hpush, rfl, hfailed,
            receive_of_run (run_handleAppMessage_failed hpush hch hfailed)⟩)
        · exact .inr (.inr ⟨hpush, rfl, hfailed,
            receive_of_run (run_handleAppMessage_ignored hpush hch hfailed)⟩)

/-- Handling a message always returns. -/
theorem exists_run_handleAppMessage (e : ProtocolEngine Conn) (message : Text) :
    ∃ r, (handleAppMessage message).run e = some (r, e.receive message) := by
  rcases receive_cases e message with ⟨hpush, hcont, heq⟩ | ⟨hpush, hcont, heq⟩ |
    ⟨hpush, challenge, hch, heq⟩ | ⟨hpush, hch, hfailed, heq⟩ | ⟨hpush, hch, hfailed, heq⟩
  · exact ⟨_, heq ▸ run_handleAppMessage_continued hpush hcont⟩
  · exact ⟨_, heq ▸ run_handleAppMessage_final hpush hcont⟩
  · exact ⟨_, heq ▸ run_handleAppMessage_challenge hpush hch⟩
  · exact ⟨_, heq ▸ run_handleAppMessage_failed hpush hch hfailed⟩
  · exact ⟨_, by rw [heq]; exact run_handleAppMessage_ignored hpush hch hfailed⟩

theorem pushedOptionsAccumulator_receive (hpush : ¬ IsPushReply message) :
    (e.receive message).pushedOptionsAccumulator = e.pushedOptionsAccumulator := by
  have hbecome (state : EngineState) :
      (e.become state).pushedOptionsAccumulator = e.pushedOptionsAccumulator := by
    unfold become
    split <;> rfl
  rcases receive_cases e message with ⟨h, -⟩ | ⟨h, -⟩ | ⟨-, challenge, -, heq⟩ |
    ⟨-, -, -, heq⟩ | ⟨-, -, -, heq⟩
  · exact absurd h hpush
  · exact absurd h hpush
  · rw [heq]
    exact hbecome _
  · rw [heq]
    exact hbecome _
  · rw [heq]

theorem foldl_receive_waiting {messages : List Text}
    (h : ∀ message ∈ messages, IsPushReply message ∧ IsContinued message)
    (e : ProtocolEngine Conn) : messages.foldl receive e = { e with
      pushedOptionsAccumulator := messages.foldl accumulate e.pushedOptionsAccumulator } := by
  induction messages generalizing e with
  | nil => rfl
  | cons message messages ih =>
      obtain ⟨hpush, hcont⟩ := h message (by simp)
      rw [List.foldl_cons, ih fun m hm => h m (List.mem_cons_of_mem _ hm),
        receive_continued e hpush hcont]
      rfl

/-- Two engines agree on what pushed options set in them. -/
structure SameSettings (e e' : ProtocolEngine Conn) : Prop where
  peerId : e'.peerId = e.peerId
  pingInterval : e'.config.pingInterval = e.config.pingInterval
  pingRestart : e'.config.pingRestart = e.config.pingRestart
  authToken : e'.authToken = e.authToken

/-! ## Network configurations -/

def configsOf (outbox : List OutputAction) : List NetworkProvisioningConfig :=
  outbox.filterMap fun
    | .configureNetwork config => some config
    | _ => none

/-- The network configurations queued between two states of an engine. -/
def emittedBy (e e' : ProtocolEngine Conn) : List NetworkProvisioningConfig :=
  configsOf (e'.outbox.drop e.outbox.length)

/-- What is emitted for a complete reply depends on the reply and the profile only. -/
theorem emittedBy_provision (e : ProtocolEngine Conn) (acc : Text) :
    emittedBy e (e.provision acc) = [(pushedOptions acc).buildProvisioningConfig
      (e.applyPushed (pushedOptions acc)).config] := by
  have hqueue (t : ProtocolEngine Conn) (ht : t.outbox = e.outbox)
      (config : NetworkProvisioningConfig) (event : TraceEvent) :
      emittedBy e (((t.become .connected).queue (.configureNetwork config)).noted event) =
        [config] := by
    unfold become emittedBy
    split
    · simp [queue, noted, ht, configsOf]
    · simp [queue, noted, ht, configsOf]
  have houtbox (opts : PushOptions) :
      ({ e with pushedOptionsAccumulator := acc }.applyPushed opts).outbox = e.outbox := rfl
  have hconfig (opts : PushOptions) : ({ e with pushedOptionsAccumulator := acc }.applyPushed
      opts).config = (e.applyPushed opts).config := rfl
  simp only [provision, hqueue _ (houtbox _), hconfig]

end ProtocolEngine

end VpnHub.Protocol

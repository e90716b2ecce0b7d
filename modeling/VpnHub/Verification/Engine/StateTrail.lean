import VpnHub.Verification.Engine.Closing
import VpnHub.Verification.Engine.Flush

/-! # The order of the state changes

A call that returns `Ok` announces a way through the states: the handshake is announced only after
`Connecting`, pulling the configuration only after the handshake, and an error never. -/

namespace VpnHub.Protocol.ProtocolEngine

open Config Crypto

variable {Conn : Type} {env : Env Conn} {e e' : ProtocolEngine Conn}

/-! ## Trails -/

/-- A state change of a call that returns `Ok`, apart from the start. -/
inductive Leads : EngineState → EngineState → Prop where
  | handshake : Leads .connecting .tlsHandshake
  | pulling : Leads .tlsHandshake .pullingConfig
  | authenticating {s : EngineState} (h : s ≠ .authenticating) : Leads s .authenticating
  | connected {s : EngineState} (h : s ≠ .connected) : Leads s .connected

/-- The states `l` are announced on the way from `s` to `t`. -/
def Trail : EngineState → List EngineState → EngineState → Prop
  | s, [], t => s = t
  | s, x :: l, t => Leads s x ∧ Trail x l t

theorem Trail.append {s t u : EngineState} {l l' : List EngineState} (h : Trail s l t)
    (h' : Trail t l' u) : Trail s (l ++ l') u := by
  induction l generalizing s with
  | nil =>
      obtain rfl : s = t := h
      exact h'
  | cons x l ih => exact ⟨h.1, ih h.2⟩

/-- After the first message of the server only such messages change the state. -/
theorem Trail.served {x t : EngineState} {l : List EngineState} (h : Trail x l t)
    (hx : x = .authenticating ∨ x = .connected) :
    ∀ y ∈ x :: l, y = .authenticating ∨ y = .connected := by
  induction l generalizing x with
  | nil => simpa using hx
  | cons y l ih =>
      obtain ⟨hleads, htrail⟩ := h
      have hy : y = .authenticating ∨ y = .connected := by
        cases hleads with
        | authenticating => exact .inl rfl
        | connected => exact .inr rfl
        | handshake | pulling => simp at hx
      exact List.forall_mem_cons.mpr ⟨hx, ih htrail hy⟩

theorem Leads.ne {s t : EngineState} (h : Leads s t) : s ≠ t := by
  cases h with
  | handshake | pulling => decide
  | authenticating h | connected h => exact h

theorem Trail.isChain {s t : EngineState} {l : List EngineState} (h : Trail s l t) :
    (s :: l).IsChain (· ≠ ·) ∧ (s :: l).getLast (List.cons_ne_nil s l) = t := by
  induction l generalizing s with
  | nil => exact ⟨by simp, h⟩
  | cons x l ih =>
      obtain ⟨hchain, hlast⟩ := ih h.2
      exact ⟨List.isChain_cons_cons.mpr ⟨h.1.ne, hchain⟩, by rw [List.getLast_cons_cons, hlast]⟩

/-- The states that come after `Connecting` and before the first of the server's messages. -/
inductive Opening : List EngineState → Prop where
  | none : Opening []
  | handshake : Opening [.tlsHandshake]
  | pulling : Opening [.tlsHandshake, .pullingConfig]

theorem Trail.shape {t : EngineState} {l : List EngineState} (h : Trail .connecting l t) :
    ∃ opening rest, l = opening ++ rest ∧ Opening opening ∧
      ∀ x ∈ rest, x = .authenticating ∨ x = .connected := by
  obtain _ | ⟨x, l⟩ := l
  · exact ⟨[], [], rfl, .none, by simp⟩
  obtain ⟨hleads, htrail⟩ := h
  cases hleads with
  | authenticating => exact ⟨[], _, rfl, .none, htrail.served (.inl rfl)⟩
  | connected => exact ⟨[], _, rfl, .none, htrail.served (.inr rfl)⟩
  | handshake =>
      obtain _ | ⟨x, l⟩ := l
      · exact ⟨[.tlsHandshake], [], rfl, .handshake, by simp⟩
      obtain ⟨hleads, htrail⟩ := htrail
      cases hleads with
      | authenticating => exact ⟨[.tlsHandshake], _, rfl, .handshake, htrail.served (.inl rfl)⟩
      | connected => exact ⟨[.tlsHandshake], _, rfl, .handshake, htrail.served (.inr rfl)⟩
      | pulling =>
          refine ⟨[.tlsHandshake, .pullingConfig], l, rfl, .pulling, ?_⟩
          obtain _ | ⟨x, l⟩ := l
          · simp
          obtain ⟨hleads, htrail⟩ := htrail
          cases hleads with
          | authenticating => exact htrail.served (.inl rfl)
          | connected => exact htrail.served (.inr rfl)

/-! ## State changes -/

/-- The state changes in an outbox. -/
def changes (outbox : List OutputAction) : List EngineState :=
  outbox.filterMap fun
    | .stateChange state => some state
    | _ => none

theorem changes_append (outbox queued : List OutputAction) :
    changes (outbox ++ queued) = changes outbox ++ changes queued := by
  simp [changes]

/-- The changes that are queued lead from the one state to the other. -/
def Proceeds (e e' : ProtocolEngine Conn) : Prop :=
  ∃ l, changes e'.outbox = changes e.outbox ++ l ∧ Trail e.state l e'.state

/-- No change is queued, and there is none. -/
def Stays (e e' : ProtocolEngine Conn) : Prop :=
  changes e'.outbox = changes e.outbox ∧ e'.state = e.state

theorem Stays.refl (e : ProtocolEngine Conn) : Stays e e := ⟨rfl, rfl⟩

theorem Stays.trans (e₁ e₂ e₃ : ProtocolEngine Conn) (h : Stays e₁ e₂) (h' : Stays e₂ e₃) :
    Stays e₁ e₃ :=
  ⟨h'.1.trans h.1, h'.2.trans h.2⟩

theorem Stays.proceeds (h : Stays e e') : Proceeds e e' :=
  ⟨[], h.1.trans (List.append_nil _).symm, h.2.symm⟩

theorem Proceeds.refl (e : ProtocolEngine Conn) : Proceeds e e := (Stays.refl e).proceeds

theorem Proceeds.trans (e₁ e₂ e₃ : ProtocolEngine Conn) (h : Proceeds e₁ e₂)
    (h' : Proceeds e₂ e₃) : Proceeds e₁ e₃ := by
  obtain ⟨l, hchanges, htrail⟩ := h
  obtain ⟨l', hchanges', htrail'⟩ := h'
  exact ⟨l ++ l', by rw [hchanges', hchanges, List.append_assoc], htrail.append htrail'⟩

theorem stays_of_append {queued : List OutputAction} (hqueued : e'.outbox = e.outbox ++ queued)
    (hnone : changes queued = []) (hstate : e'.state = e.state) : Stays e e' :=
  ⟨by rw [hqueued, changes_append, hnone, List.append_nil], hstate⟩

theorem proceeds_become {state : EngineState} (h : e.state ≠ state → Leads e.state state) :
    Proceeds e (e.become state) := by
  unfold become
  split
  · rename_i hne
    exact ⟨[state], changes_append _ _, h hne, rfl⟩
  · exact Proceeds.refl e

/-! ## Parts of a call -/

section Parts

variable {α β : Type}

/-- A program that changes no state. -/
abbrev Still (p : EngineM Conn α) : Prop := Prog.Keeps Stays p

theorem still_bind {p : EngineM Conn α} {f : α → EngineM Conn β} (hp : Still p)
    (hf : ∀ a, Still (f a)) : Still (p >>= f) :=
  Prog.Keeps.bind Stays.trans hp hf

theorem still_emitControlPacket (cp : ControlPacket) : Still (emitControlPacket env cp) := by
  intro e r e' hrun
  rw [run_emitControlPacket] at hrun
  obtain ⟨-, rfl⟩ : _ ∧ e.emit env cp = e' := by simpa using hrun
  exact stays_of_append rfl rfl rfl

theorem still_enqueue (opcode : Opcode) (payload : Bytes) (now : Instant) :
    Still (enqueue opcode payload now : EngineM Conn UInt32) :=
  still_bind (Prog.Keeps.ofFun fun _ => ⟨rfl, rfl⟩) fun _ =>
    still_bind (Prog.Keeps.modify fun _ => ⟨rfl, rfl⟩) fun _ => Prog.Keeps.pure Stays.refl _

theorem still_drainAcks : Still (drainAcks : EngineM Conn (List UInt32)) :=
  Prog.Keeps.ofFun fun _ => ⟨rfl, rfl⟩

theorem still_withTls (default : α) (method : TlsStreamAdapter.Method Conn α) :
    Still (withTls default method) := by
  refine still_bind (Prog.Keeps.get Stays.refl) fun e => ?_
  cases e.tlsAdapter with
  | some tls => exact Prog.Keeps.within fun _ _ => ⟨rfl, rfl⟩
  | none => exact Prog.Keeps.pure Stays.refl default

theorem still_sendControl (outgoing : Bytes) (now : Instant) :
    Still (sendControl env outgoing now) :=
  still_bind (still_enqueue _ _ _) fun _ => still_bind still_drainAcks fun _ =>
    still_bind (Prog.Keeps.get Stays.refl) fun _ => still_emitControlPacket _

theorem still_sendStandaloneAck : Still (sendStandaloneAck env) :=
  still_bind still_drainAcks fun _ => still_bind (Prog.Keeps.get Stays.refl) fun _ =>
    Prog.Keeps.when Stays.refl (still_emitControlPacket _)

theorem still_exportKeys (now : Instant) : Still (exportKeys env now) := by
  refine still_bind (still_bind (Prog.Keeps.get Stays.refl) fun e => ?_) fun _ =>
    Prog.Keeps.ofFun fun _ => ⟨rfl, rfl⟩
  cases e.tlsAdapter with
  | some tls => exact Prog.Keeps.ofExcept Stays.refl _
  | none => exact Prog.Keeps.pure Stays.refl _

/-- A program that announces its changes when it returns `Ok`. -/
abbrev ProceedsOnOk (p : EngineM Conn α) : Prop := Prog.OkKeeps Proceeds p

theorem proceedsOnOk_bind {p : EngineM Conn α} {f : α → EngineM Conn β} (hp : ProceedsOnOk p)
    (hf : ∀ a, ProceedsOnOk (f a)) : ProceedsOnOk (p >>= f) :=
  Prog.OkKeeps.bind Proceeds.trans hp hf

theorem proceedsOnOk_of_still {p : EngineM Conn α} (h : Still p) : ProceedsOnOk p :=
  (h.mono fun _ _ => Stays.proceeds).okKeeps

theorem proceedsOnOk_handleAppMessage (message : Text) :
    ProceedsOnOk (handleAppMessage message : EngineM Conn Unit) := by
  intro e a e' hrun
  rcases receive_cases e message with ⟨-, -, heq⟩ | ⟨-, -, heq⟩ | ⟨-, challenge, -, heq⟩ |
    ⟨hpush, hch, hfailed, -⟩ | ⟨-, -, -, heq⟩
  · rw [← receive_of_run hrun, heq]
    exact Stays.proceeds ⟨rfl, rfl⟩
  · rw [← receive_of_run hrun, heq]
    unfold provision
    generalize pushedOptions _ = opts
    generalize accumulate e.pushedOptionsAccumulator message = acc
    have hbecome := proceeds_become
      (e := { e with pushedOptionsAccumulator := acc }.applyPushed opts) Leads.connected
    refine Proceeds.trans _ _ _ hbecome (Stays.proceeds ?_)
    exact stays_of_append rfl rfl rfl
  · rw [← receive_of_run hrun, heq]
    refine Proceeds.trans _ _ _ (proceeds_become Leads.authenticating) (Stays.proceeds ?_)
    exact stays_of_append rfl rfl rfl
  · rw [run_handleAppMessage_failed hpush hch hfailed] at hrun
    cases hrun
  · rw [← receive_of_run hrun, heq]
    exact Proceeds.refl e

/-- The flush announces the handshake only in the state `Connecting`. -/
theorem proceedsOnOk_flushWith {onHandshake : EngineM Conn Unit}
    (h : ∀ e a e', e.state = .tlsHandshake → onHandshake.run e = some (.ok a, e') → Proceeds e e')
    (now : Instant) : ProceedsOnOk (flushWith env onHandshake now) := by
  refine proceedsOnOk_bind (proceedsOnOk_of_still (Prog.Keeps.ofFun fun _ => ⟨rfl, rfl⟩))
    fun chunks => ?_
  intro e a e' hrun
  rw [Prog.run_get_bind] at hrun
  obtain ⟨⟨outgoing, completed, appData⟩, e₁, htls, hrun⟩ := Prog.run_bind_eq_ok.mp hrun
  have hstill : Stays e e₁ := (still_withTls _ _).of_run htls
  have hconnecting : completed = true → e.state = .connecting := by
    intro hcompleted
    by_contra hstate
    rw [decide_eq_false hstate] at htls
    have hout : (withTls ([], false, []) (pumpTls env chunks false)).wp
        (fun r _ => ∀ out, r = .ok out → out.2.1 = false) e :=
      wp_withTls (by simp) fun tls _ => pumpTls_not_connecting chunks tls
    have hfalse : completed = false := hout.of_run htls _ rfl
    simp [hfalse] at hcompleted
  obtain ⟨_, e₂, hsend, hrun⟩ := Prog.run_bind_eq_ok.mp hrun
  have hstill₂ : Stays e₁ e₂ := (Prog.Keeps.when Stays.refl (still_sendControl _ _)).of_run hsend
  obtain ⟨_, e₃, hhandshake, hrun⟩ := Prog.run_bind_eq_ok.mp hrun
  have hproceeds : Proceeds e₂ e₃ := by
    by_cases hcompleted : completed = true
    · have hstate : e₂.state = .connecting :=
        (hstill₂.2.trans hstill.2).trans (hconnecting hcompleted)
      rw [Prog.when, if_pos hcompleted, Prog.run_bind_of_ok (run_transitionState _ _)] at hhandshake
      have hbecome : Proceeds e₂ (e₂.become .tlsHandshake) :=
        proceeds_become fun _ => hstate ▸ .handshake
      refine Proceeds.trans _ _ _ hbecome (h _ _ _ ?_ hhandshake)
      simp [become, hstate]
    · rw [Prog.when, if_neg hcompleted] at hhandshake
      obtain rfl : e₂ = e₃ := by simpa using hhandshake
      exact Proceeds.refl e₂
  have hrest : ProceedsOnOk (do
      Prog.when (appData ≠ []) (handleAppMessage (Text.fromUtf8Lossy appData))
      sendStandaloneAck env) :=
    proceedsOnOk_bind (Prog.OkKeeps.when Proceeds.refl (proceedsOnOk_handleAppMessage _)) fun _ =>
      proceedsOnOk_of_still still_sendStandaloneAck
  exact Proceeds.trans _ _ _ (Stays.trans _ _ _ hstill hstill₂).proceeds
    (Proceeds.trans _ _ _ hproceeds (hrest _ _ _ hrun))

/-- After the handshake the credentials are sent, or the configuration is pulled. -/
theorem proceeds_handleTlsHandshakeCompletion {now : Instant} {a : Unit}
    (hstate : e.state = .tlsHandshake)
    (hrun : (handleTlsHandshakeCompletion env now).run e = some (.ok a, e')) : Proceeds e e' := by
  have hflush : ProceedsOnOk (flushWith env Prog.stuck now) :=
    proceedsOnOk_flushWith (fun _ _ _ _ hstuck => by cases hstuck) now
  have htls (data : Bytes) : ProceedsOnOk (do
      withTls () (TlsStreamAdapter.sendPlaintextAppData env.tls data)
      flushWith env Prog.stuck now) :=
    proceedsOnOk_bind (proceedsOnOk_of_still (still_withTls _ _)) fun _ => hflush
  obtain ⟨_, e₁, hexport, hrun⟩ := Prog.run_bind_eq_ok.mp hrun
  have hstill : Stays e e₁ := (still_exportKeys now).of_run hexport
  have hstate₁ : e₁.state = .tlsHandshake := hstill.2.trans hstate
  rw [Prog.run_get_bind] at hrun
  refine Proceeds.trans _ _ _ hstill.proceeds ?_
  split at hrun
  · rw [Prog.run_bind_of_ok (run_transitionState _ _), Prog.run_modify_bind] at hrun
    have hbecome : Proceeds e₁ (e₁.become .authenticating) := proceeds_become Leads.authenticating
    have hrest := htls _ _ _ _ hrun
    exact Proceeds.trans _ _ _ hbecome hrest
  · rw [Prog.run_bind_of_ok (run_transitionState _ _)] at hrun
    have hbecome : Proceeds e₁ (e₁.become .pullingConfig) :=
      proceeds_become fun _ => hstate₁ ▸ .pulling
    exact Proceeds.trans _ _ _ hbecome (htls _ _ _ _ hrun)

theorem proceedsOnOk_flushControlChannel (now : Instant) :
    ProceedsOnOk (flushControlChannel env now) :=
  proceedsOnOk_flushWith (fun _ _ _ hstate hrun =>
    proceeds_handleTlsHandshakeCompletion hstate hrun) now

end Parts

/-! ## Calls -/

theorem proceedsOnOk_submitChallengeResponse (now : Instant) (stateId response : Text) :
    ProceedsOnOk (submitChallengeResponse env now stateId response) :=
  proceedsOnOk_bind (proceedsOnOk_of_still (still_withTls _ _)) fun _ =>
    proceedsOnOk_flushControlChannel now

theorem proceedsOnOk_processIncomingControlPacket (now : Instant) (packet : Bytes) :
    ProceedsOnOk (processIncomingControlPacket env now packet) := by
  refine proceedsOnOk_bind (proceedsOnOk_of_still (Prog.Keeps.get Stays.refl)) fun _ =>
    proceedsOnOk_bind (proceedsOnOk_of_still (Prog.Keeps.ofExcept Stays.refl _)) fun cp => ?_
  refine proceedsOnOk_bind (proceedsOnOk_of_still (Prog.Keeps.modify fun e => ?_)) fun _ =>
    proceedsOnOk_bind (proceedsOnOk_of_still (Prog.Keeps.modify fun _ => ⟨rfl, rfl⟩)) fun _ =>
      proceedsOnOk_bind (proceedsOnOk_of_still ?_) fun _ => proceedsOnOk_flushControlChannel now
  · unfold learnRemoteSession
    cases e.remoteSessionId <;> exact ⟨rfl, rfl⟩
  · unfold receiveReliable
    cases cp.packetId with
    | some packetId => exact Prog.Keeps.ofFun fun _ => ⟨rfl, rfl⟩
    | none => exact Prog.Keeps.pure Stays.refl ()

theorem changes_tunActions (plaintext : Bytes) : changes (tunActions plaintext) = [] := by
  unfold tunActions
  split
  · rfl
  · split <;> rfl

theorem proceedsOnOk_processNetworkPacket (now : Instant) (packet : Bytes) :
    ProceedsOnOk (processNetworkPacket env now packet) := by
  intro e a e' hrun
  rcases processNetworkPacket_cases hrun with ⟨keyId, hout⟩ | ⟨-, hcontrol⟩ | rfl
  · cases hout with
    | authentic hd hs hw hlen hopen =>
        exact Stays.proceeds (stays_of_append rfl (changes_tunActions _) rfl)
  · have hproceeds := proceedsOnOk_processIncomingControlPacket now packet _ a e' hcontrol
    exact hproceeds
  · exact Stays.proceeds ⟨rfl, rfl⟩

theorem stays_sends (h : Sends env e e') : Stays e e' := by
  cases h with
  | failed hs hseal => exact ⟨rfl, rfl⟩
  | sealed hs hseal => exact stays_of_append rfl rfl rfl

theorem proceedsOnOk_processTunPacket (now : Instant) (packet : Bytes) :
    ProceedsOnOk (processTunPacket env now packet) := by
  intro e a e' hrun
  rcases processTunPacket_cases now hrun with rfl | ⟨-, hsends⟩
  · exact Proceeds.refl _
  · exact (stays_sends hsends).proceeds

theorem proceedsOnOk_sendKeepalivePing (now : Instant) :
    ProceedsOnOk (sendKeepalivePing env now) := by
  intro e a e' hrun
  rcases sendKeepalivePing_cases hrun with rfl | ⟨-, e₁, hsends, rfl | rfl⟩
  · exact Proceeds.refl _
  · exact (stays_sends hsends).proceeds
  · exact (Stays.trans _ _ _ (stays_sends hsends) ⟨rfl, rfl⟩).proceeds

theorem proceedsOnOk_handleTimeout (now : Instant) : ProceedsOnOk (handleTimeout env now) := by
  refine proceedsOnOk_bind (proceedsOnOk_of_still (Prog.Keeps.ofFun fun _ => ⟨rfl, rfl⟩))
    fun resends => proceedsOnOk_bind (proceedsOnOk_of_still ?_) fun _ =>
      proceedsOnOk_bind (proceedsOnOk_of_still (Prog.Keeps.get Stays.refl)) fun e =>
        Prog.OkKeeps.when Proceeds.refl (proceedsOnOk_bind
          (Prog.OkKeeps.when Proceeds.refl (proceedsOnOk_sendKeepalivePing now)) fun _ =>
            Prog.OkKeeps.when Proceeds.refl ?_)
  · refine Prog.Keeps.forM Stays.refl Stays.trans (fun cp => ?_) resends
    intro e r e' hrun
    rw [run_resend] at hrun
    obtain ⟨-, rfl⟩ : _ ∧ e.sendAcks env cp = e' := by simpa using hrun
    exact stays_of_append rfl rfl rfl
  · -- the inactivity timeout announces an error, and returns one
    intro e a e' hrun
    obtain ⟨_, e₁, -, hrun⟩ := Prog.run_bind_eq_ok.mp hrun
    cases hrun

/-- The start announces `Connecting`. -/
theorem changes_startConnect {now : Instant} {a : Unit} (hstate : e.state ≠ .connecting)
    (hrun : (startConnect env now).run e = some (.ok a, e')) :
    changes e'.outbox = changes e.outbox ++ [.connecting] ∧ e'.state = .connecting := by
  rw [startConnect, Prog.run_bind_of_ok (run_transitionState _ _)] at hrun
  have hrest := fun keeps => Prog.Keeps.of_run (R := Stays) keeps hrun
  obtain ⟨hchanges, hstays⟩ := hrest <| by
    refine still_bind (still_enqueue _ _ _) fun _ => still_bind (Prog.Keeps.get Stays.refl)
      fun _ => still_bind (still_emitControlPacket _) fun _ => ?_
    intro e r e' hrun
    rw [Prog.run_get_bind] at hrun
    split at hrun
    · cases hrun
    · obtain ⟨-, rfl⟩ : _ ∧ e = e' := by simpa using hrun
      exact Stays.refl e
    · obtain ⟨-, rfl⟩ : _ ∧ _ = e' := by simpa using hrun
      exact ⟨rfl, rfl⟩
  rw [hchanges, hstays, become, if_pos hstate]
  exact ⟨changes_append _ _, rfl⟩

end VpnHub.Protocol.ProtocolEngine

import VpnHub.Model.Loopback
import VpnHub.Verification.Engine.Moves
import VpnHub.Verification.Frame

/-! # Announced and effective parameters

The engine announces the parameters of a `PUSH_REPLY` with a network configuration; this is
about when it works with what it announces. -/

namespace VpnHub.Protocol

open Config Crypto

/-- The cipher suite that a profile asks for. -/
def suiteOf (config : OpenVpnConfig) : CipherSuite :=
  (config.dataCiphers.head?.bind CipherSuite.fromName).getD .aes256Gcm

/-- The announcements on record, each with the options it was built from. -/
def replies (trace : List TraceEvent) : List (PushOptions × NetworkProvisioningConfig) :=
  trace.filterMap fun
    | .configured options config => some (options, config)
    | _ => none

namespace ProtocolEngine

variable {Conn : Type} {env : Env Conn} {e e' : ProtocolEngine Conn} {config : OpenVpnConfig}

/-! ## What is announced and what is done -/

/-- The peer id in the header of a data packet that the engine sends. -/
def headerPeerId (e : ProtocolEngine Conn) (keyId : UInt8) (packetId : UInt32) : Option UInt32 :=
  match DataPacket.decode (DataPacket.encodeHeader (if e.peerId.isSome then .dataV2 else .dataV1)
      keyId e.peerId packetId) with
  | .ok (_, _, peerId, _, _) => peerId
  | .error _ => none

/-- The engine works with the parameters of an announcement: those that it clamps segments,
addresses packets and measures silence with, and the cipher of its active keys. -/
structure InEffect (e : ProtocolEngine Conn) (opts : PushOptions)
    (announced : NetworkProvisioningConfig) : Prop where
  mssFix : e.mssFix = announced.mssFix
  peerId : ∀ keyId packetId, e.headerPeerId keyId packetId = announced.peerId
  pingInterval : ∀ interval, announced.pingInterval = some interval →
    e.config.pingInterval.getD 10000000000 = interval
  pingRestart : ∀ restart, announced.pingRestart = some restart →
    e.config.pingRestart.getD 120000000000 = restart
  cipher : ∀ name suite, opts.cipher = some name → CipherSuite.fromName name = some suite →
    ∀ slot, e.keyManager.getTxSlot = some slot →
      slot.txCipher.suite = suite ∧ slot.rxCipher.suite = suite

/-- The options push nothing that the engine ignores or cuts: no other segment size and no
other cipher than those of the profile, and a peer id that fits into a header, or none in
this reply and the earlier ones. -/
structure Honoured (config : OpenVpnConfig) (earlier : List PushOptions) (keyed : Bool)
    (opts : PushOptions) : Prop where
  mssFix : ∀ size, opts.mssFix = some size → config.mssFix = some size
  peerId : ∀ id, opts.peerId = some id → id.toNat < 2 ^ 24
  noPeerId : opts.peerId = none → ∀ old ∈ earlier, old.peerId = none
  cipher : keyed = true → ∀ name suite, opts.cipher = some name →
    CipherSuite.fromName name = some suite → suite = suiteOf config

/-! ## What the engine keeps of its profile -/

/-- The peer id that the options in turn have set. -/
def peerIdAfter (options : List PushOptions) : Option UInt32 :=
  options.foldl (fun id opts => opts.peerId.or id) none

/-- Segment size and cipher are those of the profile; the rest is what was announced last. -/
structure Settled (config : OpenVpnConfig) (e : ProtocolEngine Conn) : Prop where
  mssFix : e.mssFix = config.mssFix
  profile : e.config.mssFix = config.mssFix
  suite : e.keyManager.cipherSuite = suiteOf config
  slot : ∀ slot, e.keyManager.primary = some slot →
    slot.txCipher.suite = suiteOf config ∧ slot.rxCipher.suite = suiteOf config
  peerId : e.peerId = peerIdAfter ((replies e.trace).map (·.1))
  last : ∀ opts announced, (replies e.trace).getLast? = some (opts, announced) →
    announced.mssFix = opts.mssFix.or config.mssFix ∧ announced.peerId = opts.peerId ∧
      announced.pingInterval = e.config.pingInterval ∧ announced.pingRestart = e.config.pingRestart

theorem Settled.initial (env : Env Conn) (config : OpenVpnConfig) (now : Instant)
    (sessionId : UInt64) : Settled config (initial env config now sessionId) := by
  refine ⟨rfl, rfl, rfl, ?_, rfl, ?_⟩
  · intro slot hslot
    cases hslot
  · intro opts announced hlast
    cases hlast

/-- The parameters of two engines are the same. -/
structure SameParameters (e e' : ProtocolEngine Conn) : Prop where
  mssFix : e'.mssFix = e.mssFix
  config : e'.config = e.config
  keys : e'.keyManager = e.keyManager
  peerId : e'.peerId = e.peerId
  replies : replies e'.trace = replies e.trace

theorem Settled.of_same (h : Settled config e) (hsame : SameParameters e e') : Settled config e' := by
  refine ⟨?_, ?_, ?_, ?_, ?_, ?_⟩
  · rw [hsame.mssFix, h.mssFix]
  · rw [hsame.config, h.profile]
  · rw [hsame.keys, h.suite]
  · rw [hsame.keys]
    exact h.slot
  · rw [hsame.peerId, hsame.replies, h.peerId]
  · rw [hsame.replies, hsame.config]
    exact h.last

/-- Other keys of the same ciphers. -/
theorem Settled.of_keys (h : Settled config e) {keys : KeySlotManager}
    (hsuite : keys.cipherSuite = suiteOf config)
    (hslot : ∀ slot, keys.primary = some slot →
      slot.txCipher.suite = suiteOf config ∧ slot.rxCipher.suite = suiteOf config) :
    Settled config { e with keyManager := keys } :=
  ⟨h.mssFix, h.profile, hsuite, hslot, h.peerId, h.last⟩

theorem sameParameters_become (e : ProtocolEngine Conn) (state : EngineState) :
    SameParameters e (e.become state) := by
  unfold become
  split <;> exact ⟨rfl, rfl, rfl, rfl, rfl⟩

theorem replies_append (trace : List TraceEvent) (event : TraceEvent) :
    replies (trace ++ [event]) = replies trace ++ replies [event] := by
  simp [replies]

theorem sameParameters_emit (e : ProtocolEngine Conn) (cp : ControlPacket) :
    SameParameters e (e.emit env cp) := by
  refine ⟨rfl, rfl, rfl, rfl, ?_⟩
  change replies (e.trace ++ [_]) = _
  rw [replies_append]
  exact List.append_nil _

theorem sameParameters_acknowledged (e : ProtocolEngine Conn) (cp : ControlPacket) :
    SameParameters e (e.acknowledged cp) := by
  unfold acknowledged learnRemoteSession
  cases e.remoteSessionId <;> exact ⟨rfl, rfl, rfl, rfl, rfl⟩

/-! ## Keys -/

theorem suite_of_createCipher {suite : CipherSuite} {key : Bytes} {cipher : SymmCipher}
    (h : suite.createCipher key = .ok cipher) : cipher.suite = suite := by
  unfold CipherSuite.createCipher at h
  split at h
  · obtain rfl := Except.ok.inj h
    rfl
  · cases h

theorem suite_of_new {keys : SessionKeySet} {suite : CipherSuite} {now : Instant} {serial : ℕ}
    {slot : KeySlot} (h : KeySlot.new keys suite now serial = .ok slot) :
    slot.txCipher.suite = suite ∧ slot.rxCipher.suite = suite := by
  unfold KeySlot.new at h
  split at h
  · cases h
  · rename_i txCipher htx
    split at h
    · cases h
    · rename_i rxCipher hrx
      obtain rfl := Except.ok.inj h
      exact ⟨suite_of_createCipher htx, suite_of_createCipher hrx⟩

theorem Settled.install (h : Settled config e) (material : FixedBytes 256) (now : Instant) :
    Settled config { e with
      keyManager := (e.keyManager.installNewKey (sessionKeysOf e.cipherSuite material) now).2 } := by
  cases hnew : KeySlot.new (sessionKeysOf e.cipherSuite material) e.keyManager.cipherSuite now
      e.keyManager.installed with
  | error err =>
      simp only [KeySlotManager.installNewKey, hnew]
      exact h
  | ok slot =>
      simp only [KeySlotManager.installNewKey, hnew]
      refine h.of_keys h.suite ?_
      intro slot' hslot'
      obtain rfl := Option.some.inj hslot'
      rw [← h.suite]
      exact suite_of_new hnew

theorem Settled.data (h : Settled config e) (hframe : DataFrame e e') : Settled config e' := by
  have hslot : ∀ slot, e'.keyManager.primary = some slot →
      slot.txCipher.suite = suiteOf config ∧ slot.rxCipher.suite = suiteOf config := by
    intro slot hslot
    have hsender := hframe.sender
    rw [hslot, Option.map_some] at hsender
    obtain ⟨old, hold, heq⟩ := Option.map_eq_some_iff.mp hsender.symm
    have hciphers := h.slot old hold
    rw [KeySlot.eq_of_sender heq.symm]
    exact hciphers
  rw [hframe.rest]
  have hkeys := h.of_keys (hframe.suite.trans h.suite) hslot
  exact hkeys.of_same ⟨rfl, rfl, rfl, rfl, rfl⟩

theorem Settled.sends (h : Settled config e) (hsends : Sends env e e') : Settled config e' := by
  have hslot (slot slot' : KeySlot) (hs : e.keyManager.primary = some slot)
      (htx : slot'.txCipher = slot.txCipher) (hrx : slot'.rxCipher = slot.rxCipher) :
      Settled config (e.withSlot .primary slot') := by
    refine h.of_keys h.suite ?_
    intro slot'' hslot''
    obtain rfl := Option.some.inj hslot''
    rw [htx, hrx]
    exact h.slot slot hs
  cases hsends with
  | @failed slot plaintext err hs hseal => exact hslot slot _ hs rfl rfl
  | @sealed slot plaintext ciphertext tag hs hseal =>
      exact (hslot slot { slot.nextTxPacketId.2 with
        bytesSent := slot.bytesSent + UInt64.ofNat ciphertext.length } hs rfl rfl).of_same
          ⟨rfl, rfl, rfl, rfl, rfl⟩

/-! ## Announcements -/

theorem replies_provision (e : ProtocolEngine Conn) (acc : Text) :
    replies (e.provision acc).trace = replies e.trace ++ [(pushedOptions acc,
      (pushedOptions acc).buildProvisioningConfig (e.applyPushed (pushedOptions acc)).config)] := by
  rw [(provisioned_provision e acc).trace, replies_append]
  rfl

theorem Settled.provision (h : Settled config e) (acc : Text) : Settled config (e.provision acc) := by
  obtain ⟨hpeer, hconfig, -⟩ := settings_provision e acc
  have hmss := (provisioned_provision e acc).mssFix
  have hkeys := (provisioned_provision e acc).keyManager
  generalize hopts : pushedOptions acc = opts at hpeer hconfig
  have hreplies := replies_provision e acc
  rw [hopts] at hreplies
  refine ⟨by rw [hmss, h.mssFix], ?_, by rw [hkeys, h.suite], by rw [hkeys]; exact h.slot, ?_, ?_⟩
  · rw [hconfig]
    exact h.profile
  · rw [hpeer, hreplies, List.map_append, peerIdAfter, List.foldl_append]
    exact congrArg opts.peerId.or h.peerId
  · intro opts' announced hlast
    rw [hreplies, List.getLast?_append_of_ne_nil _ (by simp), List.getLast?_singleton,
      Option.some.injEq, Prod.mk.injEq] at hlast
    obtain ⟨rfl, rfl⟩ := hlast
    rw [hconfig]
    refine ⟨?_, rfl, ?_, ?_⟩
    · change opts.mssFix.or e.config.mssFix = _
      rw [h.profile]
    · change opts.pingInterval.or (opts.pingInterval.or e.config.pingInterval) =
        opts.pingInterval.or e.config.pingInterval
      cases opts.pingInterval <;> rfl
    · change opts.pingRestart.or (opts.pingRestart.or e.config.pingRestart) =
        opts.pingRestart.or e.config.pingRestart
      cases opts.pingRestart <;> rfl

/-! ## Runs -/

theorem Settled.flushMove (h : Settled config e) (hmove : FlushMove env e e') :
    Settled config e' := by
  cases hmove with
  | become state => exact h.of_same (sameParameters_become e state)
  | queue action hne => exact h.of_same ⟨rfl, rfl, rfl, rfl, rfl⟩
  | tls tls => exact h.of_same ⟨rfl, rfl, rfl, rfl, rfl⟩
  | random => exact h.of_same ⟨rfl, rfl, rfl, rfl, rfl⟩
  | ready => exact h.of_same ⟨rfl, rfl, rfl, rfl, rfl⟩
  | enqueue opcode payload now pid sendQueue hop henqueue =>
      refine h.of_same ⟨rfl, rfl, rfl, rfl, ?_⟩
      rw [replies_append]
      exact List.append_nil _
  | send cp hcp =>
      have hdrained : Settled config e.drained := h.of_same ⟨rfl, rfl, rfl, rfl, rfl⟩
      exact hdrained.of_same (sameParameters_emit _ _)
  | accumulate acc => exact h.of_same ⟨rfl, rfl, rfl, rfl, rfl⟩
  | provision acc => exact h.provision acc
  | install material now => exact h.install material now

theorem Settled.move (h : Settled config e) (hmove : Move env e e') : Settled config e' := by
  cases hmove with
  | flush hmove => exact h.flushMove hmove
  | reset cp hacks hcp => exact h.of_same (sameParameters_emit e cp)
  | heard now => exact h.of_same ⟨rfl, rfl, rfl, rfl, rfl⟩
  | pinged now => exact h.of_same ⟨rfl, rfl, rfl, rfl, rfl⟩
  | acknowledged cp => exact h.of_same (sameParameters_acknowledged e cp)
  | receive packetId payload => exact h.of_same ⟨rfl, rfl, rfl, rfl, rfl⟩
  | retransmit now => exact h.of_same ⟨rfl, rfl, rfl, rfl, rfl⟩
  | data hframe => exact h.data hframe
  | sends hsends => exact h.sends hsends
  | poll =>
      unfold pollOutputAction
      split
      · exact h
      · exact h.of_same ⟨rfl, rfl, rfl, rfl, rfl⟩

theorem settled_of_reachable (h : Reachable env config e) : Settled config e :=
  h.of_moves (Settled.initial env config) fun _ _ hmove he => he.move hmove

/-! ## When an announcement is in effect -/

theorem headerPeerId_eq (e : ProtocolEngine Conn) (keyId : UInt8) (packetId : UInt32) :
    e.headerPeerId keyId packetId = e.peerId.map cutPeerId := by
  have hdecode := DataPacket.decode_encodeHeader_append e.peerId keyId packetId []
  simp only [List.append_nil] at hdecode
  rw [headerPeerId, hdecode]

theorem peerIdAfter_eq_none {options : List PushOptions} :
    peerIdAfter options = none ↔ ∀ opts ∈ options, opts.peerId = none := by
  induction options using List.reverseRecOn with
  | nil => simp [peerIdAfter]
  | append_singleton options opts ih =>
      rw [peerIdAfter, List.foldl_append]
      change opts.peerId.or (peerIdAfter options) = none ↔ _
      rw [Option.or_eq_none_iff, ih]
      simp only [List.mem_append, List.mem_singleton]
      constructor
      · rintro ⟨hopts, hold⟩ o (ho | rfl)
        · exact hold o ho
        · exact hopts
      · intro hall
        exact ⟨hall opts (.inr rfl), fun o ho => hall o (.inl ho)⟩

/-- In every reachable state the engine works with what it has announced last iff the options
of that reply push nothing that it ignores or cuts. -/
theorem announced_in_effect_iff (h : Reachable env config e)
    {earlier : List (PushOptions × NetworkProvisioningConfig)} {opts : PushOptions}
    {announced : NetworkProvisioningConfig}
    (hlast : replies e.trace = earlier ++ [(opts, announced)]) :
    InEffect e opts announced ↔
      Honoured config (earlier.map (·.1)) e.keyManager.hasActiveKeys opts := by
  have hs := settled_of_reachable h
  obtain ⟨hmss, hpeer, hping, hrestart⟩ := hs.last opts announced (by rw [hlast]; simp)
  have hheader : ∀ keyId packetId, e.headerPeerId keyId packetId =
      (opts.peerId.or (peerIdAfter (earlier.map (·.1)))).map cutPeerId := by
    intro keyId packetId
    rw [headerPeerId_eq, hs.peerId, hlast, List.map_append, peerIdAfter, List.foldl_append]
    rfl
  constructor
  · intro heffect
    refine ⟨?_, ?_, ?_, ?_⟩
    · intro size hsize
      have hsame := heffect.mssFix
      rw [hs.mssFix, hmss, hsize] at hsame
      exact hsame
    · intro id hid
      have hsame := heffect.peerId 0 0
      rw [hheader, hpeer, hid] at hsame
      exact cutPeerId_eq_self.mp (Option.some.inj hsame)
    · intro hnone
      have hsame := heffect.peerId 0 0
      rw [hheader, hpeer, hnone, Option.none_or, Option.map_eq_none_iff] at hsame
      exact peerIdAfter_eq_none.mp hsame
    · intro hkeyed name suite hname hsuite
      obtain ⟨slot, hslot⟩ := Option.isSome_iff_exists.mp hkeyed
      rw [← (heffect.cipher name suite hname hsuite slot hslot).1]
      exact (hs.slot slot hslot).1
  · intro hhonoured
    refine ⟨?_, ?_, ?_, ?_, ?_⟩
    · rw [hs.mssFix, hmss]
      cases hsize : opts.mssFix with
      | none => rfl
      | some size => exact hhonoured.mssFix size hsize
    · intro keyId packetId
      rw [hheader, hpeer]
      cases hid : opts.peerId with
      | none => rw [peerIdAfter_eq_none.mpr (hhonoured.noPeerId hid)]; rfl
      | some id => exact congrArg some (cutPeerId_eq_self.mpr (hhonoured.peerId id hid))
    · intro interval hinterval
      rw [← hping, hinterval]
      rfl
    · intro restart hrestart'
      rw [← hrestart, hrestart']
      rfl
    · intro name suite hname hsuite slot hslot
      have hkeyed : e.keyManager.hasActiveKeys = true := by
        rw [KeySlotManager.hasActiveKeys, show e.keyManager.primary = some slot from hslot]
        rfl
      rw [hhonoured.cipher hkeyed name suite hname hsuite]
      exact hs.slot slot hslot

/-- The engine announces the reply of a server that pushes a peer id only. -/
theorem announced_in_effect_peer_id :
    ∃ (e : ProtocolEngine Loopback.Conn) (opts : PushOptions)
      (announced : NetworkProvisioningConfig), Reachable Loopback.env {} e ∧
      replies e.trace = [(opts, announced)] ∧ announced.peerId = some 3 ∧
      InEffect e opts announced := by
  have hrun : (Transition.runList (step Loopback.env) (fun _ _ => True) (Loopback.newEngine {})
      Loopback.connectOps).any (fun e => decide ((replies e.trace).map
        (fun r => (r.1.mssFix, r.1.peerId, r.1.cipher, r.2.peerId)) =
          [(none, some 3, none, some 3)])) = true := by decide +kernel
  obtain ⟨e, hreach, hcheck⟩ := Loopback.exists_connected {} hrun
  have hreplies := of_decide_eq_true hcheck
  obtain ⟨⟨opts, announced⟩, hlast, hfields⟩ := List.map_eq_singleton_iff.mp hreplies
  obtain ⟨hmss, hpeer, hcipher, hannounced⟩ : opts.mssFix = none ∧ opts.peerId = some 3 ∧
      opts.cipher = none ∧ announced.peerId = some 3 := by simpa using hfields
  refine ⟨e, opts, announced, hreach, hlast, hannounced, ?_⟩
  have hlast' : replies e.trace = [] ++ [(opts, announced)] := hlast
  refine (announced_in_effect_iff hreach hlast').mpr ⟨?_, ?_, ?_, ?_⟩
  · simp [hmss]
  · intro id hid
    obtain rfl := Option.some.inj (hpeer.symm.trans hid)
    decide
  · simp
  · simp [hcipher]

/-- The operations of a connection whose server pushes a segment size. -/
def mssFixOps : List Op :=
  .startConnect 0 :: ([Loopback.fromServer .controlHardResetServerV2 0 [],
    Loopback.fromServer .controlV1 1 [0x16],
    Loopback.fromServer .controlV1 2 (Text.utf8Encode "PUSH_REPLY,mssfix 1200".toList)].map
      (.processNetworkPacket 0))

/-- A pushed segment size is announced, and segments are not clamped. -/
theorem pushed_mssfix_ignored :
    ¬ ∀ (Conn : Type) (env : Env Conn) (config : OpenVpnConfig) (e : ProtocolEngine Conn)
      (earlier : List (PushOptions × NetworkProvisioningConfig)) (opts : PushOptions)
      (announced : NetworkProvisioningConfig), Reachable env config e →
      replies e.trace = earlier ++ [(opts, announced)] → InEffect e opts announced := by
  intro hclaim
  have hrun : (Transition.runList (step Loopback.env) (fun _ _ => True) (Loopback.newEngine {})
      mssFixOps).any (fun e => decide (e.mssFix = none ∧
        (replies e.trace).map (fun r => r.2.mssFix) = [some 1200])) = true := by decide +kernel
  obtain ⟨e, run, hcheck⟩ := Transition.exists_run_of_any hrun
  obtain ⟨hmss, hreplies⟩ := of_decide_eq_true hcheck
  obtain ⟨⟨opts, announced⟩, hlast, hannounced⟩ := List.map_eq_singleton_iff.mp hreplies
  have heffect := hclaim _ _ {} e [] opts announced ⟨mssFixOps, 0, 42, run⟩ hlast
  have hsame := heffect.mssFix
  rw [hmss, show announced.mssFix = some 1200 from hannounced] at hsame
  cases hsame

end ProtocolEngine

end VpnHub.Protocol

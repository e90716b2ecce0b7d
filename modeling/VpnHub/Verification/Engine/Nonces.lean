import VpnHub.Model.Loopback
import VpnHub.Verification.Engine.Steps
import VpnHub.Verification.Frame

/-! Nonces of the data channel under one installed key slot. -/

namespace VpnHub.Protocol

open Config Crypto

namespace ProtocolEngine

variable {Conn : Type} {env : Env Conn} {e e' : ProtocolEngine Conn}

theorem nonceOf_injective (iv : FixedBytes 8) : Function.Injective (nonceOf · iv) := by
  intro x y h
  exact putU32_injective (List.append_cancel_right h)

/-- No two encryptions under one installed slot have the same nonce. -/
def NoncesUnique (e : ProtocolEngine Conn) : Prop :=
  e.seals.Pairwise fun a b => a.serial = b.serial → a.nonce ≠ b.nonce

/-- The `k`-th packet id of a slot, counted from 0; ids start at 1 and wrap. -/
def txId (k : ℕ) : UInt32 := 1 + UInt32.ofNat k

theorem txId_succ (k : ℕ) : txId (k + 1) = txId k + 1 := by
  simp [txId, UInt32.ofNat_add, add_assoc]

theorem txId_ne {j k : ℕ} (hjk : j < k) (hk : k < 2 ^ 32) : txId j ≠ txId k := by
  intro h
  have hnat : UInt32.ofNat j = UInt32.ofNat k := by
    simpa [txId] using h
  have := congrArg UInt32.toNat hnat
  rw [UInt32.toNat_ofNat', UInt32.toNat_ofNat', Nat.mod_eq_of_lt (by omega),
    Nat.mod_eq_of_lt (by omega)] at this
  omega

/-- A slot's counter is where its allocations have brought it, and the nonces used under it
are among those of the ids it has handed out. -/
structure SlotInv (seals : List Seal) (slot : KeySlot) : Prop where
  counter : slot.txPacketId = txId slot.allocated
  used : ∀ s ∈ seals, s.serial = slot.serial →
    ∃ k < slot.allocated, s.nonce = nonceOf (txId k) slot.txImplicitIv

/-- The invariant of runs that stay within the counter's range. The primary slot is the last
one installed, so a new slot meets no nonces used under its number. -/
structure NonceInv (e : ProtocolEngine Conn) : Prop where
  latest : ∀ slot, e.keyManager.primary = some slot → slot.serial + 1 = e.keyManager.installed
  slot : ∀ slot, e.keyManager.primary = some slot → SlotInv e.seals slot
  older : ∀ s ∈ e.seals, s.serial < e.keyManager.installed
  unique : NoncesUnique e

theorem nonceInv_initial (env : Env Conn) (config : OpenVpnConfig) (now : Instant)
    (sessionId : UInt64) : NonceInv (initial env config now sessionId) where
  latest := by simp [initial, KeySlotManager.new]
  slot := by simp [initial, KeySlotManager.new]
  older := by simp [initial]
  unique := List.Pairwise.nil

/-! ## One step -/

/-- The invariant sees of the key slots only the sending half of the primary one. -/
theorem NonceInv.congr (h : NonceInv e) (hseals : e'.seals = e.seals)
    (hsender : e'.keyManager.primary.map KeySlot.sender = e.keyManager.primary.map KeySlot.sender)
    (hinstalled : e'.keyManager.installed = e.keyManager.installed) : NonceInv e' := by
  have hslot (slot : KeySlot) (hs : e'.keyManager.primary = some slot) :
      ∃ slot₀, e.keyManager.primary = some slot₀ ∧ slot = { slot₀ with
        antiReplay := slot.antiReplay, bytesReceived := slot.bytesReceived } := by
    rw [hs] at hsender
    obtain ⟨slot₀, hs₀, heq⟩ := Option.map_eq_some_iff.mp hsender.symm
    exact ⟨slot₀, hs₀, KeySlot.eq_of_sender heq.symm⟩
  refine ⟨?_, ?_, ?_, ?_⟩
  · intro slot hs
    obtain ⟨slot₀, hs₀, heq⟩ := hslot slot hs
    rw [hinstalled, heq]
    exact h.latest slot₀ hs₀
  · intro slot hs
    obtain ⟨slot₀, hs₀, heq⟩ := hslot slot hs
    obtain ⟨hcounter, hused⟩ := h.slot slot₀ hs₀
    rw [hseals, heq]
    exact ⟨hcounter, hused⟩
  · rw [hseals, hinstalled]
    exact h.older
  · rw [NoncesUnique, hseals]
    exact h.unique

theorem NonceInv.installs (h : NonceInv e) {m : KeySlotManager}
    (hm : e.keyManager.Installs m) : NonceInv { e with keyManager := m } := by
  refine hm.invariant (P := fun m => NonceInv { e with keyManager := m }) h ?_
  intro m slot _ hserial hid hcount ih
  refine ⟨?_, ?_, ?_, ih.unique⟩
  · intro slot' hs
    obtain rfl : slot = slot' := by simpa using hs
    rw [hserial]
  · intro slot' hs
    obtain rfl : slot = slot' := by simpa using hs
    refine ⟨by rw [hid, hcount]; rfl, ?_⟩
    intro s hmem heq
    have hlt : s.serial < m.installed := ih.older s hmem
    omega
  · intro s hmem
    exact Nat.lt_succ_of_lt (ih.older s hmem)

theorem NonceInv.control (h : NonceInv e) (hframe : ControlFrame env e e') : NonceInv e' :=
  (h.installs hframe.keys).congr hframe.seals rfl rfl

/-- An operation that takes a packet id finds that the slot has handed out fewer than 2^32. -/
def HasFreshId (e : ProtocolEngine Conn) (op : Op) : Prop :=
  Allocates e op → (e.keyManager.primary.all fun slot => slot.allocated < 2 ^ 32) = true

/-- Handing out an id keeps the invariant of the slot, also with the nonce of this id used. -/
theorem SlotInv.next {seals : List Seal} {slot : KeySlot} (h : SlotInv seals slot)
    (bytesSent : UInt64) :
    SlotInv (seals ++ [⟨slot.serial, nonceOf slot.txPacketId slot.txImplicitIv⟩])
      { slot.nextTxPacketId.2 with bytesSent } := by
  constructor
  · change slot.txPacketId + 1 = txId (slot.allocated + 1)
    rw [h.counter, txId_succ]
  · intro s hmem hserial
    rcases List.mem_append.mp hmem with hmem | hmem
    · obtain ⟨k, hk, hnonce⟩ := h.used s hmem hserial
      exact ⟨k, Nat.lt_succ_of_lt hk, hnonce⟩
    · obtain rfl := List.mem_singleton.mp hmem
      refine ⟨slot.allocated, Nat.lt_succ_self _, ?_⟩
      rw [h.counter]
      rfl

theorem NonceInv.sends (h : NonceInv e) (hsends : Sends env e e')
    (hfresh : ∀ slot, e.keyManager.primary = some slot → slot.allocated < 2 ^ 32) :
    NonceInv e' := by
  cases hsends with
  | @failed slot plaintext err hs hseal =>
      have hnext := (h.slot slot hs).next slot.bytesSent
      refine ⟨?_, ?_, h.older, h.unique⟩
      · intro slot' hs'
        obtain rfl : _ = slot' := by simpa [withSlot, KeySlotManager.setSlot] using hs'
        exact h.latest slot hs
      · intro slot' hs'
        obtain rfl : _ = slot' := by simpa [withSlot, KeySlotManager.setSlot] using hs'
        exact ⟨hnext.counter, fun s hmem => hnext.used s (List.mem_append_left _ hmem)⟩
  | @sealed slot plaintext ciphertext tag hs hseal =>
      obtain ⟨hcounter, hused⟩ := h.slot slot hs
      have hlatest := h.latest slot hs
      refine ⟨?_, ?_, ?_, ?_⟩
      · intro slot' hs'
        obtain rfl : _ = slot' := by simpa [sent, withSlot, KeySlotManager.setSlot] using hs'
        exact hlatest
      · intro slot' hs'
        obtain rfl : _ = slot' := by simpa [sent, withSlot, KeySlotManager.setSlot] using hs'
        exact (h.slot slot hs).next _
      · intro s hmem
        rcases List.mem_append.mp hmem with hmem | hmem
        · exact h.older s hmem
        · obtain rfl := List.mem_singleton.mp hmem
          change slot.serial < e.keyManager.installed
          omega
      · refine List.pairwise_append.mpr ⟨h.unique, List.pairwise_singleton _ _, ?_⟩
        intro s hmem s' hmem' hserial
        obtain rfl := List.mem_singleton.mp hmem'
        obtain ⟨k, hk, hnonce⟩ := hused s hmem hserial
        rw [hnonce, hcounter]
        intro heq
        exact txId_ne hk (hfresh slot hs) (nonceOf_injective _ heq)

theorem NonceInv.step {op : Op} (h : NonceInv e) (hstep : step env e op = some e')
    (hfresh : HasFreshId e op) : NonceInv e' := by
  cases step_cases hstep with
  | control hframe => exact h.control hframe
  | connect hframe hnew => exact (h.control hframe).congr rfl rfl rfl
  | receive hframe => exact h.congr (by rw [hframe.rest]) hframe.sender hframe.installed
  | send hop hframe hkeys hsends hframe' =>
      refine ((h.control hframe).sends hsends ?_).control hframe'
      intro slot hs
      rw [hkeys] at hs
      simpa [hs] using hfresh hop
  | poll =>
      refine h.congr ?_ ?_ ?_ <;> unfold pollOutputAction <;> split <;> rfl

theorem nonceInv_of_run {config : OpenVpnConfig} {now : Instant} {sessionId : UInt64}
    {ops : List Op}
    (run : Transition.Run (ProtocolEngine.step env) HasFreshId (initial env config now sessionId)
      ops e) : NonceInv e := by
  refine run.invariant ?_ (nonceInv_initial env config now sessionId)
  intro e op e' hfresh hstep hinv
  exact hinv.step hstep hfresh

/-- After 2^32 packet ids the counter is back at the first one. -/
theorem not_noncesUnique_of_wrapped {op : Op} {slot : KeySlot} (h : NonceInv e)
    (hstep : ProtocolEngine.step env e op = some e') (hs : e.keyManager.primary = some slot)
    (hfull : slot.allocated = 2 ^ 32)
    (hfirst : ⟨slot.serial, nonceOf 1 slot.txImplicitIv⟩ ∈ e.seals)
    (hsealed : e'.seals ≠ e.seals) : ¬ NoncesUnique e' := by
  cases step_cases hstep with
  | control hframe => exact absurd hframe.seals hsealed
  | connect hframe hnew => exact absurd hframe.seals hsealed
  | receive hframe => exact absurd (by rw [hframe.rest]) hsealed
  | poll =>
      refine absurd ?_ hsealed
      unfold pollOutputAction
      split <;> rfl
  | @send _ e₁ e₂ _ hop hframe hkeys hsends hframe' =>
      rw [hframe'.seals, ← hframe.seals] at hsealed
      rw [← hkeys] at hs
      rw [← hframe.seals] at hfirst
      have hcounter := ((h.control hframe).slot slot hs).counter
      cases hsends with
      | failed hs' hseal => exact absurd rfl hsealed
      | sealed hs' hseal =>
          obtain rfl := Option.some.inj (hs.symm.trans hs')
          intro hunique
          rw [NoncesUnique, hframe'.seals] at hunique
          refine (List.pairwise_append.mp hunique).2.2 _ hfirst _ (List.mem_singleton_self _) rfl ?_
          rw [hcounter, hfull]
          rfl

/-- As long as every slot has handed out fewer than 2^32 packet ids before it is asked for
another, no nonce is used twice under one slot, in any run. The next id after those repeats
the first. -/
theorem nonces_unique_while_fresh {config : OpenVpnConfig} {now : Instant} {sessionId : UInt64}
    {ops : List Op}
    (run : Transition.Run (ProtocolEngine.step env) HasFreshId (initial env config now sessionId)
      ops e) :
    NoncesUnique e ∧
      ∀ op e' slot, ProtocolEngine.step env e op = some e' → e.keyManager.primary = some slot →
        slot.allocated = 2 ^ 32 → ⟨slot.serial, nonceOf 1 slot.txImplicitIv⟩ ∈ e.seals →
          e'.seals ≠ e.seals → ¬ NoncesUnique e' := by
  have hinv := nonceInv_of_run run
  refine ⟨hinv.unique, ?_⟩
  intro op e' slot hstep hs hfull hfirst hsealed
  exact not_noncesUnique_of_wrapped hinv hstep hs hfull hfirst hsealed

/-! ## Running past the counter -/

instance (e : ProtocolEngine Conn) : Decidable (IsUp e) :=
  inferInstanceAs (Decidable (e.state = .connected ∨ e.state = .rekeying))

instance (e : ProtocolEngine Conn) (now : Instant) : Decidable (PingDue e now) :=
  inferInstanceAs (Decidable (_ ∧ _))

instance (e : ProtocolEngine Conn) (op : Op) : Decidable (Allocates e op) :=
  match op with
  | .processTunPacket _ _ => inferInstanceAs (Decidable (IsUp e))
  | .sendKeepalivePing _ => inferInstanceAs (Decidable (IsUp e))
  | .handleTimeout now => inferInstanceAs (Decidable (PingDue e now))
  | .startConnect _ | .processNetworkPacket _ _ | .submitChallengeResponse _ _ _
  | .pollOutputAction => inferInstanceAs (Decidable False)

instance (e : ProtocolEngine Conn) (op : Op) : Decidable (HasFreshId e op) :=
  inferInstanceAs (Decidable (_ → _))

theorem nonces_unique_while_fresh_ping :
    ∃ e, Transition.Run (ProtocolEngine.step Loopback.env) HasFreshId (Loopback.newEngine {})
        (Loopback.connectOps ++ [.sendKeepalivePing 0, .processTunPacket 0 Loopback.ipPacket]) e ∧
      e.seals.length = 2 ∧ NoncesUnique e := by
  have hsent : (Transition.runList (ProtocolEngine.step Loopback.env) HasFreshId
      (Loopback.newEngine {})
      (Loopback.connectOps ++ [.sendKeepalivePing 0, .processTunPacket 0 Loopback.ipPacket])).any
        (fun e => e.seals.length = 2) = true := by decide +kernel
  obtain ⟨e, run, hcheck⟩ := Transition.exists_run_of_any hsent
  exact ⟨e, run, by simpa using hcheck, (nonces_unique_while_fresh run).1⟩

/-- A ping on the loopback goes out. -/
theorem step_loopback_ping {e : ProtocolEngine Loopback.Conn} {slot : KeySlot}
    (hup : e.state = .connected) (hs : e.keyManager.primary = some slot) :
    ∃ ciphertext tag, ProtocolEngine.step Loopback.env e (.sendKeepalivePing 0) =
      some { e.sent slot ciphertext tag with lastPingSent := 0 } := by
  have hlen : (nonceOf slot.txPacketId slot.txImplicitIv).length = 12 := by
    simp [nonceOf, slot.txImplicitIv.property]
  have hseal : ∃ out, sealPayload Loopback.env e slot keepaliveMagic = .ok out := by
    simp [sealPayload, SymmCipher.encryptInPlace, hlen, Loopback.env, Loopback.aead]
  obtain ⟨⟨ciphertext, tag⟩, hseal⟩ := hseal
  refine ⟨ciphertext, tag, step_eq_some.mpr ⟨.ok (), ?_⟩⟩
  change (sendKeepalivePing Loopback.env 0).run e = _
  simp only [sendKeepalivePing, Prog.run_get_bind, hup, KeySlotManager.getTxSlot, hs, ne_eq,
    not_true_eq_false, false_and, if_false]
  rw [Prog.run_bind_of_ok (run_sealAndSend_of_ok hseal)]
  rfl

/-- Any number of pings up to the range of the counter, the first of which is on record. -/
theorem exists_pings (n : ℕ) (hn : n ≤ 2 ^ 32) :
    ∃ ops e slot, Transition.Run (ProtocolEngine.step Loopback.env) HasFreshId
        (Loopback.newEngine {}) ops e ∧
      e.state = .connected ∧ e.keyManager.primary = some slot ∧ slot.allocated = n ∧
      (0 < n → ⟨slot.serial, nonceOf 1 slot.txImplicitIv⟩ ∈ e.seals) := by
  induction n with
  | zero =>
      have hconnected : (Transition.runList (ProtocolEngine.step Loopback.env) HasFreshId
          (Loopback.newEngine {}) Loopback.connectOps).any (fun e =>
            e.state = .connected && e.keyManager.primary.any (·.allocated = 0)) = true := by
        decide +kernel
      obtain ⟨e, run, hcheck⟩ := Transition.exists_run_of_any hconnected
      simp only [Bool.and_eq_true, decide_eq_true_eq, Option.any_eq_true] at hcheck
      obtain ⟨hup, slot, hs, hcount⟩ := hcheck
      exact ⟨_, e, slot, run, hup, hs, hcount, by simp⟩
  | succ n ih =>
      obtain ⟨ops, e, slot, run, hup, hs, hcount, hfirst⟩ := ih (by omega)
      obtain ⟨ciphertext, tag, hstep⟩ := step_loopback_ping hup hs
      have hfresh : HasFreshId e (.sendKeepalivePing 0) := by
        intro _
        simp only [hs, Option.all_some, decide_eq_true_eq]
        omega
      have hinv : NonceInv e := nonceInv_of_run run
      refine ⟨_, _, _, run.snoc hfresh hstep, hup, rfl, congrArg (· + 1) hcount, ?_⟩
      intro _
      cases n with
      | zero =>
          -- the first ping of the slot uses the first packet id
          refine List.mem_append.mpr (.inr (List.mem_singleton.mpr ?_))
          rw [(hinv.slot slot hs).counter, hcount]
          rfl
      | succ n => exact List.mem_append.mpr (.inl (hfirst (Nat.succ_pos n)))

/-- With 2^32 + 1 pings the first nonce is used again. -/
theorem pings_reuse_nonce :
    ∃ ops e, RunFrom Loopback.env {} ops e ∧ ¬ NoncesUnique e := by
  obtain ⟨ops, e, slot, run, hup, hs, hfull, hfirst⟩ := exists_pings (2 ^ 32) le_rfl
  obtain ⟨ciphertext, tag, hstep⟩ := step_loopback_ping hup hs
  have hinv : NonceInv e := nonceInv_of_run run
  have hfree : Transition.Run (ProtocolEngine.step Loopback.env) (fun _ _ => True)
      (Loopback.newEngine {}) ops e := run.mono fun _ _ _ => trivial
  have hrun := hfree.snoc trivial hstep
  refine ⟨_, _, ⟨0, 42, hrun⟩, ?_⟩
  refine not_noncesUnique_of_wrapped hinv hstep hs hfull (hfirst (by decide)) ?_
  simp [sent]

end ProtocolEngine

end VpnHub.Protocol

import VpnHub.Verification.Daemon.Shields

/-! # The kill switch over many calls

When the kill switch follows the policy of the tunnel, and when the rules of the last call
decide alone. -/

namespace VpnHub.Daemon

open VpnHub.Filter Shell

/-! ## The policy of the tunnel -/

namespace NetworkState

variable {s t : NetworkState} {env : Env} {call : NetworkCall}

/-- A call that leaves the kill switch as the policy has it: a tunnel without one is set up
only where none is active, and none is engaged with the mode `Off`. -/
def Consistent (s : NetworkState) : NetworkCall → Prop
  | .setup _ args =>
    args.securityPolicy.killSwitchMode = .off → s.manager.isKillSwitchActive = false
  | .setKillSwitch _ enabled mode =>
    enabled = true → s.manager.activeTunnel.isSome = true → mode ≠ some .off
  | .teardown _ => True

theorem followsPolicy_some {ctx : TunnelContext} (h : s.manager.activeTunnel = some ctx) :
    s.FollowsPolicy ↔
      (s.manager.isKillSwitchActive = true ↔ ctx.securityPolicy.killSwitchMode ≠ .off) := by
  simp [FollowsPolicy, h]

theorem followsPolicy_fresh (h : s.Fresh) : s.FollowsPolicy := by
  simp [FollowsPolicy, h.1, NetworkManager.isKillSwitchActive]

theorem followsPolicy_setup (args : SetupArgs) :
    (s.call (NetworkManager.setupVpnNetwork env args)).FollowsPolicy ↔
      s.Consistent (.setup env args) := by
  rw [call_setup, followsPolicy_some rfl]
  change _ ↔ (args.securityPolicy.killSwitchMode = .off → s.manager.isKillSwitchActive = false)
  have hmode : (s.tunnel env args).securityPolicy = args.securityPolicy := rfl
  simp only [NetworkManager.isKillSwitchActive, killSwitchStep, hmode]
  split
  · rename_i hon
    simp [LinuxFirewallManager.isActive_enableKillSwitch, hon]
  · rename_i hoff
    simp [not_not.mp hoff]

/-- With a tunnel the flag decides on the kill switch, and the mode is recorded beside it. -/
theorem manager_setKillSwitch {ctx : TunnelContext} (htunnel : s.manager.activeTunnel = some ctx)
    (enabled : Bool) (mode : Option KillSwitchMode) :
    (s.call (NetworkManager.setKillSwitch env enabled mode)).manager.isKillSwitchActive = enabled ∧
      ∃ ctx', (s.call (NetworkManager.setKillSwitch env enabled mode)).manager.activeTunnel =
        some ctx' ∧
        ctx'.securityPolicy.killSwitchMode = if enabled then mode.getD .strict else .off := by
  simp only [call, NetworkManager.setKillSwitch, htunnel]
  refine ⟨?_, _, rfl, rfl⟩
  cases enabled with
  | true => exact LinuxFirewallManager.isActive_enableKillSwitch
  | false => exact LinuxFirewallManager.isActive_disableKillSwitch

theorem followsPolicy_setKillSwitch (h : s.FollowsPolicy) (enabled : Bool)
    (mode : Option KillSwitchMode) :
    (s.call (NetworkManager.setKillSwitch env enabled mode)).FollowsPolicy ↔
      s.Consistent (.setKillSwitch env enabled mode) := by
  cases htunnel : s.manager.activeTunnel with
  | none =>
      -- without a tunnel the call does nothing
      have hcall : s.call (NetworkManager.setKillSwitch env enabled mode) = s := by
        simp [call, NetworkManager.setKillSwitch, htunnel]
      simp [hcall, h, Consistent, htunnel]
  | some ctx =>
      obtain ⟨hactive, ctx', hctx', hmode⟩ := @manager_setKillSwitch s env ctx htunnel enabled mode
      rw [followsPolicy_some hctx', hactive, hmode]
      cases enabled with
      | true => cases mode <;> simp [Consistent, htunnel]
      | false => simp [Consistent]

/-- A call keeps the kill switch on the policy exactly where it is consistent. -/
theorem followsPolicy_step (h : s.FollowsPolicy) (hstep : s.step call = some t) :
    t.FollowsPolicy ↔ s.Consistent call := by
  cases call with
  | setup env args =>
      obtain rfl := Option.some.inj hstep
      exact followsPolicy_setup args
  | setKillSwitch env enabled mode =>
      obtain rfl := Option.some.inj hstep
      exact followsPolicy_setKillSwitch h enabled mode
  | teardown env =>
      obtain rfl := Option.some.inj hstep
      obtain ⟨hkill, -, htunnel⟩ := manager_teardown s env
      simp [FollowsPolicy, hkill, htunnel, Consistent]

/-- In every state that consistent calls lead to, the kill switch is active iff the policy of
the tunnel asks for it, and the next call keeps that up iff it is consistent. -/
theorem kill_switch_follows_policy {start t : NetworkState} {calls : List NetworkCall}
    (hstart : start.Fresh) (run : Transition.Run step Consistent start calls t) :
    t.FollowsPolicy ∧
      ∀ call u, t.step call = some u → (u.FollowsPolicy ↔ t.Consistent call) := by
  have hinv : t.FollowsPolicy := run.invariant
    (fun _ _ _ hc hstep h => (followsPolicy_step h hstep).mpr hc) (followsPolicy_fresh hstart)
  exact ⟨hinv, fun call u hstep => followsPolicy_step hinv hstep⟩

/-- A full tunnel without a kill switch. -/
def unguarded : SetupArgs :=
  { fullTunnel with securityPolicy := { killSwitchMode := .off } }

/-- The kill switch is released before a tunnel without one is set up. -/
theorem kill_switch_follows_policy_released :
    ∃ t, Transition.Run step Consistent ⟨{}, {}⟩
      [.setup (answering fun _ => .success) fullTunnel,
        .setKillSwitch (answering fun _ => .success) false none,
        .setup (answering fun _ => .success) unguarded] t ∧
      t.manager.activeTunnel.isSome = true ∧ t.FollowsPolicy := by
  have hrun : Transition.Run step Consistent ⟨{}, {}⟩
      [.setup (answering fun _ => .success) fullTunnel,
        .setKillSwitch (answering fun _ => .success) false none,
        .setup (answering fun _ => .success) unguarded] _ :=
    .cons (by simp only [Consistent]; decide) rfl
      (.cons (by simp [Consistent]) rfl
        (.cons (by simp only [Consistent]; decide +kernel) rfl (.nil _)))
  exact ⟨_, hrun, by decide +kernel, (kill_switch_follows_policy ⟨rfl, rfl⟩ hrun).1⟩

/-- A tunnel without a kill switch that replaces one with a kill switch keeps that of the
old tunnel, though every command succeeds. -/
theorem setup_keeps_old_kill_switch :
    ¬ ∀ (start t : NetworkState) (calls : List NetworkCall), start.Fresh →
      Transition.Run step (fun _ call => ∀ n c, call.env.outcome n c = .success) start calls t →
      t.FollowsPolicy := by
  intro hclaim
  let env := answering fun _ => .success
  let first := call ⟨{}, {}⟩ (NetworkManager.setupVpnNetwork env fullTunnel)
  let second := call first (NetworkManager.setupVpnNetwork env unguarded)
  have hfollows : second.FollowsPolicy :=
    hclaim ⟨{}, {}⟩ second [.setup env fullTunnel, .setup env unguarded] ⟨rfl, rfl⟩
      (.cons (fun _ _ => rfl) rfl (.cons (fun _ _ => rfl) rfl (.nil _)))
  have hactive : second.manager.isKillSwitchActive = true := by decide +kernel
  obtain ⟨ctx, hctx, hmode⟩ := hfollows.mp hactive
  have htunnel : second.manager.activeTunnel =
      some (unguarded.context ["203.0.113.7".toList]) := by decide +kernel
  obtain rfl := Option.some.inj (htunnel.symm.trans hctx)
  exact hmode rfl

end NetworkState

/-! ## The rules of the last call -/

namespace FirewallState

variable {s t : FirewallState} {env : Env} {args : KillSwitchArgs}

/-- The commands of the call succeed: `nft` takes the ruleset, or deletes the table. -/
def Succeeds (_ : FirewallState) : FirewallCall → Prop
  | .enable env args =>
    args.ruleset.rules.all (·.valid) = true ∧ ∀ n c, env.outcome n c = .success
  | .disable env => ∀ n c, env.outcome n c = .success

/-- The calls that were made and not taken back: the arguments with which the kill switch was
enabled since it was last disabled. -/
def record (kept : List KillSwitchArgs) : FirewallCall → List KillSwitchArgs
  | .enable _ args => kept ++ [args]
  | .disable _ => []

def standing (calls : List FirewallCall) : List KillSwitchArgs := calls.foldl record []

/-- The rules of the calls that stand, the policy being that of the last one. -/
def chainOf (kept : List KillSwitchArgs) : Option (Chain NftRule) :=
  kept.getLast?.map fun last =>
    ⟨last.ruleset.policy, kept.flatMap fun args => args.ruleset.rules⟩

/-- The host holds the rules of the calls that stand. -/
structure Holds (s : FirewallState) (kept : List KillSwitchArgs) : Prop where
  active : s.firewall.isActive = !kept.isEmpty
  chain : s.host.killswitch = chainOf kept

theorem loadChain_chainOf (kept : List KillSwitchArgs) (args : KillSwitchArgs) :
    loadChain (chainOf kept) args.ruleset =
      ⟨args.ruleset.policy, (kept.flatMap fun args => args.ruleset.rules) ++
        args.ruleset.rules⟩ := by
  cases kept using List.reverseRecOn with
  | nil => rfl
  | append_singleton kept last => simp [loadChain, chainOf]

theorem chainOf_append (kept : List KillSwitchArgs) (args : KillSwitchArgs) :
    chainOf (kept ++ [args]) = some (loadChain (chainOf kept) args.ruleset) := by
  rw [loadChain_chainOf]
  simp [chainOf]

theorem Holds.enable {kept : List KillSwitchArgs} (h : s.Holds kept)
    (hsucceeds : s.Succeeds (.enable env args)) :
    (s.call fun _ => LinuxFirewallManager.enableKillSwitch env args).Holds (kept ++ [args]) := by
  obtain ⟨hvalid, hout⟩ := hsucceeds
  constructor
  · have hactive : (kept ++ [args]).isEmpty = false := by simp
    rw [hactive]
    exact LinuxFirewallManager.isActive_enableKillSwitch
  · rw [chainOf_append, ← h.chain]
    exact LinuxFirewallManager.killswitch_enableKillSwitch_of_valid hvalid (hout _ _)

theorem Holds.disable {kept : List KillSwitchArgs} (h : s.Holds kept)
    (hsucceeds : s.Succeeds (.disable env)) :
    (s.call (LinuxFirewallManager.disableKillSwitch env)).Holds [] := by
  constructor
  · exact LinuxFirewallManager.isActive_disableKillSwitch
  · cases hactive : s.firewall.isActive with
    | true => exact LinuxFirewallManager.killswitch_disableKillSwitch hactive fun _ n => hsucceeds n _
    | false =>
        -- nothing stands, and nothing is run
        have hnone : kept = [] := by simpa [hactive] using h.active
        simp only [call, LinuxFirewallManager.disableKillSwitch, hactive, Bool.not_false, if_true]
        rw [h.chain, hnone]

theorem Holds.step {call : FirewallCall} {kept : List KillSwitchArgs} (h : s.Holds kept)
    (hsucceeds : s.Succeeds call) (hstep : s.step call = some t) :
    t.Holds (record kept call) := by
  cases call with
  | enable env args =>
      obtain rfl := Option.some.inj hstep
      exact h.enable hsucceeds
  | disable env =>
      obtain rfl := Option.some.inj hstep
      exact h.disable hsucceeds

theorem Holds.run {calls : List FirewallCall} {kept : List KillSwitchArgs}
    (run : Transition.Run FirewallState.step Succeeds s calls t) (h : s.Holds kept) :
    t.Holds (calls.foldl record kept) := by
  induction run generalizing kept with
  | nil => exact h
  | cons allowed taken _ ih => exact ih (h.step allowed taken)

/-- No rule that stands decides a packet otherwise than the arguments of the call. -/
def Agrees (kept : List KillSwitchArgs) : FirewallCall → Prop
  | .enable _ args => ∀ p v,
    firstMatch NftRule.meaning (kept.flatMap fun args => args.ruleset.rules) p = some v →
      args.ruleset.verdict NftRule.meaning p = v
  | .disable _ => True

theorem killSwitchVerdict_holds {kept : List KillSwitchArgs}
    (h : s.Holds (kept ++ [args])) (p : Packet) :
    s.host.killSwitchVerdict p =
      (firstMatch NftRule.meaning (kept.flatMap fun args => args.ruleset.rules) p).getD
        (args.ruleset.verdict NftRule.meaning p) := by
  rw [Host.killSwitchVerdict, h.chain, chainOf_append, loadChain_chainOf]
  exact Chain.verdict_append _ _ _

/-- After calls whose commands all succeed, the last call alone decides on every packet iff
none of the rules that stand from earlier calls decides one otherwise. -/
theorem last_call_decides_iff {start : FirewallState} {calls : List FirewallCall}
    {call : FirewallCall} (hstart : start.Fresh)
    (run : Transition.Run step Succeeds start (calls ++ [call]) t) :
    (∀ p, t.host.killSwitchVerdict p = call.verdict p) ↔ Agrees (standing calls) call := by
  have hfresh : start.Holds [] := ⟨by rw [hstart.1]; rfl, hstart.2⟩
  have hholds := hfresh.run run
  rw [List.foldl_append] at hholds
  change t.Holds (record (standing calls) call) at hholds
  cases call with
  | disable env => simp [Agrees, FirewallCall.verdict, Host.killSwitchVerdict, hholds.chain, record,
      chainOf]
  | enable env args =>
      have hverdict := killSwitchVerdict_holds hholds
      constructor
      · intro hlast p v hv
        have hp := hlast p
        rw [hverdict p, hv] at hp
        exact hp.symm
      · intro hagrees p
        rw [hverdict p]
        cases hv : firstMatch NftRule.meaning
            ((standing calls).flatMap fun args => args.ruleset.rules) p with
        | none => rfl
        | some v => exact (hagrees p v hv).symm

/-- A kill switch for one server. -/
def serving (server : Text) : KillSwitchArgs where
  serverEndpointIps := [server]
  serverPort := 1194
  tunnelIface := "tun0".toList
  intranetOnly := false
  vpnSubnets := []
  webrtcProtection := true
  localLanSubnet := none

/-- Between two servers the kill switch is disabled. -/
theorem last_call_decides_disabled_between :
    ∃ t, Transition.Run step Succeeds {}
      ([.enable (NetworkState.answering fun _ => .success) (serving "203.0.113.7".toList),
        .disable (NetworkState.answering fun _ => .success)] ++
        [.enable (NetworkState.answering fun _ => .success) (serving "198.51.100.9".toList)]) t ∧
      ∀ p, t.host.killSwitchVerdict p =
        (serving "198.51.100.9".toList).ruleset.verdict NftRule.meaning p := by
  have hrun : Transition.Run step Succeeds {}
      ([.enable (NetworkState.answering fun _ => .success) (serving "203.0.113.7".toList),
        .disable (NetworkState.answering fun _ => .success)] ++
        [.enable (NetworkState.answering fun _ => .success) (serving "198.51.100.9".toList)]) _ :=
    .cons ⟨by decide +kernel, fun _ _ => rfl⟩ rfl
      (.cons (fun _ _ => rfl) rfl
        (.cons ⟨by decide +kernel, fun _ _ => rfl⟩ rfl (.nil _)))
  refine ⟨_, hrun, (last_call_decides_iff ⟨rfl, rfl⟩ hrun).mpr ?_⟩
  intro p v hv
  cases hv

/-- A packet to the port of a VPN server, past the tunnel. -/
def serverPacket : Packet where
  oif := "eth0".toList
  dst := .v4 ⟨203, 0, 113, 7⟩
  transport := .udp 1194
  ctState := .new

/-- The old server stays reachable once the kill switch was enabled for a new one. -/
theorem old_server_stays_accepted :
    ¬ ∀ (start t : FirewallState) (calls : List FirewallCall) (call : FirewallCall), start.Fresh →
      Transition.Run step Succeeds start (calls ++ [call]) t →
      ∀ p, t.host.killSwitchVerdict p = call.verdict p := by
  intro hclaim
  let env := NetworkState.answering fun _ => .success
  let first := call {} fun _ =>
    LinuxFirewallManager.enableKillSwitch env (serving "203.0.113.7".toList)
  let second := call first fun _ =>
    LinuxFirewallManager.enableKillSwitch env (serving "198.51.100.9".toList)
  have hverdict := hclaim {} second [.enable env (serving "203.0.113.7".toList)]
    (.enable env (serving "198.51.100.9".toList)) ⟨rfl, rfl⟩
    (.cons ⟨by decide +kernel, fun _ _ => rfl⟩ rfl
      (.cons ⟨by decide +kernel, fun _ _ => rfl⟩ rfl (.nil _))) serverPacket
  have hstays : second.host.killSwitchVerdict serverPacket = .accept := by decide +kernel
  have hnew : (FirewallCall.enable env (serving "198.51.100.9".toList)).verdict serverPacket =
      .drop := by decide +kernel
  rw [hstays, hnew] at hverdict
  cases hverdict

end FirewallState

end VpnHub.Daemon

import VpnHub.Model.Network
import VpnHub.Verification.Daemon.Commands

/-! When the leak shields that the network manager reports are in force on the host. -/

namespace VpnHub.Daemon

open VpnHub.Filter Shell

/-! ## Operands -/

theorem parse_of_parseIpv4 {ip : Text} {addr : Ipv4Addr} (h : IpAddr.parseIpv4 ip = some addr) :
    IpAddr.parse ip = some (.v4 addr) ∧ Ipv4Net.parse ip = some ⟨addr, 32⟩ := by
  constructor
  · simp only [IpAddr.parseIpv4] at h
    split at h
    · cases h
    · simp only [IpAddr.parseWith] at h
      split at h
      · rename_i x hread
        cases h
        simp [IpAddr.parse, IpAddr.parseWith, hread]
      · cases h
  · simp [Ipv4Net.parse, h]

theorem Ipv4Net.contains_host {addr other : Ipv4Addr}
    (h : (Ipv4Net.mk addr 32).contains other = true) : other = addr := by
  obtain ⟨a, b, c, d⟩ := addr
  obtain ⟨a', b', c', d'⟩ := other
  have h : ((a.toNat * 256 + b.toNat) * 256 + c.toNat) * 256 + d.toNat =
      ((a'.toNat * 256 + b'.toNat) * 256 + c'.toNat) * 256 + d'.toNat := by
    simpa [Ipv4Net.contains, Ipv4Addr.toNat] using h
  have := a.toNat_lt; have := b.toNat_lt; have := c.toNat_lt; have := d.toNat_lt
  have := a'.toNat_lt; have := b'.toNat_lt; have := c'.toNat_lt; have := d'.toNat_lt
  simp only [Ipv4Addr.mk.injEq, ← UInt8.toNat_inj]
  omega

/-- An IPv4 address as operand matches that address alone. -/
theorem parse_of_matchesAddr {ip : Text} {dst : IpAddr}
    (hip : (IpAddr.parseIpv4 ip).isSome = true) (h : matchesAddr ip dst = true) :
    IpAddr.parse ip = some dst := by
  obtain ⟨addr, haddr⟩ := Option.isSome_iff_exists.mp hip
  obtain ⟨hparse, hnet⟩ := parse_of_parseIpv4 haddr
  cases dst with
  | v6 addr => simp [matchesAddr] at h
  | v4 other =>
      have hcontains : (Ipv4Net.mk addr 32).contains other = true := by
        simpa [matchesAddr, hnet] using h
      rw [hparse, Ipv4Net.contains_host hcontains]

/-! ## The full-tunnel ruleset -/

namespace KillSwitchArgs

/-- The operands that a full-tunnel ruleset is assembled from are IPv4 addresses and, for the
LAN, an IPv4 network. -/
structure Ipv4Operands (args : KillSwitchArgs) : Prop where
  servers : ∀ ip ∈ args.serverEndpointIps, (IpAddr.parseIpv4 ip).isSome = true
  lan : ∀ lan ∈ args.localLanSubnet, (Ipv4Net.parse lan).isSome = true

variable {args : KillSwitchArgs}

theorem targetIps_eq (h : args.serverEndpointIps ≠ []) :
    args.targetIps = args.serverEndpointIps := by
  simp [targetIps, h]

/-- A new packet that one of the rules accepts is exempt. -/
theorem exempt_of_accept (hips : args.serverEndpointIps ≠ []) (h : args.Ipv4Operands)
    {rule : NftRule} (hrule : rule ∈ args.fullTunnelRules) {p : Packet}
    (hnew : p.ctState = .new) (hmeaning : rule.meaning p = some .accept) : args.Exempt p := by
  have hbroadcast : (IpAddr.parseIpv4 "255.255.255.255".toList).isSome = true := by decide
  simp only [NftRule.meaning, Option.ite_none_right_eq_some, Option.some.injEq] at hmeaning
  obtain ⟨hall, haccept⟩ := hmeaning
  simp only [fullTunnelRules, localRules, targetIps_eq hips, List.mem_append, List.mem_cons,
    List.not_mem_nil, or_false, List.mem_map, List.mem_flatMap] at hrule
  rcases hrule with ((((((rfl | rfl) | ⟨ip, hip, rfl⟩) | (rfl | rfl)) | ⟨lan, hlan, hlanRule⟩) |
    hwebrtc) | rfl)
  · exact .inl (by simpa [NftMatch.holds] using hall)
  · exact .inr (.inl (by simpa [NftMatch.holds] using hall))
  · obtain ⟨hdst, hport⟩ : matchesAddr ip p.dst = true ∧
        p.transport.dport? = some args.serverPort := by
      simpa [NftMatch.holds] using hall
    exact .inr (.inr (.inl ⟨ip, hip, parse_of_matchesAddr (h.servers ip hip) hdst, hport⟩))
  · have hudp : p.transport = .udp 67 ∨ p.transport = .udp 68 := by
      cases ht : p.transport <;> simp_all [NftMatch.holds]
    rcases hudp with hudp | hudp
    · exact .inr (.inr (.inr (.inl hudp)))
    · exact .inr (.inr (.inr (.inr (.inl hudp))))
  · have hdst : matchesAddr "255.255.255.255".toList p.dst = true := by
      simpa [NftMatch.holds] using hall
    have hparse := parse_of_matchesAddr hbroadcast hdst
    have hvalue : IpAddr.parse "255.255.255.255".toList = some (.v4 ⟨255, 255, 255, 255⟩) := by
      decide
    rw [hvalue, Option.some.injEq] at hparse
    exact .inr (.inr (.inr (.inr (.inr (.inl hparse.symm)))))
  · refine .inr (.inr (.inr (.inr (.inr (.inr ⟨lan, Option.mem_toList.mp hlan, ?_⟩)))))
    rcases hlanRule with rfl | rfl
    · exact .inl (by simpa [NftMatch.holds] using hall)
    · exact .inr (by simpa [NftMatch.holds] using hall)
  · simp only [webrtcRules] at hwebrtc
    split at hwebrtc
    · obtain rfl := List.mem_singleton.mp hwebrtc
      cases haccept
    · simp at hwebrtc
  · simp [establishedRule, NftMatch.holds, hnew] at hall

theorem valid_ruleset (hips : args.serverEndpointIps ≠ []) (hfull : args.intranetOnly = false)
    (h : args.Ipv4Operands) : args.ruleset.rules.all (·.valid) = true := by
  have hbroadcast : (Ipv4Net.parse "255.255.255.255".toList).isSome = true := by decide
  have hmulticast : (Ipv4Net.parse "224.0.0.0/4".toList).isSome = true := by decide
  have hservers : ∀ ip ∈ args.serverEndpointIps, (Ipv4Net.parse ip).isSome = true := by
    intro ip hip
    obtain ⟨addr, haddr⟩ := Option.isSome_iff_exists.mp (h.servers ip hip)
    rw [(parse_of_parseIpv4 haddr).2]
    rfl
  have hlan : ∀ lan ∈ args.localLanSubnet.toList, (Ipv4Net.parse lan).isSome = true :=
    fun lan hlan => h.lan lan (Option.mem_toList.mp hlan)
  have hwebrtc : args.webrtcRules.all (·.valid) = true := by
    simp only [webrtcRules]
    split <;> rfl
  simp only [ruleset, hfull, Bool.false_eq_true, if_false, fullTunnelRules, localRules,
    targetIps_eq hips, List.all_append, hwebrtc, Bool.and_true]
  simp only [NftRule.valid, NftMatch.valid, establishedRule, hbroadcast, hmulticast,
    List.all_cons, List.all_nil, List.all_map, List.all_flatMap, Function.comp_def, Bool.and_true,
    Bool.true_and, Bool.and_eq_true, List.all_eq_true]
  exact ⟨hservers, hlan⟩

end KillSwitchArgs

/-! ## The kill switch -/

/-- `nft` takes the ruleset of a full tunnel. -/
def KillSwitchArgs.Loads (env : Env) (args : KillSwitchArgs) : Prop :=
  args.intranetOnly = false →
    args.Ipv4Operands ∧ ∀ n, env.outcome n (.nftLoad args.ruleset) = .success

/-- `nft` deletes the table if there is one. -/
def Unloads (env : Env) (host : Host) : Prop :=
  host.killswitch ≠ none → ∀ n, env.outcome n .nftDeleteTable = .success

namespace LinuxFirewallManager

variable {env : Env} {args : KillSwitchArgs} {firewall : LinuxFirewallManager} {sh : Shell}

theorem isActive_enableKillSwitch :
    (enableKillSwitch env args sh).1.isActive = true := by
  simp only [enableKillSwitch]
  split <;> rfl

/-- The fallback is about none of the table, the shield and the routes. -/
theorem iptablesFallback_frame : ∀ c ∈ args.iptablesFallback,
    c.onKillswitch = false ∧ (!c.onShield && !c.onRoutes) = true := by
  intro c hc
  simp only [KillSwitchArgs.iptablesFallback, List.mem_append, List.mem_cons, List.not_mem_nil,
    or_false, List.mem_map] at hc
  rcases hc with (((rfl | rfl | rfl | rfl) | ⟨lan, -, rfl⟩) | rfl) <;> exact ⟨rfl, rfl⟩

theorem runs_enableKillSwitch : Runs env (fun c => !c.onShield && !c.onRoutes) sh
    (enableKillSwitch env args sh).2 := by
  have hload : Runs env (fun c => !c.onShield && !c.onRoutes) sh
      (sh.run env (.nftLoad args.ruleset)).2 := (Runs.refl sh).exec _ rfl
  simp only [enableKillSwitch]
  split
  · rename_i hrun
    rw [hrun] at hload
    exact hload
  · rename_i hrun
    rw [hrun] at hload
    exact hload.trans (Runs.execAll fun c hc => (iptablesFallback_frame c hc).2)

/-- A ruleset that `nft` takes is in force afterwards, after the rules already there. -/
theorem killswitch_enableKillSwitch_of_valid (hvalid : args.ruleset.rules.all (·.valid) = true)
    (hout : env.outcome sh.asked (.nftLoad args.ruleset) = .success) :
    (enableKillSwitch env args sh).2.host.killswitch =
      some (loadChain sh.host.killswitch args.ruleset) := by
  have heff : (Command.nftLoad args.ruleset).effect sh.host =
      some { sh.host with killswitch := some (loadChain sh.host.killswitch args.ruleset) } := by
    simp only [Command.effect]
    rw [if_pos hvalid]
  rw [enableKillSwitch, run_success hout heff]

theorem killswitch_enableKillSwitch (hips : args.serverEndpointIps ≠ [])
    (hfull : args.intranetOnly = false) (h : args.Loads env) :
    (enableKillSwitch env args sh).2.host.killswitch =
      some (loadChain sh.host.killswitch args.ruleset) := by
  obtain ⟨hops, hout⟩ := h hfull
  exact killswitch_enableKillSwitch_of_valid (KillSwitchArgs.valid_ruleset hips hfull hops)
    (hout sh.asked)

theorem isActive_disableKillSwitch : (firewall.disableKillSwitch env sh).1.isActive = false := by
  simp only [disableKillSwitch]
  cases h : firewall.isActive <;> simp [h]

theorem runs_disableKillSwitch : Runs env (fun c => !c.onShield && !c.onRoutes) sh
    (firewall.disableKillSwitch env sh).2 := by
  simp only [disableKillSwitch]
  split
  · exact .refl sh
  · exact Runs.execAll (by decide)

/-- The table is gone once it is deleted. -/
theorem killswitch_disableKillSwitch (hactive : firewall.isActive = true)
    (h : Unloads env sh.host) :
    (firewall.disableKillSwitch env sh).2.host.killswitch = none := by
  have hdelete : (sh.exec env .nftDeleteTable).host.killswitch = none := by
    cases htable : sh.host.killswitch with
    | none =>
        rcases run_cases env .nftDeleteTable sh with ⟨hhost, -⟩ | ⟨host, heff, hhost, -⟩
        · rw [exec, hhost, htable]
        · simp [Command.effect, htable] at heff
    | some chain =>
        have heff : Command.nftDeleteTable.effect sh.host =
            some { sh.host with killswitch := none } := by
          simp [Command.effect, htable]
        have hout := h (by simp [htable]) sh.asked
        rw [exec, run_success hout heff]
  have hrest : Runs env (fun c => !c.onKillswitch) (sh.exec env .nftDeleteTable)
      ((sh.exec env .nftDeleteTable).execAll env [.iptablesFlush, .iptablesDelete]) :=
    Runs.execAll (by decide)
  have hkeep := hrest.killswitch (by simp)
  simp only [disableKillSwitch, hactive, Bool.not_true, Bool.false_eq_true, if_false]
  exact hkeep.trans hdelete

end LinuxFirewallManager

/-! ## The IPv6 shield -/

/-- One of the two shield routes can be added, or one is there already. -/
def ShieldAdds (env : Env) (host : Host) : Prop :=
  host.shieldRoutes ≠ [] ∨ (∀ n, env.outcome n (.shieldAdd .blackhole) = .success) ∨
    (∀ n, env.outcome n (.shieldAdd .blackhole) = .failure) ∧
      ∀ n, env.outcome n (.shieldAdd .unreachable) = .success

namespace PlatformIpv6Manager

variable {env : Env} {ipv6 : PlatformIpv6Manager} {sh : Shell}

theorem runs_enableIpv6Protection :
    Runs env Command.onShield sh (ipv6.enableIpv6Protection env sh).2 := by
  have hadd : Runs env Command.onShield sh (sh.run env (.shieldAdd .blackhole)).2 :=
    (Runs.refl sh).exec _ rfl
  simp only [enableIpv6Protection]
  split
  · exact .refl sh
  · split
    all_goals
      rename_i hrun
      rw [hrun] at hadd
    · exact hadd
    · exact hadd.exec _ rfl
    · exact hadd

/-- Adding a route removes none. -/
theorem shieldRoutes_shieldAdd (kind : ShieldRoute) (h : sh.host.shieldRoutes ≠ []) :
    (sh.run env (.shieldAdd kind)).2.host.shieldRoutes ≠ [] := by
  rcases run_cases env (.shieldAdd kind) sh with ⟨hhost, -⟩ | ⟨host, heff, hhost, -⟩
  · rwa [hhost]
  · rw [hhost]
    simp only [Command.effect] at heff
    split at heff
    · cases heff
    · cases heff
      simp

theorem run_shieldAdd {kind : ShieldRoute} (hnone : sh.host.shieldRoutes = [])
    (hout : ∀ n, env.outcome n (.shieldAdd kind) = .success) :
    sh.run env (.shieldAdd kind) =
      (.success, ⟨{ sh.host with shieldRoutes := [kind] }, sh.asked + 1⟩) := by
  apply run_success (hout _)
  simp [Command.effect, hnone]

/-- The shield is up after it was enabled. -/
theorem shieldRoutes_enableIpv6Protection
    (hactive : ipv6.isActive = true → sh.host.shieldRoutes ≠ [])
    (h : ipv6.isActive = false → ShieldAdds env sh.host) :
    (ipv6.enableIpv6Protection env sh).2.host.shieldRoutes ≠ [] := by
  cases hipv6 : ipv6.isActive with
  | true =>
      simp only [enableIpv6Protection, hipv6, if_true]
      exact hactive hipv6
  | false =>
      simp only [enableIpv6Protection, hipv6, Bool.false_eq_true, if_false]
      by_cases hnone : sh.host.shieldRoutes = []
      · rcases h hipv6 with hsome | hblackhole | ⟨hfails, hunreachable⟩
        · exact absurd hnone hsome
        · rw [run_shieldAdd hnone hblackhole]
          simp
        · have hrun : sh.run env (.shieldAdd .blackhole) =
              (.failure, { sh with asked := sh.asked + 1 }) := by
            simp only [run, hfails]
          rw [hrun]
          simp only [exec]
          rw [run_shieldAdd (by exact hnone) hunreachable]
          simp
      · have hfirst : (sh.run env (.shieldAdd .blackhole)).2.host.shieldRoutes ≠ [] :=
          shieldRoutes_shieldAdd .blackhole hnone
        split
        all_goals
          rename_i hrun
          rw [hrun] at hfirst
        · exact hfirst
        · exact shieldRoutes_shieldAdd .unreachable hfirst
        · exact hfirst

theorem isActive_disableIpv6Protection :
    (ipv6.disableIpv6Protection env sh).1.isActive = false := by
  simp only [disableIpv6Protection]
  cases h : ipv6.isActive <;> simp [h]

theorem runs_disableIpv6Protection :
    Runs env Command.onShield sh (ipv6.disableIpv6Protection env sh).2 := by
  simp only [disableIpv6Protection]
  split
  · exact .refl sh
  · exact Runs.execAll (by decide)

end PlatformIpv6Manager

/-! ## Calls that keep the shields in force -/

namespace NetworkState

variable {s : NetworkState} {env : Env} {args : SetupArgs}

/-- The addresses that a call of `setup_vpn_network` resolves the server to. -/
def resolved (s : NetworkState) (env : Env) (args : SetupArgs) : List Text :=
  (resolveServerIps env args.serverIp { host := s.host }).1

/-- The routes as the call has set them when it comes to the shields, with the LAN it
detected. -/
def routed (s : NetworkState) (env : Env) (args : SetupArgs) : LinuxRouteManager × Shell :=
  s.manager.router.setupVpnRouting env args.routing
    (resolveServerIps env args.serverIp { host := s.host }).2

/-- The context of the tunnel that the call sets up, and its kill switch. -/
def tunnel (s : NetworkState) (env : Env) (args : SetupArgs) : TunnelContext :=
  args.context (s.resolved env args)

def engaged (s : NetworkState) (env : Env) (args : SetupArgs) : KillSwitchArgs :=
  (s.tunnel env args).killSwitch (s.routed env args).1

/-- The rules of a kill switch serve another one as well: they exempt the same packets, in
the same mode. -/
structure SameRules (old new : KillSwitchArgs) : Prop where
  servers : new.serverEndpointIps = old.serverEndpointIps
  port : new.serverPort = old.serverPort
  iface : new.tunnelIface = old.tunnelIface
  mode : new.intranetOnly = old.intranetOnly
  lan : new.localLanSubnet = old.localLanSubnet

/-- A call that keeps the shields in force: `nft` and `ip` do what they are asked to, and a
tunnel that is set up over an engaged kill switch is the one the rules are for. -/
def Careful (s : NetworkState) : NetworkCall → Prop
  | .setup env args =>
    (args.securityPolicy.killSwitchMode ≠ .off → (s.engaged env args).Loads env) ∧
    (s.manager.isKillSwitchActive = true → ∀ ctx ∈ s.manager.activeTunnel,
      SameRules (ctx.killSwitch s.manager.router) (s.engaged env args)) ∧
    (args.securityPolicy.ipv6LeakProtection = true → s.manager.isIpv6Protected = false →
      ShieldAdds env s.host)
  | .setKillSwitch env true _ =>
    ∀ ctx ∈ s.manager.activeTunnel, (ctx.killSwitch s.manager.router).Loads env
  | .setKillSwitch env false _ => Unloads env s.host
  | .teardown env => Unloads env s.host

/-- No rule accepts a new packet that is not exempt. -/
def AcceptsOnlyExempt (args : KillSwitchArgs) (rules : List NftRule) : Prop :=
  ∀ rule ∈ rules, ∀ p : Packet, p.ctState = .new → rule.meaning p = some .accept → args.Exempt p

/-- The kill switch has a tunnel and, in full-tunnel mode, a chain that drops all but exempt
new packets; without it there is no table. -/
structure InForce (s : NetworkState) : Prop where
  inactive : s.manager.isKillSwitchActive = false → s.host.killswitch = none
  tunnel : s.manager.isKillSwitchActive = true → s.manager.activeTunnel.isSome = true
  chain : s.manager.isKillSwitchActive = true → ∀ ctx ∈ s.manager.activeTunnel,
    ctx.intranetOnly = false → ∃ chain, s.host.killswitch = some chain ∧ chain.policy = .drop ∧
      AcceptsOnlyExempt (ctx.killSwitch s.manager.router) chain.rules
  servers : ∀ ctx ∈ s.manager.activeTunnel, ctx.serverEndpointIps ≠ []
  ipv6 : s.manager.isIpv6Protected = true → s.host.shieldRoutes ≠ []

theorem InForce.shielded (h : s.InForce) : s.Shielded := by
  constructor
  · intro hactive ctx hctx hfull p hnew hexempt
    obtain ⟨chain, hchain, hpolicy, hrules⟩ := h.chain hactive ctx hctx hfull
    have hdrop : chain.verdict NftRule.meaning p = .drop := by
      rw [Chain.verdict_eq_policy, hpolicy]
      intro rule hrule v hv
      cases v with
      | accept => exact absurd (hrules rule hrule p hnew hv) hexempt
      | drop => exact hpolicy.symm
    simp [Host.dropped, hchain, hdrop]
  · exact h.ipv6

theorem InForce.fresh (h : s.Fresh) : s.InForce := by
  obtain ⟨hmanager, hhost⟩ := h
  constructor
  · exact fun _ => hhost
  · simp [hmanager, NetworkManager.isKillSwitchActive]
  · simp [hmanager, NetworkManager.isKillSwitchActive]
  · simp [hmanager]
  · simp [hmanager, NetworkManager.isIpv6Protected]

/-! ### Setting a tunnel up -/

theorem SameRules.exempt_iff {old new : KillSwitchArgs} (h : SameRules old new) (p : Packet) :
    new.Exempt p ↔ old.Exempt p := by
  simp only [KillSwitchArgs.Exempt, h.servers, h.port, h.iface, h.lan]

/-- The shield and the kill switch as the call leaves them. -/
def shieldStep (s : NetworkState) (env : Env) (args : SetupArgs) : PlatformIpv6Manager × Shell :=
  if args.securityPolicy.ipv6LeakProtection then
    s.manager.ipv6.enableIpv6Protection env (s.routed env args).2
  else (s.manager.ipv6, (s.routed env args).2)

def killSwitchStep (s : NetworkState) (env : Env) (args : SetupArgs) :
    LinuxFirewallManager × Shell :=
  if args.securityPolicy.killSwitchMode ≠ .off then
    LinuxFirewallManager.enableKillSwitch env (s.engaged env args) (s.shieldStep env args).2
  else (s.manager.firewall, (s.shieldStep env args).2)

theorem call_setup (s : NetworkState) (env : Env) (args : SetupArgs) :
    s.call (NetworkManager.setupVpnNetwork env args) =
      { manager :=
          { router := (s.routed env args).1
            firewall := (s.killSwitchStep env args).1
            ipv6 := (s.shieldStep env args).1
            activeTunnel := some (s.tunnel env args) }
        host := (s.killSwitchStep env args).2.host } := rfl

theorem runs_routed {kind : Command → Bool} (hkind : LinuxRouteManager.SetsRoutes kind) :
    Runs env kind { host := s.host } (s.routed env args).2 := by
  have hresolve : Runs env kind { host := s.host }
      (resolveServerIps env args.serverIp { host := s.host }).2 :=
    .of_host (host_resolveServerIps args.serverIp _)
  exact hresolve.trans (LinuxRouteManager.runs_setupVpnRouting hkind args.routing _ _)

theorem onKillswitch_of_onRoutes (c : Command) (h : c.onRoutes = true) :
    c.onKillswitch = false := by
  cases c <;> first | rfl | cases h

theorem onShield_of_onRoutes (c : Command) (h : c.onRoutes = true) : c.onShield = false := by
  cases c <;> first | rfl | cases h

theorem onKillswitch_of_onShield (c : Command) (h : c.onShield = true) :
    c.onKillswitch = false := by
  cases c <;> first | rfl | cases h

theorem onRoutes_of_onShield (c : Command) (h : c.onShield = true) : c.onRoutes = false := by
  cases c <;> first | rfl | cases h

theorem killswitch_shieldStep :
    (s.shieldStep env args).2.host.killswitch = s.host.killswitch := by
  have hrouted : (s.routed env args).2.host.killswitch = s.host.killswitch :=
    (runs_routed .onRoutes).killswitch onKillswitch_of_onRoutes
  simp only [shieldStep]
  split
  · rw [PlatformIpv6Manager.runs_enableIpv6Protection.killswitch onKillswitch_of_onShield, hrouted]
  · exact hrouted

theorem shieldRoutes_killSwitchStep : (s.killSwitchStep env args).2.host.shieldRoutes =
    (s.shieldStep env args).2.host.shieldRoutes := by
  simp only [killSwitchStep]
  split
  · exact LinuxFirewallManager.runs_enableKillSwitch.shieldRoutes (by simp_all)
  · rfl

/-- The shield is up after the call wherever it is reported. -/
theorem shieldRoutes_shieldStep (h : s.InForce) (hc : s.Careful (.setup env args))
    (hactive : (s.shieldStep env args).1.isActive = true) :
    (s.shieldStep env args).2.host.shieldRoutes ≠ [] := by
  have hrouted : (s.routed env args).2.host.shieldRoutes = s.host.shieldRoutes :=
    (runs_routed .onRoutes).shieldRoutes onShield_of_onRoutes
  simp only [shieldStep] at hactive ⊢
  split
  · rename_i hon
    apply PlatformIpv6Manager.shieldRoutes_enableIpv6Protection
    · intro hipv6
      rw [hrouted]
      exact h.ipv6 hipv6
    · intro hipv6
      have hadds := hc.2.2 hon hipv6
      simp only [ShieldAdds, hrouted]
      exact hadds
  · rename_i hoff
    rw [if_neg hoff] at hactive
    rw [hrouted]
    exact h.ipv6 hactive

/-- What the kill switch's chain is after it was engaged for a full tunnel: the rules already
there, and the tunnel's own ones. -/
theorem chain_killSwitchStep (hmode : args.securityPolicy.killSwitchMode ≠ .off)
    (hfull : (s.engaged env args).intranetOnly = false) (hc : s.Careful (.setup env args)) :
    (s.killSwitchStep env args).2.host.killswitch =
      some (loadChain s.host.killswitch (s.engaged env args).ruleset) := by
  have hips : (s.engaged env args).serverEndpointIps ≠ [] := resolveServerIps_ne_nil _ _
  rw [killSwitchStep, if_pos hmode,
    LinuxFirewallManager.killswitch_enableKillSwitch hips hfull (hc.1 hmode),
    killswitch_shieldStep]

/-- Rules that are loaded after harmless ones leave a chain that drops all but exempt new
packets. -/
theorem acceptsOnlyExempt_loadChain {args : KillSwitchArgs} {loaded : Option (Chain NftRule)}
    (hips : args.serverEndpointIps ≠ []) (hfull : args.intranetOnly = false)
    (hops : args.Ipv4Operands)
    (hold : ∀ chain ∈ loaded, AcceptsOnlyExempt args chain.rules) :
    (loadChain loaded args.ruleset).policy = .drop ∧
      AcceptsOnlyExempt args (loadChain loaded args.ruleset).rules := by
  have hruleset : args.ruleset = ⟨.drop, args.fullTunnelRules⟩ := by
    simp [KillSwitchArgs.ruleset, hfull]
  rw [hruleset]
  constructor
  · rfl
  · intro rule hrule p hnew haccept
    rcases List.mem_append.mp hrule with hrule | hrule
    · cases loaded with
      | none => simp at hrule
      | some chain => exact hold chain rfl rule hrule p hnew haccept
    · exact KillSwitchArgs.exempt_of_accept hips hops hrule hnew haccept

theorem SameRules.acceptsOnlyExempt {old new : KillSwitchArgs} {rules : List NftRule}
    (h : SameRules old new) (hold : AcceptsOnlyExempt old rules) : AcceptsOnlyExempt new rules := by
  intro rule hrule p hnew haccept
  rw [h.exempt_iff]
  exact hold rule hrule p hnew haccept

/-- The rules in force exempt only what a kill switch that they serve as well does. -/
theorem InForce.loaded (h : s.InForce) {new : KillSwitchArgs}
    (hsame : s.manager.isKillSwitchActive = true → ∀ ctx ∈ s.manager.activeTunnel,
      SameRules (ctx.killSwitch s.manager.router) new)
    (hfull : new.intranetOnly = false) :
    ∀ chain ∈ s.host.killswitch, AcceptsOnlyExempt new chain.rules := by
  intro chain hchain
  cases hactive : s.manager.isKillSwitchActive with
  | false =>
      rw [h.inactive hactive] at hchain
      cases hchain
  | true =>
      obtain ⟨ctx, hctx⟩ := Option.isSome_iff_exists.mp (h.tunnel hactive)
      have hrules := hsame hactive ctx hctx
      obtain ⟨chain', hchain', -, hold⟩ := h.chain hactive ctx hctx (hrules.mode.symm.trans hfull)
      obtain rfl : chain' = chain := Option.some.inj (hchain'.symm.trans hchain)
      exact hrules.acceptsOnlyExempt hold

theorem InForce.setup (h : s.InForce) (hc : s.Careful (.setup env args)) :
    (s.call (NetworkManager.setupVpnNetwork env args)).InForce := by
  rw [call_setup]
  have hips : (s.engaged env args).serverEndpointIps ≠ [] := resolveServerIps_ne_nil _ _
  constructor
  · intro hactive
    -- the kill switch was not engaged, and is not engaged now
    by_cases hmode : args.securityPolicy.killSwitchMode ≠ .off
    · simp [NetworkManager.isKillSwitchActive, killSwitchStep, hmode,
        LinuxFirewallManager.isActive_enableKillSwitch] at hactive
    · simp only [NetworkManager.isKillSwitchActive, killSwitchStep, if_neg hmode] at hactive ⊢
      rw [killswitch_shieldStep]
      exact h.inactive hactive
  · exact fun _ => rfl
  · intro hactive ctx hctx hfull
    obtain rfl := Option.some.inj hctx
    by_cases hmode : args.securityPolicy.killSwitchMode ≠ .off
    · obtain ⟨hops, -⟩ := hc.1 hmode hfull
      obtain ⟨hpolicy, hrules⟩ := acceptsOnlyExempt_loadChain hips hfull hops (h.loaded hc.2.1 hfull)
      exact ⟨_, chain_killSwitchStep hmode hfull hc, hpolicy, hrules⟩
    · simp only [NetworkManager.isKillSwitchActive, killSwitchStep, if_neg hmode] at hactive ⊢
      rw [killswitch_shieldStep]
      obtain ⟨old, hold⟩ := Option.isSome_iff_exists.mp (h.tunnel hactive)
      have hsame := hc.2.1 hactive old hold
      obtain ⟨chain, hchain, hpolicy, hrules⟩ :=
        h.chain hactive old hold (hsame.mode.symm.trans hfull)
      exact ⟨chain, hchain, hpolicy, hsame.acceptsOnlyExempt hrules⟩
  · intro ctx hctx
    obtain rfl := Option.some.inj hctx
    exact hips
  · intro hactive
    rw [shieldRoutes_killSwitchStep]
    exact shieldRoutes_shieldStep h hc hactive

/-! ### Toggling the kill switch and tearing down -/

theorem shieldRoutes_engage (s : NetworkState) (env : Env) (args : KillSwitchArgs) :
    (LinuxFirewallManager.enableKillSwitch env args { host := s.host }).2.host.shieldRoutes =
      s.host.shieldRoutes :=
  LinuxFirewallManager.runs_enableKillSwitch.shieldRoutes (by simp_all)

theorem shieldRoutes_release (s : NetworkState) (env : Env) :
    (s.manager.firewall.disableKillSwitch env { host := s.host }).2.host.shieldRoutes =
      s.host.shieldRoutes :=
  LinuxFirewallManager.runs_disableKillSwitch.shieldRoutes (by simp_all)

/-- Without an engaged kill switch there is no table, and an engaged one takes its table
along. -/
theorem killswitch_release (h : s.InForce) (hc : Unloads env s.host) :
    (s.manager.firewall.disableKillSwitch env { host := s.host }).2.host.killswitch = none := by
  cases hactive : s.manager.firewall.isActive with
  | true => exact LinuxFirewallManager.killswitch_disableKillSwitch hactive hc
  | false =>
      simp only [LinuxFirewallManager.disableKillSwitch, hactive, Bool.not_false, if_true]
      exact h.inactive hactive

theorem InForce.engage {mode : Option KillSwitchMode} (h : s.InForce)
    (hc : s.Careful (.setKillSwitch env true mode)) :
    (s.call (NetworkManager.setKillSwitch env true mode)).InForce := by
  cases htunnel : s.manager.activeTunnel with
  | none =>
      have hcall : s.call (NetworkManager.setKillSwitch env true mode) = s := by
        simp [call, NetworkManager.setKillSwitch, htunnel]
      rwa [hcall]
  | some ctx =>
      have hips : (ctx.killSwitch s.manager.router).serverEndpointIps ≠ [] := h.servers ctx htunnel
      have hload := hc ctx htunnel
      simp only [call, NetworkManager.setKillSwitch, htunnel, if_true]
      constructor
      · intro hactive
        simp [NetworkManager.isKillSwitchActive,
          LinuxFirewallManager.isActive_enableKillSwitch] at hactive
      · exact fun _ => rfl
      · intro _ ctx' hctx' hfull
        obtain rfl := Option.some.inj hctx'
        obtain ⟨hops, -⟩ := hload hfull
        have hsame : s.manager.isKillSwitchActive = true → ∀ old ∈ s.manager.activeTunnel,
            SameRules (old.killSwitch s.manager.router) (ctx.killSwitch s.manager.router) := by
          intro _ old hold
          obtain rfl := Option.some.inj (htunnel.symm.trans hold)
          exact ⟨rfl, rfl, rfl, rfl, rfl⟩
        obtain ⟨hpolicy, hrules⟩ :=
          acceptsOnlyExempt_loadChain hips hfull hops (h.loaded hsame hfull)
        exact ⟨_, LinuxFirewallManager.killswitch_enableKillSwitch hips hfull hload, hpolicy, hrules⟩
      · intro ctx' hctx'
        obtain rfl := Option.some.inj hctx'
        exact h.servers ctx htunnel
      · intro hactive hnone
        exact h.ipv6 hactive ((shieldRoutes_engage s env _).symm.trans hnone)

theorem InForce.release {mode : Option KillSwitchMode} (h : s.InForce)
    (hc : s.Careful (.setKillSwitch env false mode)) :
    (s.call (NetworkManager.setKillSwitch env false mode)).InForce := by
  cases htunnel : s.manager.activeTunnel with
  | none =>
      have hcall : s.call (NetworkManager.setKillSwitch env false mode) = s := by
        simp [call, NetworkManager.setKillSwitch, htunnel]
      rwa [hcall]
  | some ctx =>
      simp only [call, NetworkManager.setKillSwitch, htunnel, Bool.false_eq_true, if_false]
      constructor
      · exact fun _ => killswitch_release h hc
      · simp [NetworkManager.isKillSwitchActive, LinuxFirewallManager.isActive_disableKillSwitch]
      · simp [NetworkManager.isKillSwitchActive, LinuxFirewallManager.isActive_disableKillSwitch]
      · intro ctx' hctx'
        obtain rfl := Option.some.inj hctx'
        exact h.servers ctx htunnel
      · intro hactive hnone
        exact h.ipv6 hactive ((shieldRoutes_release s env).symm.trans hnone)

/-- What a teardown leaves: no shield is reported, and no tunnel. -/
theorem manager_teardown (s : NetworkState) (env : Env) :
    (s.call (NetworkManager.teardownVpnNetwork env)).manager.isKillSwitchActive = false ∧
    (s.call (NetworkManager.teardownVpnNetwork env)).manager.isIpv6Protected = false ∧
    (s.call (NetworkManager.teardownVpnNetwork env)).manager.activeTunnel = none := by
  simp only [call, NetworkManager.teardownVpnNetwork]
  cases s.manager.activeTunnel <;>
    exact ⟨LinuxFirewallManager.isActive_disableKillSwitch,
      PlatformIpv6Manager.isActive_disableIpv6Protection, rfl⟩

theorem killswitch_teardown (h : s.InForce) (hc : s.Careful (.teardown env)) :
    (s.call (NetworkManager.teardownVpnNetwork env)).host.killswitch = none := by
  have hrelease := killswitch_release h hc
  simp only [call, NetworkManager.teardownVpnNetwork]
  cases s.manager.activeTunnel with
  | none =>
      simp only
      rw [PlatformIpv6Manager.runs_disableIpv6Protection.killswitch onKillswitch_of_onShield,
        hrelease]
  | some ctx =>
      simp only
      rw [(LinuxRouteManager.runs_teardownVpnRouting ctx.serverIp ctx.iface _ _).killswitch
          onKillswitch_of_onRoutes,
        PlatformIpv6Manager.runs_disableIpv6Protection.killswitch onKillswitch_of_onShield,
        hrelease]

theorem InForce.teardown (h : s.InForce) (hc : s.Careful (.teardown env)) :
    (s.call (NetworkManager.teardownVpnNetwork env)).InForce := by
  obtain ⟨hkill, hipv6, htunnel⟩ := manager_teardown s env
  constructor
  · exact fun _ => killswitch_teardown h hc
  · simp [hkill]
  · simp [hkill]
  · simp [htunnel]
  · simp [hipv6]

/-! ## Runs -/

theorem InForce.step {call : NetworkCall} {t : NetworkState} (h : s.InForce)
    (hc : s.Careful call) (hstep : s.step call = some t) : t.InForce := by
  cases call with
  | setup env args =>
      obtain rfl := Option.some.inj hstep
      exact h.setup hc
  | setKillSwitch env enabled mode =>
      obtain rfl := Option.some.inj hstep
      cases enabled with
      | true => exact h.engage hc
      | false => exact h.release hc
  | teardown env =>
      obtain rfl := Option.some.inj hstep
      exact h.teardown hc

/-- In every state that careful calls lead to, the shields that are reported are in force. -/
theorem shields_in_force {start t : NetworkState} {calls : List NetworkCall}
    (hstart : start.Fresh) (run : Transition.Run step Careful start calls t) : t.Shielded := by
  have hinv : t.InForce := run.invariant
    (fun _ _ _ hc hstep h => InForce.step h hc hstep) (InForce.fresh hstart)
  exact hinv.shielded

/-! ### Runs on a fresh host -/

/-- A full tunnel to an IPv4 server, with all shields asked for. -/
def fullTunnel : SetupArgs where
  serverIp := "203.0.113.7".toList
  serverPort := 1194
  iface := "tun0".toList
  assignedIp := some "10.8.0.6".toList
  serverDns := []
  searchDomains := []
  pushedRoutes := []
  isRedirectGateway := true
  securityPolicy := {}
  routingPolicy := {}

/-- Every command goes as `outcome` says; nothing is printed and no name resolves. -/
def answering (outcome : Command → Outcome) : Env where
  outcome _ := outcome
  stdout _ _ := none
  lookup _ _ := none

theorem shields_in_force_full_tunnel :
    ∃ t, Transition.Run step Careful ⟨{}, {}⟩
      [.setup (answering fun _ => .success) fullTunnel] t ∧
      t.manager.isKillSwitchActive = true ∧ t.manager.isIpv6Protected = true ∧ t.Shielded := by
  have hcareful : Careful ⟨{}, {}⟩ (.setup (answering fun _ => .success) fullTunnel) := by
    refine ⟨fun _ _ => ⟨⟨?_, ?_⟩, fun _ => rfl⟩, ?_, fun _ _ => .inr (.inl fun _ => rfl)⟩
    · decide +kernel
    · decide +kernel
    · exact fun hactive => absurd hactive (by decide)
  have hrun : Transition.Run step Careful ⟨{}, {}⟩
      [.setup (answering fun _ => .success) fullTunnel]
      (call ⟨{}, {}⟩ (NetworkManager.setupVpnNetwork (answering fun _ => .success) fullTunnel)) :=
    .cons hcareful rfl (.nil _)
  exact ⟨_, hrun, by decide +kernel, by decide +kernel, shields_in_force ⟨rfl, rfl⟩ hrun⟩

/-- A packet to the Internet past the tunnel. -/
def webPacket : Packet where
  oif := "eth0".toList
  dst := .v4 ⟨192, 0, 2, 80⟩
  transport := .tcp 443
  ctState := .new

/-- Where `nft` fails, the fallback chain that nothing jumps to counts as a kill switch. -/
theorem fallback_drops_nothing : ¬ ∀ (start t : NetworkState) (calls : List NetworkCall),
    start.Fresh → Transition.Run step (fun _ _ => True) start calls t → t.Shielded := by
  intro hclaim
  let env := answering fun c => if c.onKillswitch then .failure else .success
  let after := call ⟨{}, {}⟩ (NetworkManager.setupVpnNetwork env fullTunnel)
  have hshielded := hclaim ⟨{}, {}⟩ after [.setup env fullTunnel] ⟨rfl, rfl⟩
    (.cons trivial rfl (.nil _))
  have hdropped : after.host.dropped webPacket = true :=
    hshielded.killSwitch (by decide +kernel) (fullTunnel.context ["203.0.113.7".toList])
      (by decide +kernel) (by decide) webPacket rfl (by decide +kernel)
  have hpasses : after.host.dropped webPacket = false := by decide +kernel
  rw [hpasses] at hdropped
  cases hdropped

end NetworkState

end VpnHub.Daemon

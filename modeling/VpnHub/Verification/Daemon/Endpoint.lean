import VpnHub.Verification.Daemon.Shields
import VpnHub.Verification.Daemon.Tasks

/-! When the kill switch and the routes leave the transport of the session alone. They are made
for the server of the request, as the daemon resolves it; the session connects to the remotes
of its profile. -/

namespace VpnHub.Daemon

open Config VpnHub.Core VpnHub.Filter Shell

/-! ## The routes past the tunnel -/

/-- A host route through a gateway, of the metric that the daemon gives it. -/
def Host.Bypassed (host : Host) (addr : Ipv4Addr) : Prop :=
  ∃ route ∈ host.routes, route.dest = ⟨addr, 32⟩ ∧ route.via.isSome = true ∧ route.metric = 1

/-- A command that replaces no route past the tunnel by one into it. -/
def Command.keepsBypass : Command → Bool
  | routeReplace _ via _ metric => via.isSome || metric != some 1
  | routeDel _ _ _ _ => false
  | _ => true

theorem setsRoutes_keepsBypass : LinuxRouteManager.SetsRoutes Command.keepsBypass :=
  ⟨fun _ _ _ => rfl, fun _ _ => rfl⟩

variable {env : Env} {addr : Ipv4Addr}

theorem Host.Bypassed.of_routes {host host' : Host} (h : host.Bypassed addr)
    (hroutes : host'.routes = host.routes) : host'.Bypassed addr := by
  rw [Host.Bypassed, hroutes]
  exact h

theorem Host.Bypassed.effect {host host' : Host} {command : Command} (h : host.Bypassed addr)
    (hkeeps : command.keepsBypass = true) (heff : command.effect host = some host') :
    host'.Bypassed addr := by
  cases hroutes : command.onRoutes with
  | false => exact h.of_routes ((Command.effect_frame heff).2.2.1 hroutes)
  | true =>
      cases command with
      | routeReplace dest via dev metric =>
          obtain ⟨net, -, rfl⟩ := Option.map_eq_some_iff.mp heff
          obtain ⟨route, hmem, hdest, hvia, hmetric⟩ := h
          rcases Ranking.mem_or_sameKey_of_mem (R := Route.ranking)
            ⟨net, via, dev, metric.getD 0⟩ hmem with hmem | ⟨hnet, hrank⟩
          · exact ⟨route, hmem, hdest, hvia, hmetric⟩
          · -- it is replaced by one that is no less past the tunnel
            have hone : metric = some 1 := by
              cases metric with
              | none => exact absurd (hmetric.symm.trans hrank) Nat.one_ne_zero
              | some m => exact congrArg some (hrank.symm.trans hmetric)
            have hgw : via.isSome = true := by
              simpa [Command.keepsBypass, hone] using hkeeps
            exact ⟨_, Ranking.mem_put_self _ _, hnet.symm.trans hdest, hgw, hrank.symm.trans hmetric⟩
      | routeDel dest via dev metric => cases hkeeps
      | _ => cases hroutes

theorem Host.Bypassed.runs {sh sh' : Shell} (h : sh.host.Bypassed addr)
    (hruns : Runs env Command.keepsBypass sh sh') : sh'.host.Bypassed addr := by
  induction hruns with
  | refl => exact h
  | @exec sh' command hkeeps _ ih =>
      rcases run_cases env command sh' with ⟨hhost, -⟩ | ⟨host, heff, hhost, -⟩
      · rw [Shell.exec, hhost]
        exact ih
      · rw [Shell.exec, hhost]
        exact ih.effect hkeeps heff
  | asked _ same ih =>
      rw [same]
      exact ih

/-- Every one of the addresses is among the texts. -/
def Covers (ips : List Text) (addrs : List Ipv4Addr) : Prop :=
  ∀ addr ∈ addrs, ∃ ip ∈ ips, IpAddr.parseIpv4 ip = some addr

namespace LinuxRouteManager

/-- The route to an address of the server is there once it was injected. -/
theorem bypassed_injectBypass {gw target : Text} {st : LinuxRouteManager × Shell}
    (htarget : IpAddr.parseIpv4 target = some addr)
    (hout : ∀ n via dev, env.outcome n (.routeReplace target via dev (some 1)) = .success) :
    (injectBypass env gw st target).2.host.Bypassed addr := by
  obtain ⟨host, heff, hbypassed⟩ : ∃ host,
      (Command.routeReplace target (some gw) st.1.physicalInterface (some 1)).effect st.2.host =
        some host ∧ host.Bypassed addr := by
    simp only [Command.effect, (parse_of_parseIpv4 htarget).2, Option.map_some]
    exact ⟨_, rfl, _, Ranking.mem_put_self _ _, rfl, rfl, rfl⟩
  have hrun := run_success (hout st.2.asked (some gw) st.1.physicalInterface) heff
  simp only [injectBypass, inject, hrun]
  exact hbypassed

theorem bypassed_foldl {gw target : Text} {targets : List Text} (hmem : target ∈ targets)
    (htarget : IpAddr.parseIpv4 target = some addr)
    (hout : ∀ n via dev, env.outcome n (.routeReplace target via dev (some 1)) = .success)
    (st : LinuxRouteManager × Shell) :
    (targets.foldl (injectBypass env gw) st).2.host.Bypassed addr := by
  induction targets generalizing st with
  | nil => cases hmem
  | cons first targets ih =>
      rcases List.mem_cons.mp hmem with rfl | hmem
      · exact (bypassed_injectBypass htarget hout).runs
          (runs_foldl (runs_injectBypass setsRoutes_keepsBypass gw) targets _)
      · exact ih hmem _

/-- The gateway is known, or `ip route` names it. -/
def FindsGateway (env : Env) (router : LinuxRouteManager) : Prop :=
  router.originalGateway.isSome = true ∨ ∀ n, ∃ text ∈ env.stdout n .routeShowDefault,
    (wordAfter "via".toList (Text.splitWhitespace text)).isSome = true

theorem isSome_discoverOriginalGateway {router : LinuxRouteManager} (h : FindsGateway env router)
    (sh : Shell) : (router.discoverOriginalGateway env sh).1.originalGateway.isSome = true := by
  simp only [discoverOriginalGateway, Shell.query]
  cases htext : env.stdout sh.asked .routeShowDefault with
  | none =>
      rcases h with hknown | hasks
      · exact hknown
      · obtain ⟨text, htext', -⟩ := hasks sh.asked
        rw [htext] at htext'
        cases htext'
  | some text =>
      simp only [Option.isSome_or, Bool.or_eq_true]
      rcases h with hknown | hasks
      · exact .inr hknown
      · obtain ⟨text', htext', hvia⟩ := hasks sh.asked
        obtain rfl := Option.some.inj (htext.symm.trans htext')
        exact .inl hvia

/-- The routes of a tunnel lead past it to every address of its server. -/
theorem bypassed_setupVpnRouting (args : RoutingArgs) {addrs : List Ipv4Addr}
    {router : LinuxRouteManager} (hgateway : FindsGateway env router)
    (hresolves : ∀ sh, Covers (resolveServerIps env args.serverIp sh).1 addrs)
    (hout : ∀ n target via dev, (∃ addr ∈ addrs, IpAddr.parseIpv4 target = some addr) →
      env.outcome n (.routeReplace target via dev (some 1)) = .success)
    (haddr : addr ∈ addrs) (sh : Shell) :
    (router.setupVpnRouting env args sh).2.host.Bypassed addr := by
  obtain ⟨gw, hgw⟩ := Option.isSome_iff_exists.mp (isSome_discoverOriginalGateway hgateway sh)
  obtain ⟨target, hmem, htarget⟩ :=
    hresolves (router.discoverOriginalGateway env sh).2 addr haddr
  have hbypass : (bypassServer env args.serverIp
      (router.discoverOriginalGateway env sh)).2.host.Bypassed addr := by
    simp only [bypassServer, hgw]
    exact bypassed_foldl hmem htarget
      (fun n via dev => hout n target via dev ⟨addr, haddr, htarget⟩) _
  exact hbypass.runs (runs_after_bypass setsRoutes_keepsBypass args router sh)

end LinuxRouteManager

/-! ## The rules of the kill switch -/

/-- The chain lets the packets to a server pass. -/
def Passes (chain : Chain NftRule) (addr : Ipv4Addr) (port : UInt16) : Prop :=
  ∀ p : Packet, p.dst = .v4 addr → p.transport.dport? = some port →
    chain.verdict NftRule.meaning p = .accept

/-- What an intranet kill switch needs to leave the server alone: its port is not one that the
WebRTC rule drops, and no subnet of the tunnel has one of its addresses. -/
def TunnelContext.Spares (ctx : TunnelContext) (addrs : List Ipv4Addr) : Prop :=
  ctx.intranetOnly = true →
    (ctx.securityPolicy.webrtcProtection = true → ctx.serverPort ∉ stunPorts) ∧
    ∀ subnet ∈ (ctx.vpnSubnets.map Text.trim).filter (· ≠ []), ∀ addr ∈ addrs,
      matchesAddr (cidrText subnet) (.v4 addr) = false

/-- Rules that are loaded after those of a chain that lets a server pass. -/
theorem passes_loadChain {loaded : Option (Chain NftRule)} {chain : Chain NftRule}
    {port : UInt16} (hloaded : ∀ old ∈ loaded, Passes old addr port)
    (hchain : Passes chain addr port) : Passes (loadChain loaded chain) addr port := by
  intro p hdst hport
  cases loaded with
  | none => exact hchain p hdst hport
  | some old =>
      have hold := hloaded old rfl p hdst hport
      have hnew := hchain p hdst hport
      simp only [loadChain, Option.map_some, Option.getD_some, Chain.verdict_append]
      rw [Chain.verdict] at hold
      cases hm : firstMatch NftRule.meaning old.rules p with
      | none => exact hnew
      | some v =>
          rw [hm] at hold
          exact hold

section Rules

variable {ctx : TunnelContext} {addrs : List Ipv4Addr} {p : Packet}

theorem drop_of_meaning {rule : NftRule} (h : rule.meaning p = some .drop) :
    rule.verdict = .drop ∧ ∀ m ∈ rule.conditions, m.holds p = true := by
  simp only [NftRule.meaning, Option.ite_none_right_eq_some, Option.some.injEq,
    List.all_eq_true] at h
  exact ⟨h.2, h.1⟩

/-- The rule for an address of the server comes before all that drop. -/
theorem passes_fullTunnel {args : KillSwitchArgs} (hips : Covers args.serverEndpointIps addrs)
    (haddr : addr ∈ addrs) : Passes ⟨.drop, args.fullTunnelRules⟩ addr args.serverPort := by
  intro p hdst hport
  obtain ⟨ip, hip, hparse⟩ := hips addr haddr
  have hne : args.serverEndpointIps ≠ [] := List.ne_nil_of_mem hip
  have hfront : firstMatch NftRule.meaning (args.localRules ++ args.targetIps.map fun tip =>
      ⟨[.ipDaddr tip, .thDport args.serverPort], .accept⟩) p = some .accept := by
    apply firstMatch_eq_accept (r := ⟨[.ipDaddr ip, .thDport args.serverPort], .accept⟩)
    · refine List.mem_append_right _ (List.mem_map.mpr ⟨ip, ?_, rfl⟩)
      rw [KillSwitchArgs.targetIps_eq hne]
      exact hip
    · simp [NftRule.meaning, NftMatch.holds, hdst, hport, matchesAddr,
        (parse_of_parseIpv4 hparse).2, Ipv4Net.contains]
    · intro rule hrule hdrop
      have hverdict := (drop_of_meaning hdrop).1
      simp only [KillSwitchArgs.localRules, List.mem_append, List.mem_cons, List.not_mem_nil,
        or_false, List.mem_map] at hrule
      rcases hrule with (rfl | rfl) | ⟨tip, -, rfl⟩ <;> cases hverdict
  simp only [KillSwitchArgs.fullTunnelRules, List.append_assoc]
  simp only [← List.append_assoc args.localRules]
  rw [Chain.verdict_append, hfront]
  rfl

/-- In an intranet kill switch that spares the server no rule drops a packet to it. -/
theorem passes_intranet {router : LinuxRouteManager} (hsplit : ctx.intranetOnly = true)
    (hspares : ctx.Spares addrs) (haddr : addr ∈ addrs) :
    Passes ⟨.accept, (ctx.killSwitch router).intranetRules⟩ addr ctx.serverPort := by
  intro p hdst hport
  obtain ⟨hstun, hsubnets⟩ := hspares hsplit
  apply Chain.verdict_eq_policy
  intro rule hrule v hv
  cases v with
  | accept => rfl
  | drop =>
      exfalso
      obtain ⟨hverdict, hholds⟩ := drop_of_meaning hv
      simp only [KillSwitchArgs.intranetRules, KillSwitchArgs.localRules, List.mem_append,
        List.mem_cons, List.not_mem_nil, or_false, List.mem_map] at hrule
      rcases hrule with ((((rfl | rfl) | ⟨lan, -, rfl⟩) | hwebrtc) | ⟨subnet, hsubnet, rfl⟩) | rfl
      · cases hverdict
      · cases hverdict
      · cases hverdict
      · simp only [KillSwitchArgs.webrtcRules] at hwebrtc
        split at hwebrtc
        · rename_i hon
          obtain rfl := List.mem_singleton.mp hwebrtc
          have hudp := hholds (.udpDport stunPorts) (by simp)
          cases htransport : p.transport with
          | udp dport =>
              obtain rfl : dport = ctx.serverPort := by
                simpa [Transport.dport?, htransport] using hport
              have hmem : stunPorts.contains ctx.serverPort = true := by
                simpa only [NftMatch.holds, htransport] using hudp
              exact hstun hon (List.contains_iff_mem.mp hmem)
          | tcp dport => simp [NftMatch.holds, htransport] at hudp
          | other => simp [NftMatch.holds, htransport] at hudp
        · cases hwebrtc
      · have hdaddr := hholds (.ipDaddr (cidrText subnet)) (by simp)
        simp only [NftMatch.holds, hdst, hsubnets subnet hsubnet addr haddr] at hdaddr
        cases hdaddr
      · cases hverdict

/-- The kill switch of a tunnel lets the packets to its server pass. -/
theorem passes_ruleset {router : LinuxRouteManager} (hips : Covers ctx.serverEndpointIps addrs)
    (hspares : ctx.Spares addrs) (haddr : addr ∈ addrs) :
    Passes (ctx.killSwitch router).ruleset addr ctx.serverPort := by
  simp only [KillSwitchArgs.ruleset]
  split
  · rename_i hsplit
    exact passes_intranet hsplit hspares haddr
  · have hargs : Covers (ctx.killSwitch router).serverEndpointIps addrs := hips
    exact passes_fullTunnel hargs haddr

end Rules

namespace LinuxFirewallManager

variable {args : KillSwitchArgs} {firewall : LinuxFirewallManager} {sh : Shell}

/-- Engaging the kill switch loads its rules, or leaves the table as it is. -/
theorem killswitch_enable_cases :
    (enableKillSwitch env args sh).2.host.killswitch = sh.host.killswitch ∨
      (enableKillSwitch env args sh).2.host.killswitch =
        some (loadChain sh.host.killswitch args.ruleset) := by
  have hfallback : ∀ sh : Shell, (sh.execAll env args.iptablesFallback).host.killswitch =
      sh.host.killswitch := by
    intro sh
    have hruns : Runs env (fun c => !c.onKillswitch) sh (sh.execAll env args.iptablesFallback) :=
      Runs.execAll fun c hc => by simp [(iptablesFallback_frame c hc).1]
    exact hruns.killswitch (by simp)
  simp only [enableKillSwitch]
  rcases run_cases env (.nftLoad args.ruleset) sh with ⟨hhost, hout⟩ | ⟨host, heff, hhost, hout⟩
  · split
    · rename_i hrun
      rw [hrun] at hout
      exact absurd rfl hout
    · rename_i hrun
      rw [hrun] at hhost
      left
      rw [hfallback, hhost]
  · split
    · rename_i hrun
      rw [hrun] at hhost
      right
      obtain ⟨-, rfl⟩ := by simpa [Command.effect] using heff
      rw [hhost]
    · rename_i hno hrun
      rw [hrun] at hout
      subst hout
      exact (hno rfl).elim

/-- Releasing it deletes the table, or leaves it as it is. -/
theorem killswitch_disable_cases :
    (firewall.disableKillSwitch env sh).2.host.killswitch = sh.host.killswitch ∨
      (firewall.disableKillSwitch env sh).2.host.killswitch = none := by
  have hrest : Runs env (fun c => !c.onKillswitch) (sh.exec env .nftDeleteTable)
      ((sh.exec env .nftDeleteTable).execAll env [.iptablesFlush, .iptablesDelete]) :=
    Runs.execAll (by decide)
  have hkeep := hrest.killswitch (by simp)
  simp only [disableKillSwitch]
  split
  · exact .inl rfl
  · rcases run_cases env .nftDeleteTable sh with ⟨hhost, -⟩ | ⟨host, heff, hhost, -⟩
    · exact .inl (hkeep.trans (congrArg Host.killswitch hhost))
    · obtain ⟨-, -, rfl⟩ := Option.map_eq_some_iff.mp heff
      exact .inr (hkeep.trans (congrArg Host.killswitch hhost))

end LinuxFirewallManager

/-! ## Calls that leave the server alone -/

/-- A set-up that reaches the addresses of its server: they are among what the daemon resolves
it to, the host takes the routes to them, and a kill switch that is engaged spares them. -/
structure Reaches (addrs : List Ipv4Addr) (env : Env) (net : NetworkManager) (args : SetupArgs) :
    Prop where
  resolves : ∀ sh, Covers (resolveServerIps env args.serverIp sh).1 addrs
  gateway : LinuxRouteManager.FindsGateway env net.router
  routes : ∀ n target via dev, (∃ addr ∈ addrs, IpAddr.parseIpv4 target = some addr) →
    env.outcome n (.routeReplace target via dev (some 1)) = .success
  spares : args.securityPolicy.killSwitchMode ≠ .off → (args.context []).Spares addrs

namespace NetworkState

variable {s : NetworkState} {args : SetupArgs} {addrs : List Ipv4Addr} {port : UInt16}

/-- The rules let the packets to the server pass, and so would those of the tunnel's kill
switch where it spares the server. -/
structure Spared (addrs : List Ipv4Addr) (port : UInt16) (s : NetworkState) : Prop where
  rules : ∀ chain ∈ s.host.killswitch, ∀ addr ∈ addrs, Passes chain addr port
  tunnel : ∀ ctx ∈ s.manager.activeTunnel,
    ctx.serverPort = port ∧ Covers ctx.serverEndpointIps addrs

/-- Rules that pass stay so when the kill switch is engaged for a tunnel that spares the
server. -/
theorem passes_enableKillSwitch {ctx : TunnelContext} {router : LinuxRouteManager} {sh : Shell}
    (hloaded : ∀ chain ∈ sh.host.killswitch, ∀ addr ∈ addrs, Passes chain addr ctx.serverPort)
    (hips : Covers ctx.serverEndpointIps addrs) (hspares : ctx.Spares addrs) :
    ∀ chain ∈ (LinuxFirewallManager.enableKillSwitch env (ctx.killSwitch router)
      sh).2.host.killswitch, ∀ addr ∈ addrs, Passes chain addr ctx.serverPort := by
  intro chain hchain addr haddr
  rcases @LinuxFirewallManager.killswitch_enable_cases env (ctx.killSwitch router) sh with hsame | hnew
  · rw [hsame] at hchain
    exact hloaded chain hchain addr haddr
  · rw [hnew] at hchain
    obtain rfl := Option.some.inj hchain
    exact passes_loadChain (fun old hold => hloaded old hold addr haddr)
      (passes_ruleset hips hspares haddr)

theorem Spared.setup (h : s.Spared addrs args.serverPort)
    (hreaches : Reaches addrs env s.manager args) :
    (s.call (NetworkManager.setupVpnNetwork env args)).Spared addrs args.serverPort := by
  have hips : Covers (s.tunnel env args).serverEndpointIps addrs := hreaches.resolves _
  rw [call_setup]
  constructor
  · simp only [killSwitchStep]
    split
    · rename_i hmode
      apply passes_enableKillSwitch
      · rw [killswitch_shieldStep]
        exact h.rules
      · exact hips
      · exact hreaches.spares hmode
    · rw [killswitch_shieldStep]
      exact h.rules
  · intro ctx hctx
    obtain rfl := Option.some.inj hctx
    exact ⟨rfl, hips⟩

/-- The set-up leads past the tunnel to the server. -/
theorem bypassed_setup (hreaches : Reaches addrs env s.manager args) (haddr : addr ∈ addrs) :
    (s.call (NetworkManager.setupVpnNetwork env args)).host.Bypassed addr := by
  have hrouted : (s.routed env args).2.host.Bypassed addr := by
    rw [routed]
    exact LinuxRouteManager.bypassed_setupVpnRouting args.routing hreaches.gateway
      hreaches.resolves hreaches.routes haddr _
  have hshield : (s.shieldStep env args).2.host.routes = (s.routed env args).2.host.routes := by
    simp only [shieldStep]
    split
    · exact PlatformIpv6Manager.runs_enableIpv6Protection.routes onRoutes_of_onShield
    · rfl
  have hkill : (s.killSwitchStep env args).2.host.routes =
      (s.shieldStep env args).2.host.routes := by
    simp only [killSwitchStep]
    split
    · exact LinuxFirewallManager.runs_enableKillSwitch.routes (by simp_all)
    · rfl
  rw [call_setup]
  exact hrouted.of_routes (hkill.trans hshield)

theorem Spared.setKillSwitch {enabled : Bool} {mode : Option KillSwitchMode}
    (h : s.Spared addrs port)
    (hspares : enabled = true → ∀ ctx ∈ s.manager.activeTunnel, ctx.Spares addrs) :
    (s.call (NetworkManager.setKillSwitch env enabled mode)).Spared addrs port := by
  cases htunnel : s.manager.activeTunnel with
  | none =>
      have hcall : s.call (NetworkManager.setKillSwitch env enabled mode) = s := by
        simp [call, NetworkManager.setKillSwitch, htunnel]
      rwa [hcall]
  | some ctx =>
      obtain ⟨rfl, hips⟩ := h.tunnel ctx htunnel
      cases enabled with
      | true =>
          simp only [call, NetworkManager.setKillSwitch, htunnel, if_true]
          constructor
          · exact passes_enableKillSwitch h.rules hips (hspares rfl ctx htunnel)
          · intro ctx' hctx'
            obtain rfl := Option.some.inj hctx'
            exact ⟨rfl, hips⟩
      | false =>
          simp only [call, NetworkManager.setKillSwitch, htunnel, Bool.false_eq_true, if_false]
          constructor
          · intro chain hchain
            rcases @LinuxFirewallManager.killswitch_disable_cases env s.manager.firewall
              { host := s.host } with hsame | hnone
            · rw [hsame] at hchain
              exact h.rules chain hchain
            · rw [hnone] at hchain
              cases hchain
          · intro ctx' hctx'
            obtain rfl := Option.some.inj hctx'
            exact ⟨rfl, hips⟩

theorem routes_setKillSwitch (s : NetworkState) (env : Env) (enabled : Bool)
    (mode : Option KillSwitchMode) :
    (s.call (NetworkManager.setKillSwitch env enabled mode)).host.routes = s.host.routes := by
  cases htunnel : s.manager.activeTunnel with
  | none => simp [call, NetworkManager.setKillSwitch, htunnel]
  | some ctx =>
      cases enabled with
      | true =>
          simp only [call, NetworkManager.setKillSwitch, htunnel, if_true]
          exact LinuxFirewallManager.runs_enableKillSwitch.routes (by simp_all)
      | false =>
          simp only [call, NetworkManager.setKillSwitch, htunnel, Bool.false_eq_true, if_false]
          exact LinuxFirewallManager.runs_disableKillSwitch.routes (by simp_all)

end NetworkState

namespace Connection

variable {c c' : Connection} {action : ConnectionAction} {addrs : List Ipv4Addr}

/-- The network manager and the host of the daemon. -/
def network (c : Connection) : NetworkState := ⟨c.daemon.net, c.daemon.host⟩

/-- A peer at one of the addresses, on the port of the request. -/
def AtServer (addrs : List Ipv4Addr) (c : Connection) (peer : SocketAddr) : Prop :=
  ∃ addr ∈ addrs, peer = ⟨.v4 addr, c.params.serverPort⟩

/-- A step that keeps the session and the network set-up on the same addresses: the transport
of a connected daemon goes to one of them, and the set-up and the kill switch reach them all. -/
def Agrees (addrs : List Ipv4Addr) (c : Connection) : ConnectionAction → Prop
  | .dial true =>
    match c.session with
    | .dialing remote (addr :: _) _ => c.daemon.state = .connected →
      ∀ peer ∈ SessionPc.peerOf c.config remote addr, AtServer addrs c peer
    | _ => True
  | .monitor env _ =>
    match c.monitor with
    | .setupNetwork reading =>
      (∀ peer ∈ c.session.peer?, AtServer addrs c peer) ∧
        Reaches addrs env c.daemon.net (c.params.setupArgs c.iface reading)
    | _ => True
  | .setKillSwitch _ true _ => ∀ ctx ∈ c.daemon.net.activeTunnel, ctx.Spares addrs
  | _ => True

structure Exempting (addrs : List Ipv4Addr) (c : Connection) : Prop where
  network : c.network.Spared addrs c.params.serverPort
  bypassed : c.daemon.state = .connected → ∀ addr ∈ addrs, c.daemon.host.Bypassed addr
  peer : c.daemon.state = .connected → ∀ peer ∈ c.session.peer?, AtServer addrs c peer

theorem Exempting.endpointExempt (h : c.Exempting addrs) : c.EndpointExempt := by
  intro hstate peer hpeer
  obtain ⟨addr, haddr, rfl⟩ := h.peer hstate peer hpeer
  constructor
  · intro chain hchain p hdst hport
    exact h.network.rules chain hchain addr haddr p hdst hport
  · obtain ⟨route, hmem, hdest, hvia, -⟩ := h.bypassed hstate addr haddr
    exact ⟨route, hmem, by simp [Route.bypasses, hdest, hvia]⟩

/-- A session that goes on or ends without a transport. -/
theorem Exempting.moves (h : c.Exempting addrs) {pc : SessionPc}
    (hpc : c.daemon.state = .connected → ∀ peer ∈ pc.peer?, AtServer addrs c peer) :
    Exempting addrs { c with session := pc } :=
  ⟨h.network, h.bypassed, hpc⟩

theorem Exempting.ends (h : c.Exempting addrs) : Exempting addrs { c with session := .ended } := by
  refine h.moves fun _ peer hpeer => ?_
  cases hpeer

theorem Exempting.send (h : c.Exempting addrs) (event : SessionEvent) :
    (c.send event).Exempting addrs := by
  obtain ⟨queue, lagged, provisioned, hsend⟩ := c.send_frame event
  rw [hsend]
  exact ⟨h.network, h.bypassed, h.peer⟩

theorem Exempting.step (h : c.Exempting addrs) (hagrees : c.Agrees addrs action)
    (hstep : Step c action c') : c'.Exempting addrs := by
  cases hstep with
  | moves pc going transport =>
      refine h.moves fun hstate peer hpeer => ?_
      cases pc with
      | connected peer' remote addrs' rest =>
          obtain rfl := Option.some.inj hpeer
          obtain ⟨addr, hsession, rfl, hpeerOf⟩ := transport peer' remote addrs' rest rfl
          simp only [Agrees, hsession] at hagrees
          exact hagrees hstate peer' hpeerOf
      | resolving remotes => cases hpeer
      | dialing remote addrs' rest => cases hpeer
      | ended => cases hpeer
  | fails message sends => exact (h.send _).ends
  | broadcast event => exact h.send event
  | disconnects reason => exact (h.send _).ends
  | dropped => exact h.ends
  | lags idle lagged => exact ⟨h.network, h.bypassed, h.peer⟩
  | bridgeReceives event rest idle next => exact ⟨h.network, h.bypassed, h.peer⟩
  | bridgeCloses idle empty stopped => exact ⟨h.network, h.bypassed, h.peer⟩
  | bridgeSends report last waiting delivered =>
      obtain ⟨channel, rfl⟩ := deliver_frame delivered
      exact ⟨h.network, h.bypassed, h.peer⟩
  | bridgeWrites write rest waiting => exact ⟨h.network, h.bypassed, h.peer⟩
  | monitorReceives report rest idle next =>
      obtain ⟨state, hdaemon, hstate, -⟩ := receive_frame c.daemon report
      rw [hdaemon]
      exact ⟨h.network, fun hnow => h.bypassed (hstate hnow), fun hnow => h.peer (hstate hnow)⟩
  | monitorCloses idle empty stopped => exact ⟨h.network, h.bypassed, h.peer⟩
  | reads waiting free => exact ⟨h.network, h.bypassed, h.peer⟩
  | writesSession reading waiting => exact ⟨h.network, h.bypassed, h.peer⟩
  | setsUp reading waiting =>
      simp only [Agrees, waiting] at hagrees
      obtain ⟨hpeer, hreaches⟩ := hagrees
      have hnetwork : c.network.Spared addrs (c.params.setupArgs c.iface reading).serverPort :=
        h.network
      exact ⟨hnetwork.setup hreaches,
        fun _ addr haddr => NetworkState.bypassed_setup (s := c.network) hreaches haddr,
        fun _ => hpeer⟩
  | emits report delivered =>
      obtain ⟨channel, rfl⟩ := deliver_frame delivered
      exact ⟨h.network, h.bypassed, h.peer⟩
  | killSwitch env enabled mode =>
      refine ⟨h.network.setKillSwitch ?_, ?_, h.peer⟩
      · rintro rfl
        exact hagrees
      · intro hstate addr haddr
        exact (h.bypassed hstate addr haddr).of_routes
          (c.network.routes_setKillSwitch env enabled mode)

theorem Exempting.initial (config : OpenVpnConfig) (params : ConnectParams) (iface : Text)
    {host : Host} (hhost : host.killswitch = none) :
    (initial config params iface host).Exempting addrs where
  network := by
    constructor
    · intro chain hchain
      rw [show (Connection.initial config params iface host).network.host.killswitch = none from
        hhost] at hchain
      cases hchain
    · intro ctx hctx
      cases hctx
  bypassed := by
    intro hstate
    cases hstate
  peer := by
    intro hstate
    cases hstate

/-- In every state that agreeing steps lead to from a host without a kill switch, a connected
daemon leaves the transport of its session alone. -/
theorem endpointExempt_of_agrees {config : OpenVpnConfig} {params : ConnectParams} {iface : Text}
    {host : Host} {actions : List ConnectionAction} (hhost : host.killswitch = none)
    (run : Transition.Run step (Agrees addrs) (initial config params iface host) actions c) :
    c.EndpointExempt := by
  have hexempting : c.Exempting addrs := run.invariant
    (fun _ _ _ hagrees hstep h => h.step hagrees (.of_step hstep))
    (.initial config params iface hhost)
  exact hexempting.endpointExempt

/-! ### One remote, and two -/

def guarded : ConnectParams := { office with enableKillSwitch := true }

/-- Commands succeed, and the host has a default route. -/
def home : Env :=
  { allSucceed with
    stdout := fun _ query =>
      match query with
      | .routeShowDefault => some "default via 192.168.1.1 dev eth0".toList
      | _ => none }

/-- A full tunnel's kill switch spares every server. -/
theorem reaches_home (net : NetworkManager) {reading : Reading}
    (hfull : (guarded.setupArgs "tun0".toList reading).isIntranetSplit = false) :
    Reaches [⟨203, 0, 113, 7⟩] home net (guarded.setupArgs "tun0".toList reading) where
  resolves := by
    intro sh addr haddr
    obtain rfl := List.mem_singleton.mp haddr
    exact ⟨"203.0.113.7".toList, List.mem_singleton_self _, by decide⟩
  gateway := .inr fun _ => ⟨_, rfl, by decide⟩
  routes := fun _ _ _ _ _ => rfl
  spares := fun _ hsplit => absurd hsplit (Bool.eq_false_iff.mp hfull)

/-- The session comes up and is told to lead all traffic into the tunnel. -/
def tunnelUp : List ConnectionAction :=
  [.bridge, .monitor home {}, .resolve (some [⟨.v4 ⟨203, 0, 113, 7⟩, 1194⟩]), .dial true,
    .broadcast (.stateChanged .connected), .broadcast (.networkConfigured pushed)] ++
  List.replicate 8 .bridge ++ List.replicate 4 (.monitor home {})

theorem endpointExempt_of_agrees_home : ∃ c, Transition.Run step (Agrees [⟨203, 0, 113, 7⟩])
    (initial guarded.directConfig guarded "tun0".toList {}) tunnelUp c ∧
    c.daemon.state = .connected ∧ c.provisioned = some pushed ∧
    (c.daemon.host.killswitch.any fun chain => chain.policy == .drop) = true ∧ c.EndpointExempt := by
  have hrun : Transition.Run step (Agrees [⟨203, 0, 113, 7⟩])
      (initial guarded.directConfig guarded "tun0".toList {}) tunnelUp _ :=
    .cons trivial rfl <| .cons trivial rfl <| .cons trivial rfl <|
      .cons (fun hstate => by cases hstate) rfl <| .cons trivial rfl <| .cons trivial rfl <|
      .cons trivial rfl <| .cons trivial rfl <| .cons trivial rfl <| .cons trivial rfl <|
      .cons trivial rfl <| .cons trivial rfl <| .cons trivial rfl <| .cons trivial rfl <|
      .cons trivial rfl <| .cons trivial rfl <| .cons trivial rfl <|
        .cons ⟨fun peer hpeer => ⟨_, List.mem_singleton_self _, (Option.some.inj hpeer).symm⟩,
          reaches_home _ rfl⟩ rfl (.nil _)
  exact ⟨_, hrun, by decide +kernel, rfl, by decide +kernel, endpointExempt_of_agrees rfl hrun⟩

def twoRemotes : OpenVpnConfig :=
  finishConfig guarded { remotes :=
    [⟨"203.0.113.7".toList, 1194, none⟩, ⟨"203.0.113.8".toList, 1194, none⟩] }

/-- A packet of the session to the second remote. -/
def toSecond : Packet where
  oif := "eth0".toList
  dst := .v4 ⟨203, 0, 113, 8⟩
  transport := .udp 1194
  ctState := .new

/-- The session gives up the first remote and comes up over the second. -/
def failover : List ConnectionAction :=
  [.bridge, .monitor home {}, .resolve (some [⟨.v4 ⟨203, 0, 113, 7⟩, 1194⟩]), .dial false,
    .dial false, .resolve (some [⟨.v4 ⟨203, 0, 113, 8⟩, 1194⟩]), .dial true,
    .broadcast (.stateChanged .connected), .broadcast (.networkConfigured pushed)]

/-- The first remote is the server of the request; the session fails over to the second, and
the kill switch drops its packets. -/
theorem second_remote_dropped : ¬ ∀ (config : OpenVpnConfig) (params : ConnectParams)
    (iface : Text) (host : Host) (actions : List ConnectionAction) (c : Connection),
    host.killswitch = none →
    Transition.Run step (fun _ _ => True) (initial config params iface host) actions c →
      c.EndpointExempt := by
  intro hclaim
  have hend : (Transition.runList step (fun _ _ => True)
      (initial twoRemotes guarded "tun0".toList {})
      (failover ++ List.replicate 8 .bridge ++ List.replicate 4 (.monitor home {}))).any (fun c =>
          decide (c.daemon.state = .connected ∧
            c.session.peer? = some ⟨.v4 ⟨203, 0, 113, 8⟩, 1194⟩ ∧
            (c.daemon.host.killswitch.any fun chain =>
              chain.verdict NftRule.meaning toSecond == .drop) = true)) = true := by
    decide +kernel
  obtain ⟨c, run, hc⟩ := Transition.exists_run_of_any hend
  obtain ⟨hstate, hpeer, hdrop⟩ := of_decide_eq_true hc
  obtain ⟨chain, hchain, hverdict⟩ := (Option.any_eq_true _ _).mp hdrop
  have haccept := (hclaim _ _ _ _ _ c rfl run hstate _ hpeer).1 chain hchain toSecond rfl rfl
  rw [haccept] at hverdict
  cases hverdict

end Connection

end VpnHub.Daemon

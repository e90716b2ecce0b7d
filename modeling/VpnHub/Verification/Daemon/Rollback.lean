import VpnHub.Model.Rollback

/-! # Routing rollback

When a teardown brings back the routing table that the setup found. -/

namespace VpnHub.Daemon

open Shell

variable {initial : List Route}

theorem Deletion.oneDest (d : Deletion) : Route.ranking.OneDest d.names := by
  intro a b ha hb
  simp only [Deletion.names, Bool.and_eq_true, beq_iff_eq] at ha hb
  exact ha.1.1.1.trans hb.1.1.1.symm

/-! ## The setup on two tables -/

/-- Two shells at the same command, the second with the routes of the first over the initial
ones. -/
structure Alongside (initial : List Route) (sh₀ sh : Shell) : Prop where
  asked : sh.asked = sh₀.asked
  routes : Route.ranking.Over initial sh₀.host.routes sh.host.routes

/-- The same manager, with such shells. -/
def InStep (initial : List Route) (st₀ st : LinuxRouteManager × Shell) : Prop :=
  st.1 = st₀.1 ∧ Alongside initial st₀.2 st.2

variable {sh₀ sh : Shell} {st₀ st : LinuxRouteManager × Shell}

/-- A question that does not touch the host. -/
theorem Alongside.ask (h : Alongside initial sh₀ sh) :
    Alongside initial { sh₀ with asked := sh₀.asked + 1 } { sh with asked := sh.asked + 1 } where
  asked := congrArg (· + 1) h.asked
  routes := h.routes

variable (env : Env)

/-- Setting a route goes the same way on both tables. -/
theorem Alongside.run_replace (h : Alongside initial sh₀ sh) (dest : Text) (via dev : Option Text)
    (metric : Option ℕ) :
    (sh.run env (.routeReplace dest via dev metric)).1 =
        (sh₀.run env (.routeReplace dest via dev metric)).1 ∧
      Alongside initial (sh₀.run env (.routeReplace dest via dev metric)).2
        (sh.run env (.routeReplace dest via dev metric)).2 := by
  obtain ⟨host₀, asked₀⟩ := sh₀
  obtain ⟨host, asked⟩ := sh
  obtain rfl : asked = asked₀ := h.asked
  have hask : Alongside initial ⟨host₀, asked + 1⟩ ⟨host, asked + 1⟩ := h.ask
  simp only [Shell.run]
  cases env.outcome asked (.routeReplace dest via dev metric) with
  | success =>
      cases hnet : Ipv4Net.parse dest with
      | none =>
          simp only [Command.effect, hnet, Option.map_none]
          exact ⟨trivial, hask⟩
      | some net =>
          simp only [Command.effect, hnet, Option.map_some]
          exact ⟨trivial, rfl, h.routes.put _⟩
  | failure => exact ⟨rfl, hask⟩
  | notRun => exact ⟨rfl, hask⟩

namespace LinuxRouteManager

theorem inStep_inject (h : InStep initial st₀ st) (checked : Bool) (dest : Text)
    (via dev : Option Text) (metric : Option ℕ) (note : Text) :
    InStep initial (inject env checked (.routeReplace dest via dev metric) note st₀)
      (inject env checked (.routeReplace dest via dev metric) note st) := by
  obtain ⟨hrouter, hsh⟩ := h
  obtain ⟨houtcome, hrun⟩ := hsh.run_replace env dest via dev metric
  simp only [inject, houtcome, hrouter]
  split
  · exact ⟨rfl, hrun⟩
  · exact ⟨rfl, hrun⟩

theorem inStep_foldl {step : LinuxRouteManager × Shell → Text → LinuxRouteManager × Shell}
    (hstep : ∀ st₀ st route, InStep initial st₀ st → InStep initial (step st₀ route) (step st route))
    (routes : List Text) (h : InStep initial st₀ st) :
    InStep initial (routes.foldl step st₀) (routes.foldl step st) := by
  induction routes generalizing st₀ st with
  | nil => exact h
  | cons route routes ih => exact ih (hstep st₀ st route h)

theorem inStep_injectTunnel (checked : Bool) (iface : Text) (routes : List Text)
    (h : InStep initial st₀ st) :
    InStep initial (routes.foldl (injectTunnel env checked iface) st₀)
      (routes.foldl (injectTunnel env checked iface) st) := by
  refine inStep_foldl (fun st₀ st route h => ?_) routes h
  exact inStep_inject env h checked route none (some iface) none _

theorem inStep_injectBypass (gw : Text) (targets : List Text) (h : InStep initial st₀ st) :
    InStep initial (targets.foldl (injectBypass env gw) st₀)
      (targets.foldl (injectBypass env gw) st) := by
  refine inStep_foldl (fun st₀ st target h => ?_) targets h
  simp only [injectBypass, h.1]
  exact inStep_inject env h _ _ _ _ _ _

theorem inStep_discoverOriginalGateway (router : LinuxRouteManager)
    (h : Alongside initial sh₀ sh) :
    InStep initial (router.discoverOriginalGateway env sh₀)
      (router.discoverOriginalGateway env sh) := by
  obtain ⟨host₀, asked₀⟩ := sh₀
  obtain ⟨host, asked⟩ := sh
  obtain rfl : asked = asked₀ := h.asked
  simp only [discoverOriginalGateway, Shell.query]
  cases env.stdout asked .routeShowDefault with
  | none => exact ⟨rfl, h.ask⟩
  | some text => exact ⟨rfl, h.ask⟩

theorem resolveServerIps_alongside (h : Alongside initial sh₀ sh) (serverIp : Text) :
    (resolveServerIps env serverIp sh).1 = (resolveServerIps env serverIp sh₀).1 ∧
      Alongside initial (resolveServerIps env serverIp sh₀).2
        (resolveServerIps env serverIp sh).2 := by
  obtain ⟨host₀, asked₀⟩ := sh₀
  obtain ⟨host, asked⟩ := sh
  obtain rfl : asked = asked₀ := h.asked
  simp only [resolveServerIps]
  cases IpAddr.parse serverIp with
  | some ip => exact ⟨rfl, h⟩
  | none => exact ⟨rfl, h.ask⟩

theorem inStep_bypassServer (h : InStep initial st₀ st) (serverIp : Text) :
    InStep initial (bypassServer env serverIp st₀) (bypassServer env serverIp st) := by
  obtain ⟨hrouter, hsh⟩ := h
  simp only [bypassServer, hrouter]
  cases st₀.1.originalGateway with
  | none => exact ⟨hrouter, hsh⟩
  | some gw =>
      obtain ⟨htargets, hresolved⟩ := resolveServerIps_alongside env hsh serverIp
      simp only [htargets]
      exact inStep_injectBypass env gw _ ⟨rfl, hresolved⟩

theorem inStep_detectLocalLanSubnet (h : InStep initial st₀ st) :
    InStep initial (st₀.1.detectLocalLanSubnet env st₀.2) (st.1.detectLocalLanSubnet env st.2) := by
  obtain ⟨router₀, host₀, asked₀⟩ := st₀
  obtain ⟨router, host, asked⟩ := st
  obtain rfl : router = router₀ := h.1
  obtain rfl : asked = asked₀ := h.2.asked
  simp only [detectLocalLanSubnet, Shell.query]
  cases router.physicalInterface with
  | none => exact h
  | some dev =>
      dsimp only
      cases (env.stdout asked (.routeShowKernel dev)).bind kernelSubnet with
      | some subnet => exact ⟨rfl, h.2.ask⟩
      | none =>
          dsimp only
          cases (env.stdout (asked + 1) (.addrShow dev)).bind addressSubnet with
          | some subnet => exact ⟨rfl, h.2.ask.ask⟩
          | none => exact ⟨rfl, h.2.ask.ask⟩

theorem inStep_injectRoutes (h : InStep initial st₀ st) (args : RoutingArgs) :
    InStep initial (injectRoutes env args st₀) (injectRoutes env args st) := by
  simp only [injectRoutes]
  split
  · exact inStep_injectTunnel env _ _ _ (inStep_injectTunnel env _ _ _ h)
  · exact inStep_injectTunnel env _ _ _ h

theorem inStep_setupVpnRouting (h : Alongside initial sh₀ sh) (args : RoutingArgs)
    (router : LinuxRouteManager) :
    InStep initial (router.setupVpnRouting env args sh₀) (router.setupVpnRouting env args sh) := by
  have hbypass := inStep_bypassServer env (inStep_discoverOriginalGateway env router h)
    args.serverIp
  simp only [setupVpnRouting]
  split
  · exact inStep_injectRoutes env (inStep_detectLocalLanSubnet env hbypass) args
  · exact inStep_injectRoutes env hbypass args

/-! ## The teardown -/

theorem foldl_forget (entries : List Text) (sh : Shell) :
    entries.foldl (forget env) sh = sh.execAll env (entries.filterMap deletion) := by
  induction entries generalizing sh with
  | nil => rfl
  | cons entry entries ih =>
      cases hentry : deletion entry with
      | none =>
          rw [List.foldl_cons, ih, List.filterMap_cons_none hentry, forget, hentry]
      | some command =>
          rw [List.foldl_cons, ih, List.filterMap_cons_some hentry, forget, hentry]
          rfl

theorem teardownVpnRouting_eq (router : LinuxRouteManager) (serverIp tunnelIface : Text)
    (sh : Shell) :
    (router.teardownVpnRouting env serverIp tunnelIface sh).2 =
      sh.execAll env (router.teardownCommands serverIp tunnelIface) := by
  simp only [teardownVpnRouting, teardownCommands, foldl_forget, Shell.execAll, List.foldl_append]
  cases router.originalGateway <;> rfl

/-- The commands of the teardown delete routes. -/
theorem exists_of_mem_teardownCommands {router : LinuxRouteManager} {serverIp tunnelIface : Text}
    {command : Command} (h : command ∈ router.teardownCommands serverIp tunnelIface) :
    ∃ dest via dev metric, command = .routeDel dest via dev metric := by
  rcases List.mem_append.mp h with h | h
  · obtain ⟨entry, -, hentry⟩ := List.mem_filterMap.mp h
    unfold deletion at hentry
    split at hentry
    · split at hentry
      · exact ⟨_, _, _, _, (Option.some.inj hentry).symm⟩
      · split at hentry
        · exact ⟨_, _, _, _, (Option.some.inj hentry).symm⟩
        · split at hentry
          · obtain ⟨metric, -, rfl⟩ := Option.map_eq_some_iff.mp hentry
            exact ⟨_, _, _, _, rfl⟩
          · cases hentry
    · cases hentry
  · rcases List.mem_cons.mp h with rfl | h
    · exact ⟨_, _, _, _, rfl⟩
    · rcases List.mem_cons.mp h with rfl | h
      · exact ⟨_, _, _, _, rfl⟩
      · obtain ⟨gw, -, rfl⟩ := List.mem_map.mp h
        exact ⟨_, _, _, _, rfl⟩

end LinuxRouteManager

/-- Running deletions takes what they name from the table, one after the other. -/
theorem routes_execAll {commands : List Command} (sh : Shell)
    (h : ∀ command ∈ commands, ∃ dest via dev metric, command = .routeDel dest via dev metric) :
    (sh.execAll env commands).host.routes =
      Ranking.deleteAll Deletion.names (deletions env sh.asked commands) sh.host.routes := by
  induction commands generalizing sh with
  | nil => rfl
  | cons command rest ih =>
      obtain ⟨dest, via, dev, metric, rfl⟩ := h _ List.mem_cons_self
      have hrest (sh : Shell) := ih sh fun command hc => h command (List.mem_cons_of_mem _ hc)
      have hcons : sh.execAll env (.routeDel dest via dev metric :: rest) =
          (sh.exec env (.routeDel dest via dev metric)).execAll env rest := rfl
      rw [hcons, hrest, deletions]
      simp only [Shell.exec, Shell.run]
      cases houtcome : env.outcome sh.asked (.routeDel dest via dev metric) with
      | notRun => rw [if_neg (by decide)]
      | failure => rw [if_neg (by decide)]
      | success =>
          rw [if_pos rfl]
          cases hnet : Ipv4Net.parse dest with
          | none => simp [Command.effect, hnet]
          | some net =>
              simp only [Command.effect, hnet, Option.bind_some, Option.map_some]
              by_cases hany : sh.host.routes.any (Deletion.names ⟨net, via, dev, metric⟩) = true
              · rw [if_pos hany]
                rfl
              · have hnone : sh.host.routes.eraseP (Deletion.names ⟨net, via, dev, metric⟩) =
                    sh.host.routes := by
                  refine List.eraseP_of_forall_not fun route hroute hnames => hany ?_
                  exact List.any_eq_true.mpr ⟨route, hroute, hnames⟩
                rw [if_neg hany]
                simp [Ranking.deleteAll, hnone]

/-! ## Setup and teardown -/

/-- A host whose commands all work, with one default route. -/
def homeEnv : Env where
  outcome _ _ := .success
  stdout _ q :=
    match q with
    | .routeShowDefault => some "default via 192.168.1.1 dev wlan0 proto dhcp metric 600".toList
    | _ => none
  lookup _ _ := none

/-- A tunnel into the network 10.0.0.0/8. -/
def officeTunnel : RoutingArgs where
  serverIp := "203.0.113.5".toList
  tunnelIface := "tun0".toList
  assignedIp := none
  intranetOnly := true
  pushedRoutes := ["10.0.0.0 255.0.0.0".toList]
  customSubnets := []
  lanBypass := false

/-- A route of the user's own to the network, of another metric. -/
def meteredRoute : Route :=
  ⟨⟨⟨10, 0, 0, 0⟩, 8⟩, some "192.168.1.254".toList, some "wlan0".toList, 50⟩

/-- The default route and the user's own. -/
def homeRoutes : List Route :=
  [⟨⟨⟨0, 0, 0, 0⟩, 0⟩, some "192.168.1.1".toList, some "wlan0".toList, 600⟩, meteredRoute]

/-- A route of the user's own to the network, without a metric. -/
def ownRoute : Route :=
  ⟨⟨⟨10, 0, 0, 0⟩, 8⟩, some "192.168.1.254".toList, some "wlan0".toList, 0⟩

end VpnHub.Daemon

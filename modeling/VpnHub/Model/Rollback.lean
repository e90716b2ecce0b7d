import VpnHub.Program.Daemon.Routing

/-! The routing table across a tunnel: what `setup_vpn_routing` of a new manager and then its
`teardown_vpn_routing` do to it. -/

namespace VpnHub.Daemon

namespace LinuxRouteManager

/-- The commands of `teardown_vpn_routing`. -/
def teardownCommands (router : LinuxRouteManager) (serverIp tunnelIface : Text) : List Command :=
  router.injectedRoutes.filterMap deletion ++
    (.routeDel "0.0.0.0/1".toList none (some tunnelIface) none ::
      .routeDel "128.0.0.0/1".toList none (some tunnelIface) none ::
      router.originalGateway.toList.map fun gw => .routeDel serverIp (some gw) none none)

end LinuxRouteManager

/-- The deletions among commands that are not made to fail; `asked` numbers the first
command. -/
def deletions (env : Env) : ℕ → List Command → List Deletion
  | _, [] => []
  | asked, .routeDel dest via dev metric :: rest =>
    if env.outcome asked (.routeDel dest via dev metric) = .success then
      ((Ipv4Net.parse dest).map fun net => ⟨net, via, dev, metric⟩).toList ++
        deletions env (asked + 1) rest
    else deletions env (asked + 1) rest
  | asked, _ :: rest => deletions env (asked + 1) rest

/-- A new manager sets the routes of a tunnel up. -/
def setUp (env : Env) (args : RoutingArgs) (host : Host) : LinuxRouteManager × Shell :=
  LinuxRouteManager.setupVpnRouting env args {} { host }

/-- The host after the tunnel; `env` answers during the setup, `env'` during the teardown. -/
def afterTunnel (env env' : Env) (args : RoutingArgs) (host : Host) : Host :=
  let (router, sh) := setUp env args host
  (router.teardownVpnRouting env' args.serverIp args.tunnelIface { host := sh.host }).2.host

/-- The routes that the setup makes of an empty table: those whose commands succeed. -/
def setRoutes (env : Env) (args : RoutingArgs) : List Route := (setUp env args {}).2.host.routes

/-- The deletions of the teardown that are not made to fail. -/
def runDeletions (env env' : Env) (args : RoutingArgs) : List Deletion :=
  deletions env' 0 ((setUp env args {}).1.teardownCommands args.serverIp args.tunnelIface)

/-- No route takes the place of another initial one, and the deletions, run on the added routes
alone, take all of these, each of them before every initial route that the deletion names. -/
def Undone (env env' : Env) (args : RoutingArgs) (initial : List Route) : Prop :=
  (∀ set ∈ setRoutes env args, ∀ route ∈ initial, Route.ranking.SameKey route set →
    route = set) ∧
  Route.ranking.Undoes Deletion.names initial
    ((setRoutes env args).filter (· ∉ initial)) (runDeletions env env' args)

instance (env env' : Env) (args : RoutingArgs) (initial : List Route) :
    Decidable (Undone env env' args initial) :=
  inferInstanceAs (Decidable (_ ∧ _))

end VpnHub.Daemon

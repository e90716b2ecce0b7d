import VpnHub.Program.Push

/-! Each option of a `PUSH_REPLY` writes fields of its own, and reads no others except for the
gateway and the metric of routes. -/

namespace VpnHub.Config.PushOptions

attribute [ext] PushOptions

variable {o o' a a' b b' : PushOptions} {verb : Text}

/-- What an option leaves as it was: the fields that belong to other verbs. -/
structure Frame (verb : Text) (o o' : PushOptions) : Prop where
  topology : verb ≠ "topology".toList → o'.topology = o.topology
  ifconfigV4 : verb ≠ "ifconfig".toList → o'.ifconfigV4 = o.ifconfigV4
  ifconfigV6 : verb ≠ "ifconfig-ipv6".toList → o'.ifconfigV6 = o.ifconfigV6
  routeGateway : verb ≠ "route-gateway".toList → o'.routeGateway = o.routeGateway
  routeMetric : verb ≠ "route-metric".toList → o'.routeMetric = o.routeMetric
  routesV4 : verb ≠ "route".toList → o'.routesV4 = o.routesV4
  routesV6 : verb ≠ "route-ipv6".toList → o'.routesV6 = o.routesV6
  redirectGateway : ¬ (verb = "redirect-gateway".toList ∨ verb = "redirect-private".toList) →
    o'.redirectGateway = o.redirectGateway
  dnsServers : verb ≠ "dhcp-option".toList → o'.dnsServers = o.dnsServers
  searchDomains : verb ≠ "dhcp-option".toList → o'.searchDomains = o.searchDomains
  winsServers : verb ≠ "dhcp-option".toList → o'.winsServers = o.winsServers
  ntpServers : verb ≠ "dhcp-option".toList → o'.ntpServers = o.ntpServers
  blockOutsideDns : verb ≠ "block-outside-dns".toList → o'.blockOutsideDns = o.blockOutsideDns
  pingInterval : verb ≠ "ping".toList → o'.pingInterval = o.pingInterval
  pingRestart : verb ≠ "ping-restart".toList → o'.pingRestart = o.pingRestart
  peerId : verb ≠ "peer-id".toList → o'.peerId = o.peerId
  mssFix : verb ≠ "mssfix".toList → o'.mssFix = o.mssFix
  tunMtu : verb ≠ "tun-mtu".toList → o'.tunMtu = o.tunMtu
  explicitExitNotify : verb ≠ "explicit-exit-notify".toList →
    o'.explicitExitNotify = o.explicitExitNotify
  authToken : verb ≠ "auth-token".toList → o'.authToken = o.authToken
  cipher : verb ≠ "cipher".toList → o'.cipher = o.cipher
  customOptions : ∀ key, verb ≠ key → o'.customOptions.find? key = o.customOptions.find? key

namespace Frame

theorem refl (verb : Text) (o : PushOptions) : Frame verb o o := by
  constructor <;> intros <;> rfl

theorem ite {c : Prop} [Decidable c] (h : c → Frame verb o a) (h' : ¬ c → Frame verb o b) :
    Frame verb o (if c then a else b) := by
  split
  · exact h ‹_›
  · exact h' ‹_›

theorem applyDhcpOption (h : verb = "dhcp-option".toList) (o : PushOptions)
    (optType optVal : Text) :
    Frame verb o (o.applyDhcpOption optType optVal) := by
  unfold PushOptions.applyDhcpOption
  refine .ite (fun _ => ?_) fun _ => .ite (fun _ => ?_) fun _ => .ite (fun _ => ?_) fun _ =>
    .ite (fun _ => ?_) fun _ => .refl _ _
  all_goals
    try split
    all_goals constructor <;> intros <;> first | with_reducible rfl | exact absurd h ‹_›

end Frame

theorem frame_apply (o : PushOptions) (verb : Text) (args : List Text) :
    Frame verb o (o.apply verb args) := by
  unfold PushOptions.apply
  refine .ite (fun h => ?_) fun h => .ite (fun h => ?_) fun h => .ite (fun h => ?_)
    fun h => .ite (fun h => ?_) fun h => .ite (fun h => ?_) fun h => .ite (fun h => ?_)
    fun h => .ite (fun h => ?_) fun h => .ite (fun h => ?_) fun h => .ite (fun h => ?_)
    fun h => .ite (fun h => ?_) fun h => .ite (fun h => ?_) fun h => .ite (fun h => ?_)
    fun h => .ite (fun h => ?_) fun h => .ite (fun h => ?_) fun h => .ite (fun h => ?_)
    fun h => .ite (fun h => ?_) fun h => .ite (fun h => ?_) fun h => .ite (fun h => ?_)
    fun h => ?_
  case refine_9 =>
    rcases args with _ | ⟨optType, _ | ⟨optVal, rest⟩⟩
    · exact .refl _ _
    · exact .refl _ _
    · exact .applyDhcpOption h _ _ _
  case refine_19 =>
    constructor
    case customOptions =>
      intro key hkey
      rw [OrdMap.find?_insert, if_neg hkey]
    all_goals intros; with_reducible rfl
  all_goals
    try split
    all_goals constructor <;> intros <;> first | with_reducible rfl | exact absurd h ‹_›

/-- Each field after an option comes from that field before it, except for the routes. -/
structure Alone (o p o' p' : PushOptions) : Prop where
  topology : o.topology = p.topology → o'.topology = p'.topology
  ifconfigV4 : o.ifconfigV4 = p.ifconfigV4 → o'.ifconfigV4 = p'.ifconfigV4
  ifconfigV6 : o.ifconfigV6 = p.ifconfigV6 → o'.ifconfigV6 = p'.ifconfigV6
  routeGateway : o.routeGateway = p.routeGateway → o'.routeGateway = p'.routeGateway
  routeMetric : o.routeMetric = p.routeMetric → o'.routeMetric = p'.routeMetric
  redirectGateway : o.redirectGateway = p.redirectGateway → o'.redirectGateway = p'.redirectGateway
  dnsServers : o.dnsServers = p.dnsServers → o'.dnsServers = p'.dnsServers
  searchDomains : o.searchDomains = p.searchDomains → o'.searchDomains = p'.searchDomains
  winsServers : o.winsServers = p.winsServers → o'.winsServers = p'.winsServers
  ntpServers : o.ntpServers = p.ntpServers → o'.ntpServers = p'.ntpServers
  blockOutsideDns : o.blockOutsideDns = p.blockOutsideDns → o'.blockOutsideDns = p'.blockOutsideDns
  pingInterval : o.pingInterval = p.pingInterval → o'.pingInterval = p'.pingInterval
  pingRestart : o.pingRestart = p.pingRestart → o'.pingRestart = p'.pingRestart
  peerId : o.peerId = p.peerId → o'.peerId = p'.peerId
  mssFix : o.mssFix = p.mssFix → o'.mssFix = p'.mssFix
  tunMtu : o.tunMtu = p.tunMtu → o'.tunMtu = p'.tunMtu
  explicitExitNotify : o.explicitExitNotify = p.explicitExitNotify →
    o'.explicitExitNotify = p'.explicitExitNotify
  authToken : o.authToken = p.authToken → o'.authToken = p'.authToken
  cipher : o.cipher = p.cipher → o'.cipher = p'.cipher
  customOptions : ∀ key, o.customOptions.find? key = p.customOptions.find? key →
    o'.customOptions.find? key = p'.customOptions.find? key

namespace Alone

variable {p : PushOptions}

theorem refl (o p : PushOptions) : Alone o p o p := by
  constructor <;> intros <;> assumption

theorem ite {c : Prop} [Decidable c] (h : Alone o p a a') (h' : Alone o p b b') :
    Alone o p (if c then a else b) (if c then a' else b') := by
  split
  · exact h
  · exact h'

theorem applyDhcpOption (o p : PushOptions) (optType optVal : Text) :
    Alone o p (o.applyDhcpOption optType optVal) (p.applyDhcpOption optType optVal) := by
  unfold PushOptions.applyDhcpOption
  refine .ite ?_ (.ite ?_ (.ite ?_ (.ite ?_ (.refl _ _))))
  all_goals
    try split
    all_goals constructor <;> intros <;> first | assumption | simp only [*]

end Alone

theorem alone_apply (o p : PushOptions) (verb : Text) (args : List Text) :
    Alone o p (o.apply verb args) (p.apply verb args) := by
  unfold PushOptions.apply
  refine .ite ?_ (.ite ?_ (.ite ?_ (.ite ?_ (.ite ?_ (.ite ?_ (.ite ?_ (.ite ?_ (.ite ?_ (.ite ?_
    (.ite ?_ (.ite ?_ (.ite ?_ (.ite ?_ (.ite ?_ (.ite ?_ (.ite ?_ (.ite ?_ ?_)))))))))))))))))
  case refine_9 =>
    rcases args with _ | ⟨optType, _ | ⟨optVal, rest⟩⟩
    · exact .refl _ _
    · exact .refl _ _
    · exact .applyDhcpOption _ _ _ _
  case refine_19 =>
    constructor
    case customOptions =>
      intro key hkey
      rw [OrdMap.find?_insert, OrdMap.find?_insert, hkey]
    all_goals intros; assumption
  all_goals
    try split
    all_goals constructor <;> intros <;> first | assumption | with_reducible rfl

end VpnHub.Config.PushOptions

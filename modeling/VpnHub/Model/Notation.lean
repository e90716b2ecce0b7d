import VpnHub.Library.Netmask
import VpnHub.Program.Daemon.Routing
import VpnHub.Program.Daemon.WindowsRouting

/-! The notations of a subnet, and the three readers of them: the routes on Linux, the packet
filter, and the routes on Windows. -/

namespace VpnHub.Daemon

/-- What may follow the address of a subnet. -/
inductive SubnetNotation where
  | address
  | length (len : ℕ)
  | slashMask (mask : Ipv4Addr)
  | blankMask (mask : Ipv4Addr)
  deriving DecidableEq, Repr

namespace SubnetNotation

def suffix : SubnetNotation → Text
  | address => []
  | length len => '/' :: Text.ofNat len
  | slashMask mask => '/' :: mask.toText
  | blankMask mask => ' ' :: mask.toText

/-- Lengths up to 32, and netmasks that stand for one. -/
def Valid : SubnetNotation → Prop
  | address => True
  | length len => len ≤ 32
  | slashMask mask => mask.Contiguous
  | blankMask mask => mask.Contiguous

/-- The prefix length that is meant. -/
def len : SubnetNotation → ℕ
  | address => 32
  | length len => len
  | slashMask mask => mask.countOnes
  | blankMask mask => mask.countOnes

/-- Without a netmask. -/
def Plain : SubnetNotation → Prop
  | address => True
  | length _ => True
  | slashMask _ => False
  | blankMask _ => False

end SubnetNotation

/-- The network to which `ip` routes. -/
def routedOnLinux (s : Text) : Option Ipv4Net := Ipv4Net.parse (normalizeRoute s)

/-- The network that the rule of the kill switch is about. -/
def protectedOnLinux (s : Text) : Option Ipv4Net := Ipv4Net.parse (cidrText (Text.trim s))

def routedOnWindows (s : Text) : Option Ipv4Net :=
  (parseCidrOrMask s).map fun (addr, len) => ⟨addr, len.toNat⟩

/-- The text names exactly the addresses with the property. -/
def Denotes (s : Text) (p : Ipv4Addr → Prop) : Prop :=
  ∃ net, Ipv4Net.parse s = some net ∧ ∀ a, net.contains a = true ↔ p a

/-- The manager passes the route to `ip route replace` for the interface of the tunnel. -/
def HandsOn (env : Env) (args : RoutingArgs) (st : LinuxRouteManager × Shell) (route : Text) :
    Prop :=
  ∃ (checked : Bool) (before : LinuxRouteManager × Shell) (rest : List Text),
    LinuxRouteManager.injectRoutes env args st =
    rest.foldl (LinuxRouteManager.injectTunnel env checked args.tunnelIface)
      (LinuxRouteManager.injectTunnel env checked args.tunnelIface before route)

end VpnHub.Daemon

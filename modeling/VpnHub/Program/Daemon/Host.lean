import VpnHub.Library.Filter
import VpnHub.Library.IpAddr
import VpnHub.Library.Ranking
import VpnHub.Program.Errors

/-! The Linux host as the daemon's commands change it: the packet filter of outbound packets,
the routing tables, and what `nft`, `iptables` and `ip` do to them where they succeed. -/

namespace VpnHub.Daemon

open VpnHub.Filter

/-! ## Packets and addresses -/

inductive Transport where
  | tcp (dport : UInt16)
  | udp (dport : UInt16)
  | other
  deriving DecidableEq, Repr

/-- The destination port in the transport header (`th dport`). -/
def Transport.dport? : Transport → Option UInt16
  | tcp dport => some dport
  | udp dport => some dport
  | other => none

inductive CtState where
  | new
  | established
  | related
  deriving DecidableEq, Repr

/-- An outbound packet. Interfaces are identified by their names. -/
structure Packet where
  oif : Text
  dst : IpAddr
  transport : Transport
  ctState : CtState
  deriving DecidableEq

structure Ipv4Net where
  addr : Ipv4Addr
  len : ℕ
  deriving DecidableEq, Repr

namespace Ipv4Net

/-- An address, or an address and a prefix length. -/
def parse (s : Text) : Option Ipv4Net :=
  match IpAddr.parseIpv4 s with
  | some addr => some ⟨addr, 32⟩
  | none => do
    let (front, back) ← Text.splitOnce s '/'
    let addr ← IpAddr.parseIpv4 front
    let len ← Text.parseUnsigned 32 back
    return ⟨addr, len⟩

def contains (net : Ipv4Net) (addr : Ipv4Addr) : Bool :=
  net.addr.toNat / 2 ^ (32 - net.len) == addr.toNat / 2 ^ (32 - net.len)

end Ipv4Net

/-- Whether an IPv4 operand of a rule matches an address. -/
def matchesAddr (operand : Text) : IpAddr → Bool
  | .v4 addr => (Ipv4Net.parse operand).any (·.contains addr)
  | .v6 _ => false

/-! ## Rules -/

inductive NftMatch where
  | oif (name : Text)
  | oifNe (name : Text)
  | oifnameNotIn (names : List Text)
  | ipDaddr (operand : Text)
  | thDport (port : UInt16)
  | udpDport (ports : List UInt16)
  | ctEstablishedRelated
  deriving DecidableEq, Repr

structure NftRule where
  conditions : List NftMatch
  verdict : Verdict
  deriving DecidableEq, Repr

namespace NftMatch

def holds : NftMatch → Packet → Bool
  | oif name, p => p.oif == name
  | oifNe name, p => p.oif != name
  | oifnameNotIn names, p => !names.contains p.oif
  | ipDaddr operand, p => matchesAddr operand p.dst
  | thDport port, p => p.transport.dport? == some port
  | udpDport ports, p =>
    match p.transport with
    | .udp dport => ports.contains dport
    | _ => false
  | ctEstablishedRelated, p => p.ctState != .new

/-- An operand that is no IPv4 address or network makes `nft` reject the whole ruleset. -/
def valid : NftMatch → Bool
  | ipDaddr operand => (Ipv4Net.parse operand).isSome
  | _ => true

end NftMatch

namespace NftRule

def meaning (rule : NftRule) (p : Packet) : Option Verdict :=
  if rule.conditions.all (·.holds p) then some rule.verdict else none

def valid (rule : NftRule) : Bool := rule.conditions.all (·.valid)

end NftRule

/-- The operands of an `iptables` rule; a rule without a transport protocol has no port. -/
structure IptRule where
  out : Option Text := none
  destination : Option Text := none
  udpDport : Option UInt16 := none
  establishedRelated : Bool := false
  deriving DecidableEq, Repr

namespace IptRule

def applies (rule : IptRule) (p : Packet) : Bool :=
  rule.out.all (p.oif == ·) && rule.destination.all (matchesAddr · p.dst) &&
    rule.udpDport.all (fun port => p.transport == .udp port) &&
    (!rule.establishedRelated || p.ctState != .new)

def valid (rule : IptRule) : Bool := rule.destination.all fun d => (Ipv4Net.parse d).isSome

end IptRule

/-- What a rule of the built-in chain `OUTPUT` does: end with a verdict, or try the rules of
the chain `VPNHUB_OUTPUT`, which all accept. -/
inductive IptTarget where
  | verdict (v : Verdict)
  | vpnhubOutput
  deriving DecidableEq, Repr

/-! ## The host -/

inductive ShieldRoute where
  | blackhole
  | unreachable
  deriving DecidableEq, Repr

/-- A route; one that is set without a metric has metric 0. -/
structure Route where
  dest : Ipv4Net
  via : Option Text
  dev : Option Text
  metric : ℕ
  deriving DecidableEq, Repr

/-- The kernel keeps the routes to a destination in the order of their metrics. -/
def Route.ranking : Ranking Route Ipv4Net := ⟨Route.dest, Route.metric⟩

/-- What `ip route del` is told of a route. -/
structure Deletion where
  dest : Ipv4Net
  via : Option Text
  dev : Option Text
  metric : Option ℕ
  deriving DecidableEq, Repr

def Deletion.names (d : Deletion) (r : Route) : Bool :=
  r.dest == d.dest && d.via.all (r.via == some ·) && d.dev.all (r.dev == some ·) &&
    d.metric.all (r.metric == ·)

structure Host where
  /-- The chain `output` of the table `inet vpnhub_killswitch`. -/
  killswitch : Option (Chain NftRule) := none
  /-- The chain `OUTPUT` of `iptables`; no command of the daemon changes it. -/
  output : List (IptRule × IptTarget) := []
  /-- The chain `VPNHUB_OUTPUT` of `iptables`. -/
  vpnhubOutput : Option (List IptRule) := none
  routes : List Route := []
  /-- The IPv6 default routes of metric 1 that take packets to nowhere. -/
  shieldRoutes : List ShieldRoute := []

namespace Host

/-- The verdict of the `iptables` chains on an IPv4 packet; the policy is to accept. -/
def iptablesVerdict (host : Host) (p : Packet) : Verdict :=
  let meaning : IptRule × IptTarget → Packet → Option Verdict := fun (rule, target) p =>
    if rule.applies p then
      match target with
      | .verdict v => some v
      | .vpnhubOutput =>
        if (host.vpnhubOutput.getD []).any (·.applies p) then some .accept else none
    else none
  (firstMatch meaning host.output p).getD .accept

/-- A packet leaves only where every chain at the hook lets it pass. -/
def dropped (host : Host) (p : Packet) : Bool :=
  host.killswitch.any (fun chain => chain.verdict NftRule.meaning p == .drop) ||
    match p.dst with
    | .v4 _ => host.iptablesVerdict p == .drop
    | .v6 _ => false

end Host

/-! ## Commands -/

inductive Command where
  /-- `nft -f -` with the ruleset on its input. -/
  | nftLoad (chain : Chain NftRule)
  /-- `nft delete table inet vpnhub_killswitch`. -/
  | nftDeleteTable
  /-- `iptables -N VPNHUB_OUTPUT`. -/
  | iptablesNew
  /-- `iptables -A VPNHUB_OUTPUT <rule> -j ACCEPT`. -/
  | iptablesAppend (rule : IptRule)
  /-- `iptables -F VPNHUB_OUTPUT`. -/
  | iptablesFlush
  /-- `iptables -X VPNHUB_OUTPUT`. -/
  | iptablesDelete
  /-- `ip -6 route add <kind> default metric 1`. -/
  | shieldAdd (kind : ShieldRoute)
  /-- `ip -6 route del <kind> default metric 1`. -/
  | shieldDel (kind : ShieldRoute)
  /-- `ip route replace <dest> [via <via>] [dev <dev>] [metric <metric>]`. -/
  | routeReplace (dest : Text) (via dev : Option Text) (metric : Option ℕ)
  /-- `ip route del <dest> [via <via>] [dev <dev>] [metric <metric>]`. -/
  | routeDel (dest : Text) (via dev : Option Text) (metric : Option ℕ)
  deriving DecidableEq, Repr

/-- A loaded ruleset sets the policy and adds its rules after those of an existing chain. -/
def loadChain (loaded : Option (Chain NftRule)) (chain : Chain NftRule) : Chain NftRule :=
  { policy := chain.policy, rules := (loaded.map (·.rules)).getD [] ++ chain.rules }

/-- The host after a command that succeeds; `none` where it cannot succeed. -/
def Command.effect (host : Host) : Command → Option Host
  | nftLoad chain =>
    if chain.rules.all (·.valid) then
      some { host with killswitch := some (loadChain host.killswitch chain) }
    else none
  | nftDeleteTable => host.killswitch.map fun _ => { host with killswitch := none }
  | iptablesNew =>
    match host.vpnhubOutput with
    | none => some { host with vpnhubOutput := some [] }
    | some _ => none
  | iptablesAppend rule =>
    if rule.valid then
      host.vpnhubOutput.map fun rules => { host with vpnhubOutput := some (rules ++ [rule]) }
    else none
  | iptablesFlush => host.vpnhubOutput.map fun _ => { host with vpnhubOutput := some [] }
  | iptablesDelete =>
    match host.vpnhubOutput with
    | some [] =>
      if host.output.any (fun entry => entry.2 == .vpnhubOutput) then none
      else some { host with vpnhubOutput := none }
    | _ => none
  | shieldAdd kind =>
    if kind ∈ host.shieldRoutes then none
    else some { host with shieldRoutes := host.shieldRoutes ++ [kind] }
  | shieldDel kind =>
    if kind ∈ host.shieldRoutes then
      some { host with shieldRoutes := host.shieldRoutes.erase kind }
    else none
  | routeReplace dest via dev metric =>
    (Ipv4Net.parse dest).map fun net =>
      { host with routes := Route.ranking.put ⟨net, via, dev, metric.getD 0⟩ host.routes }
  | routeDel dest via dev metric =>
    (Ipv4Net.parse dest).bind fun net =>
      let d : Deletion := ⟨net, via, dev, metric⟩
      if host.routes.any d.names then some { host with routes := host.routes.eraseP d.names }
      else none

/-! ## Running commands -/

inductive Outcome where
  /-- The command could not be started or waited for. -/
  | notRun
  | failure
  | success
  deriving DecidableEq, Repr

/-- Commands whose output is read. -/
inductive Query where
  /-- `ip route show default`. -/
  | routeShowDefault
  /-- `ip route show dev <dev> proto kernel`. -/
  | routeShowKernel (dev : Text)
  /-- `ip -o -4 addr show dev <dev>`. -/
  | addrShow (dev : Text)
  deriving DecidableEq, Repr

/-- What the world answers during one call: how the `n`-th command goes, what it prints, and
what a name resolves to. A query that could not be run has no output, and a lookup may
fail. -/
structure Env where
  outcome : ℕ → Command → Outcome
  stdout : ℕ → Query → Option Text
  lookup : ℕ → Text → Option (List IpAddr)

/-- The host, and the number of questions the call has asked so far. -/
structure Shell where
  host : Host
  asked : ℕ := 0

namespace Shell

/-- Runs a command. One that is allowed to succeed and can takes effect. -/
def run (env : Env) (command : Command) (sh : Shell) : Outcome × Shell :=
  match env.outcome sh.asked command with
  | .success =>
    match command.effect sh.host with
    | some host => (.success, ⟨host, sh.asked + 1⟩)
    | none => (.failure, { sh with asked := sh.asked + 1 })
  | outcome => (outcome, { sh with asked := sh.asked + 1 })

/-- Runs a command and ignores how it goes. -/
def exec (env : Env) (command : Command) (sh : Shell) : Shell := (sh.run env command).2

def execAll (env : Env) (commands : List Command) (sh : Shell) : Shell :=
  commands.foldl (fun sh command => sh.exec env command) sh

def query (env : Env) (q : Query) (sh : Shell) : Option Text × Shell :=
  (env.stdout sh.asked q, { sh with asked := sh.asked + 1 })

def lookup (env : Env) (name : Text) (sh : Shell) : Option (List IpAddr) × Shell :=
  (env.lookup sh.asked name, { sh with asked := sh.asked + 1 })

end Shell

end VpnHub.Daemon
